import GloboCollection.App.Utilities

/-!
# What the password test accepts

A password is accepted exactly when it has eight characters or more, all of
them letters, digits or one of the eight symbols, among them a lower-case
letter and a symbol.

The repetition has to take the whole password, so every character is an
allowed one; and since no allowed character ends a line, the dots of the two
look-aheads reach as far as the required character, wherever it stands. In
the other direction a look-ahead that succeeds has found its character.
-/

namespace GloboCollection

open GloboCollection.Lib
open Utilities

/-- The passwords that should be accepted. -/
def GoodPassword (isDecimalDigit : Char → Bool) (cs : List Char) : Prop :=
  8 ≤ cs.length ∧
    (∀ c ∈ cs, ('A' ≤ c ∧ c ≤ 'Z') ∨ ('a' ≤ c ∧ c ≤ 'z') ∨ isDecimalDigit c = true ∨
      c ∈ ['$', '@', '#', '!', '%', '*', '?', '&']) ∧
    (∃ c ∈ cs, 'a' ≤ c ∧ c ≤ 'z') ∧
    ∃ c ∈ cs, c ∈ ['$', '@', '#', '!', '%', '*', '?', '&']

variable {isDecimalDigit : Char → Bool} {c : Char} {cs : List Char} {p : Char → Bool}

/-! ## The classes -/

theorem isLowercase_iff : isLowercase c = true ↔ 'a' ≤ c ∧ c ≤ 'z' := by
  simp [isLowercase]

theorem isSymbol_iff :
    isSymbol c = true ↔ c ∈ ['$', '@', '#', '!', '%', '*', '?', '&'] := by
  rw [isSymbol, decide_eq_true_iff]
  grind

theorem isAllowed_iff :
    isAllowed isDecimalDigit c = true ↔
      ('A' ≤ c ∧ c ≤ 'Z') ∨ ('a' ≤ c ∧ c ≤ 'z') ∨ isDecimalDigit c = true ∨
        c ∈ ['$', '@', '#', '!', '%', '*', '?', '&'] := by
  rw [isAllowed, Bool.or_eq_true_iff, Bool.or_eq_true_iff, Bool.or_eq_true_iff,
    isLowercase_iff, isSymbol_iff, isUppercase, Bool.and_eq_true_iff, decide_eq_true_iff,
    decide_eq_true_iff, or_assoc, or_assoc]

/-- No letter and no symbol ends a line. -/
theorem isLineTerminator_of_isAllowed
    (hdigit : ∀ c, isDecimalDigit c = true → isLineTerminator c = false)
    (h : isAllowed isDecimalDigit c = true) : isLineTerminator c = false := by
  rw [isAllowed_iff] at h
  have hrange : ∀ a b : Char, 0x0D < a.toNat → b.toNat < 0x85 → a ≤ c → c ≤ b →
      isLineTerminator c = false := by
    intro a b ha hb hac hcb
    have hac' : a.toNat ≤ c.toNat := hac
    have hcb' : c.toNat ≤ b.toNat := hcb
    simp only [isLineTerminator, Bool.or_eq_false_iff, Bool.and_eq_false_iff,
      decide_eq_false_iff_not, beq_eq_false_iff_ne]
    omega
  rcases h with ⟨h₁, h₂⟩ | ⟨h₁, h₂⟩ | h | h
  · exact hrange 'A' 'Z' (by decide) (by decide) h₁ h₂
  · exact hrange 'a' 'z' (by decide) (by decide) h₁ h₂
  · exact hdigit c h
  · simp only [List.mem_cons, List.not_mem_nil, or_false] at h
    rcases h with rfl | rfl | rfl | rfl | rfl | rfl | rfl | rfl <;> decide

/-! ## The look-aheads -/

/-- Behind characters that end no line there is one of the class. -/
def FoundAhead (p : Char → Bool) (cs : List Char) : Prop :=
  ∃ k c, (∀ b ∈ cs.take k, isLineTerminator b = false) ∧
    (cs.drop k).head? = some c ∧ p c = true

theorem mem_ends_somewhereAhead {e pos : Regex.Pos Char} :
    e ∈ (somewhereAhead p).ends pos ↔ FoundAhead p pos.2 ∧ e = pos := by
  obtain ⟨i, cs⟩ := pos
  rw [somewhereAhead, Regex.mem_ends_ahead]
  refine and_congr_left fun _ => ?_
  constructor
  · intro h
    obtain ⟨m, hm⟩ := h
    obtain ⟨mid, hmid, hend⟩ := Regex.mem_ends_seq.mp hm
    obtain ⟨k, -, -, htake, rfl⟩ := Regex.mem_ends_rep_cls.mp hmid
    obtain ⟨c, hc, hp⟩ := Regex.exists_mem_ends_cls.mp ⟨m, hend⟩
    exact ⟨k, c, fun b hb => by simpa using htake b hb, hc, hp⟩
  · intro h
    obtain ⟨k, c, htake, hc, hp⟩ := h
    have hk : k ≤ cs.length := by
      by_contra hlt
      have hnil : cs.drop k = [] := List.drop_eq_nil_of_le (by omega)
      simp [hnil] at hc
    obtain ⟨m, hm⟩ := (Regex.exists_mem_ends_cls (i := i + k)).mpr ⟨c, hc, hp⟩
    refine ⟨m, Regex.mem_ends_seq.mpr ⟨(i + k, cs.drop k), ?_, hm⟩⟩
    exact Regex.mem_ends_rep_cls.mpr
      ⟨k, Nat.zero_le _, hk, fun b hb => by simp [htake b hb], rfl⟩

/-- Where no character ends a line, the look-ahead asks for a character of
the class and nothing else. -/
theorem foundAhead_iff (hline : ∀ b ∈ cs, isLineTerminator b = false) :
    FoundAhead p cs ↔ ∃ c ∈ cs, p c = true := by
  constructor
  · intro h
    obtain ⟨k, c, -, hc, hp⟩ := h
    have hmem : c ∈ cs.drop k := List.mem_of_mem_head? (Option.mem_def.mpr hc)
    exact ⟨c, List.mem_of_mem_drop hmem, hp⟩
  · intro h
    obtain ⟨c, hc, hp⟩ := h
    obtain ⟨k, hk, rfl⟩ := List.mem_iff_getElem.mp hc
    refine ⟨k, cs[k], fun b hb => hline b (List.mem_of_mem_take hb), ?_, hp⟩
    rw [List.head?_drop, List.getElem?_eq_getElem hk]

/-! ## The whole pattern -/

/-- Only the whole password will do for the repetition. -/
theorem exists_end_rep_iff {n : Nat} :
    (∃ m, (m, []) ∈ (Regex.rep n (.cls p)).ends (0, cs)) ↔
      n ≤ cs.length ∧ ∀ c ∈ cs, p c = true := by
  constructor
  · intro h
    obtain ⟨m, hm⟩ := h
    obtain ⟨k, hn, hk, htake, heq⟩ := Regex.mem_ends_rep_cls.mp hm
    have hdrop : cs.drop k = [] := (Prod.mk.inj heq).2.symm
    have hlen : cs.length ≤ k := List.drop_eq_nil_iff.mp hdrop
    rw [List.take_of_length_le hlen] at htake
    exact ⟨by omega, htake⟩
  · intro h
    obtain ⟨hn, hall⟩ := h
    refine ⟨0 + cs.length, Regex.mem_ends_rep_cls.mpr ⟨cs.length, hn, Nat.le_refl _, ?_, ?_⟩⟩
    · rw [List.take_length]
      exact hall
    · rw [List.drop_length]

/-- The test accepts exactly the good passwords. -/
theorem isPasswordValid_iff
    (hdigit : ∀ c, isDecimalDigit c = true → isLineTerminator c = false)
    (password : String) :
    isPasswordValid isDecimalDigit password = true ↔
      GoodPassword isDecimalDigit password.toList := by
  have hpattern : isPasswordValid isDecimalDigit password = true ↔
      FoundAhead isLowercase password.toList ∧ FoundAhead isSymbol password.toList ∧
        8 ≤ password.toList.length ∧
          ∀ c ∈ password.toList, isAllowed isDecimalDigit c = true := by
    rw [isPasswordValid, Regex.fullMatch_iff, ← exists_end_rep_iff]
    simp only [passwordPattern, Regex.mem_ends_seq, Regex.mem_ends_start,
      mem_ends_somewhereAhead]
    constructor
    · intro h
      obtain ⟨n, _, ⟨-, rfl⟩, _, ⟨hlower, rfl⟩, _, ⟨hsymbol, rfl⟩, hend⟩ := h
      exact ⟨hlower, hsymbol, n, hend⟩
    · intro h
      obtain ⟨hlower, hsymbol, n, hend⟩ := h
      exact ⟨n, _, ⟨trivial, rfl⟩, _, ⟨hlower, rfl⟩, _, ⟨hsymbol, rfl⟩, hend⟩
  rw [hpattern, GoodPassword]
  constructor
  · intro h
    obtain ⟨hlower, hsymbol, hlen, hall⟩ := h
    have hline := fun c hc => isLineTerminator_of_isAllowed hdigit (hall c hc)
    rw [foundAhead_iff hline] at hlower hsymbol
    simp only [isLowercase_iff, isSymbol_iff, isAllowed_iff] at hlower hsymbol hall
    exact ⟨hlen, hall, hlower, hsymbol⟩
  · intro h
    obtain ⟨hlen, hall, hlower, hsymbol⟩ := h
    simp only [← isAllowed_iff] at hall
    have hline := fun c hc => isLineTerminator_of_isAllowed hdigit (hall c hc)
    rw [foundAhead_iff hline, foundAhead_iff hline]
    simp only [isLowercase_iff, isSymbol_iff]
    exact ⟨hlower, hsymbol, hlen, hall⟩

/-- With the ASCII digits, which are decimal digits: a password that is
accepted. -/
theorem isPasswordValid_senha :
    isPasswordValid Char.isDigit "senha@2023" = true ↔
      GoodPassword Char.isDigit "senha@2023".toList := by
  refine isPasswordValid_iff (fun c hc => ?_) "senha@2023"
  have hrange : 48 ≤ c.val ∧ c.val ≤ 57 := by simpa [Char.isDigit] using hc
  have h₁ : 48 ≤ c.toNat := UInt32.le_iff_toNat_le.mp hrange.1
  have h₂ : c.toNat ≤ 57 := UInt32.le_iff_toNat_le.mp hrange.2
  simp only [isLineTerminator, Bool.or_eq_false_iff, Bool.and_eq_false_iff,
    decide_eq_false_iff_not, beq_eq_false_iff_ne]
  omega

end GloboCollection
