import Mathlib

/-!
# Printed integers

Keys are built by printing a number behind a fixed start. Two facts make
such keys safe to use: printing is injective, and a printed number contains
nothing but digits and a minus sign, so a text with any other character in
it is no printed number.
-/

namespace GloboCollection.Lib

theorem append_toString_inj {s : String} {m n : Int} :
    s ++ toString m = s ++ toString n ↔ m = n := by
  rw [String.append_right_inj]
  exact Int.repr_inj

theorem isDigit_or_minus_of_mem_toString {n : Int} {c : Char}
    (h : c ∈ (toString n).toList) : c.isDigit = true ∨ c = '-' := by
  cases n with
  | ofNat m =>
      rw [show toString (Int.ofNat m) = m.repr from rfl, Nat.toList_repr] at h
      exact Or.inl (Nat.isDigit_of_mem_toDigits (by decide) (by decide) h)
  | negSucc m =>
      rw [show toString (Int.negSucc m) = "-" ++ (m + 1).repr from rfl,
        String.toList_append, Nat.toList_repr] at h
      rcases List.mem_append.mp h with h | h
      · exact Or.inr (by simpa using h)
      · exact Or.inl (Nat.isDigit_of_mem_toDigits (by decide) (by decide) h)

theorem ne_toString_of_mem {s : String} {c : Char} (hc : c ∈ s.toList)
    (hdigit : c.isDigit = false) (hminus : c ≠ '-') (n : Int) :
    s ≠ toString n := by
  rintro rfl
  rcases isDigit_or_minus_of_mem_toString hc with h | h
  · rw [hdigit] at h
    cases h
  · exact hminus h

end GloboCollection.Lib
