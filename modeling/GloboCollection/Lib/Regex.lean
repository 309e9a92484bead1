import Mathlib.Data.List.Basic

/-!
# A backtracking matcher

Regular expressions with classes, concatenation, look-ahead, the start
anchor and greedy repetition, and the matcher a backtracking engine runs: from
a position, the list of all positions a match can end at, the preferred one
first. A position is how far the match has come and what is left of the
subject. A full match is one that ends where the subject does, after however
much backtracking.

Repetition goes on for as long as its body moves forward, so it never takes
more rounds than its minimum and the length of what is left.

The lemmas say which positions are among the ends, one per construct; for a
repeated class they are the positions behind any number of characters of the
class that is enough.
-/

namespace GloboCollection.Lib

variable {α : Type}

inductive Regex (α : Type) where
  | start
  | cls (p : α → Bool)
  | seq (r s : Regex α)
  | ahead (r : Regex α)
  | rep (min : Nat) (r : Regex α)

namespace Regex

/-- The number of characters read, and the rest of the subject. -/
abbrev Pos (α : Type) := Nat × List α

/-- Greedy repetition of a body: another round first, then stopping, once the
minimum is reached and only if the round moves forward. -/
def repEnds (body : Pos α → List (Pos α)) : Nat → Nat → Pos α → List (Pos α)
  | 0, 0, pos => [pos]
  | 0, _ + 1, _ => []
  | fuel + 1, 0, pos =>
      ((body pos).filter fun next => next.2.length < pos.2.length).flatMap
        (repEnds body fuel 0) ++ [pos]
  | fuel + 1, min + 1, pos => (body pos).flatMap (repEnds body fuel min)

/-- The positions at which a match from `pos` can end, in the order in which
backtracking finds them. -/
def ends : Regex α → Pos α → List (Pos α)
  | start, pos => if pos.1 = 0 then [pos] else []
  | cls p, pos =>
      match pos.2 with
      | c :: rest => if p c then [(pos.1 + 1, rest)] else []
      | [] => []
  | seq r s, pos => (r.ends pos).flatMap s.ends
  | ahead r, pos => if (r.ends pos).isEmpty then [] else [pos]
  | rep min r, pos => repEnds r.ends (pos.2.length + min) min pos

/-- The whole subject matches. -/
def fullMatch (r : Regex α) (subject : List α) : Bool :=
  (r.ends (0, subject)).any fun e => e.2.isEmpty

/-! ## Where a match can end -/

variable {r s : Regex α} {p : α → Bool} {pos e : Pos α} {i : Nat} {c : α}
  {rest : List α}

theorem fullMatch_iff {subject : List α} :
    r.fullMatch subject = true ↔ ∃ n, (n, []) ∈ r.ends (0, subject) := by
  rw [fullMatch, List.any_eq_true]
  constructor
  · intro h
    obtain ⟨⟨n, left⟩, he, hempty⟩ := h
    obtain rfl : left = [] := List.isEmpty_iff.mp hempty
    exact ⟨n, he⟩
  · intro h
    obtain ⟨n, hn⟩ := h
    exact ⟨(n, []), hn, rfl⟩

theorem mem_ends_start : e ∈ start.ends pos ↔ pos.1 = 0 ∧ e = pos := by
  rw [ends]
  split <;> rename_i h <;> simp [h]

theorem mem_ends_seq : e ∈ (seq r s).ends pos ↔ ∃ m ∈ r.ends pos, e ∈ s.ends m := by
  rw [ends, List.mem_flatMap]

theorem mem_ends_ahead :
    e ∈ (ahead r).ends pos ↔ (∃ m, m ∈ r.ends pos) ∧ e = pos := by
  rw [ends]
  split <;> rename_i h
  · rw [List.isEmpty_iff] at h
    simp [h]
  · have hne : r.ends pos ≠ [] := fun hnil => h (List.isEmpty_iff.mpr hnil)
    have hsome : ∃ m, m ∈ r.ends pos := List.exists_mem_of_ne_nil _ hne
    simp [hsome]

theorem ends_cls_nil : (cls p).ends (i, []) = [] := rfl

theorem ends_cls_cons :
    (cls p).ends (i, c :: rest) = if p c then [(i + 1, rest)] else [] := rfl

theorem exists_mem_ends_cls :
    (∃ m, m ∈ (cls p).ends (i, rest)) ↔ ∃ c, rest.head? = some c ∧ p c = true := by
  cases rest with
  | nil => simp [ends_cls_nil]
  | cons c rest =>
      rw [ends_cls_cons]
      split <;> rename_i h <;> simp [h]

/-- The ends of a repeated class, by induction on what is left: enough
characters of the class, and not more than there are. -/
theorem mem_repEnds_cls {fuel min : Nat} (hfuel : rest.length ≤ fuel) :
    e ∈ repEnds (cls p).ends fuel min (i, rest) ↔
      ∃ k, min ≤ k ∧ k ≤ rest.length ∧ (∀ c ∈ rest.take k, p c = true) ∧
        e = (i + k, rest.drop k) := by
  induction fuel generalizing i rest min with
  | zero =>
      obtain rfl : rest = [] := List.length_eq_zero_iff.mp (by omega)
      cases min with
      | zero =>
          rw [repEnds, List.mem_singleton]
          simp
      | succ min =>
          rw [repEnds]
          simp
  | succ fuel ih =>
      -- One more round reads one more character, so `k` is one larger.
      have hround : ∀ min', e ∈ ((cls p).ends (i, rest)).flatMap
            (repEnds (cls p).ends fuel min') ↔
          ∃ k, min' ≤ k ∧ k + 1 ≤ rest.length ∧
            (∀ c ∈ rest.take (k + 1), p c = true) ∧
            e = (i + (k + 1), rest.drop (k + 1)) := by
        intro min'
        cases rest with
        | nil => simp [ends_cls_nil]
        | cons c rest =>
            rw [ends_cls_cons]
            split <;> rename_i hc
            · rw [List.flatMap_singleton, ih (by simp at hfuel; omega)]
              simp only [List.length_cons, List.take_succ_cons, List.drop_succ_cons,
                List.forall_mem_cons, hc, true_and, Nat.add_le_add_iff_right]
              simp only [Nat.add_assoc, Nat.add_comm 1]
            · simp [hc]
      cases min with
      | succ min =>
          rw [repEnds, hround min]
          constructor
          · intro h
            obtain ⟨k, hk, hrest⟩ := h
            exact ⟨k + 1, by omega, hrest⟩
          · intro h
            obtain ⟨k, hk, hrest⟩ := h
            obtain ⟨j, rfl⟩ : ∃ j, k = j + 1 := ⟨k - 1, by omega⟩
            exact ⟨j, by omega, hrest⟩
      | zero =>
          have hforward : ((cls p).ends (i, rest)).filter
              (fun next => next.2.length < rest.length) = (cls p).ends (i, rest) := by
            cases rest with
            | nil => rfl
            | cons c rest =>
                rw [ends_cls_cons]
                split <;> simp
          rw [repEnds, hforward, List.mem_append, hround 0, List.mem_singleton]
          constructor
          · intro h
            rcases h with ⟨k, -, hrest⟩ | rfl
            · exact ⟨k + 1, Nat.zero_le _, hrest⟩
            · exact ⟨0, Nat.zero_le _, Nat.zero_le _, by simp, by simp⟩
          · intro h
            obtain ⟨k, -, hrest⟩ := h
            cases k with
            | zero => exact Or.inr (by simpa using hrest.2.2)
            | succ k => exact Or.inl ⟨k, Nat.zero_le _, hrest⟩

theorem mem_ends_rep_cls {min : Nat} :
    e ∈ (rep min (cls p)).ends (i, rest) ↔
      ∃ k, min ≤ k ∧ k ≤ rest.length ∧ (∀ c ∈ rest.take k, p c = true) ∧
        e = (i + k, rest.drop k) := by
  rw [ends]
  exact mem_repEnds_cls (Nat.le_add_right _ _)

end Regex

end GloboCollection.Lib
