import Mathlib.Data.List.Basic

/-!
# Lists that grow at the end

A history gains its events at the end, and a table of requests gains its
rows there and has single rows replaced. These lemmas say what an element, a
row or a split point of the longer list was in the shorter one.
-/

namespace GloboCollection.Lib

variable {α : Type}

/-- A split of a list with one more element splits at that element or
before it. -/
theorem concat_eq_append_cons {l pre post : List α} {a b : α} :
    l ++ [a] = pre ++ b :: post ↔
      (pre = l ∧ b = a ∧ post = []) ∨
        ∃ post', post = post' ++ [a] ∧ l = pre ++ b :: post' := by
  rcases List.eq_nil_or_concat post with rfl | ⟨post', c, rfl⟩
  · constructor
    · intro h
      obtain ⟨h₁, h₂⟩ := List.append_inj' h rfl
      exact Or.inl ⟨h₁.symm, (List.cons.inj h₂).1.symm, rfl⟩
    · intro h
      obtain ⟨rfl, rfl, -⟩ | ⟨post', h, -⟩ := h
      · rfl
      · simp at h
  · rw [List.concat_eq_append, ← List.cons_append, ← List.append_assoc]
    constructor
    · intro h
      obtain ⟨h₁, h₂⟩ := List.append_inj' h rfl
      exact Or.inr ⟨post', by rw [(List.cons.inj h₂).1], h₁⟩
    · intro h
      obtain ⟨-, -, h⟩ | ⟨post'', h, rfl⟩ := h
      · simp at h
      · obtain ⟨rfl, h₂⟩ := List.append_inj' h rfl
        rw [(List.cons.inj h₂).1]

theorem getElem?_concat_some {l : List α} {a b : α} {k : Nat} :
    (l ++ [a])[k]? = some b ↔ l[k]? = some b ∨ (k = l.length ∧ b = a) := by
  rw [List.getElem?_append]
  split <;> rename_i hk
  · constructor
    · exact Or.inl
    · intro h
      obtain h | ⟨rfl, -⟩ := h
      · exact h
      · exact absurd hk (Nat.lt_irrefl _)
  · rw [List.getElem?_eq_none (Nat.le_of_not_lt hk), List.getElem?_singleton]
    split <;> rename_i h0
    · have hkl : k = l.length := by omega
      simp [hkl, eq_comm]
    · have hkl : k ≠ l.length := by omega
      simp [hkl]

theorem getElem?_set_some {l : List α} {a b c : α} {i k : Nat}
    (hi : l[i]? = some a) :
    (l.set i b)[k]? = some c ↔ (k = i ∧ c = b) ∨ (k ≠ i ∧ l[k]? = some c) := by
  have hlt : i < l.length := (List.getElem?_eq_some_iff.mp hi).1
  rw [List.getElem?_set]
  split <;> rename_i hik
  · subst hik
    simp [hlt, eq_comm]
  · simp [Ne.symm hik]

/-- Replacing a row by one that looks the same through `f` changes nothing
seen through `f`. -/
theorem map_set_eq {β : Type} {l : List α} {a b : α} {i : Nat} {f : α → β}
    (hi : l[i]? = some a) (hf : f b = f a) : (l.set i b).map f = l.map f := by
  obtain ⟨hlt, rfl⟩ := List.getElem?_eq_some_iff.mp hi
  rw [List.map_set, hf, ← List.getElem_map f (h := by simpa using hlt),
    List.set_getElem_self]

/-- Changing one row of a table that is computed row by row changes how that
row is computed. -/
theorem modify_mapIdx {β : Type} {l : List α} {i : Nat} {f : Nat → α → β} {g : β → β} :
    (l.mapIdx f).modify i g =
      l.mapIdx fun j a => if j = i then g (f j a) else f j a := by
  refine List.ext_getElem? fun j => ?_
  rw [List.getElem?_modify, List.getElem?_mapIdx, List.getElem?_mapIdx]
  cases l[j]? with
  | none => rfl
  | some a =>
      by_cases hj : j = i
      · simp [hj]
      · simp [hj, Ne.symm hj]

end GloboCollection.Lib
