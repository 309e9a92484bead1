import Mathlib.Data.List.Nodup

/-!
# The array union of a document store

`arrayUnion` is the server-side merge of a list field: every given element
that the array does not hold yet is appended, in order, and nothing is
removed or moved. Membership is equality of the elements, so a second union
with the same element changes nothing.
-/

namespace GloboCollection.Lib

variable {α : Type} [DecidableEq α]

/-- Append the elements of `ys` that are not there yet. -/
def arrayUnion (xs ys : List α) : List α :=
  ys.foldl (fun acc y => if y ∈ acc then acc else acc ++ [y]) xs

@[simp] theorem arrayUnion_nil {xs : List α} : arrayUnion xs [] = xs := rfl

theorem arrayUnion_cons {xs ys : List α} {y : α} :
    arrayUnion xs (y :: ys) =
      arrayUnion (if y ∈ xs then xs else xs ++ [y]) ys := rfl

theorem arrayUnion_singleton {xs : List α} {y : α} :
    arrayUnion xs [y] = if y ∈ xs then xs else xs ++ [y] := rfl

@[simp] theorem mem_arrayUnion {xs ys : List α} {x : α} :
    x ∈ arrayUnion xs ys ↔ x ∈ xs ∨ x ∈ ys := by
  induction ys generalizing xs with
  | nil => simp
  | cons y ys ih =>
      rw [arrayUnion_cons, ih, List.mem_cons]
      split <;> rename_i hy
      · constructor
        · intro hx
          obtain h | h := hx
          · exact Or.inl h
          · exact Or.inr (Or.inr h)
        · intro hx
          obtain h | rfl | h := hx
          · exact Or.inl h
          · exact Or.inl hy
          · exact Or.inr h
      · rw [List.mem_append, List.mem_singleton, or_assoc]

end GloboCollection.Lib
