import GloboCollection.Lib.Decimal
import GloboCollection.App.Scores

/-!
# The keys do not clash

Every statement about lock flags and score entries comes down to which of
the built keys are equal. A sticker's key names its sticker, the quiz
screen's spelling of it is nobody's key, and the reset's list is the keys of
the first twenty stickers.
-/

namespace GloboCollection

open GloboCollection.Lib

theorem stickerKey_inj {m n : Int} : stickerKey m = stickerKey n ↔ m = n :=
  append_toString_inj

theorem stickerKey_ne_userUIDKey {n : Int} : stickerKey n ≠ userUIDKey :=
  stickerPrefix_append_ne_userUIDKey

/-- What the quiz screen prints is not the number itself: it has a letter in
it. -/
theorem describing_ne_toString (id : Option Int) (n : Int) :
    describing id ≠ toString n := by
  cases id with
  | none =>
      exact ne_toString_of_mem (c := 'n') (by simp [describing]) (by decide)
        (by decide) n
  | some m =>
      exact ne_toString_of_mem (c := 'O') (by simp [describing]) (by decide)
        (by decide) n

theorem stickerKey_ne_quizKey {id : Option Int} {n : Int} :
    stickerKey n ≠ quizKey id := by
  intro h
  exact describing_ne_toString id n ((String.append_right_inj _).mp h).symm

theorem keysToDelete_eq :
    DetailsTableViewController.keysToDelete =
      (List.range 20).map fun i : Nat => stickerKey (i + 1) := by decide

/-- The reset covers the stickers 1 to 20 and no other. -/
theorem stickerKey_mem_keysToDelete {n : Int} :
    stickerKey n ∈ DetailsTableViewController.keysToDelete ↔ 1 ≤ n ∧ n ≤ 20 := by
  rw [keysToDelete_eq, List.mem_map]
  constructor
  · rintro ⟨i, hi, h⟩
    rw [stickerKey_inj] at h
    rw [List.mem_range] at hi
    omega
  · rintro ⟨h₁, h₂⟩
    refine ⟨(n - 1).toNat, List.mem_range.mpr (by omega), ?_⟩
    rw [stickerKey_inj]
    omega

end GloboCollection
