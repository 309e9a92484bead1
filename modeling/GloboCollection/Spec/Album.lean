import Mathlib.Data.Set.Insert

/-!
# What the album is for

Seen from far enough away the app keeps a set of stickers. Redeeming a
sticker puts it in, and a reset takes a fixed part of the stickers out; that
is all that should ever happen to the set. The app's own store is compared
with this album in `Proofs.Album`.
-/

namespace GloboCollection.Spec

variable {ι : Type}

inductive AlbumOp (ι : Type) where
  | redeem (n : ι)
  | reset
deriving DecidableEq

/-- One operation on the album; `cleared` is what a reset takes out. -/
def applyOp (cleared : Set ι) (album : Set ι) : AlbumOp ι → Set ι
  | .redeem n => insert n album
  | .reset => album \ cleared

variable {cleared album album' : Set ι} {ops : List (AlbumOp ι)} {n : ι}

/-- Without a reset the album holds what it held and what was redeemed. -/
theorem mem_foldl_of_no_reset (h : .reset ∉ ops) :
    n ∈ ops.foldl (applyOp cleared) album ↔ n ∈ album ∨ .redeem n ∈ ops := by
  induction ops generalizing album with
  | nil => simp
  | cons op ops ih =>
      rw [List.mem_cons, not_or] at h
      rw [List.foldl_cons, ih h.2, List.mem_cons]
      cases op with
      | redeem m =>
          rw [applyOp, Set.mem_insert_iff, AlbumOp.redeem.injEq]
          constructor
          · rintro ((rfl | hn) | hn)
            · exact Or.inr (Or.inl rfl)
            · exact Or.inl hn
            · exact Or.inr (Or.inr hn)
          · rintro (hn | rfl | hn)
            · exact Or.inl (Or.inr hn)
            · exact Or.inl (Or.inl rfl)
            · exact Or.inr hn
      | reset => exact absurd rfl h.1

/-- What is in the album or put in stays unless a reset covers it. -/
theorem mem_foldl_of_kept (hkept : .reset ∈ ops → n ∉ cleared)
    (h : n ∈ album ∨ .redeem n ∈ ops) : n ∈ ops.foldl (applyOp cleared) album := by
  induction ops generalizing album with
  | nil => exact h.resolve_right List.not_mem_nil
  | cons op ops ih =>
      rw [List.foldl_cons]
      refine ih (fun hmem => hkept (List.mem_cons_of_mem _ hmem)) ?_
      rw [List.mem_cons] at h
      cases op with
      | redeem m =>
          rw [applyOp, Set.mem_insert_iff]
          rcases h with h | h | h
          · exact Or.inl (Or.inr h)
          · cases h
            exact Or.inl (Or.inl rfl)
          · exact Or.inr h
      | reset =>
          have hn : n ∉ cleared := hkept List.mem_cons_self
          rcases h with h | h | h
          · exact Or.inl ⟨h, hn⟩
          · cases h
          · exact Or.inr h

/-- Operations that decide for themselves whether `n` is in the album. -/
def Decides (cleared : Set ι) (ops : List (AlbumOp ι)) (n : ι) : Prop :=
  .redeem n ∈ ops ∨ (.reset ∈ ops ∧ n ∈ cleared)

/-- Two albums that undergo the same operations agree on a sticker exactly
when they did before, or the operations decide about it. -/
theorem mem_foldl_congr_iff :
    (n ∈ ops.foldl (applyOp cleared) album ↔ n ∈ ops.foldl (applyOp cleared) album') ↔
      (n ∈ album ↔ n ∈ album') ∨ Decides cleared ops n := by
  induction ops generalizing album album' with
  | nil => simp [Decides]
  | cons op ops ih =>
      rw [List.foldl_cons, List.foldl_cons, ih]
      simp only [Decides, List.mem_cons]
      cases op with
      | redeem m =>
          simp only [applyOp, Set.mem_insert_iff, AlbumOp.redeem.injEq, reduceCtorEq,
            false_or]
          by_cases hm : n = m
          · simp [hm]
          · simp [hm]
      | reset =>
          simp only [applyOp, Set.mem_sdiff, reduceCtorEq, false_or, true_or, true_and]
          by_cases hn : n ∈ cleared
          · simp [hn]
          · simp [hn]

end GloboCollection.Spec
