import GloboCollection.Proofs.Keys
import GloboCollection.App.Ranking

/-!
# What the ranking reads of what was redeemed

The result screen stores a sticker's score under a field that ends in the
sticker's id; the ranking looks for the field of sticker 1 in every entry.
So it sees the score of sticker 1 and passes over all the others, and its
total is right exactly when the others come to nothing.
-/

namespace GloboCollection

open GloboCollection.Lib
open ResultViewController (stickerScore)
open RankingViewController (scoreOf addScore totalScore)

/-- The reader recognises the entry of sticker 1 only. -/
theorem scoreOf_stickerScore (u : Uid) (c : Collection) :
    scoreOf (stickerScore u c) = if c.id = 1 then some c.stickerScore else none := by
  have hid : "score1" ≠ "stickerID" ++ toString c.id := by
    intro h
    have hchar := congrArg (fun t : String => t.toList[1]?) h
    simp at hchar
  have hscore : "score1" = "score" ++ toString c.id ↔ c.id = 1 := by
    rw [show "score1" = "score" ++ toString (1 : Int) from rfl,
      append_toString_inj, eq_comm]
  have huid : "score1" ≠ "uid" := by decide
  rw [scoreOf, stickerScore, Finmap.lookup_insert_of_ne _ hid]
  by_cases h1 : c.id = 1
  · rw [if_pos h1, hscore.mpr h1, Finmap.lookup_insert]
  · rw [if_neg h1, Finmap.lookup_insert_of_ne _ (fun h => h1 (hscore.mp h)),
      Finmap.lookup_insert_of_ne _ huid, Finmap.lookup_empty]

/-- The loop adds up what the entries contribute. -/
theorem foldl_addScore (scores : List Entry) (total : Int) :
    scores.foldl addScore total =
      total + (scores.map fun e => (scoreOf e).getD 0).sum := by
  induction scores generalizing total with
  | nil => simp
  | cons e scores ih =>
      rw [List.foldl_cons, ih, List.map_cons, List.sum_cons, addScore]
      cases scoreOf e with
      | none => simp
      | some score => simp [add_assoc]

/-- Over the entries of a set of stickers, in any order, the ranking's total
is the score of sticker 1 alone. -/
theorem totalScore_of_perm {u : Uid} {S : Finset Collection} {entries : List Entry}
    (hperm : entries.Perm (S.toList.map (stickerScore u))) :
    totalScore entries = ∑ c ∈ S with c.id = 1, c.stickerScore := by
  rw [totalScore, foldl_addScore, zero_add, (hperm.map _).sum_eq, List.map_map,
    Finset.sum_filter, ← Finset.sum_map_toList]
  congr 1
  refine List.map_congr_left fun c _ => ?_
  rw [Function.comp_apply, scoreOf_stickerScore]
  split <;> rfl

/-- The ranking's total is the sum of the redeemed scores exactly when the
scores of the stickers other than sticker 1 add up to zero. -/
theorem totalScore_eq_sum_iff {u : Uid} {S : Finset Collection}
    {entries : List Entry}
    (hperm : entries.Perm (S.toList.map (stickerScore u))) :
    totalScore entries = ∑ c ∈ S, c.stickerScore ↔
      ∑ c ∈ S with c.id ≠ 1, c.stickerScore = 0 := by
  rw [totalScore_of_perm hperm,
    ← Finset.sum_filter_add_sum_filter_not S (fun c => c.id = 1)]
  exact left_eq_add

open CollectionViewController (collection1 collection2 collection3)

/-- A user who redeemed sticker 1 and two others of which one costs what the
other is worth: the ranking counts the 10 points there are. -/
theorem totalScore_of_three :
    let worth := { collection2 with stickerScore := 5 }
    let costs := { collection3 with stickerScore := -5 }
    let S : Finset Collection := {collection1, worth, costs}
    ∑ c ∈ S with c.id ≠ 1, c.stickerScore = 0 ∧
      totalScore [stickerScore "u" costs, stickerScore "u" collection1,
          stickerScore "u" worth] = ∑ c ∈ S, c.stickerScore ∧
      ∑ c ∈ S, c.stickerScore = 10 := by
  intro worth costs S
  have hlist : S.toList.Perm [collection1, worth, costs] := by
    refine (Finset.toList_insert (by decide)).trans (List.Perm.cons _ ?_)
    refine (Finset.toList_insert (by decide)).trans (List.Perm.cons _ ?_)
    rw [Finset.toList_singleton]
  have hperm : [stickerScore "u" costs, stickerScore "u" collection1,
      stickerScore "u" worth].Perm (S.toList.map (stickerScore "u")) :=
    (((List.perm_append_singleton costs [collection1, worth]).symm.trans
      hlist.symm).map (stickerScore "u"))
  have hothers : ∑ c ∈ S with c.id ≠ 1, c.stickerScore = 0 := by decide
  exact ⟨hothers, (totalScore_eq_sum_iff hperm).mpr hothers, by decide⟩

/-- A user who redeemed sticker 2 only has 10 points; the ranking counts 0. -/
theorem ranking_misses_sticker2 :
    [stickerScore "u" collection2].Perm
      (({collection2} : Finset Collection).toList.map (stickerScore "u")) ∧
    totalScore [stickerScore "u" collection2] ≠
      ∑ c ∈ {collection2}, c.stickerScore := by
  refine ⟨by simp, ?_⟩
  rw [Finset.sum_singleton]
  decide

end GloboCollection
