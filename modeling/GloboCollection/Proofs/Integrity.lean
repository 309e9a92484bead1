import Mathlib
import GloboCollection.App.Shell
import GloboCollection.Proofs.Pages

/-!
# Integrity of the score documents

No code checks a score document, and yet none ever goes wrong: an entry is a
function of the user and the sticker, so however the reads and writes of
different redeems fall, whatever fails, and whoever has signed in since, a
write can only bring in the entry of a sticker of the catalogue for the user
whose document it is, and the array union drops the second copy of it.

What the catalogue's total bounds is another matter: it bounds the sum of a
document as long as no sticker costs points.
-/

namespace GloboCollection

open GloboCollection.Lib
open ResultViewController (stickerScore)

variable {models : List Model}

/-- The document holds the entries of distinct stickers of the catalogue,
each written for the user `d`, and nothing else. -/
structure ScoreDoc.Intact (models : List Model) (d : Uid) (doc : ScoreDoc)
    (cs : List Collection) : Prop where
  scores : doc.scores = some (cs.map (stickerScore d))
  stickers : ∀ c ∈ cs, c ∈ catalogue models
  distinct : (cs.map Collection.id).Nodup

namespace ScoreDoc

variable {d : Uid} {doc : ScoreDoc} {cs : List Collection} {c : Collection}

theorem intact_setData (hc : c ∈ catalogue models) :
    Intact models d (setData [stickerScore d c]) [c] :=
  ⟨rfl, fun _ hc' => List.mem_singleton.mp hc' ▸ hc, List.nodup_singleton c.id⟩

/-- The union with the entry of a sticker adds that sticker or changes
nothing: two stickers with the same id are one, so an entry that is not
there is one for a new id. -/
theorem Intact.updateData (hids : ((catalogue models).map Collection.id).Nodup)
    (h : Intact models d doc cs) (hc : c ∈ catalogue models) :
    ∃ doc' cs', GloboCollection.updateData (some doc) [stickerScore d c] = some doc' ∧
      Intact models d doc' cs' := by
  have hdoc : GloboCollection.updateData (some doc) [stickerScore d c] =
      some ⟨some (if stickerScore d c ∈ cs.map (stickerScore d) then
        cs.map (stickerScore d) else cs.map (stickerScore d) ++ [stickerScore d c])⟩ := by
    rw [GloboCollection.updateData, Option.map_some, h.scores, Option.getD_some,
      arrayUnion_singleton]
  refine ⟨_, if stickerScore d c ∈ cs.map (stickerScore d) then cs else cs ++ [c],
    hdoc, ?_⟩
  split <;> rename_i hmem
  · exact ⟨rfl, h.stickers, h.distinct⟩
  · refine ⟨by rw [List.map_append, List.map_singleton], ?_, ?_⟩
    · rw [List.forall_mem_append, List.forall_mem_singleton]
      exact ⟨h.stickers, hc⟩
    · rw [List.map_append, List.map_singleton, ← List.concat_eq_append, List.nodup_concat]
      refine ⟨?_, h.distinct⟩
      intro hid
      obtain ⟨c', hc', heq⟩ := List.mem_map.mp hid
      obtain rfl : c' = c := List.inj_on_of_nodup_map hids (h.stickers c' hc') hc heq
      exact hmem (List.mem_map_of_mem hc')

/-- What a document is worth is at most what the catalogue is worth, if no
sticker costs points. -/
theorem Intact.sum_le (hids : ((catalogue models).map Collection.id).Nodup)
    (h : Intact models d doc cs) (hpos : ∀ c ∈ catalogue models, 0 ≤ c.stickerScore) :
    (cs.map Collection.stickerScore).sum ≤
      ((catalogue models).map Collection.stickerScore).sum := by
  rw [← List.sum_toFinset _ (List.Nodup.of_map _ h.distinct),
    ← List.sum_toFinset _ (List.Nodup.of_map _ hids)]
  refine Finset.sum_le_sum_of_subset_of_nonneg ?_ ?_
  · intro c hc
    exact List.mem_toFinset.mpr (h.stickers c (List.mem_toFinset.mp hc))
  · exact fun c hc _ => hpos c (List.mem_toFinset.mp hc)

end ScoreDoc

/-! ## The invariant -/

/-- Every document is intact, and every redeem, whether under way or over,
is about a sticker of the catalogue. -/
structure Scores.Sound (models : List Model) (s : Scores) : Prop where
  redeems : ∀ r ∈ s.redeems, ∃ c ∈ catalogue models,
    r.stickerScore = stickerScore r.userUID c
  docs : ∀ d doc, s.docs d = some doc → ∃ cs, doc.Intact models d cs

namespace Scores.Sound

variable {s s' : Scores} {i : Nat} {ok : Bool}

theorem issue (h : s.Sound models) {u : Uid} {c : Collection}
    (hc : c ∈ catalogue models) : (s.issue u c).Sound models := by
  refine ⟨?_, h.docs⟩
  rw [Scores.issue, List.forall_mem_append, List.forall_mem_singleton]
  exact ⟨h.redeems, c, hc, rfl⟩

/-- A redeem that only changes its phase stays about its sticker. -/
theorem redeems_set (h : s.Sound models) {r : Redeem} {phase : Phase}
    (hr : s.redeems[i]? = some r) :
    ∀ r' ∈ s.redeems.set i { r with phase := phase }, ∃ c ∈ catalogue models,
      r'.stickerScore = stickerScore r'.userUID c := by
  intro r' hr'
  rcases List.mem_or_eq_of_mem_set hr' with hr' | rfl
  · exact h.redeems r' hr'
  · exact h.redeems r (List.mem_of_getElem? hr)

theorem readCallback (h : s.Sound models)
    (hstep : s.readCallback i ok = some s') : s'.Sound models := by
  obtain ⟨r, hr, -, rfl⟩ := Scores.readCallback_some.mp hstep
  exact ⟨h.redeems_set hr, h.docs⟩

/-- Whichever write a redeem has chosen, it leaves the document intact. -/
theorem written (hids : ((catalogue models).map Collection.id).Nodup)
    (h : s.Sound models) {r : Redeem} (hr : r ∈ s.redeems) {doc : ScoreDoc}
    (hdoc : r.written (s.docs r.userUID) = some doc) :
    ∃ cs, doc.Intact models r.userUID cs := by
  obtain ⟨c, hc, hentry⟩ := h.redeems r hr
  rw [Redeem.written, hentry] at hdoc
  cases hphase : r.phase with
  | setting =>
      rw [hphase] at hdoc
      cases hdoc
      exact ⟨[c], ScoreDoc.intact_setData hc⟩
  | updating =>
      rw [hphase] at hdoc
      cases hold : s.docs r.userUID with
      | none =>
          rw [hold] at hdoc
          cases hdoc
      | some old =>
          obtain ⟨cs, hcs⟩ := h.docs r.userUID old hold
          obtain ⟨doc', cs', hdoc', hcs'⟩ := hcs.updateData hids hc
          rw [hold] at hdoc
          obtain rfl : doc' = doc := Option.some.inj (hdoc'.symm.trans hdoc)
          exact ⟨cs', hcs'⟩
  | reading | finished =>
      rw [hphase] at hdoc
      exact h.docs r.userUID doc hdoc

theorem write (hids : ((catalogue models).map Collection.id).Nodup)
    (h : s.Sound models) (hstep : s.write i ok = some s') : s'.Sound models := by
  obtain ⟨r, hr, -, rfl⟩ := Scores.write_some.mp hstep
  refine ⟨h.redeems_set hr, fun d doc hdoc => ?_⟩
  cases ok with
  | false => exact h.docs d doc hdoc
  | true =>
      dsimp only at hdoc
      rw [if_pos rfl] at hdoc
      by_cases hd : d = r.userUID
      · subst hd
        rw [Function.update_self] at hdoc
        exact h.written hids (List.mem_of_getElem? hr) hdoc
      · rw [Function.update_of_ne hd] at hdoc
        exact h.docs d doc hdoc

end Scores.Sound

/-- A step keeps the scores sound as long as the pages are genuine: only a
tap on a result page issues a redeem. -/
theorem World.step_sound (hids : ((catalogue models).map Collection.id).Nodup)
    {w w' : World} {e : Event} (hpages : ∀ d, (w.device d).AllPages (Genuine models))
    (h : w.scores.Sound models) (hstep : w.step models e = some w') :
    w'.scores.Sound models := by
  cases e with
  | act d a =>
      obtain ⟨o, hdoes, -, -, -, hscores⟩ := act_some hstep
      rw [hscores]
      cases ho : o.redeem with
      | none => exact h
      | some redeem =>
          obtain ⟨u, c⟩ := redeem
          obtain ⟨vc, canRedeem, origin, hshows⟩ := hdoes.redeems ho
          obtain ⟨-, c', hc', heq⟩ := (hpages d).front hshows.2
          cases heq
          exact h.issue hc'
  | reply r answer =>
      obtain ⟨-, hans⟩ := reply_answers hstep
      cases hans <;> exact h
  | scoreRead i ok =>
      obtain ⟨s, hs, rfl⟩ := scoreRead_some hstep
      exact h.readCallback hs
  | scoreWrite i ok =>
      obtain ⟨s, hs, rfl⟩ := scoreWrite_some hstep
      exact h.write hids hs

theorem sound_of_run (hids : ((catalogue models).map Collection.id).Nodup)
    {w₀ w : World} {es : List Event} (hlaunch : w₀.AtLaunch)
    (hempty : ∀ d, w₀.scores.docs d = none)
    (hrun : run (World.step models) w₀ es = some w) : w.scores.Sound models := by
  refine run_induction (P := fun _ w => w.scores.Sound models) ?_ ?_ hrun
  · exact ⟨by simp [hlaunch.redeems], fun d doc hdoc => by simp [hempty] at hdoc⟩
  · intro es w e w' hw h hstep
    exact World.step_sound hids ((genuine_rule models).run hlaunch hw) h hstep

/-- At all times, every score document holds the entries of distinct stickers
of the catalogue, written for its own user. Its scores add up to at most the
catalogue's total, provided that no sticker has a negative score. -/
theorem score_documents_intact
    (hids : ((catalogue models).map Collection.id).Nodup) {w₀ w : World}
    {es : List Event} (hlaunch : w₀.AtLaunch)
    (hempty : ∀ d, w₀.scores.docs d = none)
    (hrun : run (World.step models) w₀ es = some w) :
    ∀ d doc, w.scores.docs d = some doc →
      ∃ cs, doc.Intact models d cs ∧
        ((∀ c ∈ catalogue models, 0 ≤ c.stickerScore) →
          (cs.map Collection.stickerScore).sum ≤
            ((catalogue models).map Collection.stickerScore).sum) := by
  intro d doc hdoc
  obtain ⟨cs, hcs⟩ := (sound_of_run hids hlaunch hempty hrun).docs d doc hdoc
  exact ⟨cs, hcs, hcs.sum_le hids⟩

open CollectionViewController (collection1 collection2)

/-- Ana, signed in from an earlier launch, redeems the first sticker. -/
theorem score_documents_intact_after_redeem :
    let es := launchEvents ++ quizEvents 0 0 ++ redeemEvents
    ∃ w doc cs, run (World.step CollectionViewController.models) World.signedUp es =
        some w ∧
      Shell.Possible CollectionViewController.models World.signedUp true es ∧
      w.scores.docs "A" = some doc ∧ doc.Intact CollectionViewController.models "A" cs ∧
      (cs.map Collection.stickerScore).sum ≤
        ((catalogue CollectionViewController.models).map Collection.stickerScore).sum := by
  intro es
  have hobs : (run (World.step CollectionViewController.models) World.signedUp es).map
      (fun w => (w.scores.docs "A").isSome) = some true := by decide +kernel
  obtain ⟨w, hrun, hobs⟩ := Option.map_eq_some_iff.mp hobs
  obtain ⟨doc, hdoc⟩ := Option.isSome_iff_exists.mp hobs
  have hids : ((catalogue CollectionViewController.models).map Collection.id).Nodup := by
    rw [CollectionViewController.catalogue_ids]
    decide
  have hscores : ∀ c ∈ catalogue CollectionViewController.models, 0 ≤ c.stickerScore := by
    decide
  obtain ⟨cs, hintact, hsum⟩ := score_documents_intact hids World.signedUp_atLaunch
    (fun _ => rfl) hrun "A" doc hdoc
  exact ⟨w, doc, cs, hrun, Shell.possible_of_run (by decide) hrun, hdoc, hintact,
    hsum hscores⟩

/-- An album in which the second sticker costs five points. -/
def penaltyModels : List Model :=
  [⟨[collection1, { collection2 with stickerScore := -5 }]⟩]

/-- With a sticker that costs points, redeeming the other one alone is worth
more than the whole catalogue. -/
theorem score_exceeds_catalogue_total :
    ((catalogue penaltyModels).map Collection.id).Nodup ∧
    ∃ w doc, run (World.step penaltyModels) World.signedUp
        (launchEvents ++ quizEvents 0 0 ++ redeemEvents) = some w ∧
      Shell.Possible penaltyModels World.signedUp true
        (launchEvents ++ quizEvents 0 0 ++ redeemEvents) ∧
      w.scores.docs "A" = some doc ∧
      ¬ ∃ cs, doc.Intact penaltyModels "A" cs ∧
        (cs.map Collection.stickerScore).sum ≤
          ((catalogue penaltyModels).map Collection.stickerScore).sum := by
  have hdoc : (run (World.step penaltyModels) World.signedUp
      (launchEvents ++ quizEvents 0 0 ++ redeemEvents)).map (fun w => w.scores.docs "A") =
        some (some ⟨some [stickerScore "A" collection1]⟩) := by decide +kernel
  obtain ⟨w, hw, hdoc⟩ := Option.map_eq_some_iff.mp hdoc
  refine ⟨by decide, w, _, hw, Shell.possible_of_run (by decide) hw, hdoc, ?_⟩
  rintro ⟨cs, hcs, hsum⟩
  obtain ⟨c, rfl, hc⟩ : ∃ c, cs = [c] ∧ stickerScore "A" c = stickerScore "A" collection1 := by
    have hscores := Option.some.inj hcs.scores
    obtain ⟨c, hcs', hc⟩ := List.map_eq_singleton_iff.mp hscores.symm
    exact ⟨c, hcs', hc⟩
  have hmem : c = collection1 ∨ c = { collection2 with stickerScore := -5 } := by
    simpa [penaltyModels, catalogue] using hcs.stickers c (List.mem_singleton_self c)
  rcases hmem with rfl | rfl
  · exact absurd hsum (by decide)
  · exact absurd hc (by decide)

end GloboCollection
