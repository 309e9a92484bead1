import GloboCollection.Proofs.Album

/-!
# No sticker and no score without play

A sticker is played in four steps: it is selected in its album, its quiz is
started, the quiz is left, and the result is redeemed. Nothing in the store
or in a score document records the first three. Still, whatever is in either
of them got there that way: for every sticker a device shows as unlocked, and
for every entry of every score document, some device went through the four
steps for that very sticker, in that order, and in the second case with the
user of the document signed in at the last of them.

`playOp` reads the steps off the events. The invariant is on the pages: a
page that shows a sticker has the steps that lead to it behind it. How the
quiz was answered is no part of it, since nobody asks.

The redeem at the end of a play unlocks the sticker before the score is even
sent, so a score can be found again on a device: some device shows its
sticker, or was reset.
-/

namespace GloboCollection

open GloboCollection.Lib GloboCollection.Spec
open ResultViewController (stickerScore)

/-! ## The steps of a play -/

inductive PlayOp where
  | selected (c : Collection)
  | started (c : Collection)
  | left (c : Collection)
  | redeemed (u : Option Uid) (c : Collection)
deriving DecidableEq, Repr

/-- What an action means for the page in front of it. -/
def Device.playOp (dev : Device) (a : Action) : Option PlayOp :=
  match a, dev.front with
  | .didSelectItemAt item, some (_, ⟨.details (some collections), _⟩) =>
      collections[item]?.map .selected
  | .startQuizButtonTapped, some (_, ⟨.info (some c) _, _⟩) => some (.started c)
  | .voltarButtonPressionado, some (_, ⟨.web (some c), _⟩) => some (.left c)
  | .redeemButtonTapped, some (_, ⟨.result _ (some c), _⟩) =>
      some (.redeemed dev.defaults.userUID c)
  | _, _ => none

/-- The steps of a play on device `d`. -/
def playOp (d : DeviceId) (w : World) : Event → Option PlayOp
  | .act d' a => if d' = d then (w.device d).playOp a else none
  | _ => none

/-- The whole play of a sticker. -/
def play (u : Option Uid) (c : Collection) : List PlayOp :=
  [.selected c, .started c, .left c, .redeemed u c]

/-- The steps that lead to a page are among those that were made. -/
def Played (ops : List PlayOp) (vc : ViewController) : Prop :=
  match vc.page with
  | .info (some c) _ => [.selected c].Sublist ops
  | .web (some c) => [.selected c, .started c].Sublist ops
  | .result _ (some c) => [.selected c, .started c, .left c].Sublist ops
  | .error _ _ => False
  | _ => True

theorem Played.mono {ops ops' : List PlayOp} {vc : ViewController} (h : Played ops vc)
    (hops : ops.Sublist ops') : Played ops' vc := by
  rw [Played] at h ⊢
  split at h
  · exact h.trans hops
  · exact h.trans hops
  · exact h.trans hops
  · exact h
  · trivial

section Brought

variable {models : List Model} {dev : Device} {a : Action}

/-- A page that is opened has the steps behind it that its opening adds to. -/
theorem Device.Brings.played {ops : List PlayOp} {new : ViewController}
    (h : dev.Brings models a new) (hP : dev.AllPages (Played ops)) :
    Played (ops ++ (dev.playOp a).toList) new := by
  cases h with
  | login | album => trivial
  | tab _ hpage =>
      simp only [tabPages, List.mem_cons, List.not_mem_nil, or_false] at hpage
      rcases hpage with rfl | rfl | rfl | rfl | rfl <;> trivial
  | opens hshows hopens =>
      have hplayed := hP.front hshows.2
      cases hopens with
      | info hc =>
          simp only [Device.playOp, hshows.2, hc, Option.map_some, Option.toList_some]
          exact List.sublist_append_right _ _
      | quiz =>
          simp only [Device.playOp, hshows.2, Option.toList_some]
          exact List.Sublist.append hplayed (List.Sublist.refl _)
      | again => exact hplayed.elim
      | register => trivial
  | @leaveQuiz vc c origin hshows =>
      cases c with
      | none => trivial
      | some c =>
          have hplayed := hP.front hshows.2
          simp only [Device.playOp, hshows.2, Option.toList_some]
          exact List.Sublist.append hplayed (List.Sublist.refl _)

end Brought

/-! ## Every page was played for -/

section Runs

variable {models : List Model} {w₀ w w' : World} {es : List Event} {d : DeviceId}
  {a : Action}

theorem played_tab {ops : List PlayOp} : ∀ page ∈ tabPages, Played ops ⟨page, none⟩ := by
  rw [forall_tabPages]
  exact ⟨trivial, trivial, trivial, trivial, trivial⟩

theorem played_of_run (hlaunch : w₀.AtLaunch)
    (hrun : run (World.step models) w₀ es = some w) (d : DeviceId) :
    (w.device d).AllPages (Played (trace (World.step models) (playOp d) w₀ es)) := by
  refine run_induction (P := fun es w => (w.device d).AllPages
    (Played (trace (World.step models) (playOp d) w₀ es))) ?_ ?_ hrun
  · exact Device.AllPages.atLaunch (hlaunch.screens d) played_tab
  · intro es w e w' hw ih hstep
    rw [trace_concat hw]
    have hold : (w.device d).AllPages
        (Played (trace (World.step models) (playOp d) w₀ es ++ (playOp d w e).toList)) :=
      fun p hp => (ih p hp).mono (List.sublist_append_left _ _)
    refine (World.step_moves hstep d).allPages hold played_tab trivial ?_
    rintro a new rfl hbrings
    rw [playOp, if_pos rfl]
    exact hbrings.played ih

/-- A redeem ends a play. -/
theorem play_of_result (hlaunch : w₀.AtLaunch)
    (hrun : run (World.step models) w₀ es = some w) {vc : Nat} {canRedeem : Bool}
    {c : Collection} {origin : Option Collection}
    (hfront : (w.device d).front = some (vc, ⟨.result canRedeem (some c), origin⟩)) :
    (play (w.device d).defaults.userUID c).Sublist
      (trace (World.step models) (playOp d) w₀ (es ++ [.act d .redeemButtonTapped])) := by
  have hplayed : [PlayOp.selected c, .started c, .left c].Sublist
      (trace (World.step models) (playOp d) w₀ es) :=
    (played_of_run hlaunch hrun d).front hfront
  refine sublist_trace_concat_op hrun hplayed ?_
  simp only [playOp, if_true, Device.playOp, hfront]

/-- A play seen in a run is seen in every longer one. -/
theorem play_concat {e : Event} {u : Option Uid} {c : Collection}
    (hrun : run (World.step models) w₀ es = some w)
    (h : (play u c).Sublist (trace (World.step models) (playOp d) w₀ es)) :
    (play u c).Sublist (trace (World.step models) (playOp d) w₀ (es ++ [e])) :=
  sublist_trace_concat hrun h

end Runs

/-! ## Stickers -/

/-- A sticker that a device shows as unlocked, and did not at first, was
played on that device. -/
theorem no_sticker_without_play {models : List Model} {w₀ w : World} {es : List Event}
    {d : DeviceId} {n : Int} (hlaunch : w₀.AtLaunch)
    (hrun : run (World.step models) w₀ es = some w)
    (hlocked : unlocked (w₀.device d).defaults n = false)
    (hunlocked : unlocked (w.device d).defaults n = true) :
    ∃ u, ∃ c ∈ catalogue models, c.id = n ∧
      (play u c).Sublist (trace (World.step models) (playOp d) w₀ es) := by
  have hn : n ∈ flags (w.device d).defaults := hunlocked
  refine run_induction (P := fun es w => n ∈ flags (w.device d).defaults →
    ∃ u, ∃ c ∈ catalogue models, c.id = n ∧
      (play u c).Sublist (trace (World.step models) (playOp d) w₀ es)) ?_ ?_ hrun hn
  · intro hn
    rw [flags, Set.mem_ofPred_eq, hlocked] at hn
    cases hn
  · intro es w e w' hw ih hstep hn
    have hpages := (genuine_rule models).run hlaunch hw d
    rw [flags_moves hpages (World.step_moves hstep d)] at hn
    have hold : n ∈ flags (w.device d).defaults → ∃ u, ∃ c ∈ catalogue models, c.id = n ∧
        (play u c).Sublist (trace (World.step models) (playOp d) w₀ (es ++ [e])) := by
      intro hn
      obtain ⟨u, c, hc, hid, hplay⟩ := ih hn
      exact ⟨u, c, hc, hid, play_concat hw hplay⟩
    cases hop : albumOp d w e with
    | none =>
        rw [hop] at hn
        exact hold hn
    | some op =>
        rw [hop] at hn
        cases op with
        | reset => exact hold hn.1
        | redeem m =>
            rcases hn with rfl | hn
            · obtain ⟨rfl, c, hc, rfl⟩ := albumOp_eq_redeem.mp hop
              -- The page in front is the result of the sticker it was opened for.
              rw [Device.resultSticker] at hc
              split at hc
              · rename_i vc canRedeem collectionData origin hfront
                obtain ⟨rfl, c', hc', rfl⟩ := hpages.front hfront
                cases hc
                exact ⟨_, c, hc', rfl, play_of_result hlaunch hw hfront⟩
              · cases hc
            · exact hold hn

theorem no_sticker_without_play_first :
    ∃ w, run (World.step CollectionViewController.models) World.signedUp
        (launchEvents ++ quizEvents 0 0 ++ redeemEvents) = some w ∧
      ∃ u, ∃ c ∈ catalogue CollectionViewController.models, c.id = 1 ∧
        (play u c).Sublist (trace (World.step CollectionViewController.models) (playOp 0)
          World.signedUp (launchEvents ++ quizEvents 0 0 ++ redeemEvents)) := by
  have hobs : (run (World.step CollectionViewController.models) World.signedUp
      (launchEvents ++ quizEvents 0 0 ++ redeemEvents)).map (fun w =>
        unlocked (w.device 0).defaults 1) = some true := by decide +kernel
  obtain ⟨w, hrun, hobs⟩ := Option.map_eq_some_iff.mp hobs
  exact ⟨w, hrun, no_sticker_without_play World.signedUp_atLaunch hrun (by decide) hobs⟩

/-! ## Scores -/

/-- Some device played the sticker of the entry with `u` signed in. -/
def PlayedFor (models : List Model) (w₀ : World) (es : List Event) (u : Uid)
    (entry : Entry) : Prop :=
  ∃ d, ∃ c ∈ catalogue models, entry = stickerScore u c ∧
    (play (some u) c).Sublist (trace (World.step models) (playOp d) w₀ es)

section Scores

variable {models : List Model} {w₀ w w' : World} {es : List Event} {e : Event}

theorem PlayedFor.concat {u : Uid} {entry : Entry} (h : PlayedFor models w₀ es u entry)
    (hrun : run (World.step models) w₀ es = some w) :
    PlayedFor models w₀ (es ++ [e]) u entry := by
  obtain ⟨d, c, hc, hentry, hplay⟩ := h
  exact ⟨d, c, hc, hentry, play_concat hrun hplay⟩

/-- A redeem that a tap issues was played for, to that tap. -/
theorem playedFor_of_issue {d : DeviceId} {a : Action} {o : Outcome} {u : Uid}
    {c : Collection} (hlaunch : w₀.AtLaunch)
    (hrun : run (World.step models) w₀ es = some w)
    (hact : (w.device d).act models d a = some o) (ho : o.redeem = some (u, c)) :
    PlayedFor models w₀ (es ++ [.act d a]) u (stickerScore u c) := by
  cases Device.act_does hact with
  | @redeem vc canRedeem collectionData origin hshows =>
      obtain ⟨-, c', hc', rfl⟩ := ((genuine_rule models).run hlaunch hrun d).front hshows.2
      rw [ResultViewController.redeemButtonTapped_redeem, Option.map_eq_some_iff] at ho
      obtain ⟨u', hu, heq⟩ := ho
      cases heq
      refine ⟨d, c, hc', rfl, ?_⟩
      rw [← hu]
      exact play_of_result hlaunch hrun hshows.2
  | appear | switch | back | album | push | leaveQuiz | gallery | reset | send | idle =>
      cases ho

/-- The entries of a document after a write are those it had and the one that
was written. -/
theorem mem_entriesOf_written {r : Redeem} {doc : Option ScoreDoc} {entry : Entry}
    (h : entry ∈ entriesOf (r.written doc)) :
    entry ∈ entriesOf doc ∨ entry = r.stickerScore := by
  rw [Redeem.written] at h
  split at h
  · cases doc with
    | none => cases h
    | some doc => exact (mem_entriesOf_updateData rfl).mp h
  · exact Or.inr (List.mem_singleton.mp h)
  · exact Or.inl h
  · exact Or.inl h

/-- The redeems and the entries of the documents, all of them played for. -/
structure Scores.PlayedFor (P : Uid → Entry → Prop) (s : Scores) : Prop where
  redeems : ∀ r ∈ s.redeems, P r.userUID r.stickerScore
  docs : ∀ u, ∀ entry ∈ entriesOf (s.docs u), P u entry

variable {P : Uid → Entry → Prop} {s s' : Scores} {i : Nat} {ok : Bool}

theorem Scores.PlayedFor.redeems_set (h : s.PlayedFor P) {r : Redeem} {phase : Phase}
    (hr : s.redeems[i]? = some r) :
    ∀ r' ∈ s.redeems.set i { r with phase := phase }, P r'.userUID r'.stickerScore := by
  intro r' hr'
  rcases List.mem_or_eq_of_mem_set hr' with hr' | rfl
  · exact h.redeems r' hr'
  · exact h.redeems r (List.mem_of_getElem? hr)

theorem Scores.PlayedFor.issue (h : s.PlayedFor P) {u : Uid} {c : Collection}
    (hP : P u (stickerScore u c)) : (s.issue u c).PlayedFor P := by
  refine ⟨?_, h.docs⟩
  rw [Scores.issue, List.forall_mem_append, List.forall_mem_singleton]
  exact ⟨h.redeems, hP⟩

theorem Scores.PlayedFor.readCallback (h : s.PlayedFor P)
    (hstep : s.readCallback i ok = some s') : s'.PlayedFor P := by
  obtain ⟨r, hr, -, rfl⟩ := Scores.readCallback_some.mp hstep
  exact ⟨h.redeems_set hr, h.docs⟩

theorem Scores.PlayedFor.write (h : s.PlayedFor P) (hstep : s.write i ok = some s') :
    s'.PlayedFor P := by
  obtain ⟨r, hr, -, rfl⟩ := Scores.write_some.mp hstep
  refine ⟨h.redeems_set hr, fun u entry hentry => ?_⟩
  dsimp only at hentry
  split at hentry
  · by_cases hu : u = r.userUID
    · subst hu
      rw [Function.update_self] at hentry
      rcases mem_entriesOf_written hentry with hentry | rfl
      · exact h.docs _ entry hentry
      · exact h.redeems r (List.mem_of_getElem? hr)
    · rw [Function.update_of_ne hu] at hentry
      exact h.docs u entry hentry
  · exact h.docs u entry hentry

end Scores

theorem playedFor_of_run {models : List Model} {w₀ w : World} {es : List Event}
    (hlaunch : w₀.AtLaunch) (hempty : ∀ u, entriesOf (w₀.scores.docs u) = [])
    (hrun : run (World.step models) w₀ es = some w) :
    w.scores.PlayedFor (PlayedFor models w₀ es) := by
  refine run_induction (P := fun es w => w.scores.PlayedFor (PlayedFor models w₀ es)) ?_ ?_ hrun
  · exact ⟨by simp [hlaunch.redeems], fun u entry h => by simp [hempty] at h⟩
  · intro es w e w' hw ih hstep
    have hold : w.scores.PlayedFor (PlayedFor models w₀ (es ++ [e])) :=
      ⟨fun r hr => (ih.redeems r hr).concat hw,
        fun u entry h => (ih.docs u entry h).concat hw⟩
    cases e with
    | act d a =>
        obtain ⟨o, hact, -, hscores⟩ := World.act_outcome hstep
        rw [hscores]
        cases ho : o.redeem with
        | none => exact hold
        | some redeem => exact hold.issue (playedFor_of_issue hlaunch hw hact ho)
    | reply r answer =>
        obtain ⟨-, hans⟩ := World.reply_answers hstep
        cases hans <;> exact hold
    | scoreRead i ok =>
        obtain ⟨s, hs, rfl⟩ := World.scoreRead_some hstep
        exact hold.readCallback hs
    | scoreWrite i ok =>
        obtain ⟨s, hs, rfl⟩ := World.scoreWrite_some hstep
        exact hold.write hs

/-- At all times, whatever fails and however the requests interleave, every
entry of the score document of `u` is that of a sticker which some device
played from its selection to its redeem, with `u` signed in at the end. -/
theorem no_score_without_play {models : List Model} {w₀ w : World} {es : List Event}
    {u : Uid} {entry : Entry} (hlaunch : w₀.AtLaunch)
    (hempty : ∀ u, entriesOf (w₀.scores.docs u) = [])
    (hrun : run (World.step models) w₀ es = some w)
    (hentry : entry ∈ entriesOf (w.scores.docs u)) :
    PlayedFor models w₀ es u entry :=
  (playedFor_of_run hlaunch hempty hrun).docs u entry hentry

theorem no_score_without_play_first :
    ∃ w, run (World.step CollectionViewController.models) World.signedUp
        (launchEvents ++ quizEvents 0 0 ++ redeemEvents) = some w ∧
      PlayedFor CollectionViewController.models World.signedUp
        (launchEvents ++ quizEvents 0 0 ++ redeemEvents) "A"
        (stickerScore "A" CollectionViewController.collection1) := by
  have hobs : (run (World.step CollectionViewController.models) World.signedUp
      (launchEvents ++ quizEvents 0 0 ++ redeemEvents)).map (fun w =>
        entriesOf (w.scores.docs "A")) =
      some [stickerScore "A" CollectionViewController.collection1] := by decide +kernel
  obtain ⟨w, hrun, hobs⟩ := Option.map_eq_some_iff.mp hobs
  exact ⟨w, hrun, no_score_without_play World.signedUp_atLaunch (fun _ => rfl) hrun
    (by rw [hobs]; exact List.mem_singleton_self _)⟩

/-! ## Scores and stickers -/

/-- A redeem among the steps of a play is one of the album's operations. -/
theorem redeem_mem_of_redeemed {models : List Model} {w₀ w : World} {es : List Event}
    {d : DeviceId} {u : Option Uid} {c : Collection} (hlaunch : w₀.AtLaunch)
    (hrun : run (World.step models) w₀ es = some w)
    (h : .redeemed u c ∈ trace (World.step models) (playOp d) w₀ es) :
    .redeem c.id ∈ trace (World.step models) (albumOp d) w₀ es := by
  obtain ⟨pre, e, post, t, rfl, hpre, hop⟩ := (mem_trace_iff hrun).mp h
  refine (mem_trace_iff hrun).mpr ⟨pre, e, post, t, rfl, hpre, ?_⟩
  cases e with
  | act d' a =>
      rw [playOp] at hop
      split at hop <;> rename_i hd
      · subst hd
        rw [Device.playOp.eq_def] at hop
        split at hop
        · obtain ⟨c', -, hc'⟩ := Option.map_eq_some_iff.mp hop
          cases hc'
        · cases hop
        · cases hop
        · rename_i hfront
          cases hop
          -- The page carries the sticker that was selected for it.
          obtain ⟨rfl, -⟩ := ((genuine_rule models).run hlaunch hpre d').front hfront
          rw [albumOp_eq_redeem]
          exact ⟨rfl, c, by simp only [Device.resultSticker, hfront], rfl⟩
        · cases hop
      · cases hop
  | reply | scoreRead | scoreWrite => cases hop

/-- At all times every entry of a score document is that of a sticker which
some device shows as unlocked, unless that device was reset and the reset
covers the sticker. -/
theorem score_shown_unlocked {models : List Model} {w₀ w : World} {es : List Event}
    {u : Uid} {entry : Entry} (hlaunch : w₀.AtLaunch)
    (hempty : ∀ u, entriesOf (w₀.scores.docs u) = [])
    (hrun : run (World.step models) w₀ es = some w)
    (hentry : entry ∈ entriesOf (w.scores.docs u)) :
    ∃ d, ∃ c ∈ catalogue models, entry = stickerScore u c ∧
      (unlocked (w.device d).defaults c.id = true ∨
        (1 ≤ c.id ∧ c.id ≤ 20 ∧ .act d .buttonSearchTapped ∈ es)) := by
  obtain ⟨d, c, hc, rfl, hplay⟩ := (playedFor_of_run hlaunch hempty hrun).docs u entry hentry
  have hredeem := redeem_mem_of_redeemed hlaunch hrun
    (hplay.subset (show .redeemed (some u) c ∈ play (some u) c by simp [play]))
  refine ⟨d, c, hc, rfl, ?_⟩
  by_cases hreset : c.id ∈ resettable ∧ .act d .buttonSearchTapped ∈ es
  · exact Or.inr ⟨hreset.1.1, hreset.1.2, hreset.2⟩
  · left
    change c.id ∈ flags (w.device d).defaults
    rw [flags_of_run hlaunch hrun]
    refine mem_foldl_of_kept (fun hmem hcovered => hreset ⟨hcovered, ?_⟩) (Or.inr hredeem)
    obtain ⟨pre, e, post, t, rfl, -, hop⟩ := (mem_trace_iff hrun).mp hmem
    rw [albumOp_eq_reset] at hop
    simp [hop]

theorem score_shown_unlocked_first :
    ∃ w, run (World.step CollectionViewController.models) World.signedUp
        (launchEvents ++ quizEvents 0 0 ++ redeemEvents) = some w ∧
      ∃ d, ∃ c ∈ catalogue CollectionViewController.models,
        stickerScore "A" CollectionViewController.collection1 = stickerScore "A" c ∧
        (unlocked (w.device d).defaults c.id = true ∨
          (1 ≤ c.id ∧ c.id ≤ 20 ∧ .act d .buttonSearchTapped ∈
            launchEvents ++ quizEvents 0 0 ++ redeemEvents)) := by
  have hobs : (run (World.step CollectionViewController.models) World.signedUp
      (launchEvents ++ quizEvents 0 0 ++ redeemEvents)).map (fun w =>
        entriesOf (w.scores.docs "A")) =
      some [stickerScore "A" CollectionViewController.collection1] := by decide +kernel
  obtain ⟨w, hrun, hobs⟩ := Option.map_eq_some_iff.mp hobs
  exact ⟨w, hrun, score_shown_unlocked World.signedUp_atLaunch (fun _ => rfl) hrun
    (by rw [hobs]; exact List.mem_singleton_self _)⟩

end GloboCollection
