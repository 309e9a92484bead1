import GloboCollection.Proofs.Paths

/-!
# The quiz and the prize

A sticker is meant to be the prize of a quiz: the info page says that one
has to take it for a chance to redeem, the result page carries a flag
`canRedeem`, and there is a page for those who failed. But nobody asks the
web page how the quiz went. Leaving it always leads to the result page,
whose flag is never set and never looked at, and nothing leads to the page
for those who failed.

How a quiz went is not part of the app's state, so a run here carries it
beside the events: each event comes with whether the quiz that was in front
had been passed by then. `Licensed` is what a moment of such a run should be
like. No page is ever a result page that may redeem or a page for those who
failed, so a run is like that as long as nothing happens that calls for one:
`Harmless` says of an event that it does not, and is about the event alone.

That a redeem is never harmless takes an argument, since the first one might
find its sticker unlocked already. It does not: a quiz is only ever opened for
a locked sticker, and without a redeem the flags of a device only go away, so
a result page shows a locked sticker until the first redeem.
-/

namespace GloboCollection

open GloboCollection.Lib GloboCollection.Spec

/-- A step that takes no notice of how the quiz went. -/
def World.stepQuiz (models : List Model) (w : World) (e : Event × Bool) : Option World :=
  w.step models e.1

theorem run_of_stepQuiz {models : List Model} {w₀ w : World} {es : List (Event × Bool)}
    (hrun : run (World.stepQuiz models) w₀ es = some w) :
    run (World.step models) w₀ (es.map Prod.fst) = some w := run_map.symm.trans hrun

/-! ## What should hold -/

section Licence

variable (models : List Model) (w₀ : World)

/-- Some attempt at the quiz of `c` was passed during the events. -/
def Earned (pre : List (Event × Bool)) (c : Collection) : Prop :=
  ∃ pre₁ d pre₂ w₁ vc origin,
    pre = pre₁ ++ (.act d .voltarButtonPressionado, true) :: pre₂ ∧
    run (World.stepQuiz models) w₀ pre₁ = some w₁ ∧
    (w₁.device d).Shows vc ⟨.web (some c), origin⟩

/-- After the events, device `d` shows a result page that may redeem `c`, and
an attempt at its quiz was passed. -/
def MayRedeem (pre : List (Event × Bool)) (d : DeviceId) (c : Collection) : Prop :=
  ∃ w vc origin, run (World.stepQuiz models) w₀ pre = some w ∧
    (w.device d).Shows vc ⟨.result true (some c), origin⟩ ∧ Earned models w₀ pre c

/-- A moment at which no sticker is given away: a redeem tap changes a lock
flag, and the write of a redeem changes a document, only if the tap was on a
result page that may redeem, and a quiz that was not passed leads to the page
for those who failed. -/
structure Licensed (pre : List (Event × Bool)) (w : World) (e : Event × Bool)
    (w' : World) : Prop where
  flag : ∀ d n, e.1 = .act d .redeemButtonTapped →
    unlocked (w'.device d).defaults n ≠ unlocked (w.device d).defaults n →
    ∃ c, c.id = n ∧ MayRedeem models w₀ pre d c
  document : ∀ i ok, e.1 = .scoreWrite i ok → w'.scores.docs ≠ w.scores.docs →
    ∃ pre₁ d passed pre₂ w₁ c,
      pre = pre₁ ++ (.act d .redeemButtonTapped, passed) :: pre₂ ∧
      run (World.stepQuiz models) w₀ pre₁ = some w₁ ∧ w₁.scores.redeems.length = i ∧
      MayRedeem models w₀ pre₁ d c
  failure : ∀ d, e.1 = .act d .voltarButtonPressionado → e.2 = false →
    ∃ vc canRedeem collectionData origin,
      (w'.device d).front = some (vc, ⟨.error canRedeem collectionData, origin⟩)

end Licence

/-! ## When it does -/

/-- Not a redeem, and not the end of a quiz that was not passed. -/
structure Harmless (e : Event × Bool) : Prop where
  redeem : ∀ d, e.1 ≠ .act d .redeemButtonTapped
  passed : ∀ d, e.1 = .act d .voltarButtonPressionado → e.2 = true

/-! ## The pages there are -/

/-- Neither a result page that may redeem nor a page for those who failed. -/
def ViewController.Unlicensed (vc : ViewController) : Prop :=
  match vc.page with
  | .result canRedeem _ => canRedeem = false
  | .error _ _ => False
  | _ => True

theorem unlicensed_rule (models : List Model) :
    PageRule models ViewController.Unlicensed := by
  refine ⟨?_, trivial, fun _ _ => trivial, ?_, fun _ => rfl⟩
  · rw [forall_tabPages]
    exact ⟨trivial, trivial, trivial, trivial, trivial⟩
  · intro ud a self new hopens _
    cases hopens <;> trivial

section Run

variable {models : List Model} {w₀ w w' : World} {d : DeviceId}

theorem unlicensed_of_run {es : List (Event × Bool)} (hlaunch : w₀.AtLaunch)
    (hrun : run (World.stepQuiz models) w₀ es = some w) (d : DeviceId) :
    (w.device d).AllPages ViewController.Unlicensed :=
  (unlicensed_rule models).run hlaunch (run_of_stepQuiz hrun) d

/-- No result page ever may redeem. -/
theorem not_mayRedeem {pre : List (Event × Bool)} {c : Collection}
    (hlaunch : w₀.AtLaunch) : ¬ MayRedeem models w₀ pre d c := by
  intro h
  obtain ⟨w, vc, origin, hw, hshows, -⟩ := h
  have hpage : true = false := (unlicensed_of_run hlaunch hw d).front hshows.2
  cases hpage

/-! ## Up to the first redeem -/

/-- A redeem tap unlocks the sticker of the page in front. -/
theorem unlocked_redeem (h : w.step models (.act d .redeemButtonTapped) = some w') :
    ∃ vc canRedeem collectionData origin,
      (w.device d).Shows vc ⟨.result canRedeem collectionData, origin⟩ ∧
      ∀ c, collectionData = some c → unlocked (w'.device d).defaults c.id = true := by
  obtain ⟨o, hdoes, hdev, -⟩ := World.act_some h
  rw [hdev, Function.update_self]
  cases hdoes with
  | @redeem vc canRedeem collectionData origin hshows =>
      refine ⟨vc, canRedeem, collectionData, origin, hshows, ?_⟩
      rintro c rfl
      have hmem : c.id ∈ flags (ResultViewController.redeemButtonTapped
          (w.device d).defaults (some c)).1 := by
        rw [ResultViewController.redeemButtonTapped_defaults, flags_set_stickerKey]
        exact Set.mem_insert _ _
      exact hmem
  | push _ _ ha | send _ _ ha | idle ha => cases ha

/-- Without a redeem no sticker is unlocked. -/
theorem flags_subset {e : Event} {dev' : Device}
    (hpages : (w.device d).AllPages (Genuine models))
    (hmoves : (w.device d).Moves models d e dev') (he : e ≠ .act d .redeemButtonTapped) :
    flags dev'.defaults ⊆ flags (w.device d).defaults := by
  rw [flags_moves hpages hmoves]
  cases hop : albumOp d w e with
  | none => exact fun _ => id
  | some op =>
      cases op with
      | redeem n => exact absurd (albumOp_eq_redeem.mp hop).1 he
      | reset => exact Set.sdiff_subset

/-- A result page shows a locked sticker. -/
def LockedResult (ud : UserDefaults) (vc : ViewController) : Prop :=
  ∀ canRedeem c, vc.page = .result canRedeem (some c) → unlocked ud c.id = false

theorem NoResult.locked {ud : UserDefaults} {vc : ViewController} (h : NoResult vc) :
    LockedResult ud vc := fun canRedeem c hpage => absurd hpage (h canRedeem (some c))

/-- Up to the first redeem on a device its result pages show locked stickers. -/
theorem lockedResults_of_run {es : List Event} (hlaunch : w₀.AtLaunch)
    (hrun : run (World.step models) w₀ es = some w)
    (hes : .act d .redeemButtonTapped ∉ es) :
    (w.device d).AllPages (LockedResult (w.device d).defaults) := by
  refine run_induction (P := fun es w => .act d .redeemButtonTapped ∉ es →
    (w.device d).AllPages (LockedResult (w.device d).defaults)) ?_ ?_ hrun hes
  · intro _
    exact Device.AllPages.atLaunch (hlaunch.screens d)
      fun page hpage => (noResult_tabPages page hpage).locked
  · intro es w e w' hw ih hstep hes
    rw [List.mem_append, List.mem_singleton, not_or] at hes
    have hmoves := World.step_moves hstep d
    have hflags := flags_subset ((genuine_rule models).run hlaunch hw d) hmoves (Ne.symm hes.2)
    have hkept : ∀ n, unlocked (w.device d).defaults n = false →
        unlocked (w'.device d).defaults n = false := by
      intro n hn
      rw [Bool.eq_false_iff] at hn ⊢
      exact fun h => hn (hflags h)
    refine hmoves.allPages (fun p hp canRedeem c hpage =>
      hkept _ (ih hes.1 p hp canRedeem c hpage))
      (fun page hpage => (noResult_tabPages page hpage).locked) (by simp [LockedResult]) ?_
    intro a new _ hbrings
    cases hbrings with
    | login | album => simp [LockedResult]
    | opens _ hopens => cases hopens <;> simp [LockedResult]
    | tab _ hpage => exact (noResult_tabPages _ hpage).locked
    | leaveQuiz hshows =>
        intro canRedeem c hpage
        cases hpage
        -- a quiz in front is that of a locked sticker
        obtain ⟨rest, hroot⟩ :=
          (World.paths_of_run hlaunch hw d).head_of_front hshows.2 trivial
        exact hkept _ (World.upToDate_of_run hlaunch hw d _ _ rest hroot c rfl)

/-- Without a redeem tap there is nothing to write. -/
theorem redeems_of_run {es : List Event} (hlaunch : w₀.AtLaunch)
    (hrun : run (World.step models) w₀ es = some w)
    (hes : ∀ e ∈ es, ∀ d, e ≠ .act d .redeemButtonTapped) : w.scores.redeems = [] := by
  refine run_induction (P := fun es w => (∀ e ∈ es, ∀ d, e ≠ .act d .redeemButtonTapped) →
    w.scores.redeems = []) (fun _ => hlaunch.redeems) ?_ hrun hes
  intro es w e w' _ ih hstep hes
  rw [List.forall_mem_append, List.forall_mem_singleton] at hes
  have hnone := ih hes.1
  cases e with
  | act d a =>
      obtain ⟨o, hdoes, -, -, -, hscores⟩ := World.act_some hstep
      rw [hscores]
      cases hdoes with
      | redeem => exact absurd rfl (hes.2 d)
      | appear | switch | back | album | push | leaveQuiz | gallery | reset | send | idle =>
          exact hnone
  | reply r answer =>
      obtain ⟨-, hans⟩ := World.reply_answers hstep
      cases hans <;> exact hnone
  | scoreRead i ok =>
      obtain ⟨s, hs, -⟩ := World.scoreRead_some hstep
      obtain ⟨r, hr, -⟩ := Scores.readCallback_some.mp hs
      rw [hnone] at hr
      cases hr
  | scoreWrite i ok =>
      obtain ⟨s, hs, -⟩ := World.scoreWrite_some hstep
      obtain ⟨r, hr, -⟩ := Scores.write_some.mp hs
      rw [hnone] at hr
      cases hr

/-- Every attempt leads to the result page. -/
theorem front_ne_error {es : List (Event × Bool)} {vc : Nat} {canRedeem : Bool}
    {collectionData origin : Option Collection} (hlaunch : w₀.AtLaunch)
    (hrun : run (World.stepQuiz models) w₀ es = some w) :
    (w.device d).front ≠ some (vc, ⟨.error canRedeem collectionData, origin⟩) := by
  intro hfront
  exact (unlicensed_of_run hlaunch hrun d).front hfront

end Run

section Law

variable {models : List Model} {w₀ w : World} {es pre post : List (Event × Bool)}

/-- In a licensed run nobody redeems. -/
theorem no_redeem_of_licensed (hlaunch : w₀.AtLaunch)
    (hlicensed : Along (World.stepQuiz models) (Licensed models w₀) w₀ es)
    (hes : es = pre ++ post) (hpre : run (World.stepQuiz models) w₀ pre = some w) :
    ∀ x ∈ pre, ∀ d, x.1 ≠ .act d .redeemButtonTapped := by
  induction pre using List.reverseRecOn generalizing post w with
  | nil => simp
  | append_singleton pre x ih =>
      obtain ⟨w₁, hw₁, hstep⟩ := run_concat_some.mp hpre
      rw [List.append_assoc] at hes
      have hbefore := ih hes hw₁
      rw [List.forall_mem_append, List.forall_mem_singleton]
      refine ⟨hbefore, fun d hredeem => ?_⟩
      obtain ⟨e, passed⟩ := x
      obtain rfl : e = _ := hredeem
      obtain ⟨vc, canRedeem, collectionData, origin, hshows, hunlocked⟩ :=
        unlocked_redeem hstep
      have hrun₁ := run_of_stepQuiz hw₁
      obtain ⟨-, c, -, rfl⟩ :=
        ((genuine_rule models).run hlaunch hrun₁ d).front hshows.2
      have hlocked : unlocked (w₁.device d).defaults c.id = false := by
        refine (lockedResults_of_run hlaunch hrun₁ ?_).front hshows.2 canRedeem c rfl
        intro hmem
        obtain ⟨y, hy, heq⟩ := List.mem_map.mp hmem
        exact hbefore y hy d heq
      obtain ⟨c', -, hmay⟩ := (hlicensed pre _ post w₁ w hes hw₁ hstep).flag d c.id rfl
        (by rw [hlocked, hunlocked c rfl]; decide)
      exact not_mayRedeem hlaunch hmay

/-- In every run from launch, no sticker is given away exactly when nothing is
redeemed and every quiz that was left had been passed. -/
theorem licensed_iff (hlaunch : w₀.AtLaunch) :
    Along (World.stepQuiz models) (Licensed models w₀) w₀ es ↔
      Along (World.stepQuiz models) (fun _ _ e _ => Harmless e) w₀ es := by
  constructor
  · intro hlicensed pre e post w w' hes hw hstep
    have hw' : run (World.stepQuiz models) w₀ (pre ++ [e]) = some w' :=
      run_concat_some.mpr ⟨w, hw, hstep⟩
    refine ⟨?_, fun d hvoltar => ?_⟩
    · have hsplit : es = (pre ++ [e]) ++ post := by simp [hes]
      exact no_redeem_of_licensed hlaunch hlicensed hsplit hw' e (by simp)
    · by_contra hfailed
      obtain ⟨vc, canRedeem, collectionData, origin, hfront⟩ :=
        (hlicensed pre e post w w' hes hw hstep).failure d hvoltar (by simpa using hfailed)
      exact front_ne_error hlaunch hw' hfront
  · intro hharmless pre e post w w' hes hw hstep
    have hnow := hharmless pre e post w w' hes hw hstep
    refine ⟨fun d n he => absurd he (hnow.redeem d), fun i ok he => ?_,
      fun d hvoltar hfailed => ?_⟩
    · -- A write belongs to a redeem, and there was none.
      have hnone : w.scores.redeems = [] := by
        refine redeems_of_run hlaunch (run_of_stepQuiz hw) fun x hx d => ?_
        obtain ⟨y, hy, rfl⟩ := List.mem_map.mp hx
        obtain ⟨p, q, rfl⟩ := List.append_of_mem hy
        obtain ⟨t, hp, hrest⟩ := run_append_some.mp hw
        rw [run_cons, Option.bind_eq_some_iff] at hrest
        obtain ⟨t', ht', -⟩ := hrest
        refine (hharmless p y (q ++ e :: post) t t' ?_ hp ht').redeem d
        rw [hes, List.append_assoc]
        rfl
      obtain ⟨e, passed⟩ := e
      obtain rfl : e = _ := he
      obtain ⟨s, hs, -⟩ := World.scoreWrite_some hstep
      obtain ⟨r, hr, -⟩ := Scores.write_some.mp hs
      rw [hnone] at hr
      cases hr
    · rw [hnow.passed d hvoltar] at hfailed
      cases hfailed

end Law

/-- Ana, signed in from an earlier launch, passes the quiz of sticker 1 and
does not redeem it. -/
theorem licensed_without_redeem :
    Shell.Possible CollectionViewController.models World.signedUp true
        (launchEvents ++ quizEvents 0 0) ∧
      Along (World.stepQuiz CollectionViewController.models)
        (Licensed CollectionViewController.models World.signedUp) World.signedUp
        ((launchEvents ++ quizEvents 0 0).map fun e => (e, true)) := by
  refine ⟨by decide +kernel, (licensed_iff World.signedUp_atLaunch).mpr ?_⟩
  intro pre e post w w' hes _ _
  have he : e ∈ (launchEvents ++ quizEvents 0 0).map fun e => (e, true) := by
    rw [hes]
    simp
  obtain ⟨e', he', rfl⟩ := List.mem_map.mp he
  refine ⟨fun d hredeem => ?_, fun _ _ => rfl⟩
  obtain rfl : e' = _ := hredeem
  simp [launchEvents, quizEvents] at he'

/-- Ana, signed in from an earlier launch, opens the quiz of sticker 1, leaves
it unanswered and redeems the sticker. -/
theorem sticker_without_quiz :
    Shell.Possible CollectionViewController.models World.signedUp true
        (launchEvents ++ quizEvents 0 0 ++ [.act 0 .redeemButtonTapped]) ∧
      ¬ Along (World.stepQuiz CollectionViewController.models)
        (Licensed CollectionViewController.models World.signedUp) World.signedUp
        ((launchEvents ++ quizEvents 0 0).map (fun e => (e, false)) ++
          [(.act 0 .redeemButtonTapped, false)]) := by
  refine ⟨by decide +kernel, fun hlicensed => ?_⟩
  have hbefore : (run (World.stepQuiz CollectionViewController.models) World.signedUp
      ((launchEvents ++ quizEvents 0 0).map fun e => (e, false))).map
        (fun w => unlocked (w.device 0).defaults 1) = some false := by decide +kernel
  have hafter : (run (World.stepQuiz CollectionViewController.models) World.signedUp
      ((launchEvents ++ quizEvents 0 0).map (fun e => (e, false)) ++
        [(.act 0 .redeemButtonTapped, false)])).map
        (fun w => unlocked (w.device 0).defaults 1) = some true := by decide +kernel
  obtain ⟨w', hw', hunlocked⟩ := Option.map_eq_some_iff.mp hafter
  obtain ⟨w, hw, hstep⟩ := run_concat_some.mp hw'
  rw [hw, Option.map_some, Option.some.injEq] at hbefore
  obtain ⟨c, -, hmay⟩ := (hlicensed _ (.act 0 .redeemButtonTapped, false) [] w w'
    rfl hw hstep).flag 0 1 rfl (by simp [hbefore, hunlocked])
  exact not_mayRedeem World.signedUp_atLaunch hmay

end GloboCollection
