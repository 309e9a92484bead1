import GloboCollection.Proofs.Album
import GloboCollection.Proofs.Erasure

/-!
# Two users on one device

The lock flags belong to the device. Nothing about them names a user, and
neither a deletion nor a sign-in touches them, so whoever uses the device
next finds the stickers as they were left.

To say how far this goes takes two runs: one history and another that
differs in its redeems only, followed by the same actions. By erasure the
two worlds look alike to these actions, so the actions do the same to both
albums, and the albums agree on a sticker in the end exactly when they did
before or the actions have decided about it: `sameDisplays_iff`.
-/

namespace GloboCollection

open GloboCollection.Lib GloboCollection.Spec

/-! ## What is shown of a sticker -/

/-- The gallery cell, the "recents" cell and the info page of a sticker show
the same on two stores. -/
def SameDisplays (ud ud' : UserDefaults) (c : Collection) : Prop :=
  CollectionItemCell.configure ud c = CollectionItemCell.configure ud' c ∧
    (∀ r : ModelRecents, r.id = c.id →
      MyRecentCollectionViewCell.configure ud r =
        MyRecentCollectionViewCell.configure ud' r) ∧
    InfoViewController.viewDidLoad ud (some c) =
      InfoViewController.viewDidLoad ud' (some c)

/-- The info page hides the quiz of an unlocked sticker. -/
theorem startQuizHidden_viewDidLoad {ud : UserDefaults} {c : Collection} :
    (InfoViewController.viewDidLoad ud (some c)).startQuizHidden = unlocked ud c.id := by
  rw [InfoViewController.viewDidLoad]
  split <;> rename_i h
  · rw [h]
  · rw [Bool.eq_false_iff.mpr h]

theorem sameDisplays_iff_flags {ud ud' : UserDefaults} {c : Collection} :
    SameDisplays ud ud' c ↔ (c.id ∈ flags ud ↔ c.id ∈ flags ud') := by
  have hflags : (c.id ∈ flags ud ↔ c.id ∈ flags ud') ↔
      unlocked ud c.id = unlocked ud' c.id := Bool.eq_iff_iff.symm
  rw [hflags]
  constructor
  · rintro ⟨-, -, hinfo⟩
    rw [← startQuizHidden_viewDidLoad, hinfo, startQuizHidden_viewDidLoad]
  · intro h
    refine ⟨?_, fun r hr => ?_, ?_⟩
    · rw [CollectionItemCell.configure, CollectionItemCell.configure, h]
    · rw [MyRecentCollectionViewCell.configure, MyRecentCollectionViewCell.configure, hr, h]
    · rw [InfoViewController.viewDidLoad, InfoViewController.viewDidLoad, h]

/-! ## The same actions on both -/

theorem resultSticker_erase {dev : Device} :
    dev.erase.resultSticker = dev.resultSticker := by
  rw [Device.resultSticker, Device.resultSticker, Device.front_erase]
  cases dev.front with
  | none => rfl
  | some p =>
      obtain ⟨vc, page, origin⟩ := p
      cases page <;> rfl

/-- What an event means for the album can be seen on the erased world. -/
theorem albumOp_erase {d : DeviceId} {w : World} {e : Event} :
    albumOp d w.erase e = albumOp d w e := by
  rw [albumOp.eq_def, albumOp.eq_def]
  simp only [show (w.erase.device d).resultSticker = (w.device d).resultSticker from
    resultSticker_erase]

/-- Worlds that look alike still do after the same event. -/
theorem erase_lockstep {models : List Model} {w₁ w₂ w₁' w₂' : World} {e : Event}
    (heq : w₁.erase = w₂.erase) (h₁ : w₁.step models e = some w₁')
    (h₂ : w₂.step models e = some w₂') : w₁'.erase = w₂'.erase := by
  cases he : e.aboutRedeem with
  | true => rw [World.erase_redeem h₁ he, World.erase_redeem h₂ he, heq]
  | false =>
      have h := World.erase_step h₁ he
      rw [heq, World.erase_step h₂ he] at h
      exact (Option.some.inj h).symm

/-- The same events on worlds that look alike are the same operations. -/
theorem trace_eq_of_erase_eq {models : List Model} {d : DeviceId} {bs : List Event}
    {w₁ w₂ w₁' w₂' : World} (heq : w₁.erase = w₂.erase)
    (h₁ : run (World.step models) w₁ bs = some w₁')
    (h₂ : run (World.step models) w₂ bs = some w₂') :
    trace (World.step models) (albumOp d) w₁ bs =
      trace (World.step models) (albumOp d) w₂ bs := by
  induction bs generalizing w₁ w₂ with
  | nil => rfl
  | cons e bs ih =>
      rw [run_cons, Option.bind_eq_some_iff] at h₁ h₂
      obtain ⟨v₁, hv₁, h₁⟩ := h₁
      obtain ⟨v₂, hv₂, h₂⟩ := h₂
      simp only [trace, hv₁, hv₂]
      rw [ih (erase_lockstep heq hv₁ hv₂) h₁ h₂, ← albumOp_erase, heq, albumOp_erase]

/-! ## The two runs -/

/-- The stickers unlocked on device `d` by a history: those unlocked from the
start and those redeemed, less those that a later reset covers. -/
def albumAfter (models : List Model) (d : DeviceId) (w₀ : World) (es : List Event) :
    Set Int :=
  (trace (World.step models) (albumOp d) w₀ es).foldl (applyOp resettable)
    (flags (w₀.device d).defaults)

/-- Two histories that differ in their redeems only, followed by the same
actions: the displays of a sticker are the same in both runs exactly when the
sticker was left unlocked by both histories or by neither, or the actions
redeem it, or they reset the device and the reset covers it. -/
theorem sameDisplays_iff {models : List Model} {d : DeviceId}
    {w₀ w₁ w₂ w₁' w₂' : World} {es₁ es₂ bs : List Event} (hlaunch : w₀.AtLaunch)
    (hsame : es₁.filter (fun e => !e.aboutRedeem) = es₂.filter fun e => !e.aboutRedeem)
    (h₁ : run (World.step models) w₀ es₁ = some w₁)
    (h₂ : run (World.step models) w₀ es₂ = some w₂)
    (hb₁ : run (World.step models) w₁ bs = some w₁')
    (hb₂ : run (World.step models) w₂ bs = some w₂') (c : Collection) :
    SameDisplays (w₁'.device d).defaults (w₂'.device d).defaults c ↔
      (c.id ∈ albumAfter models d w₀ es₁ ↔ c.id ∈ albumAfter models d w₀ es₂) ∨
        Decides resettable (trace (World.step models) (albumOp d) w₁ bs) c.id := by
  have heq : w₁.erase = w₂.erase := by
    have h := World.erase_run h₁
    rw [hsame, World.erase_run h₂] at h
    exact (Option.some.inj h).symm
  have halbum₁ := flags_of_run (d := d) hlaunch (run_append_some.mpr ⟨w₁, h₁, hb₁⟩)
  have halbum₂ := flags_of_run (d := d) hlaunch (run_append_some.mpr ⟨w₂, h₂, hb₂⟩)
  rw [trace_append h₁, List.foldl_append] at halbum₁
  rw [trace_append h₂, List.foldl_append, ← trace_eq_of_erase_eq heq hb₁ hb₂] at halbum₂
  rw [sameDisplays_iff_flags, halbum₁, halbum₂, mem_foldl_congr_iff]
  exact Iff.rfl

/-- Ana, signed in from an earlier launch, does the quiz of the first sticker;
what she does on the result page is left open. She then goes on to the
gallery. -/
def anaPlays (redeems : List Event) : List Event :=
  launchEvents ++ quizEvents 0 0 ++ redeems ++
    [.act 0 .galeryButtonTapped, .act 0 (.viewDidAppear 10)]

/-- Then she deletes her account, and Bia signs up. -/
def anaThenBia (redeems : List Event) : List Event :=
  anaPlays redeems ++ deletionEvents 11 "A" ++
    signUpEvents 17 "Bia" "bia@globo.com" "B" "doc2"

/-- Ana opens the first album, resets it and comes back before she deletes her
account, and Bia signs up. -/
def anaResetsThenBia : List Event :=
  [.act 0 (.switchTab 10 2), .act 0 (.handleCellTap 0), .act 0 .buttonSearchTapped,
    .act 0 .backButtonTapped, .act 0 (.viewDidAppear 10), .act 0 (.switchTab 10 0)] ++
    deletionEvents 11 "A" ++ signUpEvents 18 "Bia" "bia@globo.com" "B" "doc2"

open CollectionViewController (models collection1)

/-- Bia finds the sticker as it would be had Ana not redeemed it. -/
theorem sameDisplays_after_reset :
    ∃ w₁ w₂ w₁' w₂',
      run (World.step models) World.signedUp (anaPlays redeemEvents) = some w₁ ∧
      run (World.step models) World.signedUp (anaPlays []) = some w₂ ∧
      run (World.step models) w₁ anaResetsThenBia = some w₁' ∧
      run (World.step models) w₂ anaResetsThenBia = some w₂' ∧
      Shell.Possible models World.signedUp true (anaPlays redeemEvents ++ anaResetsThenBia) ∧
      Shell.Possible models World.signedUp true (anaPlays [] ++ anaResetsThenBia) ∧
      Decides resettable (trace (World.step models) (albumOp 0) w₁ anaResetsThenBia)
        collection1.id ∧
      SameDisplays (w₁'.device 0).defaults (w₂'.device 0).defaults collection1 := by
  have hrun₁ : (run (World.step models) World.signedUp (anaPlays redeemEvents)).bind
      (fun w₁ => (run (World.step models) w₁ anaResetsThenBia).map fun _ =>
        trace (World.step models) (albumOp 0) w₁ anaResetsThenBia) =
      some [.reset] := by decide +kernel
  obtain ⟨w₁, h₁, hrun₁⟩ := Option.bind_eq_some_iff.mp hrun₁
  obtain ⟨w₁', hb₁, hops⟩ := Option.map_eq_some_iff.mp hrun₁
  obtain ⟨w₂', hrun₂⟩ : ∃ w, run (World.step models) World.signedUp
      (anaPlays [] ++ anaResetsThenBia) = some w :=
    Option.isSome_iff_exists.mp (by decide +kernel)
  obtain ⟨w₂, h₂, hb₂⟩ := run_append_some.mp hrun₂
  have hdecides : Decides resettable
      (trace (World.step models) (albumOp 0) w₁ anaResetsThenBia) collection1.id := by
    rw [hops]
    exact Or.inr ⟨List.mem_singleton_self _, by decide, by decide⟩
  exact ⟨w₁, w₂, w₁', w₂', h₁, h₂, hb₁, hb₂, by decide +kernel, by decide +kernel, hdecides,
    (sameDisplays_iff World.signedUp_atLaunch (by decide) h₁ h₂ hb₁ hb₂ collection1).mpr
      (Or.inr hdecides)⟩

/-- Bia finds the sticker unlocked that Ana redeemed, and locked had Ana not
redeemed it. -/
theorem next_user_sees_redeemed_sticker :
    ∃ w₁ w₂, run (World.step models) World.signedUp
        (anaThenBia redeemEvents) = some w₁ ∧
      run (World.step models) World.signedUp (anaThenBia []) =
        some w₂ ∧
      Shell.Possible models World.signedUp true (anaThenBia redeemEvents) ∧
      Shell.Possible models World.signedUp true (anaThenBia []) ∧
      (anaThenBia redeemEvents).filter (fun e => !e.aboutRedeem) =
        (anaThenBia []).filter (fun e => !e.aboutRedeem) ∧
      (w₁.device 0).currentUser = some "B" ∧ (w₂.device 0).currentUser = some "B" ∧
      ¬ SameDisplays (w₁.device 0).defaults (w₂.device 0).defaults
        collection1 := by
  have h₁ : (run (World.step models) World.signedUp
      (anaThenBia redeemEvents)).map (fun w => ((w.device 0).currentUser,
        unlocked (w.device 0).defaults 1)) = some (some "B", true) := by decide +kernel
  have h₂ : (run (World.step models) World.signedUp
      (anaThenBia [])).map (fun w => ((w.device 0).currentUser,
        unlocked (w.device 0).defaults 1)) = some (some "B", false) := by decide +kernel
  obtain ⟨w₁, hw₁, hobs₁⟩ := Option.map_eq_some_iff.mp h₁
  obtain ⟨w₂, hw₂, hobs₂⟩ := Option.map_eq_some_iff.mp h₂
  simp only [Prod.mk.injEq] at hobs₁ hobs₂
  refine ⟨w₁, w₂, hw₁, hw₂, by decide +kernel, by decide +kernel, by decide, hobs₁.1,
    hobs₂.1, fun hsame => ?_⟩
  have hquiz := congrArg InfoView.startQuizHidden hsame.2.2
  rw [startQuizHidden_viewDidLoad, startQuizHidden_viewDidLoad] at hquiz
  exact absurd (hobs₁.2.symm.trans (hquiz.trans hobs₂.2)) (by decide)

end GloboCollection
