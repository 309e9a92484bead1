import GloboCollection.App.Shell
import GloboCollection.Proofs.Keys
import GloboCollection.Proofs.Pages

/-!
# What a reset leaves behind

The reset of an album removes the keys of a list written by hand. The list
falls short in two ways. It stops at sticker 20, and the catalogue goes on to
28. And it has the keys the result page writes, not those the quiz page
writes, which spell the sticker's id as an optional; nothing in the app
removes one of these.

What a reset does remove is said for each of its duties: it locks the whole
catalogue exactly when nothing beyond sticker 20 was unlocked
(`locked_reset_iff`), it clears the stickers' keys exactly when no quiz was
ever left on the device (`cleared_reset_iff`), and it keeps the uid
(`userUID_reset`).

The two shortcomings have one beginning. A sticker's key is written from a
result page, and the way to a result page leads through leaving a quiz, where
the other key is written. So a reset is complete exactly when no quiz was
left: before the first, there is no key to remove, and after it there is one
that stays for good.
-/

namespace GloboCollection

open GloboCollection.Lib

/-! ## The keys with the sticker's prefix -/

theorem quizKey_some_ne_none {n : Int} : quizKey (some n) ≠ quizKey none := by
  intro h
  have hdescribing : describing (some n) = describing none :=
    (String.append_right_inj _).mp h
  have hhead := congrArg (fun t : String => t.toList.head?) hdescribing
  simp [describing] at hhead

/-- The reset's list has no key of the quiz page. -/
theorem quizKey_not_mem_keysToDelete {id : Option Int} :
    quizKey id ∉ DetailsTableViewController.keysToDelete := by
  rw [keysToDelete_eq, List.mem_map]
  intro hmem
  obtain ⟨i, -, h⟩ := hmem
  exact stickerKey_ne_quizKey h

section Events

variable {models : List Model} {d : DeviceId} {dev dev' : Device} {e : Event}

/-! ## Before the first quiz is left -/

/-- No result page and no key with the sticker's prefix. -/
def Device.Untouched (dev : Device) : Prop :=
  dev.AllPages NoResult ∧
    ∀ s, Finmap.lookup (stickerPrefix ++ s) dev.defaults = none

/-- Only leaving a quiz ends it. -/
theorem Device.Moves.untouched (hmoves : dev.Moves models d e dev')
    (he : e ≠ .act d .voltarButtonPressionado) (h : dev.Untouched) : dev'.Untouched := by
  obtain ⟨hpages, hkeys⟩ := h
  refine ⟨hmoves.noResult he hpages, fun s => ?_⟩
  have hstores := hmoves.stores
  generalize dev'.defaults = ud at hstores ⊢
  cases hstores with
  | quiz => exact absurd rfl he
  | redeem hshows => exact absurd rfl (hpages.front hshows.2 _ _)
  | reset => rw [UserDefaults.lookup_buttonSearchTapped, hkeys, ite_self]
  | signedIn =>
      rw [UserDefaults.lookup_set_of_ne stickerPrefix_append_ne_userUIDKey, hkeys]
  | deleted =>
      rw [UserDefaults.removeObject,
        Finmap.lookup_erase_ne stickerPrefix_append_ne_userUIDKey, hkeys]
  | same => exact hkeys s

/-! ## After a quiz was left -/

/-- The quiz page's key of a sticker is never removed. -/
theorem Device.Moves.lookup_quizKey (hmoves : dev.Moves models d e dev') {n : Int}
    (h : Finmap.lookup (quizKey (some n)) dev.defaults ≠ none) :
    Finmap.lookup (quizKey (some n)) dev'.defaults ≠ none := by
  have hstores := hmoves.stores
  have huid : quizKey (some n) ≠ userUIDKey := stickerPrefix_append_ne_userUIDKey
  generalize dev'.defaults = ud at hstores ⊢
  cases hstores with
  | @quiz vc collectionData origin hshows =>
      by_cases hkey : quizKey (some n) = quizKey (collectionData.map Collection.id)
      · cases collectionData with
        | none => exact absurd hkey quizKey_some_ne_none
        | some c =>
            rw [hkey, UserDefaults.lookup_set]
            simp
      · rw [UserDefaults.lookup_set_of_ne hkey]
        exact h
  | @redeem vc canRedeem collectionData origin hshows =>
      cases collectionData with
      | none => exact h
      | some c =>
          rw [ResultViewController.redeemButtonTapped_defaults,
            UserDefaults.lookup_set_of_ne (Ne.symm stickerKey_ne_quizKey)]
          exact h
  | reset =>
      rw [UserDefaults.lookup_buttonSearchTapped, if_neg quizKey_not_mem_keysToDelete]
      exact h
  | signedIn =>
      rw [UserDefaults.lookup_set_of_ne huid]
      exact h
  | deleted =>
      rw [UserDefaults.removeObject, Finmap.lookup_erase_ne huid]
      exact h
  | same => exact h

end Events

/-! ## Whole runs -/

section Run

variable {models : List Model} {d : DeviceId} {w₀ w w' : World} {es : List Event}

theorem untouched_of_run (hlaunch : w₀.AtLaunch)
    (hkeys : ∀ s, Finmap.lookup (stickerPrefix ++ s) (w₀.device d).defaults = none)
    (hrun : run (World.step models) w₀ es = some w)
    (hes : .act d .voltarButtonPressionado ∉ es) : (w.device d).Untouched := by
  refine run_induction (P := fun es w => .act d .voltarButtonPressionado ∉ es →
    (w.device d).Untouched) ?_ ?_ hrun hes
  · intro _
    exact ⟨Device.AllPages.atLaunch (hlaunch.screens d) noResult_tabPages, hkeys⟩
  · intro es w e w' _ ih hstep hes
    rw [List.mem_append, List.mem_singleton, not_or] at hes
    exact (World.step_moves hstep d).untouched (Ne.symm hes.2) (ih hes.1)

/-- Leaving a quiz writes the quiz page's key of the page's sticker. -/
theorem defaults_voltar
    (h : w.step models (.act d .voltarButtonPressionado) = some w') :
    ∃ vc collectionData origin, (w.device d).Shows vc ⟨.web collectionData, origin⟩ ∧
      (w'.device d).defaults = (w.device d).defaults.set
        ((collectionData.map Collection.id).map .int)
        (quizKey (collectionData.map Collection.id)) := by
  rw [World.step, World.act] at h
  split at h
  · rename_i o hact
    cases h
    obtain ⟨happ, vc, ⟨page, origin⟩, hfront, hhandler⟩ := Device.tap_some.mp hact
    rw [Handlers.voltarButtonPressionado] at hhandler
    split at hhandler <;> rename_i hpage
    · obtain rfl : page = _ := hpage
      cases hhandler
      refine ⟨vc, _, origin, ⟨happ, hfront⟩, ?_⟩
      simp only [World.setDevice, Function.update_self, Outcome.local,
        Device.pushViewController_defaults]
    · cases hhandler
  · cases h

/-- Once a quiz was left, a key of the quiz page is there. -/
theorem quizKey_of_run (hlaunch : w₀.AtLaunch)
    (hrun : run (World.step models) w₀ es = some w)
    (hes : .act d .voltarButtonPressionado ∈ es) :
    ∃ n, Finmap.lookup (quizKey (some n)) (w.device d).defaults ≠ none := by
  refine run_induction (P := fun es w => .act d .voltarButtonPressionado ∈ es →
    ∃ n, Finmap.lookup (quizKey (some n)) (w.device d).defaults ≠ none) ?_ ?_ hrun hes
  · intro h
    cases h
  · intro es w e w' hw ih hstep hes
    rw [List.mem_append, List.mem_singleton] at hes
    rcases hes with hes | rfl
    · obtain ⟨n, hn⟩ := ih hes
      exact ⟨n, (World.step_moves hstep d).lookup_quizKey hn⟩
    · obtain ⟨vc, collectionData, origin, hshows, hdefaults⟩ := defaults_voltar hstep
      -- a quiz page carries a sticker, so the key is stored and not removed
      obtain ⟨-, c, -, rfl⟩ := ((genuine_rule models).run hlaunch hw d).front hshows.2
      refine ⟨c.id, ?_⟩
      rw [hdefaults, Option.map_some, Option.map_some, UserDefaults.lookup_set]
      simp

theorem defaults_reset (h : w.step models (.act d .buttonSearchTapped) = some w') :
    (w'.device d).defaults =
      DetailsTableViewController.buttonSearchTapped (w.device d).defaults := by
  obtain ⟨o, hdoes, hdev, -⟩ := World.act_some h
  rw [hdev, Function.update_self]
  cases hdoes with
  | reset => rfl
  | push _ _ ha | send _ _ ha | idle ha => cases ha

end Run

/-! ## When a reset is complete -/

/-- What a reset should leave: every sticker of the catalogue locked, no key
with the sticker's prefix, and the uid as it was. -/
structure ResetComplete (models : List Model) (before after : UserDefaults) : Prop where
  locked : ∀ c ∈ catalogue models, after.integer (stickerKey c.id) ≠ c.id
  cleared : ∀ s, Finmap.lookup (stickerPrefix ++ s) after = none
  userUID : Finmap.lookup userUIDKey after = Finmap.lookup userUIDKey before

theorem id_pos : ∀ c ∈ catalogue CollectionViewController.models, 1 ≤ c.id := by
  decide

/-- A reset locks the whole catalogue exactly when no sticker beyond the
twentieth was unlocked. -/
theorem locked_reset_iff {ud : UserDefaults} :
    (∀ c ∈ catalogue CollectionViewController.models,
      (DetailsTableViewController.buttonSearchTapped ud).integer (stickerKey c.id) ≠ c.id) ↔
      ∀ c ∈ catalogue CollectionViewController.models,
        unlocked ud c.id = true → c.id ≤ 20 := by
  refine forall₂_congr fun c hc => ?_
  have hpos := id_pos c hc
  rw [UserDefaults.integer_buttonSearchTapped, unlocked, beq_iff_eq]
  split <;> rename_i hkey <;> rw [stickerKey_mem_keysToDelete] at hkey
  · exact iff_of_true (by omega) fun _ => hkey.2
  · have hlate : ¬ c.id ≤ 20 := fun h => hkey ⟨hpos, h⟩
    exact ⟨fun hne heq => absurd heq hne, fun h heq => hlate (h heq)⟩

/-- A reset leaves the uid as it is. -/
theorem userUID_reset {ud : UserDefaults} :
    Finmap.lookup userUIDKey (DetailsTableViewController.buttonSearchTapped ud) =
      Finmap.lookup userUIDKey ud := by
  rw [UserDefaults.lookup_buttonSearchTapped, if_neg (by decide)]

section Run

variable {models : List Model} {d : DeviceId} {w₀ w : World} {es : List Event}

/-- A reset leaves no key with the sticker's prefix exactly when no quiz was
left on the device before it. -/
theorem cleared_reset_iff (hlaunch : w₀.AtLaunch)
    (hkeys : ∀ s, Finmap.lookup (stickerPrefix ++ s) (w₀.device d).defaults = none)
    (hrun : run (World.step models) w₀ es = some w) :
    (∀ s, Finmap.lookup (stickerPrefix ++ s)
      (DetailsTableViewController.buttonSearchTapped (w.device d).defaults) = none) ↔
      .act d .voltarButtonPressionado ∉ es := by
  constructor
  · intro hcleared hes
    obtain ⟨n, hn⟩ := quizKey_of_run hlaunch hrun hes
    refine hn ?_
    have hkey := hcleared (describing (some n))
    change Finmap.lookup (quizKey (some n)) _ = none at hkey
    rw [UserDefaults.lookup_buttonSearchTapped, if_neg quizKey_not_mem_keysToDelete] at hkey
    exact hkey
  · intro hes s
    obtain ⟨-, hnone⟩ := untouched_of_run hlaunch hkeys hrun hes
    rw [UserDefaults.lookup_buttonSearchTapped, hnone, ite_self]

/-- Before the first quiz is left no sticker of the catalogue is unlocked. -/
theorem locked_of_run (hlaunch : w₀.AtLaunch)
    (hkeys : ∀ s, Finmap.lookup (stickerPrefix ++ s) (w₀.device d).defaults = none)
    (hrun : run (World.step models) w₀ es = some w)
    (hes : .act d .voltarButtonPressionado ∉ es) :
    ∀ c ∈ catalogue CollectionViewController.models,
      unlocked (w.device d).defaults c.id = false := by
  intro c hc
  obtain ⟨-, hnone⟩ := untouched_of_run hlaunch hkeys hrun hes
  have hpos := id_pos c hc
  rw [unlocked, beq_eq_false_iff_ne, UserDefaults.integer, stickerKey, hnone]
  dsimp only
  omega

end Run

/-- On a device that starts without a key of the stickers, a reset is complete
exactly when no quiz was left on the device before it. -/
theorem resetComplete_iff {d : DeviceId} {w₀ w w' : World} {es : List Event}
    (hlaunch : w₀.AtLaunch)
    (hkeys : ∀ s, Finmap.lookup (stickerPrefix ++ s) (w₀.device d).defaults = none)
    (hrun : run (World.step CollectionViewController.models) w₀ es = some w)
    (hreset : w.step CollectionViewController.models (.act d .buttonSearchTapped) =
      some w') :
    ResetComplete CollectionViewController.models (w.device d).defaults
        (w'.device d).defaults ↔
      .act d .voltarButtonPressionado ∉ es := by
  rw [defaults_reset hreset]
  have hcleared := cleared_reset_iff hlaunch hkeys hrun
  refine ⟨fun hcomplete => hcleared.mp hcomplete.cleared, fun hes => ?_⟩
  refine ⟨locked_reset_iff.mpr fun c hc hunlocked => ?_, hcleared.mpr hes, userUID_reset⟩
  rw [locked_of_run hlaunch hkeys hrun hes c hc] at hunlocked
  cases hunlocked

theorem signedUp_keys (s : String) :
    Finmap.lookup (stickerPrefix ++ s) (World.signedUp.device 0).defaults = none := by
  simp only [World.signedUp, Function.update_self]
  exact UserDefaults.lookup_set_of_ne stickerPrefix_append_ne_userUIDKey

/-- Ana, signed in from an earlier launch, opens an album and resets it, with
no quiz taken. -/
theorem resetComplete_without_quiz :
    let es := launchEvents ++ [.act 0 (.switchTab 0 2), .act 0 (.handleCellTap 0)]
    ∃ w w', run (World.step CollectionViewController.models) World.signedUp es = some w ∧
      w.step CollectionViewController.models (.act 0 .buttonSearchTapped) = some w' ∧
      Shell.Possible CollectionViewController.models World.signedUp true
        (es ++ [.act 0 .buttonSearchTapped]) ∧
      ResetComplete CollectionViewController.models (w.device 0).defaults
        (w'.device 0).defaults := by
  intro es
  obtain ⟨w', hw'⟩ : ∃ w', run (World.step CollectionViewController.models) World.signedUp
      (es ++ [.act 0 .buttonSearchTapped]) = some w' :=
    Option.isSome_iff_exists.mp (by decide +kernel)
  obtain ⟨w, hw, hreset⟩ := run_concat_some.mp hw'
  exact ⟨w, w', hw, hreset, Shell.possible_of_run (by decide) hw',
    (resetComplete_iff World.signedUp_atLaunch signedUp_keys hw hreset).mpr (by decide)⟩

/-- Ana, signed in from an earlier launch, does the quiz of sticker 21, redeems
it, and goes back to the album. -/
def redeemed21 : List Event :=
  launchEvents ++ quizEvents 0 20 ++ redeemEvents ++
    [.act 0 .galeryButtonTapped, .act 0 (.viewDidAppear 10), .act 0 (.switchTab 10 2),
      .act 0 (.handleCellTap 0)]

/-- Sticker 21 survives the reset, and so does the key its quiz wrote. -/
theorem reset_leaves_sticker21 :
    ∃ w w', run (World.step CollectionViewController.models) World.signedUp redeemed21 =
        some w ∧
      w.step CollectionViewController.models (.act 0 .buttonSearchTapped) = some w' ∧
      Shell.Possible CollectionViewController.models World.signedUp true
        (redeemed21 ++ [.act 0 .buttonSearchTapped]) ∧
      (∀ s, Finmap.lookup (stickerPrefix ++ s) (World.signedUp.device 0).defaults = none) ∧
      unlocked (w'.device 0).defaults 21 = true ∧
      Finmap.lookup "stickerResgatadoOptional(21)" (w'.device 0).defaults =
        some (.int 21) ∧
      ¬ ResetComplete CollectionViewController.models (w.device 0).defaults
        (w'.device 0).defaults := by
  have hrun : (run (World.step CollectionViewController.models) World.signedUp
      (redeemed21 ++ [.act 0 .buttonSearchTapped])).map (fun w =>
        (unlocked (w.device 0).defaults 21,
          Finmap.lookup "stickerResgatadoOptional(21)" (w.device 0).defaults)) =
      some (true, some (.int 21)) := by decide +kernel
  obtain ⟨w', hw', hobs⟩ := Option.map_eq_some_iff.mp hrun
  obtain ⟨w, hw, hreset⟩ := run_concat_some.mp hw'
  simp only [Prod.mk.injEq] at hobs
  refine ⟨w, w', hw, hreset, Shell.possible_of_run (by decide) hw', signedUp_keys, hobs.1,
    hobs.2, fun hcomplete => ?_⟩
  have hcleared := hcomplete.cleared "Optional(21)"
  rw [show stickerPrefix ++ "Optional(21)" = "stickerResgatadoOptional(21)" by decide,
    hobs.2] at hcleared
  cases hcleared

end GloboCollection
