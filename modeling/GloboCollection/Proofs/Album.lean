import GloboCollection.Lib.Trace
import GloboCollection.App.Shell
import GloboCollection.Spec.Album
import GloboCollection.Proofs.Keys
import GloboCollection.Proofs.Pages

/-!
# The device keeps the album

The lock flags of a device are the album of `Spec.Album`, with the reset
taking out the stickers 1 to 20. `flags` reads the album off the local
store, `albumOp` reads the album's operations off the events, and
`flags_of_run` is the refinement: along every run the two agree. That nobody
else interferes is a matter of keys — the uid's key and the quiz screen's
spelling are no sticker's key, and one sticker's key is not another's.

A sticker is put in by a tap on the result page that its own selection led
to, because the pages are genuine. Without a reset nothing takes it out
again, and `unlocked_iff_redeemed` says so.
-/

namespace GloboCollection

open GloboCollection.Lib GloboCollection.Spec

/-- The stickers the device shows as unlocked. -/
def flags (ud : UserDefaults) : Set Int := {n | unlocked ud n = true}

/-- The stickers a reset covers. -/
def resettable : Set Int := {n | 1 ≤ n ∧ n ≤ 20}

/-! ## The store and the album -/

section Flags

variable {ud : UserDefaults} {n : Int} {key : String} {value : Option Value}

theorem mem_flags : n ∈ flags ud ↔ ud.integer (stickerKey n) = n := beq_iff_eq

theorem flags_set_stickerKey :
    flags (ud.set (some (.int n)) (stickerKey n)) = insert n (flags ud) := by
  ext m
  rw [Set.mem_insert_iff, mem_flags, mem_flags]
  by_cases hm : m = n
  · subst hm
    simp [UserDefaults.integer_set_int]
  · have hkey : stickerKey m ≠ stickerKey n := fun h => hm (stickerKey_inj.mp h)
    simp [hm, UserDefaults.integer_set_of_ne hkey]

/-- A key that is no sticker's is of no account. -/
theorem flags_set_of_ne (h : ∀ n, stickerKey n ≠ key) :
    flags (ud.set value key) = flags ud := by
  ext m
  rw [mem_flags, mem_flags, UserDefaults.integer_set_of_ne (h m)]

theorem flags_removeObject_userUIDKey :
    flags (ud.removeObject userUIDKey) = flags ud :=
  @flags_set_of_ne ud userUIDKey none fun _ => stickerKey_ne_userUIDKey

theorem flags_buttonSearchTapped :
    flags (DetailsTableViewController.buttonSearchTapped ud) = flags ud \ resettable := by
  ext m
  rw [Set.mem_sdiff, mem_flags, mem_flags, UserDefaults.integer_buttonSearchTapped,
    resettable, Set.mem_ofPred_eq]
  simp only [stickerKey_mem_keysToDelete]
  split <;> rename_i hm
  · simp only [hm, and_self, not_true_eq_false, and_false, iff_false]
    omega
  · simp [hm]

end Flags

/-! ## The events and the album -/

/-- The sticker whose selection led to the result page in front. -/
def Device.resultSticker (dev : Device) : Option Collection :=
  match dev.front with
  | some (_, ⟨.result _ _, origin⟩) => origin
  | _ => none

/-- What an event means for the album on device `d`. -/
def albumOp (d : DeviceId) (w : World) : Event → Option (AlbumOp Int)
  | .act d' .redeemButtonTapped =>
      if d' = d then (w.device d).resultSticker.map fun c => .redeem c.id else none
  | .act d' .buttonSearchTapped => if d' = d then some .reset else none
  | _ => none

section Operations

variable {d : DeviceId} {w : World} {e : Event} {n : Int}

theorem albumOp_eq_none (hredeem : e ≠ .act d .redeemButtonTapped)
    (hreset : e ≠ .act d .buttonSearchTapped) : albumOp d w e = none := by
  rw [albumOp.eq_def]
  split
  · refine if_neg ?_
    rintro rfl
    exact hredeem rfl
  · refine if_neg ?_
    rintro rfl
    exact hreset rfl
  · rfl

theorem albumOp_eq_reset :
    albumOp d w e = some .reset ↔ e = .act d .buttonSearchTapped := by
  by_cases hreset : e = .act d .buttonSearchTapped
  · simp [hreset, albumOp]
  · by_cases hredeem : e = .act d .redeemButtonTapped
    · simp [hredeem, albumOp]
    · simp [hreset, albumOp_eq_none hredeem hreset]

theorem albumOp_eq_redeem :
    albumOp d w e = some (.redeem n) ↔
      e = .act d .redeemButtonTapped ∧
        ∃ c, (w.device d).resultSticker = some c ∧ c.id = n := by
  by_cases hredeem : e = .act d .redeemButtonTapped
  · simp [hredeem, albumOp]
  · by_cases hreset : e = .act d .buttonSearchTapped
    · simp [hreset, albumOp]
    · simp [hredeem, albumOp_eq_none hredeem hreset]

end Operations

section Refinement

variable {models : List Model} {d : DeviceId} {w : World} {dev' : Device}
  {e : Event}

theorem flags_moves (hpages : (w.device d).AllPages (Genuine models))
    (h : (w.device d).Moves models d e dev') :
    flags dev'.defaults =
      (albumOp d w e).toList.foldl (applyOp resettable)
        (flags (w.device d).defaults) := by
  have hstores := h.stores
  generalize dev'.defaults = ud at hstores ⊢
  cases hstores with
  | quiz =>
      rw [albumOp_eq_none (by simp) (by simp)]
      exact flags_set_of_ne fun _ => stickerKey_ne_quizKey
  | redeem hshows =>
      obtain ⟨horigin, c, -, rfl⟩ := hpages.front hshows.2
      cases horigin
      rw [ResultViewController.redeemButtonTapped_defaults, flags_set_stickerKey]
      simp only [albumOp, if_true, Device.resultSticker, hshows.2, Option.map_some]
      rfl
  | reset =>
      rw [flags_buttonSearchTapped]
      simp only [albumOp, if_true]
      rfl
  | signedIn =>
      rw [albumOp_eq_none (by simp) (by simp)]
      exact flags_set_of_ne fun _ => stickerKey_ne_userUIDKey
  | deleted =>
      rw [albumOp_eq_none (by simp) (by simp)]
      exact flags_removeObject_userUIDKey
  | same hredeem hreset =>
      rw [albumOp_eq_none hredeem hreset]
      rfl

/-- Along every run the device's flags are the album that the redeems and
resets of the run make. -/
theorem flags_of_run {w₀ : World} {es : List Event} (hlaunch : w₀.AtLaunch)
    (hrun : run (World.step models) w₀ es = some w) :
    flags (w.device d).defaults =
      (trace (World.step models) (albumOp d) w₀ es).foldl (applyOp resettable)
        (flags (w₀.device d).defaults) := by
  refine (run_simulates (R := fun album w =>
    (∀ d, (w.device d).AllPages (Genuine models)) ∧ flags (w.device d).defaults = album)
    ?_ ⟨?_, rfl⟩ hrun).2
  · rintro album w e w' ⟨hpages, rfl⟩ hstep
    have hmoves := World.step_moves hstep
    exact ⟨fun d => (genuine_rule models).moves (hpages d) (hmoves d),
      flags_moves (hpages d) (hmoves d)⟩
  · exact fun d => Device.AllPages.atLaunch (hlaunch.screens d) (genuine_rule models).tab

end Refinement

/-! ## Unlocked means redeemed -/

/-- On a device that starts with an empty store and is never reset, a sticker
is unlocked exactly when redeem was tapped on a result page reached from
selecting that sticker. -/
theorem unlocked_iff_redeemed {models : List Model} {d : DeviceId} {w₀ w : World}
    {es : List Event} {n : Int} (hlaunch : w₀.AtLaunch)
    (hempty : (w₀.device d).defaults = ∅)
    (hrun : run (World.step models) w₀ es = some w)
    (hreset : .act d .buttonSearchTapped ∉ es) (hn : n ≠ 0) :
    unlocked (w.device d).defaults n = true ↔
      ∃ pre post w' c, es = pre ++ .act d .redeemButtonTapped :: post ∧
        run (World.step models) w₀ pre = some w' ∧
        (w'.device d).resultSticker = some c ∧ c.id = n := by
  have hnone : n ∉ flags (w₀.device d).defaults := by
    rw [mem_flags, hempty]
    exact fun h => hn h.symm
  have hnoreset : .reset ∉ trace (World.step models) (albumOp d) w₀ es := by
    rw [mem_trace_iff hrun]
    rintro ⟨pre, e, post, t, rfl, -, hop⟩
    rw [albumOp_eq_reset] at hop
    exact hreset (by simp [hop])
  change n ∈ flags (w.device d).defaults ↔ _
  rw [flags_of_run hlaunch hrun, mem_foldl_of_no_reset hnoreset, mem_trace_iff hrun]
  constructor
  · rintro (h | ⟨pre, e, post, w', rfl, hpre, hop⟩)
    · exact absurd h hnone
    · obtain ⟨rfl, c, hc, hid⟩ := albumOp_eq_redeem.mp hop
      exact ⟨pre, post, w', c, rfl, hpre, hc, hid⟩
  · rintro ⟨pre, post, w', c, rfl, hpre, hc, hid⟩
    exact Or.inr ⟨pre, _, post, w', rfl, hpre, albumOp_eq_redeem.mpr ⟨rfl, c, hc, hid⟩⟩

/-- A first sign-up and the first redeem. The way there has a tap in the bar,
so it is possible if the register page no longer finds its navigation
controller when it has given way to the tab bar. -/
theorem unlocked_after_redeem :
    let es := firstSignUp ++ quizEvents 8 0 ++ redeemEvents
    ∃ w, run (World.step CollectionViewController.models) World.empty es = some w ∧
      Shell.Possible CollectionViewController.models World.empty false es ∧
      (∃ pre post w' c, es = pre ++ .act 0 .redeemButtonTapped :: post ∧
        run (World.step CollectionViewController.models) World.empty pre = some w' ∧
        (w'.device 0).resultSticker = some c ∧ c.id = 1) ∧
      unlocked (w.device 0).defaults 1 = true := by
  intro es
  have hobs : (run (World.step CollectionViewController.models) World.empty
      (firstSignUp ++ quizEvents 8 0)).bind (fun w' =>
        (run (World.step CollectionViewController.models) w' redeemEvents).map fun _ =>
          (w'.device 0).resultSticker) =
      some (some CollectionViewController.collection1) := by decide +kernel
  obtain ⟨w', hpre, hobs⟩ := Option.bind_eq_some_iff.mp hobs
  obtain ⟨w, hpost, hsticker⟩ := Option.map_eq_some_iff.mp hobs
  have hrun : run (World.step CollectionViewController.models) World.empty es = some w :=
    run_append_some.mpr ⟨w', hpre, hpost⟩
  have hredeemed : ∃ pre post w' c, es = pre ++ .act 0 .redeemButtonTapped :: post ∧
      run (World.step CollectionViewController.models) World.empty pre = some w' ∧
      (w'.device 0).resultSticker = some c ∧ c.id = 1 :=
    ⟨firstSignUp ++ quizEvents 8 0, redeemEvents.drop 1, w', _, rfl, hpre, hsticker, rfl⟩
  have hpossible : Shell.Possible CollectionViewController.models World.empty false es :=
    Shell.possible_of_run (by decide) hrun
  exact ⟨w, hrun, hpossible, hredeemed,
    (unlocked_iff_redeemed World.empty_atLaunch rfl hrun (by decide) (by decide)).mpr
      hredeemed⟩

end GloboCollection
