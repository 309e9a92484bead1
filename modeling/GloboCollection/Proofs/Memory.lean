import GloboCollection.Spec.Memory
import GloboCollection.Proofs.Album
import GloboCollection.Proofs.Reset
import GloboCollection.Proofs.Sessions

/-!
# The store is the memory, laid out in keys

`Proofs.Album` reads the lock flags off a store and says nothing of what else
is in it. Here the whole store is accounted for. `Holds` is the layout: the
uid under its key, the number of every sticker of the album under the
sticker's key, and the number of every left quiz under the quiz page's
spelling of that key. A store represents a memory when it has exactly these
entries, and `represents_defaults_iff` says that after every run the store
represents one memory, the one that the operations of the run make.

The layout loses nothing. No key is used twice, so the memory can be read
back from the store, and two stores are the same exactly when the memories
are: `defaults_eq_iff`.
-/

namespace GloboCollection

open GloboCollection.Lib GloboCollection.Spec

/-! ## The layout -/

/-- The entries of the store that keeps a memory. -/
inductive Holds (m : Memory Uid Int) : String → Value → Prop
  | user {u : Uid} (hu : m.user = some u) : Holds m userUIDKey (.string u)
  | sticker {n : Int} (hn : n ∈ m.album) : Holds m (stickerKey n) (.int n)
  | quiz {n : Int} (hn : n ∈ m.quizzes) : Holds m (quizKey (some n)) (.int n)

/-- The store has the entries of the memory and no other. -/
def Represents (ud : UserDefaults) (m : Memory Uid Int) : Prop :=
  ∀ key v, Finmap.lookup key ud = some v ↔ Holds m key v

theorem quizKey_ne_userUIDKey {id : Option Int} : quizKey id ≠ userUIDKey :=
  stickerPrefix_append_ne_userUIDKey

theorem quizKey_some_inj {m n : Int} : quizKey (some m) = quizKey (some n) ↔ m = n := by
  rw [quizKey, quizKey, String.append_right_inj, describing, describing,
    String.append_left_inj]
  exact append_toString_inj

section Layout

variable {m : Memory Uid Int} {u : Uid} {n : Int} {v : Value}

/-! Each key is for one thing, so an entry says what it is about. -/

theorem holds_userUIDKey : Holds m userUIDKey v ↔ ∃ u, m.user = some u ∧ v = .string u := by
  refine ⟨fun h => ?_, ?_⟩
  · generalize hkey : userUIDKey = key at h
    cases h with
    | user hu => exact ⟨_, hu, rfl⟩
    | sticker => exact absurd hkey.symm stickerKey_ne_userUIDKey
    | quiz => exact absurd hkey.symm quizKey_ne_userUIDKey
  · intro h
    obtain ⟨u, hu, rfl⟩ := h
    exact .user hu

theorem holds_stickerKey : Holds m (stickerKey n) v ↔ n ∈ m.album ∧ v = .int n := by
  refine ⟨fun h => ?_, ?_⟩
  · generalize hkey : stickerKey n = key at h
    cases h with
    | user => exact absurd hkey stickerKey_ne_userUIDKey
    | sticker hn =>
        obtain rfl := stickerKey_inj.mp hkey
        exact ⟨hn, rfl⟩
    | quiz => exact absurd hkey stickerKey_ne_quizKey
  · intro h
    obtain ⟨hn, rfl⟩ := h
    exact .sticker hn

theorem holds_quizKey : Holds m (quizKey (some n)) v ↔ n ∈ m.quizzes ∧ v = .int n := by
  refine ⟨fun h => ?_, ?_⟩
  · generalize hkey : quizKey (some n) = key at h
    cases h with
    | user => exact absurd hkey quizKey_ne_userUIDKey
    | sticker => exact absurd hkey.symm stickerKey_ne_quizKey
    | quiz hn =>
        obtain rfl := quizKey_some_inj.mp hkey
        exact ⟨hn, rfl⟩
  · intro h
    obtain ⟨hn, rfl⟩ := h
    exact .quiz hn

/-- Two memories with the same entries are the same. -/
theorem holds_inj {m m' : Memory Uid Int} (h : ∀ key v, Holds m key v ↔ Holds m' key v) :
    m = m' := by
  obtain ⟨user, album, quizzes⟩ := m
  obtain ⟨user', album', quizzes'⟩ := m'
  have huser : user = user' := by
    ext u
    have hu := h userUIDKey (.string u)
    rw [holds_userUIDKey, holds_userUIDKey] at hu
    simpa using hu
  have halbum : album = album' := by
    ext n
    have hn := h (stickerKey n) (.int n)
    rw [holds_stickerKey, holds_stickerKey] at hn
    simpa using hn
  have hquizzes : quizzes = quizzes' := by
    ext n
    have hn := h (quizKey (some n)) (.int n)
    rw [holds_quizKey, holds_quizKey] at hn
    simpa using hn
  rw [huser, halbum, hquizzes]

/-- An entry depends on the part of the memory its key is for. -/
theorem holds_congr {m m' : Memory Uid Int} {key : String}
    (huser : key = userUIDKey → m.user = m'.user)
    (halbum : ∀ n, key = stickerKey n → (n ∈ m.album ↔ n ∈ m'.album))
    (hquizzes : ∀ n, key = quizKey (some n) → (n ∈ m.quizzes ↔ n ∈ m'.quizzes)) :
    Holds m key v ↔ Holds m' key v := by
  refine ⟨fun h => ?_, fun h => ?_⟩
  · cases h with
    | user hu => exact .user ((huser rfl).symm.trans hu)
    | sticker hn => exact .sticker ((halbum _ rfl).mp hn)
    | quiz hn => exact .quiz ((hquizzes _ rfl).mp hn)
  · cases h with
    | user hu => exact .user ((huser rfl).trans hu)
    | sticker hn => exact .sticker ((halbum _ rfl).mpr hn)
    | quiz hn => exact .quiz ((hquizzes _ rfl).mpr hn)

end Layout

/-! ## The operations on the store -/

namespace Represents

variable {ud : UserDefaults} {m : Memory Uid Int}

theorem empty : Represents ∅ Memory.blank := by
  intro key v
  refine ⟨fun h => ?_, fun h => ?_⟩
  · rw [Finmap.lookup_empty] at h
    cases h
  · cases h with
    | user hu => cases hu
    | sticker hn | quiz hn => cases hn

/-- Two stores that represent one memory are the same. -/
theorem unique {ud' : UserDefaults} (h : Represents ud m) (h' : Represents ud' m) :
    ud = ud' := by
  refine Finmap.ext_lookup fun key => Option.ext fun v => ?_
  exact (h key v).trans (h' key v).symm

/-- A store represents one memory only. -/
theorem memory_unique {m' : Memory Uid Int} (h : Represents ud m) (h' : Represents ud m') :
    m = m' :=
  holds_inj fun key v => (h key v).symm.trans (h' key v)

theorem signIn (h : Represents ud m) (u : Uid) :
    Represents (ud.set (some (.string u)) userUIDKey)
      (m.apply resettable (.signIn u)) := by
  intro key v
  by_cases hkey : key = userUIDKey
  · subst hkey
    rw [UserDefaults.lookup_set, holds_userUIDKey]
    simp [Memory.apply, eq_comm]
  · rw [UserDefaults.lookup_set_of_ne hkey, h key v]
    exact holds_congr (fun h => absurd h hkey) (fun _ _ => Iff.rfl) fun _ _ => Iff.rfl

theorem signOut (h : Represents ud m) :
    Represents (ud.removeObject userUIDKey) (m.apply resettable .signOut) := by
  intro key v
  by_cases hkey : key = userUIDKey
  · subst hkey
    rw [UserDefaults.removeObject, Finmap.lookup_erase, holds_userUIDKey]
    simp [Memory.apply]
  · rw [UserDefaults.removeObject, Finmap.lookup_erase_ne hkey, h key v]
    exact holds_congr (fun h => absurd h hkey) (fun _ _ => Iff.rfl) fun _ _ => Iff.rfl

theorem leaveQuiz (h : Represents ud m) (n : Int) :
    Represents (ud.set (some (.int n)) (quizKey (some n)))
      (m.apply resettable (.leaveQuiz n)) := by
  intro key v
  by_cases hkey : key = quizKey (some n)
  · subst hkey
    rw [UserDefaults.lookup_set, holds_quizKey]
    simp [Memory.apply, eq_comm]
  · rw [UserDefaults.lookup_set_of_ne hkey, h key v]
    refine holds_congr (fun _ => rfl) (fun _ _ => Iff.rfl) fun k hk => ?_
    have hne : k ≠ n := by
      rintro rfl
      exact hkey hk
    simp [Memory.apply, hne]

theorem redeem (h : Represents ud m) (n : Int) :
    Represents (ud.set (some (.int n)) (stickerKey n))
      (m.apply resettable (.redeem n)) := by
  intro key v
  by_cases hkey : key = stickerKey n
  · subst hkey
    rw [UserDefaults.lookup_set, holds_stickerKey]
    simp [Memory.apply, applyOp, eq_comm]
  · rw [UserDefaults.lookup_set_of_ne hkey, h key v]
    refine holds_congr (fun _ => rfl) (fun k hk => ?_) fun _ _ => Iff.rfl
    have hne : k ≠ n := by
      rintro rfl
      exact hkey hk
    simp [Memory.apply, applyOp, hne]

theorem reset (h : Represents ud m) :
    Represents (DetailsTableViewController.buttonSearchTapped ud)
      (m.apply resettable .reset) := by
  intro key v
  rw [UserDefaults.lookup_buttonSearchTapped]
  by_cases hkey : key ∈ DetailsTableViewController.keysToDelete
  · rw [if_pos hkey]
    refine ⟨fun hv => ?_, fun hv => ?_⟩
    · cases hv
    · cases hv with
      | user => exact absurd hkey (by decide)
      | sticker hn => exact absurd (stickerKey_mem_keysToDelete.mp hkey) hn.2
      | quiz => exact absurd hkey quizKey_not_mem_keysToDelete
  · rw [if_neg hkey, h key v]
    refine holds_congr (fun _ => rfl) (fun n hn => ?_) fun _ _ => Iff.rfl
    have hcovered : n ∉ resettable := by
      intro hmem
      rw [hn] at hkey
      exact hkey (stickerKey_mem_keysToDelete.mpr hmem)
    simp [Memory.apply, applyOp, hcovered]

end Represents

/-! ## The operations of a run -/

/-- What an action means for the memory. -/
def Device.memoryOp (dev : Device) (a : Action) : Option (MemoryOp Uid Int) :=
  match a, dev.front with
  | .voltarButtonPressionado, some (_, ⟨.web (some c), _⟩) => some (.leaveQuiz c.id)
  | .redeemButtonTapped, some (_, ⟨.result _ (some c), _⟩) => some (.redeem c.id)
  | .buttonSearchTapped, _ => some .reset
  | _, _ => none

/-- What an event means for the memory of device `d`. -/
def memoryOp (d : DeviceId) (w : World) : Event → Option (MemoryOp Uid Int)
  | .act d' a => if d' = d then (w.device d).memoryOp a else none
  | e =>
      match e.signsIn d with
      | some u => some (.signIn u)
      | none => if e.clearsUID d then some .signOut else none

/-- The memory of device `d` after a run that found it blank. -/
def memory (models : List Model) (d : DeviceId) (w₀ : World) (es : List Event) :
    Memory Uid Int :=
  (trace (World.step models) (memoryOp d) w₀ es).foldl (Memory.apply resettable) .blank

section Refinement

variable {models : List Model} {d : DeviceId} {dev dev' : Device} {a : Action} {e : Event}
  {o : Outcome} {m : Memory Uid Int} {w w₀ : World} {es : List Event}

theorem Device.act_represents (hpages : dev.AllPages (Genuine models))
    (h : dev.act models d a = some o) (hm : Represents dev.defaults m) :
    Represents o.device.defaults
      ((dev.memoryOp a).toList.foldl (Memory.apply resettable) m) := by
  have hstores := (Device.act_does h).stores
  cases a with
  | voltarButtonPressionado =>
      obtain ⟨-, vc, ⟨page, origin⟩, hfront, hhandler⟩ := Device.tap_some.mp h
      rw [Handlers.voltarButtonPressionado] at hhandler
      split at hhandler <;> rename_i hpage <;> cases hhandler
      obtain rfl : page = _ := hpage
      obtain ⟨-, c, -, rfl⟩ := hpages.front hfront
      have hop : dev.memoryOp .voltarButtonPressionado = some (.leaveQuiz c.id) := by
        simp only [Device.memoryOp, hfront]
      rw [hop, Outcome.local, Device.pushViewController_defaults]
      exact hm.leaveQuiz c.id
  | redeemButtonTapped =>
      generalize o.device.defaults = ud at hstores ⊢
      cases hstores with
      | redeem hshows =>
          obtain ⟨-, c, -, rfl⟩ := hpages.front hshows.2
          have hop : dev.memoryOp .redeemButtonTapped = some (.redeem c.id) := by
            simp only [Device.memoryOp, hshows.2]
          rw [hop, ResultViewController.redeemButtonTapped_defaults]
          exact hm.redeem c.id
      | same hredeem => exact absurd rfl hredeem
  | buttonSearchTapped =>
      generalize o.device.defaults = ud at hstores ⊢
      cases hstores with
      | reset => exact hm.reset
      | same _ hreset => exact absurd rfl hreset
  | _ =>
      generalize o.device.defaults = ud at hstores ⊢
      cases hstores
      exact hm

theorem memoryOp_of_site (hsite : e.site ≠ some d) : memoryOp d w e = none := by
  cases e with
  | act d' a => exact if_neg fun hd => hsite (by rw [Event.site, hd])
  | reply r answer =>
      have hsign : Event.signsIn d (.reply r answer) = none := by
        cases r <;> cases answer <;> simp_all [Event.site, Event.signsIn]
      have hclear : Event.clearsUID d (.reply r answer) = false := by
        cases r <;> cases answer <;> simp_all [Event.site, Event.clearsUID]
      simp only [memoryOp, hsign, hclear, Bool.false_eq_true, if_false]
  | scoreRead | scoreWrite => rfl

/-- An event does to the store of a device what it means for the memory. -/
theorem World.step_represents {w' : World} (hpages : (w.device d).AllPages (Genuine models))
    (hstep : w.step models e = some w') (hm : Represents (w.device d).defaults m) :
    Represents (w'.device d).defaults
      ((memoryOp d w e).toList.foldl (Memory.apply resettable) m) := by
  have hmoves := World.step_moves hstep d
  generalize hdev' : w'.device d = dev' at hmoves ⊢
  cases hmoves with
  | @act a o hdoes =>
      obtain ⟨o', hact, hdev, -⟩ := World.act_outcome hstep
      rw [hdev, Function.update_self] at hdev'
      rw [← hdev', memoryOp, if_pos rfl]
      exact Device.act_represents hpages hact hm
  | signIn | createUser =>
      simp only [memoryOp, Event.signsIn, if_true]
      exact hm.signIn _
  | documentDeleted =>
      simp only [memoryOp, Event.signsIn, Event.clearsUID, beq_self_eq_true, if_true]
      exact hm.signOut
  | userDeleted =>
      simp only [memoryOp, Event.signsIn, Event.clearsUID, beq_self_eq_true, if_true]
      exact hm.signOut
  | deleteUser =>
      rw [Device.signOut_defaults]
      exact hm
  | stay hsite =>
      rw [memoryOp_of_site hsite]
      exact hm

end Refinement

/-! ## Whole runs -/

/-- Along every run the store represents the memory that the run makes. -/
theorem represents_of_run {models : List Model} {d : DeviceId} {w₀ w : World}
    {es : List Event} (hlaunch : w₀.AtLaunch) (hempty : (w₀.device d).defaults = ∅)
    (hrun : run (World.step models) w₀ es = some w) :
    Represents (w.device d).defaults (memory models d w₀ es) := by
  refine (run_simulates (R := fun m w =>
    (w.device d).AllPages (Genuine models) ∧ Represents (w.device d).defaults m)
    ?_ ⟨?_, ?_⟩ hrun).2
  · intro m w e w' h hstep
    exact ⟨(genuine_rule models).moves h.1 (World.step_moves hstep d),
      World.step_represents h.1 hstep h.2⟩
  · exact Device.AllPages.atLaunch (hlaunch.screens d) (genuine_rule models).tab
  · rw [hempty]
    exact Represents.empty

/-- After every run of a device that starts with an empty store, the store
has exactly the entries of one memory, the one that the run makes. -/
theorem represents_defaults_iff {models : List Model} {d : DeviceId} {w₀ w : World}
    {es : List Event} (hlaunch : w₀.AtLaunch) (hempty : (w₀.device d).defaults = ∅)
    (hrun : run (World.step models) w₀ es = some w) (m : Memory Uid Int) :
    Represents (w.device d).defaults m ↔ m = memory models d w₀ es := by
  have h := represents_of_run hlaunch hempty hrun
  refine ⟨fun hm => hm.memory_unique h, fun hm => ?_⟩
  rw [hm]
  exact h

/-- The store after the first redeem: Ana's uid, and sticker 1 in both
spellings. The taps in the bar are possible if the register page no longer
finds its navigation controller. -/
theorem represents_defaults_after_redeem :
    ∃ w, run (World.step CollectionViewController.models) World.empty
        (firstSignUp ++ quizEvents 8 0 ++ redeemEvents) = some w ∧
      Shell.Possible CollectionViewController.models World.empty false
        (firstSignUp ++ quizEvents 8 0 ++ redeemEvents) ∧
      Represents (w.device 0).defaults ⟨some "A", {1}, {1}⟩ := by
  have hobs : (run (World.step CollectionViewController.models) World.empty
      (firstSignUp ++ quizEvents 8 0 ++ redeemEvents)).map (fun _ =>
        trace (World.step CollectionViewController.models) (memoryOp 0) World.empty
          (firstSignUp ++ quizEvents 8 0 ++ redeemEvents)) =
      some [.signIn "A", .leaveQuiz 1, .redeem 1] := by decide +kernel
  obtain ⟨w, hrun, hobs⟩ := Option.map_eq_some_iff.mp hobs
  have hpossible : Shell.Possible CollectionViewController.models World.empty false
      (firstSignUp ++ quizEvents 8 0 ++ redeemEvents) :=
    Shell.possible_of_run (by decide) hrun
  refine ⟨w, hrun, hpossible,
    (represents_defaults_iff World.empty_atLaunch rfl hrun _).mpr ?_⟩
  rw [memory, hobs]
  simp [Memory.apply, Memory.blank, applyOp]

/-- Two devices, after whatever runs and with whatever catalogues, have the
same store exactly when they remember the same. -/
theorem defaults_eq_iff {models models' : List Model} {d d' : DeviceId}
    {w₀ w w₀' w' : World} {es es' : List Event} (hlaunch : w₀.AtLaunch)
    (hempty : (w₀.device d).defaults = ∅) (hrun : run (World.step models) w₀ es = some w)
    (hlaunch' : w₀'.AtLaunch) (hempty' : (w₀'.device d').defaults = ∅)
    (hrun' : run (World.step models') w₀' es' = some w') :
    (w.device d).defaults = (w'.device d').defaults ↔
      memory models d w₀ es = memory models' d' w₀' es' := by
  have h := represents_of_run hlaunch hempty hrun
  have h' := represents_of_run hlaunch' hempty' hrun'
  refine ⟨fun heq => ?_, fun heq => ?_⟩
  · rw [← heq] at h'
    exact h.memory_unique h'
  · rw [← heq] at h'
    exact h.unique h'

/-- A device on which a sticker was redeemed remembers the same whether the
redeem was recorded or not. -/
theorem defaults_eq_iff_unrecorded :
    let es := firstSignUp ++ quizEvents 8 0
    let redeem : List Event := [.act 0 .redeemButtonTapped]
    ∃ w w', run (World.step CollectionViewController.models) World.empty
        (es ++ redeemEvents) = some w ∧
      run (World.step CollectionViewController.models) World.empty (es ++ redeem) =
        some w' ∧
      Shell.Possible CollectionViewController.models World.empty false (es ++ redeemEvents) ∧
      Shell.Possible CollectionViewController.models World.empty false (es ++ redeem) ∧
      w.scores.docs "A" ≠ w'.scores.docs "A" ∧
      (w.device 0).defaults = (w'.device 0).defaults := by
  intro es redeem
  have hobs : (run (World.step CollectionViewController.models) World.empty
      (es ++ redeemEvents)).map (fun w => ((w.scores.docs "A").isSome,
        trace (World.step CollectionViewController.models) (memoryOp 0) World.empty
          (es ++ redeemEvents))) =
      some (true, [.signIn "A", .leaveQuiz 1, .redeem 1]) := by decide +kernel
  have hobs' : (run (World.step CollectionViewController.models) World.empty
      (es ++ redeem)).map (fun w => (w.scores.docs "A",
        trace (World.step CollectionViewController.models) (memoryOp 0) World.empty
          (es ++ redeem))) =
      some (none, [.signIn "A", .leaveQuiz 1, .redeem 1]) := by decide +kernel
  obtain ⟨w, hrun, hobs⟩ := Option.map_eq_some_iff.mp hobs
  obtain ⟨w', hrun', hobs'⟩ := Option.map_eq_some_iff.mp hobs'
  simp only [Prod.mk.injEq] at hobs hobs'
  have hmemory : memory CollectionViewController.models 0 World.empty (es ++ redeemEvents) =
      memory CollectionViewController.models 0 World.empty (es ++ redeem) := by
    rw [memory, memory, hobs.2, hobs'.2]
  refine ⟨w, w', hrun, hrun', Shell.possible_of_run (by decide) hrun,
    Shell.possible_of_run (by decide) hrun', fun heq => ?_, ?_⟩
  · rw [heq, hobs'.1] at hobs
    cases hobs.1
  · exact (defaults_eq_iff World.empty_atLaunch rfl hrun World.empty_atLaunch rfl
      hrun').mpr hmemory

end GloboCollection
