import GloboCollection.Lib.Trace
import GloboCollection.Proofs.Pages
import GloboCollection.Proofs.Sessions

/-!
# The login gate

Without a stored uid the user should get to see the login and the register
pages only. The one check is in the tab bar's `viewDidAppear`, and it clears
the screens for good when the bar lies on the root: the whole root stack
gives way to the login page. A deletion's callback that removes the uid does
not check anything; it puts a login page into the home tab and leaves the
other tabs as they are.

So the gate stands open from the moment a callback removes the uid, with
other pages on the device, until the tab bar on the root comes on screen
once more. Outside these stretches it is closed: `guarded_of_checked`. The
invariant is that, without a uid, there are only login and register pages,
or the tab bar on the root is still to appear.
-/

namespace GloboCollection

open GloboCollection.Lib

/-- The pages that may be shown without a uid. -/
def ViewController.IsGate (vc : ViewController) : Prop :=
  vc.page = .login ∨ vc.page = .register

instance : DecidablePred ViewController.IsGate := fun vc =>
  inferInstanceAs (Decidable (vc.page = .login ∨ vc.page = .register))

/-- Switching tabs and going back, and the appearances these bring about. -/
def Action.navigates : Action → Prop
  | .switchTab _ _ | .backButtonTapped | .viewDidAppear _ => True
  | _ => False

/-- Whatever the user brings to the front by switching tabs or going back is
a login or a register page. -/
def Device.Guarded (models : List Model) (d : DeviceId) (dev : Device) : Prop :=
  ∀ (actions : List Action) (dev' : Device) (vc : Nat) (self : ViewController),
    (∀ a ∈ actions, a.navigates) →
    run (fun dev a => (dev.act models d a).map Outcome.device) dev actions = some dev' →
    dev'.front = some (vc, self) → self.IsGate

/-! ## What opens and what closes the gate -/

/-- The tab bar in front on the root. -/
def Device.rootBar (dev : Device) : Option Nat :=
  match dev.root with
  | .tabs bar _ _ :: _ => some bar
  | _ => none

inductive GateOp where
  | cleared
  | checked
deriving DecidableEq, Repr

/-- A callback removes a stored uid with other pages on the device. -/
def Event.opensGate (d : DeviceId) (w : World) (e : Event) : Prop :=
  e.clearsUID d = true ∧ (w.device d).defaults.userUID.isSome = true ∧
    ¬ ∀ p ∈ stackPages (w.device d).root, p.2.IsGate

instance (d : DeviceId) (w : World) (e : Event) : Decidable (e.opensGate d w) :=
  inferInstanceAs (Decidable (_ ∧ _ ∧ ¬ _))

/-- The tab bar on the root runs its check. -/
def Event.checksGate (d : DeviceId) (w : World) : Event → Bool
  | .act d' (.viewDidAppear bar) => d' == d && (w.device d).rootBar == some bar
  | _ => false

def gateOp (d : DeviceId) (w : World) (e : Event) : Option GateOp :=
  if e.opensGate d w then some .cleared
  else if e.checksGate d w then some .checked
  else none

/-! ## The invariant -/

namespace Device

variable {models : List Model} {d : DeviceId} {dev : Device} {a : Action}
  {o : Outcome} {vc bar : Nat}

/-- Only login and register pages, or the root's tab bar still to appear. -/
def Closed (dev : Device) : Prop :=
  dev.AllPages ViewController.IsGate ∨ ∃ bar, dev.rootBar = some bar ∧ bar ∈ dev.appearing

theorem Closed.settled (h : dev.Closed) (happ : dev.appearing = []) :
    dev.AllPages ViewController.IsGate := by
  rcases h with h | ⟨bar, -, hbar⟩
  · exact h
  · rw [happ] at hbar
    cases hbar

/-- Where only login and register pages are, no action brings in another. -/
theorem Does.allGate (hdoes : Does models d dev a o)
    (h : dev.AllPages ViewController.IsGate) :
    o.device.AllPages ViewController.IsGate := by
  refine hdoes.allPages h ?_
  intro new hbrings
  cases hbrings with
  | login => exact Or.inl rfl
  | album hshows hpage =>
      exact absurd (h.front hshows.2) (by simp [ViewController.IsGate, hpage])
  | opens hshows hopens =>
      have hself := h.front hshows.2
      cases hopens with
      | register => exact Or.inr rfl
      | info | quiz | again => simp [ViewController.IsGate] at hself
  | leaveQuiz hshows | tab hshows =>
      exact absurd (h.front hshows.2) (by simp [ViewController.IsGate])

/-- The root's tab bar, sent to the login page, takes everything with it. -/
theorem allGate_setLogin_rootBar (h : dev.rootBar = some bar) :
    (dev.setLogin bar).AllPages ViewController.IsGate := by
  have hholds : Stack.holds bar dev.root = true := by
    rw [rootBar] at h
    split at h
    · rename_i hroot
      cases h
      simp [hroot, Stack.holds, Screen.id]
    · cases h
  intro p hp
  rw [setLogin, display_root, updateEnclosing, if_pos hholds] at hp
  simp only [stackPages, Screen.pages, List.append_nil, List.mem_singleton] at hp
  rw [hp]
  exact Or.inl rfl

/-- A login page that some other controller puts in its place leaves the
root's tab bar where it is. -/
theorem Closed.setLogin (h : dev.Closed) : (dev.setLogin vc).Closed := by
  rcases h with h | ⟨bar, hbar, happ⟩
  · exact Or.inl (AllPages.setLogin h (Or.inl rfl))
  · rw [rootBar] at hbar
    split at hbar
    · rename_i bar' selected navs rest hroot
      cases hbar
      by_cases hholds : Stack.holds vc dev.root = true
      · refine Or.inl fun p hp => ?_
        rw [Device.setLogin, display_root, updateEnclosing, if_pos hholds] at hp
        simp only [stackPages, Screen.pages, List.append_nil, List.mem_singleton] at hp
        rw [hp]
        exact Or.inl rfl
      · refine Or.inr ⟨bar, ?_, ?_⟩
        · rw [rootBar, Device.setLogin, display_root, updateEnclosing, if_neg hholds,
            hroot, updateInner, Screen.updateEnclosing]
        · rw [Device.setLogin, display, updateEnclosing, if_neg hholds, hroot,
            updateInner, Screen.updateEnclosing]
          refine List.mem_filter.mpr ⟨List.mem_append_left _ happ, ?_⟩
          simp [stackVisibleTabs, Screen.visibleTabs]
    · cases hbar

/-- Without a uid the check keeps the gate closed. -/
theorem Closed.viewDidAppear (h : dev.Closed) (huid : dev.defaults.userUID = none) :
    (TabBarController.viewDidAppear dev bar).Closed := by
  rw [TabBarController.viewDidAppear]
  simp only [huid]
  rcases h with h | ⟨bar', hbar', happ⟩
  · exact Or.inl (AllPages.setLogin h (Or.inl rfl))
  · by_cases hne : bar' = bar
    · subst hne
      exact Or.inl (allGate_setLogin_rootBar hbar')
    · exact Closed.setLogin (Or.inr ⟨bar', hbar', (List.mem_erase_of_ne hne).mpr happ⟩)

/-- Without a uid the check of the root's tab bar closes the gate. -/
theorem closed_viewDidAppear_rootBar (huid : dev.defaults.userUID = none)
    (hbar : dev.rootBar = some bar) :
    (TabBarController.viewDidAppear dev bar).Closed := by
  rw [TabBarController.viewDidAppear]
  simp only [huid]
  exact Or.inl (allGate_setLogin_rootBar hbar)

end Device

section Step

variable {models : List Model} {d : DeviceId} {w : World} {dev' : Device} {e : Event}

/-- An action other than an appearance checks nothing. -/
theorem checksGate_act {a : Action} (ha : ∀ bar, a ≠ .viewDidAppear bar) :
    Event.checksGate d w (.act d a) = false := by
  cases a with
  | viewDidAppear bar => exact absurd rfl (ha bar)
  | _ => rfl

/-- One action: a check of the root's tab bar closes the gate, and no other
action opens it. -/
theorem Device.Does.closed {a : Action} {o : Outcome}
    (hdoes : (w.device d).Does models d a o)
    (huid : (w.device d).defaults.userUID = none)
    (h : Event.checksGate d w (.act d a) = false → (w.device d).Closed) :
    o.device.Closed := by
  have htap : (∀ bar, a ≠ .viewDidAppear bar) → (w.device d).appearing = [] →
      o.device.Closed :=
    fun ha happ => Or.inl (hdoes.allGate ((h (checksGate_act ha)).settled happ))
  have hplain : a.Plain → ∀ bar, a ≠ .viewDidAppear bar := by
    rintro ha bar rfl
    exact ha
  cases hdoes with
  | @appear bar _ =>
      by_cases hbar : (w.device d).rootBar = some bar
      · exact closed_viewDidAppear_rootBar huid hbar
      · exact (h (by simp [Event.checksGate, hbar])).viewDidAppear huid
  | switch hshows | back hshows | album hshows | leaveQuiz hshows | redeem hshows
  | gallery hshows | reset hshows => exact htap (by simp) hshows.1
  | push hshows _ ha | send hshows _ ha => exact htap (hplain ha) hshows.1
  | idle ha => exact h (checksGate_act (hplain ha))

/-- A callback of a deletion that does not open the gate removes no uid, or
removes it where only login and register pages are. -/
theorem closed_of_clearsUID (hclears : e.clearsUID d = true)
    (hopens : ¬ e.opensGate d w)
    (h : (w.device d).defaults.userUID = none → (w.device d).Closed) :
    (w.device d).Closed := by
  cases huid : (w.device d).defaults.userUID with
  | none => exact h huid
  | some u =>
      refine Or.inl fun p hp => ?_
      by_contra hgate
      exact hopens ⟨hclears, by rw [huid]; rfl, fun hall => hgate (hall p hp)⟩

/-- One event: with no uid stored afterwards the gate is closed, unless the
event opened it, or it stood open and the event was no check. -/
theorem Device.Moves.closed (hmoves : (w.device d).Moves models d e dev')
    (huid : dev'.defaults.userUID = none) (hopens : ¬ e.opensGate d w)
    (h : e.checksGate d w = false → (w.device d).defaults.userUID = none →
      (w.device d).Closed) : dev'.Closed := by
  cases hmoves with
  | act hdoes =>
      rw [hdoes.userUID] at huid
      exact hdoes.closed huid fun hchecks => h hchecks huid
  | signIn | createUser =>
      exact absurd (UserDefaults.string_set_string.symm.trans huid) (by simp)
  | documentDeleted =>
      exact closed_of_clearsUID (by simp [Event.clearsUID]) hopens (h rfl)
  | userDeleted =>
      have hclosed := closed_of_clearsUID (by simp [Event.clearsUID]) hopens (h rfl)
      exact Device.Closed.setLogin hclosed
  | deleteUser =>
      rw [Device.signOut_defaults] at huid
      have hclosed := h rfl huid
      rw [Device.signOut]
      split <;> exact hclosed
  | stay hsite =>
      refine h ?_ huid
      cases e with
      | act d' a =>
          have hd : d' ≠ d := fun hd => hsite (congrArg some hd)
          cases a <;> simp [Event.checksGate, hd]
      | reply | scoreRead | scoreWrite => rfl

end Step

/-- In every state of every run from launch in which no callback has removed
the device's uid since the root's tab bar last ran its check, once the
appearances are over: if no uid is stored, the gate is closed. -/
theorem guarded_of_checked {models : List Model} {d : DeviceId} {w₀ w : World}
    {es : List Event} (hlaunch : w₀.AtLaunch)
    (hrun : run (World.step models) w₀ es = some w)
    (hchecked : (trace (World.step models) (gateOp d) w₀ es).getLast? ≠ some .cleared)
    (hsettled : (w.device d).appearing = [])
    (huid : (w.device d).defaults.userUID = none) :
    (w.device d).Guarded models d := by
  have hclosed : (w.device d).Closed := by
    refine run_induction (P := fun es w => (w.device d).defaults.userUID = none →
      (trace (World.step models) (gateOp d) w₀ es).getLast? ≠ some .cleared →
      (w.device d).Closed) ?_ ?_ hrun huid hchecked
    · intro _ _
      obtain ⟨hroot, -, happ⟩ := hlaunch.screens d
      exact Or.inr ⟨0, by rw [Device.rootBar, hroot]; rfl, by simp [happ]⟩
    · intro es w e w' hw ih hstep huid hlast
      rw [trace_concat hw, gateOp] at hlast
      refine (World.step_moves hstep d).closed huid ?_ ?_
      · intro hopens
        simp [hopens] at hlast
      · intro hchecks huid₀
        refine ih huid₀ ?_
        split at hlast
        · simp at hlast
        · simpa [hchecks] using hlast
  have hgate := hclosed.settled hsettled
  intro actions dev' vc self _ hnav hfront
  have hgate' : dev'.AllPages ViewController.IsGate := by
    refine run_invariant (P := Device.AllPages ViewController.IsGate) ?_ hnav hgate
    intro dev a dev' hdev hact
    obtain ⟨o, ho, rfl⟩ := Option.map_eq_some_iff.mp hact
    exact (Device.act_does ho).allGate hdev
  exact hgate'.front hfront

/-- After a deletion, an album opened and left again brings the root's tab
bar back on screen. -/
def deletionChecked : List Event :=
  launchEvents ++ deletionEvents 1 "A" ++
    [.act 0 (.switchTab 0 2), .act 0 (.handleCellTap 0), .act 0 .backButtonTapped,
      .act 0 (.viewDidAppear 0)]

/-- Ana, signed in from an earlier launch, has the root's bar in place, and
the deletion hides that of her own tab only. -/
theorem guarded_after_check :
    ∃ w, run (World.step CollectionViewController.models) World.signedUp deletionChecked =
        some w ∧
      Shell.Possible CollectionViewController.models World.signedUp true deletionChecked ∧
      (w.device 0).appearing = [] ∧ (w.device 0).defaults.userUID = none ∧
      (w.device 0).Guarded CollectionViewController.models 0 := by
  have hrun : (run (World.step CollectionViewController.models) World.signedUp
      deletionChecked).map (fun w => ((w.device 0).appearing,
        (w.device 0).defaults.userUID)) = some ([], none) := by decide +kernel
  obtain ⟨w, hw, hobs⟩ := Option.map_eq_some_iff.mp hrun
  simp only [Prod.mk.injEq] at hobs
  exact ⟨w, hw, by decide +kernel, hobs.1, hobs.2,
    guarded_of_checked World.signedUp_atLaunch hw (by decide +kernel) hobs.1 hobs.2⟩

/-- After a deletion the other tabs are still there, one tap away. -/
theorem deletion_leaves_gate_open :
    ∃ w, run (World.step CollectionViewController.models) World.empty
        (firstSignUp ++ deletionEvents 9 "A") = some w ∧
      (∀ r, .reply r .failure ∉ firstSignUp ++ deletionEvents 9 "A") ∧
      w.requests = [] ∧ (w.device 0).appearing = [] ∧
      (w.device 0).defaults.userUID = none ∧
      ¬ (w.device 0).Guarded CollectionViewController.models 0 := by
  have hrun : (run (World.step CollectionViewController.models) World.empty
      (firstSignUp ++ deletionEvents 9 "A")).map (fun w => (w.requests,
        (w.device 0).appearing, (w.device 0).defaults.userUID)) =
      some ([], [], none) := by decide +kernel
  have hnav : (run (World.step CollectionViewController.models) World.empty
      (firstSignUp ++ deletionEvents 9 "A")).bind (fun w =>
        (run (fun dev a => (dev.act CollectionViewController.models 0 a).map
          Outcome.device) (w.device 0) [.switchTab 8 1]).map Device.front) =
      some (some (10, ⟨.option, none⟩)) := by decide +kernel
  obtain ⟨w, hw, hobs⟩ := Option.map_eq_some_iff.mp hrun
  simp only [Prod.mk.injEq] at hobs
  obtain ⟨hquiet, happ, huid⟩ := hobs
  rw [hw, Option.bind_some, Option.map_eq_some_iff] at hnav
  obtain ⟨dev', hdev', hfront⟩ := hnav
  refine ⟨w, hw, ?_, hquiet, happ, huid, fun hguarded => ?_⟩
  · intro r
    simp [firstSignUp, signUpEvents, deletionEvents]
  · have hgate := hguarded [.switchTab 8 1] dev' 10 ⟨.option, none⟩
      (by simp [Action.navigates]) hdev' hfront
    exact absurd hgate (by decide)

end GloboCollection
