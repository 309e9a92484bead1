import GloboCollection.Lib.Owners
import GloboCollection.Lib.Trace
import GloboCollection.App.World

/-!
# The navigation bars

`World` lets every button be tapped that the page in front has. Some of these
are not on the page: the back buttons, the quiz's "Voltar" and the album's
reset sit in the bar of the navigation controller, and a bar can be hidden.
The app hides it in three places, when a login page or a register page gives
way to a tab bar and when a home page gives way to the login page, and shows
it again in none.

`Shell` adds the hidden bars to the world and takes away the taps they make
impossible. Its runs are therefore runs of `World` (`Shell.run_world`), and
what is proved of all of those holds here; what is said to be possible is to
be proved here.

The home page keeps its navigation controller in a variable before it gives
up its place on it. The login and the register page ask for theirs a second
time, when they have left its stack; whether UIKit still names it while the
transition runs is not documented, so the event says whether it did. Where a
run is given as an example, `Shell.Possible` says which of the two it takes.
-/

namespace GloboCollection

open GloboCollection.Lib

/-- The buttons that sit in the bar of a navigation controller. -/
def Action.onBar : Action → Bool
  | .backButtonTapped | .buttonSearchTapped | .voltarButtonPressionado => true
  | _ => false

/-- The navigation controller of the controller `vc`, if it has one. -/
def Device.navigationController (dev : Device) (vc : Nat) : Option Nav :=
  owner vc dev.root

/-- The page in front is on a navigation controller with a hidden bar. -/
def Device.barHidden (dev : Device) (hidden : List Nav) : Bool :=
  match dev.front with
  | some (vc, _) =>
      match dev.navigationController vc with
      | some nav => nav ∈ hidden
      | none => false
  | none => false

/-- The tap is not on a hidden bar. -/
def Device.offers (dev : Device) (hidden : List Nav) (action : Action) : Bool :=
  !(action.onBar && dev.barHidden hidden)

/-- The world, and the navigation controllers with a hidden bar on each
device. -/
structure Shell where
  world : World
  hidden : DeviceId → List Nav

/-- An event of the world, and whether a controller that has just been
replaced still finds its navigation controller. -/
structure Shell.Event where
  event : GloboCollection.Event
  found : Bool
deriving DecidableEq, Repr

namespace Shell

/-- `setNavigationBarHidden(true)` on the navigation controller of `vc`. -/
def setNavigationBarHidden (s : Shell) (d : DeviceId) (vc : Nat) :
    DeviceId → List Nav :=
  Function.update s.hidden d
    (((s.world.device d).navigationController vc).toList ++ s.hidden d)

/-- The hidden bars after an event. -/
def hiddenAfter (s : Shell) : Shell.Event → DeviceId → List Nav
  | ⟨.reply (.signIn d vc _ _) (.successWith _), found⟩
  | ⟨.reply (.createUser d vc _ _ _) (.successWith _), found⟩ =>
      if found then s.setNavigationBarHidden d vc else s.hidden
  | ⟨.reply (.userDeleted d vc) .success, _⟩ => s.setNavigationBarHidden d vc
  | _ => s.hidden

/-- No tap of the event is on a hidden bar. -/
def allows (s : Shell) : GloboCollection.Event → Bool
  | .act d action => (s.world.device d).offers (s.hidden d) action
  | _ => true

def step (models : List Model) (s : Shell) (e : Shell.Event) : Option Shell :=
  if s.allows e.event then
    (s.world.step models e.event).map fun w => ⟨w, s.hiddenAfter e⟩
  else none

/-- The app has just been launched everywhere, with every bar in place. -/
structure AtLaunch (s : Shell) : Prop where
  world : s.world.AtLaunch
  hidden : ∀ d, s.hidden d = []

/-- A tap of the user of device `d`. -/
def tap (d : DeviceId) (action : Action) : Shell.Event := ⟨.act d action, true⟩

/-- Events in which every controller finds its navigation controller. -/
def found (es : List GloboCollection.Event) : List Shell.Event :=
  es.map fun e => ⟨e, true⟩

/-- Events that are possible from `w`, where every bar is in place, if every
controller finds its navigation controller, or none. -/
def Possible (models : List Model) (w : World) (found : Bool)
    (es : List GloboCollection.Event) : Prop :=
  (run (Shell.step models) ⟨w, fun _ => []⟩ (es.map fun e => ⟨e, found⟩)).isSome = true

instance {models : List Model} {w : World} {found : Bool}
    {es : List GloboCollection.Event} : Decidable (Possible models w found es) :=
  inferInstanceAs (Decidable (_ = true))

/-- No one has ever used the app. -/
def empty : Shell := ⟨World.empty, fun _ => []⟩

theorem empty_atLaunch : empty.AtLaunch := ⟨World.empty_atLaunch, fun _ => rfl⟩

variable {models : List Model} {s s' : Shell} {e : Shell.Event} {d : DeviceId}

theorem step_some :
    s.step models e = some s' ↔
      s.allows e.event = true ∧ s.world.step models e.event = some s'.world ∧
        s'.hidden = s.hiddenAfter e := by
  rw [step]
  split <;> rename_i hallows
  · rw [Option.map_eq_some_iff]
    constructor
    · intro h
      obtain ⟨w, hw, rfl⟩ := h
      exact ⟨hallows, hw, rfl⟩
    · intro h
      obtain ⟨-, hw, hhidden⟩ := h
      exact ⟨s'.world, hw, by rw [← hhidden]⟩
  · simp [hallows]

/-- Every run of the shell is one of the world. -/
theorem run_world {es : List Shell.Event} (h : run (Shell.step models) s es = some s') :
    run (World.step models) s.world (es.map Event.event) = some s'.world :=
  run_project (fun _ _ _ hstep => (step_some.mp hstep).2.1) h

/-- The event hides a bar, given whether controllers find theirs. -/
def hidesBar (found : Bool) : GloboCollection.Event → Bool
  | .reply (.signIn ..) (.successWith _) | .reply (.createUser ..) (.successWith _) => found
  | .reply (.userDeleted ..) .success => true
  | _ => false

theorem hiddenAfter_of_hidesBar {found : Bool} {e : GloboCollection.Event}
    (h : hidesBar found e = false) : s.hiddenAfter ⟨e, found⟩ = s.hidden := by
  rw [hiddenAfter.eq_def]
  split <;> rename_i heq
  · cases heq
    exact if_neg (by simpa [hidesBar] using h)
  · cases heq
    exact if_neg (by simpa [hidesBar] using h)
  · cases heq
    cases h
  · rfl

/-- As long as no bar is hidden, what the world allows the bars allow. -/
theorem possible_of_run {found : Bool} {w w' : World} {es : List GloboCollection.Event}
    (hes : ∀ e ∈ es, hidesBar found e = false)
    (hrun : run (World.step models) w es = some w') : Possible models w found es := by
  rw [Possible]
  induction es generalizing w with
  | nil => rfl
  | cons e es ih =>
      rw [run_cons, Option.bind_eq_some_iff] at hrun
      obtain ⟨w₁, hw₁, hrun⟩ := hrun
      rw [List.forall_mem_cons] at hes
      have hallows : (⟨w, fun _ => []⟩ : Shell).allows e = true := by
        cases e with
        | act d action =>
            simp only [allows, Device.offers, Device.barHidden]
            split
            · split <;> simp
            · simp
        | reply | scoreRead | scoreWrite => rfl
      have hhidden : (⟨w, fun _ => []⟩ : Shell).hiddenAfter ⟨e, found⟩ = fun _ => [] :=
        hiddenAfter_of_hidesBar hes.1
      have hstep : (⟨w, fun _ => []⟩ : Shell).step models ⟨e, found⟩ =
          some ⟨w₁, fun _ => []⟩ := step_some.mpr ⟨hallows, hw₁, hhidden.symm⟩
      rw [List.map_cons, run_cons, hstep]
      exact ih hes.2 hrun

theorem mem_setNavigationBarHidden {nav : Nav} {d' : DeviceId} {vc : Nat} :
    nav ∈ s.setNavigationBarHidden d' vc d ↔
      nav ∈ s.hidden d ∨
        (d' = d ∧ (s.world.device d).navigationController vc = some nav) := by
  rw [setNavigationBarHidden]
  by_cases hd : d = d'
  · subst hd
    rw [Function.update_self, List.mem_append, Option.mem_toList]
    simp [or_comm]
  · rw [Function.update_of_ne hd]
    simp [Ne.symm hd]

/-- Nothing shows a bar again. -/
theorem hidden_subset (e : Shell.Event) : s.hidden d ⊆ s.hiddenAfter e d := by
  have hset : ∀ d' vc, s.hidden d ⊆ s.setNavigationBarHidden d' vc d :=
    fun d' vc nav hnav => mem_setNavigationBarHidden.mpr (Or.inl hnav)
  rw [hiddenAfter.eq_def]
  split
  · split
    · exact hset _ _
    · exact List.Subset.refl _
  · split
    · exact hset _ _
    · exact List.Subset.refl _
  · exact hset _ _
  · exact List.Subset.refl _

end Shell

end GloboCollection
