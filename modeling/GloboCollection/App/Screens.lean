import GloboCollection.Lib.Containers
import GloboCollection.App.Defaults

/-!
# The screens of a device

The window shows a navigation controller, and `SceneDelegate` puts one
`TabBarController` on it. A tab bar holds five navigation controllers with
one page each. From there on screens are pushed on, or set in, the
navigation controller that encloses whichever screen acts: a login page that
sits inside a tab acts on that tab, one that sits on the root acts on the
root.

`viewDidAppear` of a tab bar runs once the bar has come on screen, after the
transition that brought it there. `Device.appearing` lists the bars for
which it is still to run; every change of the screens goes through
`Device.display`, which keeps that list.
-/

namespace GloboCollection

open GloboCollection.Lib

/-- The view controllers that fill a screen, with the data handed to them. An
info page keeps what its `viewDidLoad` found. -/
inductive Page where
  | home
  | option
  | collection
  | myView
  | downloads
  | login
  | register
  | details (collections : Option (List Collection))
  | info (collectionData : Option Collection) (view : InfoView)
  | web (collectionData : Option Collection)
  | result (canRedeem : Bool) (collectionData : Option Collection)
  | error (canRedeem : Bool) (collectionData : Option Collection)
deriving DecidableEq

/-- A page on the screen. `origin` is the sticker whose selection in the
gallery opened it, directly or through the screens in between; it is there
to state properties with, and no code reads it. -/
structure ViewController where
  page : Page
  origin : Option Collection
deriving DecidableEq

structure Device where
  defaults : UserDefaults
  currentUser : Option Uid
  root : Stack ViewController
  nextId : Nat
  appearing : List Nat

/-- The five pages a tab bar starts with, in the order of its tabs. -/
def tabPages : List Page := [.home, .option, .collection, .myView, .downloads]

theorem forall_tabPages {P : Page → Prop} :
    (∀ page ∈ tabPages, P page) ↔
      P .home ∧ P .option ∧ P .collection ∧ P .myView ∧ P .downloads := by
  simp [tabPages]

/-- A new tab bar with the identity `id`; its pages take the next five. -/
def TabBarController (id : Nat) : Screen ViewController :=
  .tabs id 0
    [[.page (id + 1) ⟨.home, none⟩], [.page (id + 2) ⟨.option, none⟩],
      [.page (id + 3) ⟨.collection, none⟩], [.page (id + 4) ⟨.myView, none⟩],
      [.page (id + 5) ⟨.downloads, none⟩]]

namespace Device

/-- The page in front. -/
def front (dev : Device) : Option (Nat × ViewController) := stackFront dev.root

/-- Show `root`, for which `fresh` new controllers were made. The tab bars
that were not on screen before are to appear; those that are gone again never
do. -/
def display (dev : Device) (root : Stack ViewController) (fresh : Nat) : Device :=
  { dev with
    root := root
    nextId := dev.nextId + fresh
    appearing :=
      (dev.appearing ++
        (stackVisibleTabs root).filter fun b => b ∉ stackVisibleTabs dev.root).filter
          fun b => b ∈ stackVisibleTabs root }

/-- `navigationController?.pushViewController` of the controller `vc`. -/
def pushViewController (dev : Device) (vc : Nat) (new : ViewController) : Device :=
  dev.display (updateEnclosing vc (fun stk => .page dev.nextId new :: stk) dev.root) 1

/-- `navigationController?.popViewController` of the controller `vc`. -/
def popViewController (dev : Device) (vc : Nat) : Device :=
  dev.display (updateEnclosing vc popStack dev.root) 0

/-- `navigationController?.setViewControllers` with a new tab bar. -/
def setTabBar (dev : Device) (vc : Nat) : Device :=
  dev.display (updateEnclosing vc (fun _ => [TabBarController dev.nextId]) dev.root) 6

/-- `navigationController?.setViewControllers` with a new login page. -/
def setLogin (dev : Device) (vc : Nat) : Device :=
  dev.display
    (updateEnclosing vc (fun _ => [.page dev.nextId ⟨.login, none⟩]) dev.root) 1

/-- The screens at launch: one tab bar on the root, still to appear. -/
def AtLaunch (dev : Device) : Prop :=
  dev.root = [TabBarController 0] ∧ dev.nextId = 6 ∧ dev.appearing = [0]

/-- A device on which the app is launched for the first time. -/
def fresh : Device := ⟨∅, none, [TabBarController 0], 6, [0]⟩

theorem fresh_atLaunch : fresh.AtLaunch := ⟨rfl, rfl, rfl⟩

end Device

/-! ## The transitions between the signed-in and the signed-out screens -/

def TabBarController.redirectToLoginScreen (dev : Device) (bar : Nat) : Device :=
  dev.setLogin bar

/-- The gate: without a stored uid the tab bar gives way to the login page. -/
def TabBarController.viewDidAppear (dev : Device) (bar : Nat) : Device :=
  let dev := { dev with appearing := dev.appearing.erase bar }
  match dev.defaults.userUID with
  | some _ => dev
  | none => redirectToLoginScreen dev bar

def LoginViewController.transitionToTabBar (dev : Device) (vc : Nat) : Device :=
  dev.setTabBar vc

def RegisterViewController.transitionToTabBar (dev : Device) (vc : Nat) : Device :=
  dev.setTabBar vc

/-- Without a navigation controller the login page is presented on a page
that is itself off screen, which shows nothing. -/
def HomeViewController.transitionToLogin (dev : Device) (vc : Nat) : Device :=
  dev.setLogin vc

/-! ## What the transitions leave alone -/

namespace Device

variable {dev : Device} {vc fresh : Nat} {root : Stack ViewController}
  {new : ViewController}

@[simp] theorem display_root : (dev.display root fresh).root = root := rfl

@[simp] theorem pushViewController_defaults :
    (dev.pushViewController vc new).defaults = dev.defaults := rfl

/-! ## What the transitions do to the pages

A fact about all pages on the device, behind whatever tab they are, is kept
by each transition that brings in only pages with the fact. -/

/-- Every page on the device has the property. -/
def AllPages (P : ViewController → Prop) (dev : Device) : Prop :=
  ∀ p ∈ stackPages dev.root, P p.2

variable {P : ViewController → Prop}

theorem AllPages.front (h : dev.AllPages P) {self : ViewController}
    (hf : dev.front = some (vc, self)) : P self :=
  h (vc, self) (stackFront_mem hf)

theorem allPages_tabBar (hP : ∀ page ∈ tabPages, P ⟨page, none⟩) (id : Nat) :
    ∀ p ∈ (TabBarController id).pages, P p.2 := by
  intro p hp
  simp only [TabBarController, Screen.pages, navPages, stackPages,
    List.append_nil, List.singleton_append, List.mem_cons,
    List.not_mem_nil, or_false] at hp
  rcases hp with rfl | rfl | rfl | rfl | rfl <;> exact hP _ (by decide)

theorem AllPages.pushViewController (h : dev.AllPages P) (hnew : P new) :
    (dev.pushViewController vc new).AllPages P := by
  refine forall_pages_updateEnclosing (fun stk hstk => ?_) h
  rw [forall_stackPages_cons]
  refine ⟨fun p hp => ?_, hstk⟩
  rw [Screen.pages, List.mem_singleton] at hp
  rw [hp]
  exact hnew

theorem AllPages.popViewController (h : dev.AllPages P) :
    (dev.popViewController vc).AllPages P :=
  forall_pages_updateEnclosing (fun _ hstk => forall_pages_popStack hstk) h

theorem AllPages.setTabBar (h : dev.AllPages P)
    (hP : ∀ page ∈ tabPages, P ⟨page, none⟩) : (dev.setTabBar vc).AllPages P := by
  refine forall_pages_updateEnclosing (fun stk _ => ?_) h
  rw [forall_stackPages_cons]
  exact ⟨allPages_tabBar hP _, by simp [stackPages]⟩

theorem AllPages.setLogin (h : dev.AllPages P) (hP : P ⟨.login, none⟩) :
    (dev.setLogin vc).AllPages P := by
  refine forall_pages_updateEnclosing (fun stk _ => ?_) h
  rw [forall_stackPages_cons]
  refine ⟨fun p hp => ?_, by simp [stackPages]⟩
  rw [Screen.pages, List.mem_singleton] at hp
  rw [hp]
  exact hP

theorem AllPages.atLaunch (h : dev.AtLaunch)
    (hP : ∀ page ∈ tabPages, P ⟨page, none⟩) : dev.AllPages P := by
  intro p hp
  rw [h.1, stackPages, stackPages, List.append_nil] at hp
  exact allPages_tabBar hP 0 p hp

end Device

theorem TabBarController.viewDidAppear_defaults {dev : Device} {bar : Nat} :
    (TabBarController.viewDidAppear dev bar).defaults = dev.defaults := by
  rw [TabBarController.viewDidAppear]
  split <;> rfl

theorem TabBarController.viewDidAppear_currentUser {dev : Device} {bar : Nat} :
    (TabBarController.viewDidAppear dev bar).currentUser = dev.currentUser := by
  rw [TabBarController.viewDidAppear]
  split <;> rfl

theorem Device.AllPages.viewDidAppear {dev : Device} {bar : Nat}
    {P : ViewController → Prop} (h : dev.AllPages P) (hP : P ⟨.login, none⟩) :
    (TabBarController.viewDidAppear dev bar).AllPages P := by
  rw [TabBarController.viewDidAppear]
  split
  · exact h
  · have h' : Device.AllPages P { dev with appearing := dev.appearing.erase bar } := h
    exact h'.setLogin hP

end GloboCollection
