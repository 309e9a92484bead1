import GloboCollection.Proofs.Steps

/-!
# Where a page's sticker comes from

The sticker is handed from screen to screen: the gallery gives it to the
info page, the info page to the quiz, the quiz to the result page, and a
failed quiz would give it back. `Genuine` says that nothing is lost or
exchanged on the way: every such page carries the sticker that was selected,
and that sticker is one of the catalogue. It holds of every page, in front
or behind, in every state the app reaches.

The induction is on the steps. `Device.Brings` lists the pages an action can
bring in, and `Does.allPages` is the one place where the screens of a step
are gone through: a fact about all pages is kept if those have it. `PageRule`
is what the induction needs of such a fact: that the tab pages have it, and
that whatever a page with the fact opens has it too. `Moves.noResult` is about
the one kind of page that a single action brings in.
-/

namespace GloboCollection

open GloboCollection.Lib

/-! ## The pages an event brings in -/

/-- The pages an action can bring in, each with the page it comes from. -/
inductive Device.Brings (models : List Model) (dev : Device) :
    Action → ViewController → Prop
  | login {bar : Nat} : Brings models dev (.viewDidAppear bar) ⟨.login, none⟩
  | album {row vc : Nat} {self : ViewController} {m : Model}
      (hshows : dev.Shows vc self) (hpage : self.page = .collection) (hm : m ∈ models) :
      Brings models dev (.handleCellTap row) ⟨.details (some m.figurinhas), none⟩
  | opens {a : Action} {vc : Nat} {self new : ViewController}
      (hshows : dev.Shows vc self) (hopens : Opens dev.defaults a self new) :
      Brings models dev a new
  | leaveQuiz {vc : Nat} {collectionData origin : Option Collection}
      (hshows : dev.Shows vc ⟨.web collectionData, origin⟩) :
      Brings models dev .voltarButtonPressionado ⟨.result false collectionData, origin⟩
  | tab {vc : Nat} {canRedeem : Bool} {collectionData origin : Option Collection}
      {page : Page} (hshows : dev.Shows vc ⟨.result canRedeem collectionData, origin⟩)
      (hpage : page ∈ tabPages) :
      Brings models dev .galeryButtonTapped ⟨page, none⟩

section Brings

variable {models : List Model} {P : ViewController → Prop} {d : DeviceId}
  {dev dev' : Device} {a : Action} {o : Outcome} {e : Event}

/-- An action keeps a fact about all pages if the pages it brings in have
it. -/
theorem Device.Does.allPages (hdoes : dev.Does models d a o) (h : dev.AllPages P)
    (hnew : ∀ new, dev.Brings models a new → P new) : o.device.AllPages P := by
  cases hdoes with
  | appear => exact h.viewDidAppear (hnew _ .login)
  | switch =>
      intro p hp
      rw [Outcome.local, Device.display_root, stackPages_selectTab] at hp
      exact h p hp
  | back => exact h.popViewController
  | album hshows hpage hm =>
      rw [Device.AllPages, Outcome.local, Device.display_root, forall_stackPages_cons]
      refine ⟨fun p hp => ?_, h⟩
      rw [Screen.pages, List.mem_singleton] at hp
      rw [hp]
      exact hnew _ (.album hshows hpage hm)
  | push hshows hopens => exact h.pushViewController (hnew _ (.opens hshows hopens))
  | leaveQuiz hshows =>
      exact Device.AllPages.pushViewController h (hnew _ (.leaveQuiz hshows))
  | gallery hshows =>
      refine forall_pages_updateEnclosing (fun stk hstk => ?_) h
      rw [forall_stackPages_cons]
      exact ⟨Device.allPages_tabBar (fun page hpage => hnew _ (.tab hshows hpage)) _,
        hstk⟩
  | redeem | reset | send | idle => exact h

/-- An event keeps a fact about all pages if the tab pages, the login page and
the pages an action brings in have it. -/
theorem Device.Moves.allPages (hmoves : dev.Moves models d e dev')
    (h : dev.AllPages P) (htab : ∀ page ∈ tabPages, P ⟨page, none⟩)
    (hlogin : P ⟨.login, none⟩)
    (hnew : ∀ a new, e = .act d a → dev.Brings models a new → P new) :
    dev'.AllPages P := by
  cases hmoves with
  | act hdoes => exact hdoes.allPages h fun new => hnew _ new rfl
  | signIn | createUser => exact Device.AllPages.setTabBar h htab
  | documentDeleted | stay => exact h
  | deleteUser =>
      rw [Device.AllPages, Device.signOut_root]
      exact h
  | userDeleted => exact Device.AllPages.setLogin h hlogin

end Brings

/-! ## Facts that are handed on -/

/-- A fact that every new page has, if the page that opened it does. -/
structure PageRule (models : List Model) (P : ViewController → Prop) : Prop where
  tab : ∀ page ∈ tabPages, P ⟨page, none⟩
  login : P ⟨.login, none⟩
  album : ∀ m ∈ models, P ⟨.details (some m.figurinhas), none⟩
  opens : ∀ {ud a self new}, Opens ud a self new → P self → P new
  leaveQuiz : ∀ {c origin}, P ⟨.web c, origin⟩ → P ⟨.result false c, origin⟩

namespace PageRule

variable {models : List Model} {P : ViewController → Prop} {d : DeviceId}
  {dev dev' : Device} {e : Event}

theorem moves (hP : PageRule models P) (h : dev.AllPages P)
    (hmoves : dev.Moves models d e dev') : dev'.AllPages P := by
  refine hmoves.allPages h hP.tab hP.login ?_
  intro a new _ hbrings
  cases hbrings with
  | login => exact hP.login
  | album _ _ hm => exact hP.album _ hm
  | opens hshows hopens => exact hP.opens hopens (h.front hshows.2)
  | leaveQuiz hshows => exact hP.leaveQuiz (h.front hshows.2)
  | tab _ hpage => exact hP.tab _ hpage

/-- The fact holds of every page, in every state a run from launch reaches. -/
theorem run (hP : PageRule models P) {w₀ w : World} {es : List Event}
    (hlaunch : w₀.AtLaunch) (hrun : Lib.run (World.step models) w₀ es = some w) :
    ∀ d, (w.device d).AllPages P := by
  refine run_invariant (P := fun w => ∀ d, (w.device d).AllPages P)
    (fun w e w' hw hstep d => hP.moves (hw d) (World.step_moves hstep d)) hrun ?_
  exact fun d => Device.AllPages.atLaunch (hlaunch.screens d) hP.tab

end PageRule

/-- A page that carries a sticker carries the one that was selected for it,
a sticker of the catalogue; an album page shows an album. -/
def Genuine (models : List Model) (vc : ViewController) : Prop :=
  match vc.page with
  | .details collections => ∃ m ∈ models, collections = some m.figurinhas
  | .info c _ | .web c | .result _ c | .error _ c =>
      c = vc.origin ∧ ∃ c' ∈ catalogue models, c = some c'
  | .home | .option | .collection | .myView | .downloads | .login | .register => True

theorem genuine_rule (models : List Model) : PageRule models (Genuine models) := by
  refine ⟨?_, trivial, fun m hm => ⟨m, hm, rfl⟩, ?_, id⟩
  · rw [forall_tabPages]
    exact ⟨trivial, trivial, trivial, trivial, trivial⟩
  · intro ud a self new hopens hself
    cases hopens with
    | info hc =>
        obtain ⟨m, hm, hcollections⟩ := hself
        cases hcollections
        exact ⟨rfl, _, mem_catalogue hm (List.mem_of_getElem? hc), rfl⟩
    | quiz => exact hself
    | again => exact hself
    | register => trivial

/-! ## No result page -/

/-- The page is not a result. -/
def NoResult (vc : ViewController) : Prop := ∀ canRedeem c, vc.page ≠ .result canRedeem c

theorem noResult_tabPages : ∀ page ∈ tabPages, NoResult ⟨page, none⟩ := by
  rw [forall_tabPages]
  simp [NoResult]

/-- Only leaving a quiz brings in a result page. -/
theorem Device.Moves.noResult {models : List Model} {d : DeviceId} {dev dev' : Device}
    {e : Event} (hmoves : dev.Moves models d e dev')
    (he : e ≠ .act d .voltarButtonPressionado) (h : dev.AllPages NoResult) :
    dev'.AllPages NoResult := by
  refine hmoves.allPages h noResult_tabPages (by simp [NoResult]) ?_
  intro a new ha hbrings
  cases hbrings with
  | login | album => simp [NoResult]
  | opens _ hopens => cases hopens <;> simp [NoResult]
  | leaveQuiz => exact absurd ha he
  | tab _ hpage => exact noResult_tabPages _ hpage

end GloboCollection
