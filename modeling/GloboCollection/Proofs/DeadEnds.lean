import Mathlib.Logic.Relation
import GloboCollection.Proofs.Trapped

/-!
# Dead ends

The quiz, the result and the tab bars hide the back button, the gate takes
screens away while the user looks on, and a deletion leaves a login page in a
tab. Is there always a way on? There is, with the one exception of
`Trapped`: from every other state the app can get into, a few taps lead to
the list of albums, or to the login or the register page when no uid is
stored or when these are all there is.

The way out is read off the path. A sticker and an album have a back button;
a quiz can be left and a result leads to a new tab bar; and a tab bar at the
head of the root has its album tab. What stands between is the gate, which
runs once for each bar that comes on screen and may replace one of them by
the login page. It runs a finite number of times, because what it puts there
brings no new bar on screen: `Device.exists_settled`.
-/

namespace GloboCollection

open GloboCollection.Lib

/-! ## What a user can reach -/

/-- One action of the user of device `d`, with the bars of `hidden` hidden. -/
def Device.Acts (models : List Model) (d : DeviceId) (hidden : List Nav)
    (dev dev' : Device) : Prop :=
  ∃ a o, dev.offers hidden a = true ∧ dev.act models d a = some o ∧ o.device = dev'

/-- Some actions, one after the other. -/
def Device.Leads (models : List Model) (d : DeviceId) (hidden : List Nav) :
    Device → Device → Prop :=
  Relation.ReflTransGen (Device.Acts models d hidden)

/-- What the invariants of the other modules say of one device. -/
structure Device.Sane (models : List Model) (dev : Device) : Prop where
  distinct : dev.Distinct
  path : Path models dev.root

/-- The root has a tab bar in front, or is the login page's. -/
inductive Ground : Stack ViewController → Prop
  | bar {bar selected : Nat} {navs : List (Stack ViewController)}
      {rest : Stack ViewController} : Ground (.tabs bar selected navs :: rest)
  | gate {root : Stack ViewController} (h : GateStack root) : Ground root

section Acting

variable {models : List Model} {d : DeviceId} {hidden : List Nav} {dev dev' : Device}
  {a : Action} {o : Outcome}

theorem Device.Does.sane (hdoes : dev.Does models d a o) (h : dev.Sane models) :
    o.device.Sane models := by
  have hturns := hdoes.turns h.distinct
  obtain ⟨hn, hnodup, hcontrollers⟩ :=
    hturns.bringsFresh h.distinct.nodup h.distinct.below
  refine ⟨⟨hnodup, fun i hi => ?_, ?_⟩, hturns.path h.path⟩
  · obtain ⟨c, hc, rfl⟩ := List.mem_map.mp hi
    rcases hcontrollers c hc with hold | ⟨-, hlt⟩
    · have hlt := h.distinct.below c.1 (List.mem_map_of_mem hold)
      omega
    · exact hlt
  · exact (Device.Moves.act hdoes).appearing h.distinct.appearing

theorem Device.leads_act (hoffers : dev.offers hidden a = true)
    (h : dev.act models d a = some o) : dev.Leads models d hidden o.device :=
  .single ⟨a, o, hoffers, h, rfl⟩

/-- The user's actions are events of the shell, whatever else is going on. -/
theorem Device.Leads.exists_run (h : dev.Leads models d hidden dev') {s : Shell}
    (hdev : s.world.device d = dev) (hhidden : s.hidden d = hidden) :
    ∃ (actions : List Action) (s' : Shell),
      run (Shell.step models) s (actions.map (Shell.tap d)) = some s' ∧
        s'.world.device d = dev' := by
  induction h using Relation.ReflTransGen.head_induction_on generalizing s with
  | refl => exact ⟨[], s, rfl, hdev⟩
  | head hact _ ih =>
      obtain ⟨a, o, hoffers, hact, rfl⟩ := hact
      obtain ⟨w₁, hstep, hdev₁⟩ : ∃ w₁, s.world.step models (.act d a) = some w₁ ∧
          w₁.device d = o.device := by
        rw [World.step, World.act, hdev, hact]
        exact ⟨_, rfl, Function.update_self ..⟩
      have hallows : s.allows (.act d a) = true := by
        rw [Shell.allows, hdev, hhidden]
        exact hoffers
      have hshell : s.step models (Shell.tap d a) = some ⟨w₁, s.hidden⟩ :=
        Shell.step_some.mpr ⟨hallows, hstep, rfl⟩
      obtain ⟨actions, s', hrun, hdev'⟩ := ih (s := ⟨w₁, s.hidden⟩) hdev₁ hhidden
      exact ⟨a :: actions, s',
        by rw [List.map_cons, run_cons, hshell, Option.bind_some, hrun], hdev'⟩

/-! ## Appearing -/

/-- A change of the screens that brings no tab bar on screen leaves none to
appear that was not to appear before. -/
theorem Device.display_appearing {root : Stack ViewController} {fresh : Nat}
    (h : ∀ bar ∈ stackVisibleTabs root, bar ∈ stackVisibleTabs dev.root) :
    (dev.display root fresh).appearing =
      dev.appearing.filter fun bar => bar ∈ stackVisibleTabs root := by
  have hnew : (stackVisibleTabs root).filter (fun b => b ∉ stackVisibleTabs dev.root) = [] := by
    rw [List.filter_eq_nil_iff]
    intro bar hbar
    simp [h bar hbar]
  rw [Device.display, hnew, List.append_nil]

/-- One run of the gate: one bar less is to appear, and the head of the root
stays a tab bar or becomes the login page. -/
theorem Device.Sane.viewDidAppear (h : dev.Sane models) {bar : Nat}
    (hbar : bar ∈ dev.appearing) :
    (TabBarController.viewDidAppear dev bar).appearing.length < dev.appearing.length ∧
      (dev.defaults.userUID ≠ none →
        (TabBarController.viewDidAppear dev bar).root = dev.root) ∧
      (Ground dev.root → Ground (TabBarController.viewDidAppear dev bar).root) := by
  have herase : (dev.appearing.erase bar).length < dev.appearing.length := by
    have hpos := List.length_pos_of_mem hbar
    rw [List.length_erase_of_mem hbar]
    omega
  rw [TabBarController.viewDidAppear]
  dsimp only
  split <;> rename_i huid
  · exact ⟨herase, fun _ => rfl, id⟩
  · obtain ⟨C, selected, navs, rest, hC, hroot⟩ :=
      exists_plug_of_visibleTabs (h.distinct.appearing bar hbar)
    have hnodup := h.distinct.nodup
    rw [hroot] at hnodup
    have hupdate : updateEnclosing bar
        (fun _ => [.page dev.nextId ⟨.login, none⟩]) dev.root =
          C.plug [.page dev.nextId ⟨.login, none⟩] := by
      rw [hroot, Context.updateEnclosing_plug hnodup]
      simp [Stack.holds, Screen.id]
    rw [TabBarController.redirectToLoginScreen, Device.setLogin]
    dsimp only
    rw [hupdate]
    refine ⟨?_, fun hsome => absurd huid hsome, fun _ => ?_⟩
    · rw [Device.display_appearing]
      · exact Nat.lt_of_le_of_lt (List.length_filter_le _ _) herase
      · dsimp only
        rw [hroot, hC.visibleTabs_plug, hC.visibleTabs_plug]
        intro b hb
        exact List.mem_append_left _ (by simpa [stackVisibleTabs, Screen.visibleTabs] using hb)
    · rw [Device.display_root]
      cases C with
      | here => exact .gate .login
      | under before bar' selected' left inner right after =>
          obtain ⟨rfl, -, -⟩ := hC
          exact .bar

/-- The appearances come to an end. -/
theorem Device.Sane.exists_settled (h : dev.Sane models) (d : DeviceId)
    (hidden : List Nav) :
    ∃ dev', dev.Leads models d hidden dev' ∧ dev'.Sane models ∧ dev'.appearing = [] ∧
      (dev.defaults.userUID ≠ none → dev'.root = dev.root) ∧
      (Ground dev.root → Ground dev'.root) := by
  induction hlen : dev.appearing.length using Nat.strong_induction_on generalizing dev with
  | _ len ih =>
      cases happ : dev.appearing with
      | nil => exact ⟨dev, .refl, h, happ, fun _ => rfl, id⟩
      | cons bar rest =>
          have hbar : bar ∈ dev.appearing := by simp [happ]
          have hact : dev.act models d (.viewDidAppear bar) =
              some (.local (TabBarController.viewDidAppear dev bar)) := by
            rw [Device.act, if_pos hbar]
          obtain ⟨hlt, hroot, hground⟩ := h.viewDidAppear hbar
          have huid : (TabBarController.viewDidAppear dev bar).defaults.userUID =
              dev.defaults.userUID :=
            congrArg UserDefaults.userUID TabBarController.viewDidAppear_defaults
          obtain ⟨dev', hleads, hsane, hnil, hroot', hground'⟩ :=
            ih _ (hlen ▸ hlt) ((Device.act_does hact).sane h) rfl
          refine ⟨dev', (Device.leads_act rfl hact).trans hleads, hsane, hnil, ?_, ?_⟩
          · intro hsome
            exact (hroot' (huid ▸ hsome)).trans (hroot hsome)
          · exact fun hg => hground' (hground hg)

/-! ## The way out of each screen -/

/-- The user is at the list of albums or at the login page, free to act. -/
def Device.Arrived (dev : Device) (page : Page) : Prop :=
  dev.appearing = [] ∧ ∃ vc self, dev.front = some (vc, self) ∧ self.page = page

theorem Device.Sane.exists_front (h : dev.Sane models) :
    ∃ vc self, dev.front = some (vc, self) := by
  obtain ⟨⟨vc, self⟩, hfront⟩ := Option.isSome_iff_exists.mp h.path.front_isSome
  exact ⟨vc, self, hfront⟩

/-- A tab bar at the head of the root has its album tab. -/
theorem Device.Sane.leads_albums (h : dev.Sane models) (hidden : List Nav)
    (happ : dev.appearing = [])
    {bar selected : Nat} {navs : List (Stack ViewController)} {rest : Stack ViewController}
    (hroot : dev.root = .tabs bar selected navs :: rest) :
    ∃ dev', dev.Leads models d hidden dev' ∧ dev'.Arrived .collection := by
  obtain ⟨vc, self, hfront⟩ := h.exists_front
  have hbar : bar ∈ stackVisibleTabs dev.root := by
    simp [hroot, stackVisibleTabs, Screen.visibleTabs]
  have hact : dev.act models d (.switchTab bar 2) =
      some (.local (dev.display (stackSelectTab bar 2 dev.root) 0)) := by
    refine Device.tap_some.mpr ⟨happ, vc, self, hfront, ?_⟩
    exact if_pos ⟨hbar, by decide⟩
  have hnodup := h.distinct.nodup
  rw [hroot] at hnodup
  have hselect : stackSelectTab bar 2 dev.root = .tabs bar 2 navs :: rest := by
    rw [hroot]
    exact Context.stackSelectTab_plug (C := .here) hnodup
  have hpath := h.path
  rw [hroot] at hpath
  refine ⟨_, Device.leads_act rfl hact, ?_⟩
  rw [Outcome.local, hselect]
  cases hpath.head_bar with
  | @mk _ _ i₁ i₂ i₃ i₄ home =>
      refine ⟨?_, i₂, ⟨.collection, none⟩, rfl, rfl⟩
      rw [Device.display_appearing, happ, List.filter_nil]
      intro b hb
      obtain rfl : b = bar := by
        simpa [stackVisibleTabs, Screen.visibleTabs, navVisibleTabs] using hb
      exact hbar

/-- Going back from the page at the head of the root. -/
theorem Device.act_back (models : List Model) (d : DeviceId) {vc : Nat}
    {self : ViewController} {t : Screen ViewController} {rest : Stack ViewController}
    (hroot : dev.root = .page vc self :: t :: rest)
    (happ : dev.appearing = []) (hpage : self.page.goesBack) :
    dev.act models d .backButtonTapped = some (.local (dev.display (t :: rest) 0)) := by
  refine Device.tap_some.mpr ⟨happ, vc, self, Device.front_of_head hroot, ?_⟩
  have hpop : dev.popViewController vc = dev.display (t :: rest) 0 := by
    rw [Device.popViewController, hroot, updateEnclosing, if_pos holds_page, popStack]
  rw [Handlers.backButtonTapped, hpop]
  cases hp : self.page <;> rw [hp] at hpage <;> first | rfl | exact hpage.elim

/-- The user is at one of the pages to sign in or up at. -/
def Device.AtGate (dev : Device) : Prop := dev.Arrived .login ∨ dev.Arrived .register

theorem Device.atGate_of_gateStack (happ : dev.appearing = []) (hgate : GateStack dev.root) :
    dev.AtGate := by
  generalize hroot : dev.root = root at hgate
  cases hgate with
  | login => exact Or.inl ⟨happ, _, _, Device.front_of_head hroot, rfl⟩
  | register => exact Or.inr ⟨happ, _, _, Device.front_of_head hroot, rfl⟩

/-- From a tab bar or the login page, whatever is still to appear. -/
theorem Device.Sane.leads_of_ground (h : dev.Sane models) (hidden : List Nav)
    (hground : Ground dev.root) :
    ∃ dev', dev.Leads models d hidden dev' ∧
      (dev'.Arrived .collection ∨
        (dev'.AtGate ∧ (dev.defaults.userUID = none ∨ GateStack dev.root))) := by
  obtain ⟨dev₁, hleads₁, hsane, happ, hsame, hground₁⟩ := h.exists_settled d hidden
  generalize hroot₁ : dev₁.root = root₁ at hground₁
  cases hground₁ hground with
  | bar =>
      obtain ⟨dev', hleads, harrived⟩ :=
        hsane.leads_albums (d := d) hidden happ hroot₁
      exact ⟨dev', hleads₁.trans hleads, Or.inl harrived⟩
  | gate hgate =>
      have hatGate := Device.atGate_of_gateStack happ (hroot₁ ▸ hgate)
      refine ⟨dev₁, hleads₁, Or.inr ⟨hatGate, ?_⟩⟩
      by_cases huid : dev.defaults.userUID = none
      · exact Or.inl huid
      · exact Or.inr (hsame huid ▸ hroot₁ ▸ hgate)

/-- A page at the head of the root leaves nothing to appear. -/
theorem Device.Sane.appearing_eq_nil (h : dev.Sane models) {vc : Nat}
    {self : ViewController} {rest : Stack ViewController}
    (hroot : dev.root = .page vc self :: rest) : dev.appearing = [] := by
  rw [List.eq_nil_iff_forall_not_mem]
  intro bar hbar
  have hvisible := h.distinct.appearing bar hbar
  rw [hroot] at hvisible
  cases hvisible

/-- What every page on the root leads to, unless it is trapped. -/
def Device.HasWayOut (models : List Model) (d : DeviceId) (hidden : List Nav)
    (dev : Device) : Prop :=
  ∃ dev', dev.Leads models d hidden dev' ∧
    (dev'.Arrived .collection ∨ (dev'.AtGate ∧ dev.defaults.userUID = none))

/-- After an action that leaves a tab bar at the head of the root. -/
theorem Device.Sane.leads_of_act (h : dev.Sane models)
    (hoffers : dev.offers hidden a = true) (hact : dev.act models d a = some o)
    {bar selected : Nat} {navs : List (Stack ViewController)} {rest : Stack ViewController}
    (hroot : o.device.root = .tabs bar selected navs :: rest) :
    dev.HasWayOut models d hidden := by
  have hdoes := Device.act_does hact
  obtain ⟨dev', hleads, harrived⟩ :=
    (hdoes.sane h).leads_of_ground (d := d) hidden (hroot ▸ Ground.bar)
  refine ⟨dev', (Device.leads_act hoffers hact).trans hleads,
    harrived.imp id fun harrived => ?_⟩
  refine ⟨harrived.1, harrived.2.elim (fun huid => hdoes.userUID ▸ huid) fun hgate => ?_⟩
  rw [hroot] at hgate
  cases hgate

/-- One action more. -/
theorem Device.HasWayOut.of_act (hoffers : dev.offers hidden a = true)
    (hact : dev.act models d a = some o) (h : o.device.HasWayOut models d hidden) :
    dev.HasWayOut models d hidden := by
  obtain ⟨dev', hleads, harrived⟩ := h
  rw [(Device.act_does hact).userUID] at harrived
  exact ⟨dev', (Device.leads_act hoffers hact).trans hleads, harrived⟩

section Pages

variable {vc : Nat} {c origin : Option Collection} {rest : Stack ViewController}

/-- The buttons of the root's bar are there as long as it is not hidden. -/
theorem Device.offers_of_root {self : ViewController}
    (hroot : dev.root = .page vc self :: rest) (hshown : .root ∉ hidden) :
    dev.offers hidden a = true := by
  rw [Device.offers, Device.barHidden_of_head hroot]
  simp [hshown]

/-- From an album back to its tab bar. -/
theorem Device.Sane.wayOut_details (h : dev.Sane models) (hshown : .root ∉ hidden)
    {collections : Option (List Collection)}
    (hroot : dev.root = .page vc ⟨.details collections, origin⟩ :: rest) :
    dev.HasWayOut models d hidden := by
  have hpath := h.path
  rw [hroot] at hpath
  rcases hpath.page_cases with ⟨-, hlogin⟩ | ⟨t, rest', rfl, hover⟩
  · cases hlogin
  · have hact := Device.act_back models d hroot (h.appearing_eq_nil hroot) trivial
    cases hover with
    | album hbar =>
        cases hbar
        exact h.leads_of_act (Device.offers_of_root hroot hshown) hact rfl

/-- From a sticker back to its album. -/
theorem Device.Sane.wayOut_info (h : dev.Sane models) (hshown : .root ∉ hidden)
    {view : InfoView} (hroot : dev.root = .page vc ⟨.info c view, origin⟩ :: rest) :
    dev.HasWayOut models d hidden := by
  have hpath := h.path
  rw [hroot] at hpath
  rcases hpath.page_cases with ⟨-, hlogin⟩ | ⟨t, rest', rfl, hover⟩
  · cases hlogin
  · have hact := Device.act_back models d hroot (h.appearing_eq_nil hroot) trivial
    cases hover with
    | info =>
        exact .of_act (Device.offers_of_root hroot hshown) hact
          (((Device.act_does hact).sane h).wayOut_details hshown rfl)

/-- From a result to a new tab bar, with or without a bar. -/
theorem Device.Sane.wayOut_result (h : dev.Sane models) {canRedeem : Bool}
    (hroot : dev.root = .page vc ⟨.result canRedeem c, origin⟩ :: rest) :
    dev.HasWayOut models d hidden := by
  have hact : dev.act models d .galeryButtonTapped =
      some (.local (dev.display (TabBarController dev.nextId :: dev.root) 6)) := by
    refine Device.tap_some.mpr ⟨h.appearing_eq_nil hroot, vc, _,
      Device.front_of_head hroot, ?_⟩
    rw [Handlers.galeryButtonTapped, hroot, updateEnclosing, if_pos holds_page]
  exact h.leads_of_act rfl hact rfl

/-- From a quiz to its result. -/
theorem Device.Sane.wayOut_web (h : dev.Sane models) (hshown : .root ∉ hidden)
    (hroot : dev.root = .page vc ⟨.web c, origin⟩ :: rest) :
    dev.HasWayOut models d hidden := by
  obtain ⟨o, hact, hroot'⟩ : ∃ o, dev.act models d .voltarButtonPressionado = some o ∧
      o.device.root = .page dev.nextId ⟨.result false c, origin⟩ ::
        .page vc ⟨.web c, origin⟩ :: rest := by
    refine ⟨_, Device.tap_some.mpr ⟨h.appearing_eq_nil hroot, vc, _,
      Device.front_of_head hroot, rfl⟩, ?_⟩
    rw [Outcome.local, Device.pushViewController, Device.display_root]
    dsimp only
    rw [hroot, updateEnclosing, if_pos holds_page]
  exact .of_act (Device.offers_of_root hroot hshown) hact
    (((Device.act_does hact).sane h).wayOut_result hroot')

end Pages

/-- From every state that is not trapped. -/
theorem Device.Sane.wayOut (h : dev.Sane models) (hfree : ∀ n, ¬ dev.Trapped hidden n) :
    ∃ dev', dev.Leads models d hidden dev' ∧
      (dev'.Arrived .collection ∨
        (dev'.AtGate ∧ (dev.defaults.userUID = none ∨ GateStack dev.root))) := by
  suffices hout : dev.HasWayOut models d hidden ∨ Ground dev.root by
    rcases hout with ⟨dev', hleads, harrived⟩ | hground
    · exact ⟨dev', hleads, harrived.imp id fun h => ⟨h.1, Or.inl h.2⟩⟩
    · exact h.leads_of_ground hidden hground
  have hshown : ∀ {vc : Nat} {self : ViewController} {rest : Stack ViewController} {n : Nat},
      dev.root = .page vc self :: rest → self.page.tapsLeft = some n → .root ∉ hidden := by
    intro vc self rest n hroot htaps hhidden
    exact hfree n ⟨hhidden, vc, self, Device.front_of_head hroot, htaps⟩
  have hpath := h.path
  cases hroot : dev.root with
  | nil =>
      rw [hroot] at hpath
      cases hpath
  | cons s rest =>
      rw [hroot] at hpath
      cases s with
      | tabs bar selected navs => exact Or.inr .bar
      | page vc self =>
          rcases hpath.page_cases with ⟨rfl, rfl⟩ | ⟨t, rest', rfl, hover⟩
          · exact Or.inr (.gate .login)
          · cases hover with
            | album => exact Or.inl (h.wayOut_details (hshown hroot rfl) hroot)
            | info => exact Or.inl (h.wayOut_info (hshown hroot rfl) hroot)
            | quiz => exact Or.inl (h.wayOut_web (hshown hroot rfl) hroot)
            | result => exact Or.inl (h.wayOut_result hroot)
            | register =>
                rcases hpath.2.page_cases with ⟨rfl, -⟩ | ⟨t, rest'', -, hover⟩
                · exact Or.inr (.gate .register)
                · cases hover

/-- A trapped page is none of those the ways out lead to. -/
theorem Device.Trapped.not_arrived {n : Nat} (h : dev.Trapped hidden n) :
    ¬ (dev.Arrived .collection ∨ dev.AtGate) := by
  obtain ⟨-, vc, self, hfront, htaps⟩ := h
  have hne : ∀ page : Page, page.tapsLeft = none → ¬ dev.Arrived page := by
    intro page hpage harrived
    obtain ⟨-, vc', self', hfront', rfl⟩ := harrived
    rw [hfront] at hfront'
    cases hfront'
    rw [htaps] at hpage
    cases hpage
  intro harrived
  rcases harrived with harrived | harrived | harrived
  · exact hne _ rfl harrived
  · exact hne _ rfl harrived
  · exact hne _ rfl harrived

end Acting

/-! ## The theorem -/

/-- In every state of every run from launch: actions of the user alone lead
to the list of albums, or to the login or the register page if no uid is
stored or these are all there is on the device, unless an album, a sticker or
a quiz is in front with the root's bar hidden, and then none do. -/
theorem way_out_iff {models : List Model} {s₀ s : Shell} {es : List Shell.Event}
    (hlaunch : s₀.AtLaunch) (hrun : run (Shell.step models) s₀ es = some s) (d : DeviceId) :
    (∃ (actions : List Action) (s' : Shell),
      run (Shell.step models) s (actions.map (Shell.tap d)) = some s' ∧
        ((s'.world.device d).Arrived .collection ∨
          ((s'.world.device d).AtGate ∧
            ((s.world.device d).defaults.userUID = none ∨
              GateStack (s.world.device d).root)))) ↔
      ∀ n, ¬ (s.world.device d).Trapped (s.hidden d) n := by
  have hsound := Shell.sound_of_run hlaunch hrun
  constructor
  · intro hout n htrapped
    obtain ⟨actions, s', hrun', harrived⟩ := hout
    obtain ⟨m, hm, -⟩ := hsound.trapped_run htrapped hrun'
    exact hm.not_arrived (harrived.imp id fun h => h.1)
  · intro hfree
    have hsane : (s.world.device d).Sane models :=
      ⟨hsound.identified.distinct d, hsound.path d⟩
    obtain ⟨dev', hleads, harrived⟩ := hsane.wayOut (d := d) hfree
    obtain ⟨actions, s', hrun', rfl⟩ := hleads.exists_run rfl rfl
    exact ⟨actions, s', hrun', harrived⟩

/-- No way out of the first user's first album. -/
theorem way_out_iff_first_album :
    ∃ s, run (Shell.step CollectionViewController.models) Shell.empty
        (Shell.found (firstSignUp ++ (quizEvents 8 0).take 2)) = some s ∧
      ¬ ∃ (actions : List Action) (s' : Shell),
        run (Shell.step CollectionViewController.models) s (actions.map (Shell.tap 0)) =
            some s' ∧
          ((s'.world.device 0).Arrived .collection ∨
            ((s'.world.device 0).AtGate ∧
              ((s.world.device 0).defaults.userUID = none ∨
                GateStack (s.world.device 0).root))) := by
  obtain ⟨s, hrun, htrapped⟩ := exists_trapped
  exact ⟨s, hrun, fun hout =>
    (way_out_iff Shell.empty_atLaunch hrun 0).mp hout 2 htrapped⟩

end GloboCollection
