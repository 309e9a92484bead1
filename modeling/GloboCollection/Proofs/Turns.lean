import GloboCollection.Lib.Contexts
import GloboCollection.Proofs.Requests

/-!
# How the screens turn

The transitions of the app, read as a rewriting of the tree of screens: an
event leaves the tree as it is or rewrites one stack of it, in place. `Turns`
lists the rewritings. A tap rewrites the stack whose front page was tapped;
a callback rewrites the stack of the page that sent the request, wherever
that is by then, or nothing if the page is gone.

This is so because no two controllers of a device ever share an identity and
because a request in flight names the page it came from and no other:
`controllers_distinct`. That invariant and `Turns` need each other. The
rewriting is read off the code with the identities distinct before the step,
and the identities are distinct after it because a rewriting brings in fresh
ones only.
-/

namespace GloboCollection

open GloboCollection.Lib

/-! ## The rewritings -/

/-- What an event can make of the screens; `n` is the next identity before
the event. -/
inductive Turns (models : List Model) (ud : UserDefaults) (n : Nat) :
    Stack ViewController → Nat → Stack ViewController → Prop
  | same {root : Stack ViewController} {n' : Nat} (hn : n ≤ n') :
      Turns models ud n root n' root
  | gate {C : Context ViewController} {bar selected : Nat}
      {navs : List (Stack ViewController)} {rest : Stack ViewController} (hC : C.Shown)
      (huid : ud.userUID = none) :
      Turns models ud n (C.plug (.tabs bar selected navs :: rest)) (n + 1)
        (C.plug [.page n ⟨.login, none⟩])
  | leave {C : Context ViewController} {old : Stack ViewController} {vc : Nat}
      {origin : Option Collection} (hold : .page vc ⟨.home, origin⟩ ∈ old) :
      Turns models ud n (C.plug old) (n + 1) (C.plug [.page n ⟨.login, none⟩])
  | enter {C : Context ViewController} {old : Stack ViewController} {vc : Nat}
      {page : Page} {origin : Option Collection} (hpage : page = .login ∨ page = .register)
      (hold : .page vc ⟨page, origin⟩ ∈ old) :
      Turns models ud n (C.plug old) (n + 6) (C.plug [TabBarController n])
  | select {C : Context ViewController} {bar selected i : Nat}
      {navs : List (Stack ViewController)} {rest : Stack ViewController} (hC : C.Shown)
      (hi : i < tabPages.length) :
      Turns models ud n (C.plug (.tabs bar selected navs :: rest)) n
        (C.plug (.tabs bar i navs :: rest))
  | back {C : Context ViewController} {vc : Nat} {self : ViewController}
      {rest : Stack ViewController} (hC : C.Shown) (hpage : self.page.goesBack) :
      Turns models ud n (C.plug (.page vc self :: rest)) n
        (C.plug (popStack (.page vc self :: rest)))
  | album {root : Stack ViewController} {vc : Nat} {self : ViewController} {m : Model}
      (hfront : stackFront root = some (vc, self)) (hpage : self.page = .collection)
      (hm : m ∈ models) :
      Turns models ud n root (n + 1)
        (.page n ⟨.details (some m.figurinhas), none⟩ :: root)
  | push {C : Context ViewController} {a : Action} {vc : Nat} {self new : ViewController}
      {rest : Stack ViewController} (hC : C.Shown) (hopens : Opens ud a self new) :
      Turns models ud n (C.plug (.page vc self :: rest)) (n + 1)
        (C.plug (.page n new :: .page vc self :: rest))
  | result {C : Context ViewController} {vc : Nat} {c origin : Option Collection}
      {rest : Stack ViewController} (hC : C.Shown) :
      Turns models ud n (C.plug (.page vc ⟨.web c, origin⟩ :: rest)) (n + 1)
        (C.plug (.page n ⟨.result false c, origin⟩ :: .page vc ⟨.web c, origin⟩ :: rest))
  | gallery {C : Context ViewController} {vc : Nat} {canRedeem : Bool}
      {c origin : Option Collection} {rest : Stack ViewController} (hC : C.Shown) :
      Turns models ud n (C.plug (.page vc ⟨.result canRedeem c, origin⟩ :: rest)) (n + 6)
        (C.plug (TabBarController n :: .page vc ⟨.result canRedeem c, origin⟩ :: rest))

/-! ## Distinct controllers -/

/-- The controllers of a device have distinct identities, none of them handed
out twice, and only tab bars on screen are to appear. -/
structure Device.Distinct (dev : Device) : Prop where
  nodup : (stackIds dev.root).Nodup
  below : ∀ i ∈ stackIds dev.root, i < dev.nextId
  appearing : ∀ bar ∈ dev.appearing, bar ∈ stackVisibleTabs dev.root

/-- The page a request comes from: its device, its identity and its kind. -/
def Request.sender : Request → Option (DeviceId × Nat × Page)
  | .signIn d vc _ _ => some (d, vc, .login)
  | .createUser d vc _ _ _ => some (d, vc, .register)
  | .addDocument _ _ _ => none
  | .deleteDocument d vc _ _ | .documentDeleted d vc _ | .deleteUser d vc _
  | .userDeleted d vc => some (d, vc, .home)

/-- The controller `vc` is a page of the given kind, or it is gone. -/
def Device.Sent (dev : Device) (vc : Nat) (page : Page) : Prop :=
  vc < dev.nextId ∧
    ∀ c ∈ stackControllers dev.root, c.1 = vc → ∃ origin, c.2 = some ⟨page, origin⟩

structure World.Identified (w : World) : Prop where
  distinct : ∀ d, (w.device d).Distinct
  sent : ∀ r ∈ w.requests, ∀ d vc page, r.sender = some (d, vc, page) →
    (w.device d).Sent vc page

section Rewriting

variable {models : List Model} {d : DeviceId} {dev : Device} {a : Action} {o : Outcome}
  {vc : Nat} {self : ViewController} {C : Context ViewController}
  {rest : Stack ViewController} {f : Stack ViewController → Stack ViewController}

theorem holds_page : Stack.holds vc (.page vc self :: rest) = true := by
  simp [Stack.holds, Screen.id]

/-- The page in front, with the place of its stack. -/
theorem Device.Distinct.updateEnclosing_front (h : dev.Distinct)
    (hfront : dev.front = some (vc, self)) :
    ∃ (C : Context ViewController) (rest : Stack ViewController), C.Shown ∧
      dev.root = C.plug (.page vc self :: rest) ∧
      ∀ f, updateEnclosing vc f dev.root = C.plug (f (.page vc self :: rest)) := by
  obtain ⟨C, rest, hC, hroot⟩ := exists_plug_of_front hfront
  have hnodup := h.nodup
  rw [hroot] at hnodup
  exact ⟨C, rest, hC, hroot, fun f => by
    rw [hroot, Context.updateEnclosing_plug hnodup holds_page]⟩

theorem Device.Does.turns (hdoes : dev.Does models d a o) (h : dev.Distinct) :
    Turns models dev.defaults dev.nextId dev.root o.device.nextId o.device.root := by
  cases hdoes with
  | @appear bar hbar =>
      rw [Outcome.local, TabBarController.viewDidAppear]
      dsimp only
      split <;> rename_i huid
      · exact .same (Nat.le_refl _)
      · obtain ⟨C, selected, navs, rest, hC, hroot⟩ :=
          exists_plug_of_visibleTabs (h.appearing bar hbar)
        have hnodup := h.nodup
        rw [hroot] at hnodup
        have hnew : (TabBarController.redirectToLoginScreen
            { dev with appearing := dev.appearing.erase bar } bar).root =
              C.plug [.page dev.nextId ⟨.login, none⟩] := by
          rw [TabBarController.redirectToLoginScreen, Device.setLogin,
            Device.display_root, hroot, Context.updateEnclosing_plug hnodup]
          simp [Stack.holds, Screen.id]
        rw [hnew, hroot]
        exact .gate hC huid
  | @switch bar i vc self hshows hbar hi =>
      obtain ⟨C, selected, navs, rest, hC, hroot⟩ := exists_plug_of_visibleTabs hbar
      have hnodup := h.nodup
      rw [hroot] at hnodup
      rw [Outcome.local, Device.display_root, hroot, Context.stackSelectTab_plug hnodup]
      exact .select hC hi
  | back hshows hpage =>
      obtain ⟨C, rest, hC, hroot, hupdate⟩ := h.updateEnclosing_front hshows.2
      rw [Outcome.local, Device.popViewController, Device.display_root, hupdate, hroot]
      exact .back hC hpage
  | album hshows hpage hm => exact .album hshows.2 hpage hm
  | push hshows hopens =>
      obtain ⟨C, rest, hC, hroot, hupdate⟩ := h.updateEnclosing_front hshows.2
      rw [Outcome.local, Device.pushViewController, Device.display_root, hupdate, hroot]
      exact .push hC hopens
  | leaveQuiz hshows =>
      obtain ⟨C, rest, hC, hroot, hupdate⟩ := h.updateEnclosing_front hshows.2
      rw [Outcome.local, Device.pushViewController, Device.display_root, hupdate, hroot]
      exact .result hC
  | gallery hshows =>
      obtain ⟨C, rest, hC, hroot, hupdate⟩ := h.updateEnclosing_front hshows.2
      rw [Outcome.local, Device.display_root, hupdate, hroot]
      exact .gallery hC
  | redeem | reset | send | idle => exact .same (Nat.le_refl _)

/-- A stack that holds the sender of a request holds a page of its kind. -/
theorem Device.Sent.exists_mem {page : Page} {stk : Stack ViewController}
    (h : dev.Sent vc page) (hroot : dev.root = C.plug stk)
    (hholds : Stack.holds vc stk = true) :
    ∃ origin, .page vc ⟨page, origin⟩ ∈ stk := by
  rw [Stack.holds, List.any_eq_true] at hholds
  obtain ⟨s, hs, hid⟩ := hholds
  rw [beq_iff_eq] at hid
  have hmem : ∀ c ∈ s.controllers, c ∈ stackControllers dev.root := by
    intro c hc
    rw [hroot, Context.mem_stackControllers_plug]
    obtain ⟨before, after, rfl⟩ := List.append_of_mem hs
    rw [stackControllers_append, stackControllers]
    exact Or.inl (List.mem_append_right _ (List.mem_append_left _ hc))
  cases s with
  | page i self =>
      obtain ⟨origin, horigin⟩ := h.2 (i, some self)
        (hmem _ (by simp [Screen.controllers])) hid
      cases horigin
      exact ⟨origin, hid ▸ hs⟩
  | tabs i selected navs =>
      obtain ⟨origin, horigin⟩ := h.2 (i, none)
        (hmem _ (by simp [Screen.controllers])) hid
      cases horigin

theorem Device.Distinct.turns_setTabBar (h : dev.Distinct) {page : Page}
    (hsent : dev.Sent vc page) (hpage : page = .login ∨ page = .register) :
    Turns models dev.defaults dev.nextId dev.root (dev.nextId + 6)
      (dev.setTabBar vc).root := by
  rw [Device.setTabBar, Device.display_root]
  by_cases hvc : vc ∈ stackIds dev.root
  · obtain ⟨C, stk, hroot, hholds⟩ := exists_plug_of_mem hvc
    obtain ⟨origin, hmem⟩ := hsent.exists_mem hroot hholds
    have hnodup := h.nodup
    rw [hroot] at hnodup ⊢
    rw [Context.updateEnclosing_plug hnodup hholds]
    exact .enter hpage hmem
  · rw [updateEnclosing_of_notMem hvc]
    exact .same (Nat.le_add_right _ _)

theorem Device.Distinct.turns_setLogin (h : dev.Distinct) (hsent : dev.Sent vc .home) :
    Turns models dev.defaults dev.nextId dev.root (dev.nextId + 1)
      (dev.setLogin vc).root := by
  rw [Device.setLogin, Device.display_root]
  by_cases hvc : vc ∈ stackIds dev.root
  · obtain ⟨C, stk, hroot, hholds⟩ := exists_plug_of_mem hvc
    obtain ⟨origin, hmem⟩ := hsent.exists_mem hroot hholds
    have hnodup := h.nodup
    rw [hroot] at hnodup ⊢
    rw [Context.updateEnclosing_plug hnodup hholds]
    exact .leave hmem
  · rw [updateEnclosing_of_notMem hvc]
    exact .same (Nat.le_add_right _ _)

end Rewriting

/-- An event turns the screens of each device by one of the rewritings. -/
theorem World.Identified.turns {models : List Model} {w w' : World} {e : Event}
    (h : w.Identified) (hstep : w.step models e = some w') (d : DeviceId) :
    Turns models (w.device d).defaults (w.device d).nextId (w.device d).root
      (w'.device d).nextId (w'.device d).root := by
  have hmoves := step_moves hstep d
  have hsent : ∀ {r : Request} {answer : Reply} {vc : Nat} {page : Page},
      e = .reply r answer → r.sender = some (d, vc, page) → (w.device d).Sent vc page := by
    intro r answer vc page he hr
    subst he
    exact h.sent r (reply_answers hstep).1 d vc page hr
  generalize w'.device d = dev' at hmoves ⊢
  cases hmoves with
  | act hdoes => exact hdoes.turns (h.distinct d)
  | signIn => exact (h.distinct d).turns_setTabBar (hsent rfl rfl) (Or.inl rfl)
  | createUser => exact (h.distinct d).turns_setTabBar (hsent rfl rfl) (Or.inr rfl)
  | documentDeleted | stay => exact .same (Nat.le_refl _)
  | deleteUser =>
      rw [Device.signOut]
      split <;> exact .same (Nat.le_refl _)
  | userDeleted => exact (h.distinct d).turns_setLogin (hsent rfl rfl)

/-! ## The identities stay distinct -/

section Fresh

variable {n n' : Nat} {root root' : Stack ViewController} {C : Context ViewController}
  {old new : Stack ViewController}

/-- The controllers of the new tree are controllers of the old one or have
fresh identities, and no two of them share one. -/
def BringsFresh (n n' : Nat) (root root' : Stack ViewController) : Prop :=
  n ≤ n' ∧ (stackIds root').Nodup ∧
    ∀ c ∈ stackControllers root', c ∈ stackControllers root ∨ (n ≤ c.1 ∧ c.1 < n')

theorem BringsFresh.plug (h : (stackIds (C.plug old)).Nodup)
    (hbelow : ∀ i ∈ stackIds (C.plug old), i < n) (hnew : BringsFresh n n' old new) :
    BringsFresh n n' (C.plug old) (C.plug new) := by
  obtain ⟨hn, hnodup, hcontrollers⟩ := hnew
  refine ⟨hn, Context.nodup_plug_of_subset h hnodup hbelow ?_, ?_⟩
  · intro i hi
    obtain ⟨c, hc, rfl⟩ := List.mem_map.mp hi
    exact (hcontrollers c hc).imp (fun hc => List.mem_map_of_mem hc) fun hc => hc.1
  · intro c hc
    rw [Context.mem_stackControllers_plug] at hc ⊢
    rcases hc with hc | hc
    · exact (hcontrollers c hc).imp Or.inl id
    · exact Or.inl (Or.inr hc)

/-- One new screen on a stack. -/
theorem BringsFresh.cons {s : Screen ViewController} (h : (stackIds old).Nodup)
    (hbelow : ∀ i ∈ stackIds old, i < n) (hn : n ≤ n') (hs : s.ids.Nodup)
    (hfresh : ∀ i ∈ s.ids, n ≤ i ∧ i < n') : BringsFresh n n' old (s :: old) := by
  refine ⟨hn, ?_, ?_⟩
  · rw [stackIds_cons, List.nodup_append']
    refine ⟨hs, h, fun i hi hold => ?_⟩
    have hlt := hbelow i hold
    have hle := (hfresh i hi).1
    omega
  · intro c hc
    rw [stackControllers, List.mem_append] at hc
    rcases hc with hc | hc
    · exact Or.inr (hfresh c.1 (List.mem_map_of_mem hc))
    · exact Or.inl hc

/-- One new screen in the place of a stack. -/
theorem BringsFresh.set {s : Screen ViewController} (hn : n ≤ n') (hs : s.ids.Nodup)
    (hfresh : ∀ i ∈ s.ids, n ≤ i ∧ i < n') : BringsFresh n n' old [s] := by
  have hcons : BringsFresh n n' [] [s] :=
    BringsFresh.cons (by simp) (by simp) hn hs hfresh
  exact ⟨hn, hcons.2.1, fun c hc => (hcons.2.2 c hc).imp (fun h => by cases h) id⟩

theorem BringsFresh.refl (hn : n ≤ n') (h : (stackIds root).Nodup) :
    BringsFresh n n' root root := ⟨hn, h, fun _ hc => Or.inl hc⟩

theorem ids_tabBar : (TabBarController n).ids = [n, n + 1, n + 2, n + 3, n + 4, n + 5] :=
  rfl

theorem tabBar_fresh : (TabBarController n).ids.Nodup ∧
    ∀ i ∈ (TabBarController n).ids, n ≤ i ∧ i < n + 6 := by
  rw [ids_tabBar]
  constructor
  · simp
  · intro i hi
    simp only [List.mem_cons, List.not_mem_nil, or_false] at hi
    omega

theorem Turns.bringsFresh {models : List Model} {ud : UserDefaults}
    (h : Turns models ud n root n' root') (hnodup : (stackIds root).Nodup)
    (hbelow : ∀ i ∈ stackIds root, i < n) : BringsFresh n n' root root' := by
  have hin : ∀ {C : Context ViewController} {stk : Stack ViewController},
      (stackIds (C.plug stk)).Nodup → (∀ i ∈ stackIds (C.plug stk), i < n) →
      (stackIds stk).Nodup ∧ ∀ i ∈ stackIds stk, i < n :=
    fun h hlt => ⟨(Context.nodup_stackIds_plug.mp h).1, fun i hi =>
      hlt i (Context.perm_stackIds_plug.mem_iff.mpr (List.mem_append_left _ hi))⟩
  cases h with
  | same hn => exact .refl hn hnodup
  | gate | leave =>
      exact .plug hnodup hbelow (.set (by omega) (by simp) (by simp))
  | enter => exact .plug hnodup hbelow (.set (by omega) tabBar_fresh.1 tabBar_fresh.2)
  | select =>
      exact .plug hnodup hbelow ⟨Nat.le_refl _, (hin hnodup hbelow).1, fun _ => Or.inl⟩
  | @back C vc self rest =>
      refine .plug hnodup hbelow ?_
      have hold := (hin hnodup hbelow).1
      cases rest with
      | nil => exact .refl (Nat.le_refl _) hold
      | cons t rest =>
          refine ⟨Nat.le_refl _, ?_, fun c hc => Or.inl (List.mem_append_right _ hc)⟩
          rw [stackIds_cons, List.nodup_append'] at hold
          exact hold.2.1
  | album => exact .cons hnodup hbelow (by omega) (by simp) (by simp)
  | push | result =>
      obtain ⟨hold, hlt⟩ := hin hnodup hbelow
      exact .plug hnodup hbelow (.cons hold hlt (by omega) (by simp) (by simp))
  | gallery =>
      obtain ⟨hold, hlt⟩ := hin hnodup hbelow
      exact .plug hnodup hbelow (.cons hold hlt (by omega) tabBar_fresh.1 tabBar_fresh.2)

end Fresh

/-! ## The invariant along a run -/

/-- The appearances a change of the screens leaves are of bars on screen. -/
theorem Device.Moves.appearing {models : List Model} {d : DeviceId} {dev dev' : Device}
    {e : Event} (h : dev.Moves models d e dev')
    (happ : ∀ bar ∈ dev.appearing, bar ∈ stackVisibleTabs dev.root) :
    ∀ bar ∈ dev'.appearing, bar ∈ stackVisibleTabs dev'.root := by
  have hdisplay : ∀ (dev : Device) (root : Stack ViewController) (fresh : Nat),
      ∀ bar ∈ (dev.display root fresh).appearing,
        bar ∈ stackVisibleTabs (dev.display root fresh).root := by
    intro dev root fresh bar hbar
    exact of_decide_eq_true (List.mem_filter.mp hbar).2
  cases h with
  | act hdoes =>
      cases hdoes with
      | appear =>
          rw [Outcome.local, TabBarController.viewDidAppear]
          dsimp only
          split
          · exact fun bar hbar => happ bar (List.mem_of_mem_erase hbar)
          · exact hdisplay _ _ _
      | switch | back | album | push | leaveQuiz | gallery => exact hdisplay _ _ _
      | redeem | reset | send | idle => exact happ
  | signIn | createUser => exact hdisplay _ _ 6
  | userDeleted => exact hdisplay _ _ 1
  | documentDeleted | stay => exact happ
  | deleteUser =>
      rw [Device.signOut]
      split <;> exact happ

theorem Device.Sent.step {dev dev' : Device} {vc : Nat} {page : Page}
    (h : dev.Sent vc page)
    (hfresh : BringsFresh dev.nextId dev'.nextId dev.root dev'.root) :
    dev'.Sent vc page := by
  obtain ⟨hlt, hpage⟩ := h
  obtain ⟨hn, -, hcontrollers⟩ := hfresh
  refine ⟨by omega, fun c hc hvc => ?_⟩
  rcases hcontrollers c hc with hold | ⟨hle, -⟩
  · exact hpage c hold hvc
  · omega

namespace World.Identified

variable {models : List Model} {w w' : World} {e : Event}

theorem bringsFresh (h : w.Identified) (hstep : w.step models e = some w')
    (d : DeviceId) :
    BringsFresh (w.device d).nextId (w'.device d).nextId (w.device d).root
      (w'.device d).root :=
  (h.turns hstep d).bringsFresh (h.distinct d).nodup (h.distinct d).below

/-- The page in front, as the sender of a request. -/
theorem sent_front (h : w.Identified) {d : DeviceId} {vc : Nat} {self : ViewController}
    (hfront : (w.device d).front = some (vc, self)) : (w.device d).Sent vc self.page := by
  obtain ⟨C, rest, -, hroot⟩ := exists_plug_of_front hfront
  have hmem : (vc, some self) ∈ stackControllers (w.device d).root := by
    rw [hroot, Context.mem_stackControllers_plug]
    exact Or.inl (by simp [stackControllers, Screen.controllers])
  refine ⟨(h.distinct d).below vc (List.mem_map_of_mem hmem), fun c hc hvc => ?_⟩
  have heq : c = (vc, some self) :=
    List.inj_on_of_nodup_map (h.distinct d).nodup hc hmem hvc
  exact ⟨self.origin, by rw [heq]⟩

theorem step (h : w.Identified) (hstep : w.step models e = some w') :
    w'.Identified := by
  refine ⟨fun d => ?_, fun r hr d vc page hsender => ?_⟩
  · obtain ⟨hn, hnodup, hcontrollers⟩ := h.bringsFresh hstep d
    refine ⟨hnodup, fun i hi => ?_, (step_moves hstep d).appearing (h.distinct d).appearing⟩
    obtain ⟨c, hc, rfl⟩ := List.mem_map.mp hi
    rcases hcontrollers c hc with hold | ⟨-, hlt⟩
    · have hlt := (h.distinct d).below c.1 (List.mem_map_of_mem hold)
      omega
    · exact hlt
  · refine Device.Sent.step ?_ (h.bringsFresh hstep d)
    rcases step_requests hstep hr with hr | ⟨d', a, -, hasks⟩ | ⟨r₀, answer, -, hr₀, hfollows⟩
    · exact h.sent r hr d vc page hsender
    · cases hasks with
      | signIn hshows | signUp hshows | deletion hshows =>
          cases hsender
          exact h.sent_front hshows.2
    · cases hfollows with
      | profile => cases hsender
      | callback | account | last => exact h.sent _ hr₀ d vc page hsender

end World.Identified

theorem World.AtLaunch.identified {w : World} (h : w.AtLaunch) : w.Identified := by
  refine ⟨fun d => ?_, fun r hr => ?_⟩
  · obtain ⟨hroot, hnext, happ⟩ := h.screens d
    refine ⟨?_, ?_, ?_⟩
    · rw [hroot, stackIds_cons, ids_tabBar]
      decide
    · rw [hroot, hnext, stackIds_cons, ids_tabBar]
      decide
    · rw [hroot, happ]
      decide
  · rw [h.requests] at hr
    cases hr

theorem identified_of_run {models : List Model} {w₀ w : World} {es : List Event}
    (hlaunch : w₀.AtLaunch) (hrun : run (World.step models) w₀ es = some w) :
    w.Identified :=
  run_invariant (fun _ _ _ h hstep => h.step hstep) hrun hlaunch.identified

/-- At all times the controllers on a device have distinct identities, and a
request in flight from the controller `vc` is from a page of the kind that
sends it: if `vc` is still on the device it is that page, and nothing else
ever takes its identity. -/
theorem controllers_distinct {models : List Model} {w₀ w : World} {es : List Event}
    (hlaunch : w₀.AtLaunch) (hrun : run (World.step models) w₀ es = some w) :
    (∀ d, (stackIds (w.device d).root).Nodup) ∧
      ∀ r ∈ w.requests, ∀ d vc page, r.sender = some (d, vc, page) →
        ∀ c ∈ stackControllers (w.device d).root, c.1 = vc →
          ∃ origin, c.2 = some ⟨page, origin⟩ := by
  have h := identified_of_run hlaunch hrun
  exact ⟨fun d => (h.distinct d).nodup,
    fun r hr d vc page hsender => (h.sent r hr d vc page hsender).2⟩

/-- A sign-up under way on the first device. -/
def signingUp : List Event :=
  [.act 0 (.viewDidAppear 0), .act 0 .registerButtonTapped,
    .act 0 (.signupButtonTapped "Ana" "ana@globo.com" "senha-segura")]

theorem controllers_distinct_signingUp :
    ∃ w, run (World.step CollectionViewController.models) World.empty signingUp = some w ∧
      w.requests = [.createUser 0 7 "Ana" "ana@globo.com" "senha-segura"] ∧
      (∀ d, (stackIds (w.device d).root).Nodup) ∧
      ∀ r ∈ w.requests, ∀ d vc page, r.sender = some (d, vc, page) →
        ∀ c ∈ stackControllers (w.device d).root, c.1 = vc →
          ∃ origin, c.2 = some ⟨page, origin⟩ := by
  have hreq : (run (World.step CollectionViewController.models) World.empty
      signingUp).map World.requests =
        some [.createUser 0 7 "Ana" "ana@globo.com" "senha-segura"] := by decide +kernel
  obtain ⟨w, hrun, hreq⟩ := Option.map_eq_some_iff.mp hreq
  exact ⟨w, hrun, hreq, controllers_distinct World.empty_atLaunch hrun⟩

end GloboCollection
