import GloboCollection.Proofs.Trapped

/-!
# The first session

Three buttons write anything but the uid to the store of a device: "Voltar"
in the quiz, the redeem button of a result, and the reset of the album. The
first and the last are in the root's bar, and a result is only ever opened by
the first. So once the root's bar is hidden the store is as good as frozen:
whatever is tapped, no quiz is left, no sticker redeemed and nothing reset
until the app is launched again (`frozen_once_hidden`).

A device without a stored uid comes to that in its first session. The gate
puts the login page on the root before anything can be tapped, and the
sign-in or sign-up that leads away from it hides the root's bar. Who has just
signed up can therefore look at the albums, and be `Trapped` in one, but
collects nothing before the next launch (`nothing_collected_in_first_session`).
-/

namespace GloboCollection

open GloboCollection.Lib

/-! ## The buttons that write -/

/-- The actions that write anything but the uid. -/
def Action.writes : Action → Bool
  | .voltarButtonPressionado | .redeemButtonTapped | .buttonSearchTapped => true
  | _ => false

/-- The pages these actions belong to. -/
inductive Writes : Action → Page → Prop
  | leaveQuiz {c : Option Collection} : Writes .voltarButtonPressionado (.web c)
  | redeem {canRedeem : Bool} {c : Option Collection} :
      Writes .redeemButtonTapped (.result canRedeem c)
  | reset {collections : Option (List Collection)} :
      Writes .buttonSearchTapped (.details collections)

section Writing

variable {models : List Model} {d : DeviceId} {dev : Device} {a : Action} {o : Outcome}

theorem Device.act_writes (h : dev.act models d a = some o) (ha : a.writes = true) :
    ∃ vc self, dev.Shows vc self ∧ Writes a self.page := by
  cases a with
  | voltarButtonPressionado | redeemButtonTapped | buttonSearchTapped =>
      obtain ⟨happ, vc, self, hfront, h⟩ := Device.tap_some.mp h
      refine ⟨vc, self, ⟨happ, hfront⟩, ?_⟩
      simp only [Handlers.voltarButtonPressionado, Handlers.redeemButtonTapped,
        Handlers.buttonSearchTapped] at h
      split at h <;> rename_i hpage
      · rw [hpage]
        constructor
      · cases h
  | viewDidAppear | switchTab | backButtonTapped | handleCellTap | didSelectItemAt
  | startQuizButtonTapped | galeryButtonTapped | restartButtonTapped | registerButtonTapped
  | loginButtonTapped | signupButtonTapped | deleteAccount => cases ha

/-- Everything else leaves all keys but the uid's alone. -/
theorem Device.Stores.lookup_eq {e : Event} {ud : UserDefaults} (h : dev.Stores d e ud)
    (hquiet : ∀ a, e = .act d a → a.writes = false) {key : String}
    (hkey : key ≠ userUIDKey) : Finmap.lookup key ud = Finmap.lookup key dev.defaults := by
  cases h with
  | quiz | redeem | reset => cases hquiet _ rfl
  | signedIn => exact UserDefaults.lookup_set_of_ne hkey
  | deleted => exact Finmap.lookup_erase_ne hkey
  | same => rfl

end Writing

/-- No event of the run writes on device `d`, and the store of `d` is the same
at both ends but for the uid. -/
def Shell.Frozen (d : DeviceId) (s : Shell) (es : List Shell.Event) (s' : Shell) : Prop :=
  (∀ e ∈ es, ∀ a, e.event = .act d a → a.writes = false) ∧
    ∀ key, key ≠ userUIDKey → Finmap.lookup key (s'.world.device d).defaults =
      Finmap.lookup key (s.world.device d).defaults

/-- A run is frozen if it keeps an invariant under which nothing writes. -/
theorem Shell.frozen_of_invariant {models : List Model} {d : DeviceId}
    {I : Shell → Prop} {p : Shell.Event → Prop}
    (hstep : ∀ s e s', I s → p e → s.step models e = some s' →
      I s' ∧ ∀ a, e.event = .act d a → a.writes = false)
    {s s' : Shell} {es : List Shell.Event} (hs : I s) (hes : ∀ e ∈ es, p e)
    (hrun : run (Shell.step models) s es = some s') : Shell.Frozen d s es s' := by
  induction es generalizing s with
  | nil =>
      rw [run_nil, Option.some.injEq] at hrun
      rw [hrun]
      exact ⟨by simp, fun _ _ => rfl⟩
  | cons e es ih =>
      rw [run_cons, Option.bind_eq_some_iff] at hrun
      obtain ⟨t, ht, hrun⟩ := hrun
      rw [List.forall_mem_cons] at hes
      obtain ⟨hnext, hquiet⟩ := hstep s e t hs hes.1 ht
      obtain ⟨hevents, hstore⟩ := ih hnext hes.2 hrun
      refine ⟨List.forall_mem_cons.mpr ⟨hquiet, hevents⟩, fun key hkey => ?_⟩
      have hworld := (Shell.step_some.mp ht).2.1
      rw [hstore key hkey, (World.step_moves hworld d).stores.lookup_eq hquiet hkey]

/-! ## Once the root's bar is hidden -/

/-- The root's bar is hidden, and there is no result on the device. -/
structure Shell.Closed (s : Shell) (d : DeviceId) : Prop where
  hidden : .root ∈ s.hidden d
  pages : (s.world.device d).AllPages NoResult

section Closed

variable {models : List Model} {s₀ s s' : Shell} {d : DeviceId} {e : Shell.Event}

theorem Shell.Closed.quiet (h : s.Closed d) (hsound : s.Sound models)
    (hstep : s.step models e = some s') :
    ∀ a, e.event = .act d a → a.writes = false := by
  intro a he
  obtain ⟨hallows, hworld, -⟩ := Shell.step_some.mp hstep
  rw [he] at hallows hworld
  obtain ⟨o, hact, -⟩ := World.act_outcome hworld
  rw [Bool.eq_false_iff]
  intro ha
  obtain ⟨vc, ⟨page, origin⟩, hshows, hwrites⟩ := Device.act_writes hact ha
  have honBar : ∀ n, page.tapsLeft = some n → a.onBar = false := by
    intro n htaps
    have htrapped : (s.world.device d).Trapped (s.hidden d) n :=
      ⟨h.hidden, vc, _, hshows.2, htaps⟩
    exact htrapped.not_onBar (hsound.path d) hallows
  cases hwrites with
  | leaveQuiz => cases honBar 0 rfl
  | reset => cases honBar 2 rfl
  | redeem => exact h.pages.front hshows.2 _ _ rfl

theorem Shell.Closed.step (h : s.Closed d) (hsound : s.Sound models)
    (hstep : s.step models e = some s') : s'.Closed d := by
  have hquiet := h.quiet hsound hstep
  obtain ⟨-, hworld, hhidden⟩ := Shell.step_some.mp hstep
  refine ⟨hhidden ▸ Shell.hidden_subset e h.hidden, ?_⟩
  refine (World.step_moves hworld d).noResult (fun he => ?_) h.pages
  cases hquiet _ he

/-- The callbacks that hide a bar, with the page they run for. -/
inductive Hides (d : DeviceId) (vc : Nat) : Event → Prop
  | signIn {email password : String} {uid : Uid} :
      Hides d vc (.reply (.signIn d vc email password) (.successWith uid))
  | createUser {userName email password : String} {uid : Uid} :
      Hides d vc (.reply (.createUser d vc userName email password) (.successWith uid))
  | userDeleted : Hides d vc (.reply (.userDeleted d vc) .success)

theorem Shell.mem_hiddenAfter {nav : Nav} (h : nav ∈ s.hiddenAfter e d) :
    nav ∈ s.hidden d ∨ ∃ vc, Hides d vc e.event ∧
      (s.world.device d).navigationController vc = some nav := by
  rw [hiddenAfter.eq_def] at h
  split at h
  · split at h
    · obtain h | ⟨rfl, hnav⟩ := mem_setNavigationBarHidden.mp h
      · exact Or.inl h
      · exact Or.inr ⟨_, .signIn, hnav⟩
    · exact Or.inl h
  · split at h
    · obtain h | ⟨rfl, hnav⟩ := mem_setNavigationBarHidden.mp h
      · exact Or.inl h
      · exact Or.inr ⟨_, .createUser, hnav⟩
    · exact Or.inl h
  · obtain h | ⟨rfl, hnav⟩ := mem_setNavigationBarHidden.mp h
    · exact Or.inl h
    · exact Or.inr ⟨_, .userDeleted, hnav⟩
  · exact Or.inl h

/-- A callback that hides the root's bar leaves one new screen on the root. -/
theorem Hides.pages {dev dev' : Device} {vc : Nat} {e : Event} (h : Hides d vc e)
    (hholds : Stack.holds vc dev.root = true) (hmoves : dev.Moves models d e dev') :
    dev'.AllPages NoResult := by
  have hset : ∀ dev : Device, Stack.holds vc dev.root = true →
      (dev.setTabBar vc).AllPages NoResult ∧ (dev.setLogin vc).AllPages NoResult := by
    intro dev hholds
    rw [Device.AllPages, Device.AllPages, Device.setTabBar, Device.setLogin,
      Device.display_root, Device.display_root, updateEnclosing, updateEnclosing,
      if_pos hholds, if_pos hholds, forall_stackPages_cons, forall_stackPages_cons]
    exact ⟨⟨Device.allPages_tabBar noResult_tabPages _, by simp [stackPages]⟩,
      by simp [Screen.pages, NoResult], by simp [stackPages]⟩
  cases h with
  | signIn =>
      cases hmoves with
      | signIn => exact (hset { dev with currentUser := _ } hholds).1
      | stay hsite => exact absurd rfl hsite
  | createUser =>
      cases hmoves with
      | createUser => exact (hset { dev with currentUser := _, defaults := _ } hholds).1
      | stay hsite => exact absurd rfl hsite
  | userDeleted =>
      cases hmoves with
      | userDeleted => exact (hset { dev with defaults := _ } hholds).2
      | stay hsite => exact absurd rfl hsite

/-- Wherever the root's bar is hidden there is no result left. -/
theorem Shell.closed_of_run {es : List Shell.Event} (hlaunch : s₀.AtLaunch)
    (hrun : run (Shell.step models) s₀ es = some s) (hhidden : .root ∈ s.hidden d) :
    s.Closed d := by
  refine run_induction (P := fun _ s => .root ∈ s.hidden d → s.Closed d) ?_ ?_ hrun hhidden
  · intro hhidden
    rw [hlaunch.hidden d] at hhidden
    cases hhidden
  · intro es s e s' hs hclosed hstep hhidden
    have hafter := (Shell.step_some.mp hstep).2.2
    rw [hafter] at hhidden
    rcases Shell.mem_hiddenAfter hhidden with hbefore | ⟨vc, hhides, hnav⟩
    · exact (hclosed hbefore).step (Shell.sound_of_run hlaunch hs) hstep
    · have hworld := (Shell.step_some.mp hstep).2.1
      exact ⟨hafter ▸ hhidden,
        hhides.pages (owner_eq_root.mp hnav) (World.step_moves hworld d)⟩

/-- Once the root's bar is hidden on a device, nothing that happens there or
elsewhere leaves a quiz, redeems a sticker or resets the album on that
device, and its store keeps everything but the uid. -/
theorem frozen_once_hidden {es fs : List Shell.Event} (hlaunch : s₀.AtLaunch)
    (hrun : run (Shell.step models) s₀ es = some s) (hhidden : .root ∈ s.hidden d)
    (hrun' : run (Shell.step models) s fs = some s') : Shell.Frozen d s fs s' := by
  have hclosed := Shell.closed_of_run hlaunch hrun hhidden
  refine Shell.frozen_of_invariant (I := fun s => s.Sound models ∧ s.Closed d)
    (p := fun _ => True) (fun s e s' hs _ hstep => ?_)
    ⟨Shell.sound_of_run hlaunch hrun, hclosed⟩ (fun _ _ => trivial) hrun'
  exact ⟨⟨hs.1.step hstep, hs.2.step hs.1 hstep⟩, hs.2.quiet hs.1 hstep⟩

end Closed

/-- After the first sign-up. -/
theorem frozen_once_hidden_first_quiz :
    ∃ s s', run (Shell.step CollectionViewController.models) Shell.empty
        (Shell.found firstSignUp) = some s ∧
      .root ∈ s.hidden 0 ∧
      run (Shell.step CollectionViewController.models) s
        (Shell.found ((quizEvents 8 0).take 4)) = some s' ∧
      Shell.Frozen 0 s (Shell.found ((quizEvents 8 0).take 4)) s' := by
  have hobs : (run (Shell.step CollectionViewController.models) Shell.empty
      (Shell.found firstSignUp)).map (fun s => s.hidden 0) = some [.root] := by
    decide +kernel
  obtain ⟨s, hrun, hobs⟩ := Option.map_eq_some_iff.mp hobs
  have hhidden : .root ∈ s.hidden 0 := by
    rw [hobs]
    decide
  have hall : (run (Shell.step CollectionViewController.models) Shell.empty
      (Shell.found firstSignUp ++ Shell.found ((quizEvents 8 0).take 4))).isSome = true := by
    decide +kernel
  rw [run_append, hrun] at hall
  obtain ⟨s', hrun'⟩ := Option.isSome_iff_exists.mp hall
  exact ⟨s, s', hrun, hhidden, hrun',
    frozen_once_hidden Shell.empty_atLaunch hrun hhidden hrun'⟩

/-! ## From launch to the root's bar -/

/-- The tab bar is still to appear, and no request concerns the device. -/
structure Shell.Waiting (s : Shell) (d : DeviceId) : Prop where
  device : (s.world.device d).AtLaunch
  userUID : (s.world.device d).defaults.userUID = none
  requests : ∀ r ∈ s.world.requests, ∀ vc page, r.sender ≠ some (d, vc, page)

/-- The phases of a session that starts without a uid. -/
inductive Shell.Phase (s : Shell) (d : DeviceId) : Prop
  | waiting (h : s.Waiting d)
  | gate (h : GateStack (s.world.device d).root)
  | closed (h : s.Closed d)

theorem Request.Follows.sender {r r' : Request} {answer : Reply} {d : DeviceId} {vc : Nat}
    {page : Page} (h : r.Follows answer r') (hsender : r'.sender = some (d, vc, page)) :
    r.sender = some (d, vc, page) := by
  cases h with
  | profile => cases hsender
  | callback | account | last => exact hsender

theorem Device.Asks.sender {r : Request} {a : Action} {dev : Device} {d d' : DeviceId}
    {vc : Nat} {page : Page} (h : dev.Asks d' a r)
    (hsender : r.sender = some (d, vc, page)) : d' = d ∧ dev.appearing = [] := by
  cases h with
  | signIn hshows | signUp hshows | deletion hshows =>
      rw [Request.sender, Option.some.injEq, Prod.mk.injEq] at hsender
      exact ⟨hsender.1, hshows.1⟩

section FirstSession

variable {models : List Model} {s₀ s s' : Shell} {d : DeviceId} {e : Shell.Event}

/-- Nothing but the gate can happen to a device whose tab bar is still to
appear. -/
theorem Shell.Waiting.step (h : s.Waiting d) (hstep : s.step models e = some s') :
    s'.Phase d := by
  obtain ⟨-, hworld, -⟩ := Shell.step_some.mp hstep
  obtain ⟨⟨hroot, hnext, happ⟩, huid, hrequests⟩ := h
  have hbusy : (s.world.device d).appearing ≠ [] := by
    rw [happ]
    simp
  have hstays : s'.world.device d = s.world.device d → s'.Phase d := by
    intro hsame
    refine .waiting ⟨by rw [hsame]; exact ⟨hroot, hnext, happ⟩, by rw [hsame]; exact huid, ?_⟩
    intro r hr vc page hsender
    rcases World.step_requests hworld hr with hr | ⟨d', a, -, hasks⟩ |
      ⟨r₀, answer, -, hr₀, hfollows⟩
    · exact hrequests r hr vc page hsender
    · obtain ⟨rfl, hnil⟩ := hasks.sender hsender
      exact hbusy hnil
    · exact hrequests r₀ hr₀ vc page (hfollows.sender hsender)
  have hreply : ∀ {r answer vc page}, e.event = .reply r answer →
      r.sender ≠ some (d, vc, page) := by
    intro r answer vc page he
    rw [he] at hworld
    exact hrequests r (World.reply_answers hworld).1 vc page
  have hmoves := World.step_moves hworld d
  generalize hevent : e.event = event at hmoves
  generalize hdev : s'.world.device d = dev' at hmoves hstays
  cases hmoves with
  | stay => exact hstays rfl
  | signIn | createUser | documentDeleted | deleteUser | userDeleted =>
      exact absurd rfl (hreply hevent)
  | act hdoes =>
      cases hdoes with
      | idle => exact hstays rfl
      | send hshows => exact absurd hshows.1 hbusy
      | switch hshows | back hshows | album hshows | push hshows | leaveQuiz hshows
      | redeem hshows | gallery hshows | reset hshows => exact absurd hshows.1 hbusy
      | @appear bar hbar =>
          rw [happ, List.mem_singleton] at hbar
          subst hbar
          have hgate : s'.world.device d =
              TabBarController.redirectToLoginScreen
                { s.world.device d with appearing := (s.world.device d).appearing.erase 0 }
                0 := by
            rw [hdev, Outcome.local, TabBarController.viewDidAppear]
            dsimp only
            rw [huid]
          refine .gate ?_
          rw [hgate, TabBarController.redirectToLoginScreen, Device.setLogin,
            Device.display_root, hroot]
          exact .login

theorem GateStack.visibleTabs {root : Stack ViewController} (h : GateStack root) :
    stackVisibleTabs root = [] := by
  cases h <;> rfl

theorem GateStack.front {root : Stack ViewController} (h : GateStack root) {vc : Nat}
    {self : ViewController} (hfront : stackFront root = some (vc, self)) :
    self = ⟨.login, none⟩ ∨ self = ⟨.register, none⟩ := by
  cases h <;> cases hfront
  · exact Or.inl rfl
  · exact Or.inr rfl

/-- The gate's stack has no tab bar for a callback to reach into. -/
theorem GateStack.updateEnclosing_eq {root : Stack ViewController} (h : GateStack root)
    {vc : Nat} (hholds : ¬ Stack.holds vc root = true)
    (f : Stack ViewController → Stack ViewController) :
    updateEnclosing vc f root = root := by
  rw [updateEnclosing, if_neg hholds]
  cases h <;> rfl

/-- The taps at the gate open the register page and go back from it. -/
theorem GateStack.act {dev : Device} {a : Action} {o : Outcome} (h : GateStack dev.root)
    (hdistinct : dev.Distinct) (hdoes : dev.Does models d a o) : GateStack o.device.root := by
  have hfront : ∀ {vc self}, dev.Shows vc self →
      self = ⟨.login, none⟩ ∨ self = ⟨.register, none⟩ := fun hshows => h.front hshows.2
  have hbars : ∀ bar, bar ∉ stackVisibleTabs dev.root := by
    intro bar
    rw [h.visibleTabs]
    simp
  cases hdoes with
  | appear hbar => exact absurd (hdistinct.appearing _ hbar) (hbars _)
  | switch _ hbar => exact absurd hbar (hbars _)
  | @back vc self hshows hpage =>
      rw [Outcome.local, Device.popViewController, Device.display_root]
      have hshown := hshows.2
      rw [Device.front] at hshown
      generalize dev.root = root at h hshown ⊢
      cases h with
      | login =>
          cases hshown
          cases hpage
      | register =>
          cases hshown
          rw [updateEnclosing, if_pos holds_page]
          exact .login
  | album hshows hpage =>
      rcases hfront hshows with rfl | rfl <;> cases hpage
  | @push a vc self new hshows hopens =>
      rw [Outcome.local, Device.pushViewController, Device.display_root]
      have hshown := hshows.2
      rw [Device.front] at hshown
      generalize dev.root = root at h hshown ⊢
      cases h with
      | login =>
          cases hshown
          cases hopens with
          | register =>
              rw [updateEnclosing, if_pos holds_page]
              exact .register
      | register =>
          cases hshown
          cases hopens
  | leaveQuiz hshows | redeem hshows | gallery hshows =>
      rcases hfront hshows with heq | heq <;> cases heq
  | reset hshows hpage =>
      obtain ⟨collections, hpage⟩ := hpage
      rcases hfront hshows with rfl | rfl <;> cases hpage
  | send | idle => exact h

/-- A callback that hides a bar, once its page has found its navigation
controller. -/
theorem Shell.mem_hiddenAfter_of_hides {vc : Nat} {nav : Nav} (h : Hides d vc e.event)
    (hfound : e.found = true)
    (hnav : (s.world.device d).navigationController vc = some nav) :
    nav ∈ s.hiddenAfter e d := by
  have hset : nav ∈ s.setNavigationBarHidden d vc d :=
    mem_setNavigationBarHidden.mpr (Or.inr ⟨rfl, hnav⟩)
  obtain ⟨event, found⟩ := e
  obtain rfl : found = true := hfound
  cases h with
  | signIn | createUser | userDeleted => exact hset

/-- The callbacks that lead away from the gate hide the root's bar. -/
theorem Shell.gate_step (h : GateStack (s.world.device d).root) (hsound : s.Sound models)
    (hfound : e.found = true) (hstep : s.step models e = some s') : s'.Phase d := by
  obtain ⟨-, hworld, hhidden⟩ := Shell.step_some.mp hstep
  have hmoves := World.step_moves hworld d
  have hcallback : ∀ {vc f}, Hides d vc e.event →
      (s'.world.device d).root = updateEnclosing vc f (s.world.device d).root →
        s'.Phase d := by
    intro vc f hhides hroot
    by_cases hholds : Stack.holds vc (s.world.device d).root = true
    · refine .closed ⟨?_, hhides.pages hholds hmoves⟩
      rw [hhidden]
      exact Shell.mem_hiddenAfter_of_hides hhides hfound (owner_eq_root.mpr hholds)
    · refine .gate ?_
      rw [hroot, h.updateEnclosing_eq hholds]
      exact h
  generalize hevent : e.event = event at hmoves hcallback
  generalize hdev : s'.world.device d = dev' at hmoves hcallback
  cases hmoves with
  | act hdoes => exact .gate (hdev ▸ h.act (hsound.identified.distinct d) hdoes)
  | signIn => exact hcallback .signIn rfl
  | createUser => exact hcallback .createUser rfl
  | userDeleted => exact hcallback .userDeleted rfl
  | deleteUser =>
      refine .gate ?_
      rw [hdev, Device.signOut_root]
      exact h
  | documentDeleted | stay => exact .gate (hdev ▸ h)

theorem Shell.Phase.quiet (h : s.Phase d) (hsound : s.Sound models)
    (hstep : s.step models e = some s') :
    ∀ a, e.event = .act d a → a.writes = false := by
  intro a he
  have hworld := (Shell.step_some.mp hstep).2.1
  rw [he] at hworld
  obtain ⟨o, hact, -⟩ := World.act_outcome hworld
  have hpage : a.writes = true → ∃ vc self, (s.world.device d).Shows vc self ∧
      Writes a self.page := Device.act_writes hact
  cases h with
  | closed h => exact h.quiet hsound hstep a he
  | waiting h =>
      rw [Bool.eq_false_iff]
      intro ha
      obtain ⟨vc, self, hshows, -⟩ := hpage ha
      have happ := hshows.1
      rw [h.device.2.2] at happ
      cases happ
  | gate h =>
      rw [Bool.eq_false_iff]
      intro ha
      obtain ⟨vc, self, hshows, hwrites⟩ := hpage ha
      rcases h.front hshows.2 with rfl | rfl <;> cases hwrites

theorem Shell.Phase.step (h : s.Phase d) (hsound : s.Sound models) (hfound : e.found = true)
    (hstep : s.step models e = some s') : s'.Phase d := by
  cases h with
  | waiting h => exact h.step hstep
  | gate h => exact Shell.gate_step h hsound hfound hstep
  | closed h => exact .closed (h.step hsound hstep)

/-- A device without a stored uid at launch, with the bars hidden as the code
asks: in the whole session, whoever signs up or in, no quiz is left there, no
sticker redeemed and nothing reset, and its store keeps everything but the
uid. -/
theorem nothing_collected_in_first_session {es : List Shell.Event} (hlaunch : s₀.AtLaunch)
    (huid : (s₀.world.device d).defaults.userUID = none)
    (hfound : ∀ e ∈ es, e.found = true) (hrun : run (Shell.step models) s₀ es = some s) :
    Shell.Frozen d s₀ es s := by
  have hwaiting : s₀.Waiting d := by
    refine ⟨hlaunch.world.screens d, huid, fun r hr => ?_⟩
    rw [hlaunch.world.requests] at hr
    cases hr
  have hsound : s₀.Sound models := Shell.sound_of_run hlaunch run_nil
  refine Shell.frozen_of_invariant (I := fun s => s.Sound models ∧ s.Phase d)
    (fun s e s' hs he hstep => ?_) ⟨hsound, .waiting hwaiting⟩ hfound hrun
  exact ⟨⟨hs.1.step hstep, hs.2.step hs.1 he hstep⟩, hs.2.quiet hs.1 hstep⟩

end FirstSession

/-- The first user signs up and gets as far as a quiz. -/
theorem nothing_collected_in_first_session_quiz :
    ∃ s, run (Shell.step CollectionViewController.models) Shell.empty
        (Shell.found (firstSignUp ++ (quizEvents 8 0).take 4)) = some s ∧
      Shell.Frozen 0 Shell.empty (Shell.found (firstSignUp ++ (quizEvents 8 0).take 4)) s := by
  obtain ⟨s, hrun⟩ : ∃ s, run (Shell.step CollectionViewController.models) Shell.empty
      (Shell.found (firstSignUp ++ (quizEvents 8 0).take 4)) = some s :=
    Option.isSome_iff_exists.mp (by decide +kernel)
  refine ⟨s, hrun, nothing_collected_in_first_session Shell.empty_atLaunch (by decide) ?_ hrun⟩
  intro e he
  obtain ⟨event, -, rfl⟩ := List.mem_map.mp he
  rfl

end GloboCollection
