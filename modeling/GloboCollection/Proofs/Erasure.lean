import GloboCollection.Lib.Relabel
import GloboCollection.Proofs.Steps

/-!
# The screens do not look at the stickers

What was redeemed shows on the info page, which offers the quiz or hides it,
and nowhere else in the course of the app. `erase` forgets the lock flags,
what the info pages show, and the score documents; everything that is left —
the screens, the sessions, the accounts, the requests in flight — goes
through a run as if no redeem had happened in it. That is `erase_run`: run
the app, or run the erased app on the events that are not about redeems, and
the erased outcome is the same.

So two runs that differ in their redeems only end in worlds that differ in
what `erase` forgets only.
-/

namespace GloboCollection

open GloboCollection.Lib

/-! ## Erasing -/

/-- Of the local store only the uid is left. -/
def UserDefaults.erase (ud : UserDefaults) : UserDefaults :=
  match ud.userUID with
  | some u => UserDefaults.set ∅ (some (.string u)) userUIDKey
  | none => ∅

/-- An info page that shows nothing. -/
def ViewController.erase (vc : ViewController) : ViewController :=
  match vc.page with
  | .info c _ => ⟨.info c (InfoViewController.viewDidLoad ∅ none), vc.origin⟩
  | _ => vc

def Device.erase (dev : Device) : Device :=
  { dev with
    defaults := dev.defaults.erase
    root := stackMap ViewController.erase dev.root }

def World.erase (w : World) : World :=
  { w with
    device := fun d => (w.device d).erase
    scores := ⟨fun _ => none, []⟩ }

theorem UserDefaults.erase_congr {ud ud' : UserDefaults} (h : ud'.userUID = ud.userUID) :
    ud'.erase = ud.erase := by
  rw [erase, erase, h]

@[simp] theorem UserDefaults.userUID_erase {ud : UserDefaults} :
    ud.erase.userUID = ud.userUID := by
  rw [erase]
  split <;> rename_i h <;> rw [h]
  · exact string_set_string
  · rfl

@[simp] theorem ViewController.erase_erase {vc : ViewController} :
    vc.erase.erase = vc.erase := by
  obtain ⟨page, origin⟩ := vc
  cases page <;> rfl

namespace Device

variable {dev : Device} {vc n : Nat} {root : Stack ViewController}
  {new : ViewController}

@[simp] theorem erase_erase : dev.erase.erase = dev.erase := by
  rw [erase, erase]
  simp only [UserDefaults.erase_congr UserDefaults.userUID_erase, stackMap_stackMap,
    ViewController.erase_erase]

/-- A change of the store that keeps the uid is forgotten. -/
theorem erase_setDefaults {ud : UserDefaults} (h : ud.userUID = dev.defaults.userUID) :
    erase { dev with defaults := ud } = dev.erase := by
  rw [erase, erase, UserDefaults.erase_congr h]

/-- Signing in or out on the erased device, or removing its uid, comes to the
same. -/
theorem erase_setSession {currentUser : Option Uid} {ud ud' : UserDefaults}
    (h : ud'.userUID = ud.userUID) :
    erase { dev.erase with currentUser := currentUser, defaults := ud' } =
      erase { dev with currentUser := currentUser, defaults := ud } := by
  simp only [erase, UserDefaults.erase_congr h, stackMap_stackMap,
    ViewController.erase_erase]

theorem front_erase :
    dev.erase.front = dev.front.map fun p => (p.1, p.2.erase) :=
  stackFront_map dev.root

theorem erase_display :
    (dev.display root n).erase =
      dev.erase.display (stackMap ViewController.erase root) n := by
  simp only [display, erase, stackVisibleTabs_map]

theorem erase_pushViewController :
    (dev.pushViewController vc new).erase =
      dev.erase.pushViewController vc new.erase := by
  rw [pushViewController, erase_display,
    stackMap_updateEnclosing (fun stk => .page dev.nextId new.erase :: stk) fun _ => rfl]
  rfl

theorem erase_popViewController :
    (dev.popViewController vc).erase = dev.erase.popViewController vc := by
  rw [popViewController, erase_display, stackMap_updateEnclosing popStack stackMap_popStack]
  rfl

theorem map_tabBar : (TabBarController n).map ViewController.erase = TabBarController n := by
  simp [TabBarController, Screen.map, navMap, stackMap, ViewController.erase]

theorem erase_setTabBar : (dev.setTabBar vc).erase = dev.erase.setTabBar vc := by
  rw [setTabBar, erase_display,
    stackMap_updateEnclosing (fun _ => [TabBarController dev.nextId])
      fun _ => by simp only [stackMap, map_tabBar]]
  rfl

theorem erase_setLogin : (dev.setLogin vc).erase = dev.erase.setLogin vc := by
  rw [setLogin, erase_display,
    stackMap_updateEnclosing (fun _ => [.page dev.nextId ⟨.login, none⟩])
      fun _ => by simp only [stackMap, Screen.map, ViewController.erase]]
  rfl

theorem erase_viewDidAppear {bar : Nat} :
    (TabBarController.viewDidAppear dev bar).erase =
      TabBarController.viewDidAppear dev.erase bar := by
  rw [TabBarController.viewDidAppear, TabBarController.viewDidAppear]
  have huid : dev.erase.defaults.userUID = dev.defaults.userUID :=
    UserDefaults.userUID_erase
  cases h : dev.defaults.userUID with
  | some u =>
      rw [h] at huid
      simp only [huid]
      rfl
  | none =>
      rw [h] at huid
      simp only [huid]
      exact erase_setLogin

theorem erase_userCreated {uid : Uid} :
    (RegisterViewController.userCreated dev.erase vc uid).erase =
      (RegisterViewController.userCreated dev vc uid).erase := by
  rw [RegisterViewController.userCreated, RegisterViewController.userCreated,
    RegisterViewController.transitionToTabBar, RegisterViewController.transitionToTabBar,
    erase_setTabBar, erase_setTabBar,
    erase_setSession (UserDefaults.string_set_string.trans
      UserDefaults.string_set_string.symm)]

/-- The two callbacks that sign somebody in differ in the order only. -/
theorem signedIn_eq_userCreated {uid : Uid} :
    LoginViewController.signedIn dev vc uid =
      RegisterViewController.userCreated dev vc uid := rfl

theorem erase_documentDeleted :
    (HomeViewController.documentDeleted dev.erase).erase =
      (HomeViewController.documentDeleted dev).erase :=
  erase_setSession (UserDefaults.string_removeObject.trans
    UserDefaults.string_removeObject.symm)

theorem erase_userDeleted :
    (HomeViewController.userDeleted dev.erase vc).erase =
      (HomeViewController.userDeleted dev vc).erase := by
  have hdoc := @erase_documentDeleted dev
  rw [HomeViewController.documentDeleted, HomeViewController.documentDeleted] at hdoc
  rw [HomeViewController.userDeleted, HomeViewController.userDeleted,
    HomeViewController.transitionToLogin, HomeViewController.transitionToLogin,
    erase_setLogin, erase_setLogin, hdoc]

theorem erase_signOut {uid : Uid} :
    (dev.erase.signOut uid).erase = (dev.signOut uid).erase := by
  rw [signOut, signOut]
  split <;> rename_i h
  · rw [if_pos (show dev.currentUser = some uid from h)]
    exact erase_setSession UserDefaults.userUID_erase
  · rw [if_neg (show ¬ dev.currentUser = some uid from h), erase_erase]

end Device

/-! ## Actions -/

/-- The same screens and the same requests. -/
def Outcome.Like (o' o : Outcome) : Prop :=
  o'.device.erase = o.device.erase ∧ o'.requests = o.requests

section Act

variable {models : List Model} {d : DeviceId} {dev : Device} {a : Action}
  {o : Outcome} {vc : Nat} {new new' : ViewController}

theorem like_local : (Outcome.local dev.erase).Like (.local dev) :=
  ⟨Device.erase_erase, rfl⟩

/-- What commutes with erasing looks the same on the erased device. -/
theorem like_of_erase_comm {f : Device → Device}
    (hf : ∀ dev : Device, (f dev).erase = f dev.erase) :
    (Outcome.local (f dev.erase)).Like (.local (f dev)) := by
  refine ⟨?_, rfl⟩
  rw [Outcome.local, Outcome.local, hf, hf, Device.erase_erase]

theorem like_setDefaults {ud ud' : UserDefaults} {requests : List Request}
    {redeem redeem' : Option (Uid × Collection)}
    (h : ud.userUID = dev.defaults.userUID)
    (h' : ud'.userUID = dev.erase.defaults.userUID) :
    Outcome.Like ⟨{ dev.erase with defaults := ud' }, requests, redeem'⟩
      ⟨{ dev with defaults := ud }, requests, redeem⟩ := by
  refine ⟨?_, rfl⟩
  rw [Device.erase_setDefaults h, Device.erase_setDefaults h', Device.erase_erase]

theorem like_push (hnew : new'.erase = new.erase) :
    (Outcome.local (dev.erase.pushViewController vc new')).Like
      (.local (dev.pushViewController vc new)) := by
  refine ⟨?_, rfl⟩
  rw [Outcome.local, Outcome.local, Device.erase_pushViewController,
    Device.erase_pushViewController, Device.erase_erase, hnew]

theorem tap_erase {handler handler' : Nat → ViewController → Option Outcome}
    (h : dev.tap handler = some o)
    (hh : ∀ vc self, handler vc self = some o →
      ∃ o', handler' vc self.erase = some o' ∧ o'.Like o) :
    ∃ o', dev.erase.tap handler' = some o' ∧ o'.Like o := by
  obtain ⟨happ, vc, self, hfront, h⟩ := Device.tap_some.mp h
  obtain ⟨o', ho', hlike⟩ := hh vc self h
  refine ⟨o', Device.tap_some.mpr ⟨happ, vc, self.erase, ?_, ho'⟩, hlike⟩
  rw [Device.front_erase, hfront, Option.map_some]

theorem openQuiz_erase {self : ViewController} {collectionData : Option Collection} :
    (Handlers.openQuiz dev.erase vc self.erase collectionData).Like
      (Handlers.openQuiz dev vc self collectionData) := by
  have horigin : self.erase.origin = self.origin := by
    obtain ⟨page, origin⟩ := self
    cases page <;> rfl
  cases collectionData with
  | none => exact like_local
  | some c =>
      rw [Handlers.openQuiz, Handlers.openQuiz, horigin]
      exact like_push rfl

/-- An action on the erased device does the same as far as can be seen. -/
theorem act_erase (h : dev.act models d a = some o) :
    ∃ o', dev.erase.act models d a = some o' ∧ o'.Like o := by
  cases a with
  | viewDidAppear bar =>
      rw [Device.act] at h
      split at h <;> rename_i hbar
      · cases h
        exact ⟨_, if_pos hbar, like_of_erase_comm
          (f := fun dev => TabBarController.viewDidAppear dev bar)
          fun _ => Device.erase_viewDidAppear⟩
      · cases h
  | switchTab bar i =>
      refine tap_erase h fun vc self h => ?_
      rw [Handlers.switchTab] at h
      split at h <;> rename_i hbar
      · cases h
        rw [← stackVisibleTabs_map (f := ViewController.erase)] at hbar
        refine ⟨_, if_pos hbar, like_of_erase_comm
          (f := fun dev => dev.display (stackSelectTab bar i dev.root) 0) fun dev => ?_⟩
        rw [Device.erase_display, stackMap_selectTab]
        rfl
      · cases h
  | backButtonTapped =>
      refine tap_erase h fun vc self h => ?_
      obtain ⟨page, origin⟩ := self
      rw [Handlers.backButtonTapped] at h
      split at h <;> rename_i hpage <;> cases h <;> obtain rfl : page = _ := hpage <;>
        exact ⟨_, rfl, like_of_erase_comm (f := fun dev => dev.popViewController vc)
          fun _ => Device.erase_popViewController⟩
  | handleCellTap row =>
      refine tap_erase h fun vc self h => ?_
      obtain ⟨page, origin⟩ := self
      rw [Handlers.handleCellTap] at h
      split at h
      · rename_i m hpage hm
        cases h
        obtain rfl : page = _ := hpage
        refine ⟨_, by rw [Handlers.handleCellTap, hm]; rfl, like_of_erase_comm
          (f := fun dev => dev.display
            (.page dev.nextId ⟨.details (some m.figurinhas), none⟩ :: dev.root) 1)
          fun dev => ?_⟩
        rw [Device.erase_display]
        rfl
      · cases h
  | didSelectItemAt item =>
      refine tap_erase h fun vc self h => ?_
      obtain ⟨page, origin⟩ := self
      rw [Handlers.didSelectItemAt] at h
      split at h <;> rename_i hpage
      · obtain rfl : page = _ := hpage
        split at h
        · rename_i c hc
          cases h
          refine ⟨.local (dev.erase.pushViewController vc
            ⟨.info (some c) (InfoViewController.viewDidLoad dev.erase.defaults (some c)),
              some c⟩), ?_, like_push rfl⟩
          rw [Handlers.didSelectItemAt]
          simp only [ViewController.erase, hc]
        · cases h
      · cases h
  | buttonSearchTapped =>
      refine tap_erase h fun vc self h => ?_
      obtain ⟨page, origin⟩ := self
      rw [Handlers.buttonSearchTapped] at h
      split at h <;> rename_i hpage
      · obtain rfl : page = _ := hpage
        cases h
        exact ⟨_, rfl, like_setDefaults UserDefaults.userUID_buttonSearchTapped
          UserDefaults.userUID_buttonSearchTapped⟩
      · cases h
  | startQuizButtonTapped =>
      refine tap_erase h fun vc self h => ?_
      obtain ⟨page, origin⟩ := self
      rw [Handlers.startQuizButtonTapped] at h
      split at h <;> rename_i hpage
      · obtain rfl : page = _ := hpage
        split at h
        · cases h
        · cases h
          exact ⟨_, rfl, openQuiz_erase⟩
      · cases h
  | voltarButtonPressionado =>
      refine tap_erase h fun vc self h => ?_
      obtain ⟨page, origin⟩ := self
      rw [Handlers.voltarButtonPressionado] at h
      split at h <;> rename_i hpage
      · obtain rfl : page = _ := hpage
        cases h
        refine ⟨_, rfl, ?_, rfl⟩
        have hkeep : ∀ (dev : Device) {value : Option Value} {id : Option Int},
            Device.erase { dev with defaults := dev.defaults.set value (quizKey id) } =
              dev.erase :=
          fun _ => Device.erase_setDefaults UserDefaults.userUID_set_sticker
        simp only [Outcome.local, Device.erase_pushViewController, hkeep,
          Device.erase_erase]
        rfl
      · cases h
  | redeemButtonTapped =>
      refine tap_erase h fun vc self h => ?_
      obtain ⟨page, origin⟩ := self
      rw [Handlers.redeemButtonTapped] at h
      split at h <;> rename_i hpage
      · obtain rfl : page = _ := hpage
        cases h
        exact ⟨_, rfl,
          like_setDefaults (ResultViewController.redeemButtonTapped_userUID _ _)
            (ResultViewController.redeemButtonTapped_userUID _ _)⟩
      · cases h
  | galeryButtonTapped =>
      refine tap_erase h fun vc self h => ?_
      obtain ⟨page, origin⟩ := self
      rw [Handlers.galeryButtonTapped] at h
      split at h <;> rename_i hpage
      · obtain rfl : page = _ := hpage
        cases h
        refine ⟨_, rfl, like_of_erase_comm (f := fun dev => dev.display
          (updateEnclosing vc (fun stk => TabBarController dev.nextId :: stk) dev.root) 6)
          fun dev => ?_⟩
        rw [Device.erase_display,
          stackMap_updateEnclosing (fun stk => TabBarController dev.nextId :: stk)
            fun _ => by rw [stackMap, Device.map_tabBar]]
        rfl
      · cases h
  | restartButtonTapped =>
      refine tap_erase h fun vc self h => ?_
      obtain ⟨page, origin⟩ := self
      rw [Handlers.restartButtonTapped] at h
      split at h <;> rename_i hpage
      · obtain rfl : page = _ := hpage
        cases h
        exact ⟨_, rfl, openQuiz_erase⟩
      · cases h
  | registerButtonTapped =>
      refine tap_erase h fun vc self h => ?_
      obtain ⟨page, origin⟩ := self
      rw [Handlers.registerButtonTapped] at h
      split at h <;> rename_i hpage
      · obtain rfl : page = _ := hpage
        cases h
        exact ⟨_, rfl, like_push rfl⟩
      · cases h
  | loginButtonTapped email password =>
      refine tap_erase h fun vc self h => ?_
      obtain ⟨page, origin⟩ := self
      rw [Handlers.loginButtonTapped] at h
      split at h <;> rename_i hpage
      · obtain rfl : page = _ := hpage
        cases h
        exact ⟨_, rfl, Device.erase_erase, rfl⟩
      · cases h
  | signupButtonTapped userName email password =>
      refine tap_erase h fun vc self h => ?_
      obtain ⟨page, origin⟩ := self
      rw [Handlers.signupButtonTapped] at h
      split at h <;> rename_i hpage
      · obtain rfl : page = _ := hpage
        split at h <;> rename_i hvalid
        · cases h
          exact ⟨_, by rw [Handlers.signupButtonTapped, hvalid]; rfl, like_local⟩
        · cases h
          exact ⟨⟨dev.erase, _, none⟩, by rw [Handlers.signupButtonTapped, hvalid]; rfl,
            Device.erase_erase, rfl⟩
      · cases h
  | deleteAccount =>
      refine tap_erase h fun vc self h => ?_
      obtain ⟨page, origin⟩ := self
      have huid : dev.erase.defaults.userUID = dev.defaults.userUID :=
        UserDefaults.userUID_erase
      rw [Handlers.deleteAccount] at h
      split at h <;> rename_i hpage
      · obtain rfl : page = _ := hpage
        split at h
        · rename_i userUID currentUser hstored hcurrent
          cases h
          refine ⟨⟨dev.erase, [.deleteDocument d vc userUID currentUser], none⟩, ?_,
            Device.erase_erase, rfl⟩
          rw [Handlers.deleteAccount]
          simp only [ViewController.erase, huid, hstored]
          rw [show dev.erase.currentUser = some currentUser from hcurrent]
        · rename_i hnot
          cases h
          refine ⟨_, ?_, like_local⟩
          rw [Handlers.deleteAccount]
          simp only [ViewController.erase, huid]
          split
          · rename_i hstored hcurrent
            exact absurd hcurrent (hnot _ _ hstored)
          · rfl
      · cases h

end Act

/-! ## Whole worlds -/

/-- A redeem, or a step of its way to the server. -/
def Event.aboutRedeem : Event → Bool
  | .act _ .redeemButtonTapped | .scoreRead .. | .scoreWrite .. => true
  | _ => false

namespace World

variable {models : List Model} {w w' : World} {d : DeviceId} {dev dev' : Device}
  {e : Event}

theorem erase_update (device : DeviceId → Device) :
    (fun d' => (Function.update device d dev d').erase) =
      Function.update (fun d' => (device d').erase) d dev.erase :=
  Function.comp_update Device.erase device d dev

/-- Two worlds with the same accounts, documents and requests, and one device
put in place on each, the second world being the first one erased. -/
theorem erase_setDevice {server : Server} {requests : List Request}
    (hdev : dev'.erase = dev.erase) :
    World.erase { w.erase.setDevice d dev' with server := server, requests := requests } =
      World.erase { w.setDevice d dev with server := server, requests := requests } := by
  simp only [erase, setDevice, erase_update, hdev, Device.erase_erase]

theorem erase_redeem (hstep : w.step models e = some w') (he : e.aboutRedeem = true) :
    w'.erase = w.erase := by
  cases e with
  | act d a =>
      obtain ⟨o, hdoes, hdevice, hserver, hreq, -⟩ := act_some hstep
      have hdev : o.device.erase = (w.device d).erase ∧ o.requests = [] := by
        cases a with
        | redeemButtonTapped =>
            cases hdoes with
            | redeem =>
                exact ⟨Device.erase_setDefaults
                  (ResultViewController.redeemButtonTapped_userUID _ _), rfl⟩
            | push _ _ ha | send _ _ ha | idle ha => exact ha.elim
        | _ => cases he
      simp only [erase, hdevice, hserver, hreq, erase_update, hdev.1, hdev.2,
        List.append_nil]
      congr 1
      exact Function.update_eq_self d fun d' => (w.device d').erase
  | scoreRead i ok =>
      obtain ⟨s, -, rfl⟩ := scoreRead_some hstep
      rfl
  | scoreWrite i ok =>
      obtain ⟨s, -, rfl⟩ := scoreWrite_some hstep
      rfl
  | reply r answer => cases he

@[simp] theorem erase_erase : w.erase.erase = w.erase := by
  simp only [erase, Device.erase_erase]

/-- The callbacks run on the erased world as on the world. -/
theorem answer_erase {r : Request} {answer : Reply} (h : w.answer r answer = some w') :
    ∃ v, w.erase.answer r answer = some v ∧ v.erase = w'.erase := by
  cases answer_answers h with
  | signIn haccount =>
      refine ⟨_, if_pos haccount, erase_setDevice ?_⟩
      rw [Device.signedIn_eq_userCreated, Device.signedIn_eq_userCreated]
      exact Device.erase_userCreated
  | createUser hadmits =>
      exact ⟨_, if_pos hadmits, erase_setDevice Device.erase_userCreated⟩
  | addDocument hunused =>
      refine ⟨_, if_pos hunused, ?_⟩
      simp only [erase, Device.erase_erase]
  | deleteDocument =>
      refine ⟨_, rfl, ?_⟩
      simp only [erase, Device.erase_erase]
  | documentDeleted => exact ⟨_, rfl, erase_setDevice Device.erase_documentDeleted⟩
  | deleteUser haccount =>
      exact ⟨_, if_pos haccount, erase_setDevice Device.erase_signOut⟩
  | userDeleted => exact ⟨_, rfl, erase_setDevice Device.erase_userDeleted⟩
  | failed hr hr' =>
      refine ⟨w.erase, ?_, erase_erase⟩
      cases r with
      | documentDeleted d vc u => exact absurd rfl (hr' d vc u)
      | userDeleted d vc => exact absurd rfl (hr d vc)
      | _ => rfl

/-- An event that is not about a redeem does the same to the erased world. -/
theorem erase_step (hstep : w.step models e = some w') (he : e.aboutRedeem = false) :
    (w.erase.step models e).map erase = some w'.erase := by
  rw [Option.map_eq_some_iff]
  cases e with
  | act d a =>
      rw [step, World.act] at hstep
      split at hstep
      · rename_i o ho
        cases hstep
        obtain ⟨o', ho', hdev, hreq⟩ := act_erase ho
        rw [show (w.device d).erase = w.erase.device d from rfl] at ho'
        refine ⟨_, by rw [step, World.act, ho'], ?_⟩
        simp only [erase, setDevice, erase_update, hdev, hreq, Device.erase_erase]
      · cases hstep
  | reply r answer =>
      rw [step, World.reply] at hstep
      split at hstep <;> rename_i hr
      · obtain ⟨v, hv, heq⟩ := answer_erase hstep
        exact ⟨v, (if_pos hr).trans hv, heq⟩
      · cases hstep
  | scoreRead i ok => cases he
  | scoreWrite i ok => cases he

/-- The erased app. -/
def eraseStep (models : List Model) (w : World) (e : Event) : Option World :=
  (w.step models e).map erase

/-- Running the app and erasing is running the erased app on the events that
are not about redeems. -/
theorem erase_run {w₀ : World} {es : List Event}
    (hrun : run (step models) w₀ es = some w) :
    run (eraseStep models) w₀.erase (es.filter fun e => !e.aboutRedeem) =
      some w.erase := by
  refine run_induction (P := fun es w => run (eraseStep models) w₀.erase
    (es.filter fun e => !e.aboutRedeem) = some w.erase) rfl ?_ hrun
  intro es w e w' _ ih hstep
  rw [List.filter_append, List.filter_singleton]
  cases he : e.aboutRedeem with
  | true =>
      rw [erase_redeem hstep he]
      simpa using ih
  | false => exact run_concat_some.mpr ⟨w.erase, ih, erase_step hstep he⟩

end World

end GloboCollection
