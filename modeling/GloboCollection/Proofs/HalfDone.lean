import GloboCollection.Proofs.Steps

/-!
# Flows that stop halfway

Deleting an account and signing up are each several effects, on two services
and on the device, made one after the other in nested callbacks. A request
that fails ends the flow where it stands, and nothing takes back what was
done before.

Both flows are followed here from the tap to the last callback, for every
way the requests can turn out, with nothing else happening in between. A
deletion leaves the account without its stored uid when the account itself
cannot be deleted, and a sign-up leaves the account without its profile when
the profile cannot be added. In every other case both flows are whole.
-/

namespace GloboCollection

open GloboCollection.Lib

variable {models : List Model} {w : World} {d : DeviceId} {vc : Nat}

/-- The answer to a request in flight. -/
theorem World.step_reply {r : Request} {answer : Reply} (hr : r ∈ w.requests) :
    w.step models (.reply r answer) =
      World.answer { w with requests := w.requests.erase r } r answer :=
  if_pos hr

/-- A tap that only sends a request. -/
theorem World.step_send {a : Action} {r : Request}
    (h : (w.device d).act models d a = some ⟨w.device d, [r], none⟩) :
    w.step models (.act d a) = some { w with requests := w.requests ++ [r] } := by
  rw [World.step, World.act, h]
  simp only [World.setDevice, Function.update_eq_self]

/-- A tap of the page in front. -/
theorem Device.tap_of_shows {dev : Device} {self : ViewController}
    {handler : Nat → ViewController → Option Outcome} (hshows : dev.Shows vc self) :
    dev.tap handler = handler vc self := by
  rw [Device.tap, if_pos hshows.1, hshows.2]

/-! ## Deleting an account -/

/-- How the two requests of a deletion turn out. -/
inductive DeletionOutcome where
  | documentFails
  | accountFails
  | succeeds
deriving DecidableEq, Repr

/-- The first half of a deletion of `u` by the home page `vc` of device `d`,
from the confirmation until the account is asked to be deleted. -/
def documentDeletion (d : DeviceId) (vc : Nat) (u : Uid) : List Event :=
  [.act d .deleteAccount, .reply (.deleteDocument d vc u u) .success,
    .reply (.documentDeleted d vc u) .success]

/-- A whole deletion, to its last callback. -/
def deletionRun (d : DeviceId) (vc : Nat) (u : Uid) : DeletionOutcome → List Event
  | .documentFails =>
      [.act d .deleteAccount, .reply (.deleteDocument d vc u u) .failure]
  | .accountFails =>
      documentDeletion d vc u ++ [.reply (.deleteUser d vc u) .failure]
  | .succeeds =>
      documentDeletion d vc u ++
        [.reply (.deleteUser d vc u) .success, .reply (.userDeleted d vc) .success]

/-- As long as the account is there, so are its uid on the device and the
profiles. -/
def DeletionWhole (d : DeviceId) (u : Uid) (w w' : World) : Prop :=
  u ∈ w'.server.accounts.map Account.uid →
    (w'.device d).defaults.userUID = some u ∧ w'.server.users = w.server.users

theorem act_deleteAccount {dev : Device} {u : Uid} {origin : Option Collection}
    (hshows : dev.Shows vc ⟨.home, origin⟩) (hstored : dev.defaults.userUID = some u)
    (hcurrent : dev.currentUser = some u) :
    dev.act models d .deleteAccount = some ⟨dev, [.deleteDocument d vc u u], none⟩ := by
  rw [Device.act, Device.tap_of_shows hshows, Handlers.deleteAccount]
  simp only [hstored, hcurrent]

/-- The first half leaves the accounts as they are and no uid on the device. -/
theorem run_documentDeletion (models : List Model) {u : Uid}
    {origin : Option Collection}
    (hshows : (w.device d).Shows vc ⟨.home, origin⟩)
    (hstored : (w.device d).defaults.userUID = some u)
    (hcurrent : (w.device d).currentUser = some u) :
    ∃ w', run (World.step models) w (documentDeletion d vc u) = some w' ∧
      w'.server.accounts = w.server.accounts ∧
      (w'.device d).defaults.userUID = none ∧ .deleteUser d vc u ∈ w'.requests := by
  rw [documentDeletion, run_cons,
    World.step_send (act_deleteAccount hshows hstored hcurrent), Option.bind_some,
    run_cons, World.step_reply (by simp), World.answer, Option.bind_some, run_cons,
    World.step_reply (by simp), World.answer, Option.bind_some, run_nil]
  refine ⟨_, rfl, rfl, ?_, by simp⟩
  simp only [World.setDevice, Function.update_self]
  exact UserDefaults.string_removeObject

/-- A deletion runs to its end however it turns out, and is whole unless the
account cannot be deleted and is there. -/
theorem deletionWhole_iff (models : List Model) {u : Uid}
    {origin : Option Collection} (outcome : DeletionOutcome)
    (hshows : (w.device d).Shows vc ⟨.home, origin⟩)
    (hstored : (w.device d).defaults.userUID = some u)
    (hcurrent : (w.device d).currentUser = some u)
    (houtcome : outcome = .succeeds → u ∈ w.server.accounts.map Account.uid) :
    ∃ w', run (World.step models) w (deletionRun d vc u outcome) = some w' ∧
      (DeletionWhole d u w w' ↔
        ¬ (outcome = .accountFails ∧ u ∈ w.server.accounts.map Account.uid)) := by
  obtain ⟨w₁, hw₁, haccounts, huid, hreq⟩ :=
    run_documentDeletion models hshows hstored hcurrent
  cases outcome with
  | documentFails =>
      rw [deletionRun, run_cons,
        World.step_send (act_deleteAccount hshows hstored hcurrent), Option.bind_some,
        run_cons, World.step_reply (by simp), World.answer, Option.bind_some, run_nil]
      refine ⟨_, rfl, ?_⟩
      simp [DeletionWhole, hstored]
  | accountFails =>
      rw [deletionRun, run_append, hw₁, Option.bind_some, run_cons,
        World.step_reply hreq, World.answer, Option.bind_some, run_nil]
      refine ⟨_, rfl, ?_⟩
      simp [DeletionWhole, huid, haccounts]
  | succeeds =>
      have haccount : u ∈ w₁.server.accounts.map Account.uid := by
        rw [haccounts]
        exact houtcome rfl
      rw [deletionRun, run_append, hw₁, Option.bind_some, run_cons,
        World.step_reply hreq, World.answer, if_pos haccount, Option.bind_some, run_cons,
        World.step_reply (by simp), World.answer, Option.bind_some, run_nil]
      refine ⟨_, rfl, ?_⟩
      simp [DeletionWhole, World.setDevice, Server.deleteUser]

/-- The home page after a first sign-up, with the new account signed in. -/
theorem run_firstSignUp :
    ∃ w, run (World.step CollectionViewController.models) World.empty firstSignUp =
        some w ∧
      (w.device 0).Shows 9 ⟨.home, none⟩ ∧
      (w.device 0).defaults.userUID = some "A" ∧ (w.device 0).currentUser = some "A" := by
  have hrun : (run (World.step CollectionViewController.models) World.empty
      firstSignUp).map (fun w => ((w.device 0).appearing, (w.device 0).front,
        (w.device 0).defaults.userUID, (w.device 0).currentUser)) =
      some ([], some (9, ⟨.home, none⟩), some "A", some "A") := by decide +kernel
  obtain ⟨w, hw, hobs⟩ := Option.map_eq_some_iff.mp hrun
  simp only [Prod.mk.injEq] at hobs
  obtain ⟨happ, hfront, hstored, hcurrent⟩ := hobs
  exact ⟨w, hw, ⟨happ, hfront⟩, hstored, hcurrent⟩

/-- The document cannot be deleted, and nothing has changed. -/
theorem deletionWhole_of_documentFails :
    ∃ w w', run (World.step CollectionViewController.models) World.empty firstSignUp =
        some w ∧
      run (World.step CollectionViewController.models) w
        (deletionRun 0 9 "A" .documentFails) = some w' ∧ DeletionWhole 0 "A" w w' := by
  obtain ⟨w, hw, hshows, hstored, hcurrent⟩ := run_firstSignUp
  obtain ⟨w', hw', hiff⟩ := deletionWhole_iff CollectionViewController.models
    .documentFails hshows hstored hcurrent (by simp)
  exact ⟨w, w', hw, hw', hiff.mpr (by simp)⟩

/-- The service refuses to delete the account: it is still there, and the
device has forgotten it. -/
theorem deletion_forgets_account :
    ∃ w w', run (World.step CollectionViewController.models) World.empty firstSignUp =
        some w ∧
      (w.device 0).Shows 9 ⟨.home, none⟩ ∧
      (w.device 0).defaults.userUID = some "A" ∧ (w.device 0).currentUser = some "A" ∧
      run (World.step CollectionViewController.models) w
        (deletionRun 0 9 "A" .accountFails) = some w' ∧ ¬ DeletionWhole 0 "A" w w' := by
  obtain ⟨w, hw, hshows, hstored, hcurrent⟩ := run_firstSignUp
  have hafter : (run (World.step CollectionViewController.models) World.empty
      (firstSignUp ++ deletionRun 0 9 "A" .accountFails)).map (fun w =>
        (w.server.accounts.map Account.uid, (w.device 0).defaults.userUID)) =
      some (["A"], none) := by decide +kernel
  obtain ⟨w', hw', hobs⟩ := Option.map_eq_some_iff.mp hafter
  simp only [Prod.mk.injEq] at hobs
  rw [run_append, hw, Option.bind_some] at hw'
  refine ⟨w, w', hw, hshows, hstored, hcurrent, hw', fun hwhole => ?_⟩
  have hkept := (hwhole (by simp [hobs.1])).1
  rw [hobs.2] at hkept
  cases hkept

/-! ## Signing up -/

/-- How the two requests of a sign-up turn out, with the identifiers the
services hand out. -/
inductive SignUpOutcome where
  | accountFails
  | profileFails (uid : Uid)
  | succeeds (uid : Uid) (docID : String)
deriving DecidableEq, Repr

/-- The identifiers are ones the services can hand out. -/
def SignUpOutcome.Possible (s : Server) (email password : String) :
    SignUpOutcome → Prop
  | .accountFails => True
  | .profileFails uid => s.Admits email uid
  | .succeeds uid docID =>
      s.Admits email uid ∧ (s.createUser email password uid).Unused docID

/-- The answers to the requests of a sign-up by the register page `vc`. -/
def signUpReplies (d : DeviceId) (vc : Nat) (userName email password : String) :
    SignUpOutcome → List Event
  | .accountFails => [.reply (.createUser d vc userName email password) .failure]
  | .profileFails uid =>
      [.reply (.createUser d vc userName email password) (.successWith uid),
        .reply (.addDocument userName email uid) .failure]
  | .succeeds uid docID =>
      [.reply (.createUser d vc userName email password) (.successWith uid),
        .reply (.addDocument userName email uid) (.successWith docID)]

/-- A whole sign-up with the typed texts; nothing is sent if they are
refused. -/
def signUpRun (d : DeviceId) (vc : Nat) (userName email password : String)
    (outcome : SignUpOutcome) : List Event :=
  .act d (.signupButtonTapped userName email password) ::
    match RegisterViewController.validateFields userName email password with
    | some _ => []
    | none =>
        signUpReplies d vc (trimmingCharacters userName) (trimmingCharacters email)
          (trimmingCharacters password) outcome

/-- The tab bar `bar` is on screen, with its first page in front. -/
def Device.ShowsTabBar (dev : Device) (bar : Nat) : Prop :=
  bar ∈ stackVisibleTabs dev.root ∧ dev.front = stackFront [TabBarController bar]

/-- Nothing has happened, or the account is there with its uid on the device,
its profile, and the tab bar. -/
def SignUpWhole (d : DeviceId) (userName email password : String) (w w' : World) :
    Prop :=
  (w'.server.accounts = w.server.accounts ∧
      (w'.device d).defaults.userUID = (w.device d).defaults.userUID ∧
      w'.server.users = w.server.users ∧ (w'.device d).root = (w.device d).root) ∨
    ∃ uid docID bar,
      ⟨uid, trimmingCharacters email, trimmingCharacters password⟩ ∈
        w'.server.accounts ∧
      (w'.device d).defaults.userUID = some uid ∧
      ⟨docID, trimmingCharacters userName, trimmingCharacters email, uid⟩ ∈
        w'.server.users ∧
      (w'.device d).ShowsTabBar bar

/-- The users collection already holds a profile with these three fields. -/
def Server.HasProfile (s : Server) (userName email : String) (uid : Uid) : Prop :=
  ∃ docID, ⟨docID, userName, email, uid⟩ ∈ s.users

theorem act_signup_refused {dev : Device} {origin : Option Collection}
    {userName email password error : String} (hshows : dev.Shows vc ⟨.register, origin⟩)
    (herror : RegisterViewController.validateFields userName email password =
      some error) :
    dev.act models d (.signupButtonTapped userName email password) =
      some (.local dev) := by
  rw [Device.act, Device.tap_of_shows hshows, Handlers.signupButtonTapped]
  simp only [herror]

theorem act_signup {dev : Device} {origin : Option Collection}
    {userName email password : String} (hshows : dev.Shows vc ⟨.register, origin⟩)
    (hvalid : RegisterViewController.validateFields userName email password = none) :
    dev.act models d (.signupButtonTapped userName email password) =
      some ⟨dev, [.createUser d vc (trimmingCharacters userName)
        (trimmingCharacters email) (trimmingCharacters password)], none⟩ := by
  rw [Device.act, Device.tap_of_shows hshows, Handlers.signupButtonTapped]
  simp only [hvalid]

/-- The callback of the new account puts the tab bar in front. -/
theorem showsTabBar_userCreated {dev : Device} {self : ViewController}
    (hshows : dev.Shows vc self) (uid : Uid) :
    (RegisterViewController.userCreated dev vc uid).ShowsTabBar dev.nextId := by
  obtain ⟨hfront, htabs⟩ := updateEnclosing_showsStack
    [TabBarController dev.nextId] hshows.2
  refine ⟨htabs.subset ?_, hfront⟩
  simp [TabBarController, stackVisibleTabs, Screen.visibleTabs]

section SignUp

variable {userName email password : String} {origin : Option Collection}

/-- The sign-up up to the new account: everything is done but the profile. -/
theorem run_accountCreated (models : List Model) {uid : Uid}
    (hshows : (w.device d).Shows vc ⟨.register, origin⟩)
    (hvalid : RegisterViewController.validateFields userName email password = none)
    (hadmits : w.server.Admits (trimmingCharacters email) uid) :
    ∃ w', run (World.step models) w
        [.act d (.signupButtonTapped userName email password),
          .reply (.createUser d vc (trimmingCharacters userName)
            (trimmingCharacters email) (trimmingCharacters password))
            (.successWith uid)] = some w' ∧
      w'.server = w.server.createUser (trimmingCharacters email)
        (trimmingCharacters password) uid ∧
      (w'.device d).defaults.userUID = some uid ∧
      (w'.device d).ShowsTabBar (w.device d).nextId ∧
      .addDocument (trimmingCharacters userName) (trimmingCharacters email) uid ∈
        w'.requests := by
  rw [run_cons, World.step_send (act_signup hshows hvalid), Option.bind_some, run_cons,
    World.step_reply (by simp), World.answer, if_pos hadmits, Option.bind_some, run_nil]
  refine ⟨_, rfl, rfl, ?_, ?_, by simp⟩
  · simp only [World.setDevice, Function.update_self]
    exact UserDefaults.string_set_string
  · simp only [World.setDevice, Function.update_self]
    exact showsTabBar_userCreated hshows uid

/-- With the account there and the uid on the device, a sign-up is whole
exactly when the profile is there. -/
theorem signUpWhole_of_created {w' : World} (uid : Uid) (bar : Nat)
    (haccounts : w'.server.accounts = w.server.accounts ++
      [⟨uid, trimmingCharacters email, trimmingCharacters password⟩])
    (huid : (w'.device d).defaults.userUID = some uid)
    (htabs : (w'.device d).ShowsTabBar bar) :
    SignUpWhole d userName email password w w' ↔
      w'.server.HasProfile (trimmingCharacters userName) (trimmingCharacters email)
        uid := by
  constructor
  · intro h
    rcases h with ⟨hsame, -⟩ | ⟨uid', docID, _, -, huid', hdoc, -⟩
    · rw [haccounts] at hsame
      simp at hsame
    · rw [huid, Option.some.injEq] at huid'
      subst huid'
      exact ⟨docID, hdoc⟩
  · intro h
    obtain ⟨docID, hdoc⟩ := h
    exact Or.inr ⟨uid, docID, bar, by simp [haccounts], huid, hdoc, htabs⟩

/-- A sign-up runs to its end however it turns out, and is whole unless the
typed texts are accepted, the account is made, and its profile, which is not
there already, cannot be added. -/
theorem signUpWhole_iff (models : List Model) (outcome : SignUpOutcome)
    (hshows : (w.device d).Shows vc ⟨.register, origin⟩)
    (hpossible : outcome.Possible w.server (trimmingCharacters email)
      (trimmingCharacters password)) :
    ∃ w', run (World.step models) w (signUpRun d vc userName email password outcome) =
        some w' ∧
      (SignUpWhole d userName email password w w' ↔
        ¬ (RegisterViewController.validateFields userName email password = none ∧
          ∃ uid, outcome = .profileFails uid ∧
            ¬ w.server.HasProfile (trimmingCharacters userName)
              (trimmingCharacters email) uid)) := by
  cases hvalid : RegisterViewController.validateFields userName email password with
  | some error =>
      simp only [signUpRun, hvalid]
      rw [run_cons, World.step, World.act, act_signup_refused hshows hvalid]
      refine ⟨_, rfl, ?_⟩
      simp [SignUpWhole, World.setDevice, Outcome.local]
  | none =>
      simp only [signUpRun, hvalid]
      cases outcome with
      | accountFails =>
          rw [signUpReplies, run_cons, World.step_send (act_signup hshows hvalid),
            Option.bind_some, run_cons, World.step_reply (by simp), World.answer,
            Option.bind_some, run_nil]
          refine ⟨_, rfl, ?_⟩
          simp [SignUpWhole]
      | profileFails uid =>
          obtain ⟨w₁, hw₁, hserver, huid, htabs, hreq⟩ :=
            run_accountCreated models hshows hvalid hpossible
          have haccounts := congrArg Server.accounts hserver
          have hstep := @World.step_reply models w₁ _ .failure hreq
          rw [World.answer] at hstep
          refine ⟨_, run_concat_some.mpr ⟨w₁, hw₁, hstep⟩, ?_⟩
          refine Iff.trans (signUpWhole_of_created uid (w.device d).nextId ?_ ?_ ?_) ?_
          · exact haccounts
          · exact huid
          · exact htabs
          · simp [Server.HasProfile, hserver, Server.createUser]
      | succeeds uid docID =>
          obtain ⟨w₁, hw₁, hserver, huid, htabs, hreq⟩ :=
            run_accountCreated models hshows hvalid hpossible.1
          have haccounts := congrArg Server.accounts hserver
          have hunused : w₁.server.Unused docID := hserver ▸ hpossible.2
          have hstep := @World.step_reply models w₁ _ (.successWith docID) hreq
          rw [World.answer, if_pos hunused] at hstep
          refine ⟨_, run_concat_some.mpr ⟨w₁, hw₁, hstep⟩, ?_⟩
          refine Iff.trans (signUpWhole_of_created uid (w.device d).nextId ?_ ?_ ?_) ?_
          · exact haccounts
          · exact huid
          · exact htabs
          · simp [Server.HasProfile, Server.addDocument]

end SignUp

/-- The first launch of the app, up to the register page. -/
def toRegister : List Event := [.act 0 (.viewDidAppear 0), .act 0 .registerButtonTapped]

theorem run_toRegister :
    ∃ w, run (World.step CollectionViewController.models) World.empty toRegister =
        some w ∧
      (w.device 0).Shows 7 ⟨.register, none⟩ ∧ w.server = ⟨[], [], []⟩ := by
  have hrun : (run (World.step CollectionViewController.models) World.empty
      toRegister).map (fun w => ((w.device 0).appearing, (w.device 0).front, w.server)) =
      some ([], some (7, ⟨.register, none⟩), ⟨[], [], []⟩) := by decide +kernel
  obtain ⟨w, hw, hobs⟩ := Option.map_eq_some_iff.mp hrun
  simp only [Prod.mk.injEq] at hobs
  obtain ⟨happ, hfront, hserver⟩ := hobs
  exact ⟨w, hw, ⟨happ, hfront⟩, hserver⟩

/-- A first sign-up that goes through. -/
theorem signUpWhole_of_success :
    ∃ w w', run (World.step CollectionViewController.models) World.empty toRegister =
        some w ∧
      run (World.step CollectionViewController.models) w
        (signUpRun 0 7 " Ana" "ana@globo.com " "senha-segura" (.succeeds "A" "doc1")) =
        some w' ∧
      SignUpWhole 0 " Ana" "ana@globo.com " "senha-segura" w w' := by
  obtain ⟨w, hw, hshows, hserver⟩ := run_toRegister
  obtain ⟨w', hw', hiff⟩ := @signUpWhole_iff w 0 7 " Ana" "ana@globo.com " "senha-segura"
    none CollectionViewController.models (.succeeds "A" "doc1") hshows
    (by rw [hserver]; exact ⟨by decide +kernel, by decide +kernel⟩)
  exact ⟨w, w', hw, hw', hiff.mpr (by simp)⟩

/-- The profile of a first sign-up cannot be added: the account is there, the
tab bar is shown, and there is no profile. -/
theorem signUp_without_profile :
    ∃ w w', run (World.step CollectionViewController.models) World.empty toRegister =
        some w ∧
      (w.device 0).Shows 7 ⟨.register, none⟩ ∧
      run (World.step CollectionViewController.models) w
        (signUpRun 0 7 "Ana" "ana@globo.com" "senha-segura" (.profileFails "A")) =
        some w' ∧
      ¬ SignUpWhole 0 "Ana" "ana@globo.com" "senha-segura" w w' := by
  obtain ⟨w, hw, hshows, hserver⟩ := run_toRegister
  have hafter : (run (World.step CollectionViewController.models) World.empty
      (toRegister ++ signUpRun 0 7 "Ana" "ana@globo.com" "senha-segura"
        (.profileFails "A"))).map (fun w => w.server) =
      some ⟨[⟨"A", "ana@globo.com", "senha-segura"⟩], ["A"], []⟩ := by decide +kernel
  obtain ⟨w', hw', hserver'⟩ := Option.map_eq_some_iff.mp hafter
  rw [run_append, hw, Option.bind_some] at hw'
  refine ⟨w, w', hw, hshows, hw', fun hwhole => ?_⟩
  rcases hwhole with ⟨haccounts, -⟩ | ⟨_, _, _, -, -, hdoc, -⟩
  · simp [hserver, hserver'] at haccounts
  · simp [hserver'] at hdoc

end GloboCollection
