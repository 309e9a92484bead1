import GloboCollection.App.World

/-!
# What a step can do

The handlers and the callbacks, said once more as two relations:
`Device.Does` lists what an action on a device can do, `World.Answers` what
the answer to a request can do. Every invariant of the app is proved by
cases on these two and on the two steps of a redeem, so a change to one
handler is felt in one case of each proof, and nowhere else.

From the two come two views that most proofs need no more than: `Moves` is
what an event does to one device, `Stores` what it does to that device's
local store.
-/

namespace GloboCollection

open GloboCollection.Lib

/-! ## Actions -/

/-- The page in front is `self`, with nothing still to appear. -/
def Device.Shows (dev : Device) (vc : Nat) (self : ViewController) : Prop :=
  dev.appearing = [] ∧ dev.front = some (vc, self)

/-- The pages a tap on the page in front pushes on its own stack. -/
inductive Opens (ud : UserDefaults) : Action → ViewController → ViewController → Prop
  | info {item : Nat} {collections : List Collection} {c : Collection}
      {origin : Option Collection} (hc : collections[item]? = some c) :
      Opens ud (.didSelectItemAt item) ⟨.details (some collections), origin⟩
        ⟨.info (some c) (InfoViewController.viewDidLoad ud (some c)), some c⟩
  | quiz {c : Collection} {view : InfoView} {origin : Option Collection}
      (hview : view.startQuizHidden = false) :
      Opens ud .startQuizButtonTapped ⟨.info (some c) view, origin⟩ ⟨.web (some c), origin⟩
  | again {canRedeem : Bool} {c : Collection} {origin : Option Collection} :
      Opens ud .restartButtonTapped ⟨.error canRedeem (some c), origin⟩
        ⟨.web (some c), origin⟩
  | register {origin : Option Collection} :
      Opens ud .registerButtonTapped ⟨.login, origin⟩ ⟨.register, none⟩

/-- The requests a tap on the page in front sends. -/
inductive Sends (d : DeviceId) (dev : Device) (vc : Nat) : Page → Request → Prop
  | signIn {email password : String} :
      Sends d dev vc .login (.signIn d vc email password)
  | createUser {userName email password : String} :
      Sends d dev vc .register (.createUser d vc userName email password)
  | deleteDocument {userUID currentUser : Uid}
      (hstored : dev.defaults.userUID = some userUID)
      (hcurrent : dev.currentUser = some currentUser) :
      Sends d dev vc .home (.deleteDocument d vc userUID currentUser)

/-- The pages that have a back button. -/
def Page.goesBack : Page → Prop
  | .details _ | .info _ _ | .register => True
  | _ => False

/-- The actions that only send a request or open a page. -/
def Action.Plain : Action → Prop
  | .redeemButtonTapped | .buttonSearchTapped | .viewDidAppear _ => False
  | _ => True

/-- What an action on device `d` can do. -/
inductive Device.Does (models : List Model) (d : DeviceId) (dev : Device) :
    Action → Outcome → Prop
  | appear {bar : Nat} (hbar : bar ∈ dev.appearing) :
      Does models d dev (.viewDidAppear bar)
        (.local (TabBarController.viewDidAppear dev bar))
  | switch {bar i vc : Nat} {self : ViewController} (hshows : dev.Shows vc self)
      (hbar : bar ∈ stackVisibleTabs dev.root) (hi : i < tabPages.length) :
      Does models d dev (.switchTab bar i)
        (.local (dev.display (stackSelectTab bar i dev.root) 0))
  | back {vc : Nat} {self : ViewController} (hshows : dev.Shows vc self)
      (hpage : self.page.goesBack) :
      Does models d dev .backButtonTapped (.local (dev.popViewController vc))
  | album {row vc : Nat} {self : ViewController} {m : Model}
      (hshows : dev.Shows vc self) (hpage : self.page = .collection)
      (hm : m ∈ models) :
      Does models d dev (.handleCellTap row)
        (.local (dev.display
          (.page dev.nextId ⟨.details (some m.figurinhas), none⟩ :: dev.root) 1))
  | push {a : Action} {vc : Nat} {self new : ViewController}
      (hshows : dev.Shows vc self) (hopens : Opens dev.defaults a self new)
      (ha : a.Plain) :
      Does models d dev a (.local (dev.pushViewController vc new))
  | leaveQuiz {vc : Nat} {collectionData origin : Option Collection}
      (hshows : dev.Shows vc ⟨.web collectionData, origin⟩) :
      Does models d dev .voltarButtonPressionado
        (.local (Device.pushViewController
          { dev with
            defaults := dev.defaults.set ((collectionData.map Collection.id).map .int)
              (quizKey (collectionData.map Collection.id)) }
          vc ⟨.result false collectionData, origin⟩))
  | redeem {vc : Nat} {canRedeem : Bool} {collectionData origin : Option Collection}
      (hshows : dev.Shows vc ⟨.result canRedeem collectionData, origin⟩) :
      Does models d dev .redeemButtonTapped
        ⟨{ dev with
            defaults :=
              (ResultViewController.redeemButtonTapped dev.defaults collectionData).1 },
          [],
          (ResultViewController.redeemButtonTapped dev.defaults collectionData).2⟩
  | gallery {vc : Nat} {canRedeem : Bool} {collectionData origin : Option Collection}
      (hshows : dev.Shows vc ⟨.result canRedeem collectionData, origin⟩) :
      Does models d dev .galeryButtonTapped
        (.local (dev.display
          (updateEnclosing vc (fun stk => TabBarController dev.nextId :: stk)
            dev.root) 6))
  | reset {vc : Nat} {self : ViewController} (hshows : dev.Shows vc self)
      (hpage : ∃ collections, self.page = .details collections) :
      Does models d dev .buttonSearchTapped
        (.local { dev with
          defaults := DetailsTableViewController.buttonSearchTapped dev.defaults })
  | send {a : Action} {vc : Nat} {self : ViewController} {r : Request}
      (hshows : dev.Shows vc self) (hsends : Sends d dev vc self.page r)
      (ha : a.Plain) :
      Does models d dev a ⟨dev, [r], none⟩
  | idle {a : Action} (ha : a.Plain) :
      Does models d dev a (.local dev)

namespace Device

variable {models : List Model} {d : DeviceId} {dev : Device} {a : Action}
  {o : Outcome} {vc : Nat} {self : ViewController}

/-- Open the quiz of a page that leads to it, or do nothing. -/
theorem does_openQuiz {collectionData : Option Collection}
    (hshows : dev.Shows vc self)
    (hopens : ∀ c, collectionData = some c →
      Opens dev.defaults a self ⟨.web (some c), self.origin⟩)
    (ha : a.Plain) :
    Does models d dev a (Handlers.openQuiz dev vc self collectionData) := by
  cases collectionData with
  | none => exact .idle ha
  | some c => exact .push hshows (hopens c rfl) ha

theorem act_does (h : dev.act models d a = some o) : Does models d dev a o := by
  cases a with
  | viewDidAppear bar =>
      rw [act] at h
      split at h <;> rename_i hbar
      · cases h
        exact .appear hbar
      · cases h
  | switchTab bar i =>
      obtain ⟨happ, vc, self, hf, h⟩ := tap_some.mp h
      rw [Handlers.switchTab] at h
      split at h <;> rename_i hbar
      · cases h
        exact .switch ⟨happ, hf⟩ hbar.1 hbar.2
      · cases h
  | backButtonTapped =>
      obtain ⟨happ, vc, self, hf, h⟩ := tap_some.mp h
      rw [Handlers.backButtonTapped] at h
      split at h <;> rename_i hpage <;> cases h <;>
        exact .back ⟨happ, hf⟩ (by rw [hpage, Page.goesBack]; trivial)
  | handleCellTap row =>
      obtain ⟨happ, vc, self, hf, h⟩ := tap_some.mp h
      rw [Handlers.handleCellTap] at h
      split at h
      · rename_i m hpage hm
        cases h
        exact .album ⟨happ, hf⟩ hpage (List.mem_of_getElem? hm)
      · cases h
  | didSelectItemAt item =>
      obtain ⟨happ, vc, ⟨page, origin⟩, hf, h⟩ := tap_some.mp h
      rw [Handlers.didSelectItemAt] at h
      split at h <;> rename_i hpage
      · obtain rfl : page = _ := hpage
        split at h <;> rename_i hc
        · cases h
          exact .push ⟨happ, hf⟩ (.info hc) trivial
        · cases h
      · cases h
  | buttonSearchTapped =>
      obtain ⟨happ, vc, self, hf, h⟩ := tap_some.mp h
      rw [Handlers.buttonSearchTapped] at h
      split at h <;> rename_i hpage
      · cases h
        exact .reset ⟨happ, hf⟩ ⟨_, hpage⟩
      · cases h
  | startQuizButtonTapped =>
      obtain ⟨happ, vc, ⟨page, origin⟩, hf, h⟩ := tap_some.mp h
      rw [Handlers.startQuizButtonTapped] at h
      split at h <;> rename_i hpage
      · obtain rfl : page = _ := hpage
        split at h <;> rename_i hview
        · cases h
        · cases h
          refine does_openQuiz ⟨happ, hf⟩ ?_ trivial
          rintro c rfl
          exact .quiz (by simpa using hview)
      · cases h
  | voltarButtonPressionado =>
      obtain ⟨happ, vc, ⟨page, origin⟩, hf, h⟩ := tap_some.mp h
      rw [Handlers.voltarButtonPressionado] at h
      split at h <;> rename_i hpage
      · obtain rfl : page = _ := hpage
        cases h
        exact .leaveQuiz ⟨happ, hf⟩
      · cases h
  | redeemButtonTapped =>
      obtain ⟨happ, vc, ⟨page, origin⟩, hf, h⟩ := tap_some.mp h
      rw [Handlers.redeemButtonTapped] at h
      split at h <;> rename_i hpage
      · obtain rfl : page = _ := hpage
        cases h
        exact .redeem ⟨happ, hf⟩
      · cases h
  | galeryButtonTapped =>
      obtain ⟨happ, vc, ⟨page, origin⟩, hf, h⟩ := tap_some.mp h
      rw [Handlers.galeryButtonTapped] at h
      split at h <;> rename_i hpage
      · obtain rfl : page = _ := hpage
        cases h
        exact .gallery ⟨happ, hf⟩
      · cases h
  | restartButtonTapped =>
      obtain ⟨happ, vc, ⟨page, origin⟩, hf, h⟩ := tap_some.mp h
      rw [Handlers.restartButtonTapped] at h
      split at h <;> rename_i hpage
      · obtain rfl : page = _ := hpage
        cases h
        refine does_openQuiz ⟨happ, hf⟩ ?_ trivial
        rintro c rfl
        exact .again
      · cases h
  | registerButtonTapped =>
      obtain ⟨happ, vc, ⟨page, origin⟩, hf, h⟩ := tap_some.mp h
      rw [Handlers.registerButtonTapped] at h
      split at h <;> rename_i hpage
      · obtain rfl : page = _ := hpage
        cases h
        exact .push ⟨happ, hf⟩ .register trivial
      · cases h
  | loginButtonTapped email password =>
      obtain ⟨happ, vc, self, hf, h⟩ := tap_some.mp h
      rw [Handlers.loginButtonTapped] at h
      split at h <;> rename_i hpage
      · cases h
        exact .send ⟨happ, hf⟩ (hpage ▸ .signIn) trivial
      · cases h
  | signupButtonTapped userName email password =>
      obtain ⟨happ, vc, self, hf, h⟩ := tap_some.mp h
      rw [Handlers.signupButtonTapped] at h
      split at h <;> rename_i hpage
      · split at h
        · cases h
          exact .idle trivial
        · cases h
          exact .send ⟨happ, hf⟩ (hpage ▸ .createUser) trivial
      · cases h
  | deleteAccount =>
      obtain ⟨happ, vc, self, hf, h⟩ := tap_some.mp h
      rw [Handlers.deleteAccount] at h
      split at h <;> rename_i hpage
      · split at h
        · rename_i userUID currentUser hstored hcurrent
          cases h
          exact .send ⟨happ, hf⟩ (hpage ▸ .deleteDocument hstored hcurrent) trivial
        · cases h
          exact .idle trivial
      · cases h

/-- No action touches the stored uid. -/
theorem Does.userUID (h : Does models d dev a o) :
    o.device.defaults.userUID = dev.defaults.userUID := by
  cases h with
  | appear => exact congrArg UserDefaults.userUID TabBarController.viewDidAppear_defaults
  | leaveQuiz => exact UserDefaults.userUID_set_sticker
  | redeem => exact ResultViewController.redeemButtonTapped_userUID _ _
  | reset => exact UserDefaults.userUID_buttonSearchTapped
  | switch | back | album | push | gallery | send | idle => rfl

/-- No action signs anybody in or out. -/
theorem Does.currentUser (h : Does models d dev a o) :
    o.device.currentUser = dev.currentUser := by
  cases h with
  | appear => exact TabBarController.viewDidAppear_currentUser
  | switch | back | album | push | leaveQuiz | redeem | gallery | reset | send
  | idle => rfl

theorem Does.requests (h : Does models d dev a o) :
    ∀ r ∈ o.requests, ∃ vc page, Sends d dev vc page r := by
  cases h with
  | send _ hsends =>
      intro r hr
      rw [List.mem_singleton.mp hr]
      exact ⟨_, _, hsends⟩
  | appear | switch | back | album | push | leaveQuiz | redeem | gallery | reset
  | idle => simp [Outcome.local]

/-- A redeem comes from a result page in front, for the sticker it carries. -/
theorem Does.redeems {u : Uid} {c : Collection} (h : Does models d dev a o)
    (ho : o.redeem = some (u, c)) :
    ∃ vc canRedeem origin, dev.Shows vc ⟨.result canRedeem (some c), origin⟩ := by
  cases h with
  | @redeem vc canRedeem collectionData origin hshows =>
      cases collectionData with
      | none => cases ho
      | some c' =>
          rw [ResultViewController.redeemButtonTapped_redeem, Option.map_eq_some_iff] at ho
          obtain ⟨_, -, hu⟩ := ho
          obtain rfl : c' = c := congrArg Prod.snd hu
          exact ⟨vc, canRedeem, origin, hshows⟩
  | appear | switch | back | album | push | leaveQuiz | gallery | reset | send
  | idle => cases ho

/-- A redeem is for the stored uid. -/
theorem Does.redeem_userUID {u : Uid} {c : Collection} (h : Does models d dev a o)
    (ho : o.redeem = some (u, c)) : dev.defaults.userUID = some u := by
  cases h with
  | @redeem vc canRedeem collectionData origin hshows =>
      cases collectionData with
      | none => cases ho
      | some c' =>
          rw [ResultViewController.redeemButtonTapped_redeem, Option.map_eq_some_iff] at ho
          obtain ⟨v, hv, heq⟩ := ho
          cases heq
          exact hv
  | appear | switch | back | album | push | leaveQuiz | gallery | reset | send
  | idle => cases ho

end Device

/-! ## Answers -/

/-- What the answer to a request can do, the request itself being gone. -/
inductive World.Answers (w : World) : Request → Reply → World → Prop
  | signIn {d : DeviceId} {vc : Nat} {email password : String} {uid : Uid}
      (haccount : ⟨uid, email, password⟩ ∈ w.server.accounts) :
      Answers w (.signIn d vc email password) (.successWith uid)
        (w.setDevice d (LoginViewController.signedIn (w.device d) vc uid))
  | createUser {d : DeviceId} {vc : Nat} {userName email password : String}
      {uid : Uid} (hadmits : w.server.Admits email uid) :
      Answers w (.createUser d vc userName email password) (.successWith uid)
        { w.setDevice d (RegisterViewController.userCreated (w.device d) vc uid) with
          server := w.server.createUser email password uid
          requests := w.requests ++ [.addDocument userName email uid] }
  | addDocument {nickName email : String} {uid : Uid} {docID : String}
      (hunused : w.server.Unused docID) :
      Answers w (.addDocument nickName email uid) (.successWith docID)
        { w with server := w.server.addDocument docID nickName email uid }
  | deleteDocument {d : DeviceId} {vc : Nat} {userUID currentUser : Uid} :
      Answers w (.deleteDocument d vc userUID currentUser) .success
        { w with
          server := w.server.deleteDocument userUID
          requests := w.requests ++ [.documentDeleted d vc currentUser] }
  | documentDeleted {d : DeviceId} {vc : Nat} {currentUser : Uid} :
      Answers w (.documentDeleted d vc currentUser) .success
        { w.setDevice d (HomeViewController.documentDeleted (w.device d)) with
          requests := w.requests ++ [.deleteUser d vc currentUser] }
  | deleteUser {d : DeviceId} {vc : Nat} {currentUser : Uid}
      (haccount : currentUser ∈ w.server.accounts.map Account.uid) :
      Answers w (.deleteUser d vc currentUser) .success
        { w.setDevice d ((w.device d).signOut currentUser) with
          server := w.server.deleteUser currentUser
          requests := w.requests ++ [.userDeleted d vc] }
  | userDeleted {d : DeviceId} {vc : Nat} :
      Answers w (.userDeleted d vc) .success
        (w.setDevice d (HomeViewController.userDeleted (w.device d) vc))
  | failed {r : Request} (hr : ∀ d vc, r ≠ .userDeleted d vc)
      (hr' : ∀ d vc u, r ≠ .documentDeleted d vc u) :
      Answers w r .failure w

namespace World

variable {models : List Model} {w w' : World} {d : DeviceId} {a : Action}
  {r : Request} {answer : Reply} {e : Event}

theorem answer_answers (h : w.answer r answer = some w') :
    Answers w r answer w' := by
  rw [World.answer.eq_def] at h
  split at h
  · split at h <;> cases h
    exact .signIn ‹_›
  · split at h <;> cases h
    exact .createUser ‹_›
  · split at h <;> cases h
    exact .addDocument ‹_›
  · cases h
    exact .deleteDocument
  · cases h
    exact .documentDeleted
  · split at h <;> cases h
    exact .deleteUser ‹_›
  · cases h
    exact .userDeleted
  · cases h
    exact .failed (by simp) (by simp)
  · cases h
    exact .failed (by simp) (by simp)
  · cases h
    exact .failed (by simp) (by simp)
  · cases h
    exact .failed (by simp) (by simp)
  · cases h
    exact .failed (by simp) (by simp)
  · cases h

theorem reply_answers (h : w.step models (.reply r answer) = some w') :
    r ∈ w.requests ∧
      Answers { w with requests := w.requests.erase r } r answer w' := by
  rw [step, World.reply] at h
  split at h <;> rename_i hr
  · exact ⟨hr, answer_answers h⟩
  · cases h

theorem act_some (h : w.step models (.act d a) = some w') :
    ∃ o, (w.device d).Does models d a o ∧ w'.device = Function.update w.device d o.device ∧
      w'.server = w.server ∧ w'.requests = w.requests ++ o.requests ∧
      w'.scores = match o.redeem with
        | some (userUID, collection) => w.scores.issue userUID collection
        | none => w.scores := by
  rw [step, World.act] at h
  split at h <;> rename_i hact
  · cases h
    exact ⟨_, Device.act_does hact, rfl, rfl, rfl, rfl⟩
  · cases h

theorem act_outcome (h : w.step models (.act d a) = some w') :
    ∃ o, (w.device d).act models d a = some o ∧
      w'.device = Function.update w.device d o.device ∧
      w'.scores = match o.redeem with
        | some (userUID, collection) => w.scores.issue userUID collection
        | none => w.scores := by
  rw [step, World.act] at h
  split at h <;> rename_i hact
  · cases h
    exact ⟨_, hact, rfl, rfl⟩
  · cases h

theorem scoreRead_some {i : Nat} {ok : Bool}
    (h : w.step models (.scoreRead i ok) = some w') :
    ∃ s, w.scores.readCallback i ok = some s ∧ w' = { w with scores := s } := by
  rw [step, Option.map_eq_some_iff] at h
  obtain ⟨s, hs, rfl⟩ := h
  exact ⟨s, hs, rfl⟩

theorem scoreWrite_some {i : Nat} {ok : Bool}
    (h : w.step models (.scoreWrite i ok) = some w') :
    ∃ s, w.scores.write i ok = some s ∧ w' = { w with scores := s } := by
  rw [step, Option.map_eq_some_iff] at h
  obtain ⟨s, hs, rfl⟩ := h
  exact ⟨s, hs, rfl⟩

/-- A request stays in flight until it is answered. -/
theorem mem_requests_step (h : w.step models e = some w') (hr : r ∈ w.requests) :
    r ∈ w'.requests ∨ ∃ answer, e = .reply r answer := by
  cases e with
  | act d a =>
      obtain ⟨o, -, -, -, hreq, -⟩ := act_some h
      rw [hreq]
      exact Or.inl (List.mem_append_left _ hr)
  | reply r' answer =>
      by_cases hne : r = r'
      · exact Or.inr ⟨answer, by rw [hne]⟩
      · obtain ⟨-, hans⟩ := reply_answers h
        have hmem : r ∈ w.requests.erase r' := (List.mem_erase_of_ne hne).mpr hr
        cases hans with
        | signIn | addDocument | userDeleted | failed => exact Or.inl hmem
        | createUser | deleteDocument | documentDeleted | deleteUser =>
            exact Or.inl (List.mem_append_left _ hmem)
  | scoreRead i ok =>
      obtain ⟨s, -, rfl⟩ := scoreRead_some h
      exact Or.inl hr
  | scoreWrite i ok =>
      obtain ⟨s, -, rfl⟩ := scoreWrite_some h
      exact Or.inl hr

end World

/-! ## One device -/

/-- The device an event happens on: the one acted on, or the one a callback
runs on. -/
def Event.site : Event → Option DeviceId
  | .act d _ => some d
  | .reply (.signIn d _ _ _) (.successWith _) => some d
  | .reply (.createUser d _ _ _ _) (.successWith _) => some d
  | .reply (.documentDeleted d _ _) .success => some d
  | .reply (.deleteUser d _ _) .success => some d
  | .reply (.userDeleted d _) .success => some d
  | _ => none

/-- What an event can do to device `d`. -/
inductive Device.Moves (models : List Model) (d : DeviceId) (dev : Device) :
    Event → Device → Prop
  | act {a : Action} {o : Outcome} (hdoes : dev.Does models d a o) :
      Moves models d dev (.act d a) o.device
  | signIn {vc : Nat} {email password : String} {uid : Uid} :
      Moves models d dev (.reply (.signIn d vc email password) (.successWith uid))
        (LoginViewController.signedIn dev vc uid)
  | createUser {vc : Nat} {userName email password : String} {uid : Uid} :
      Moves models d dev
        (.reply (.createUser d vc userName email password) (.successWith uid))
        (RegisterViewController.userCreated dev vc uid)
  | documentDeleted {vc : Nat} {currentUser : Uid} :
      Moves models d dev (.reply (.documentDeleted d vc currentUser) .success)
        (HomeViewController.documentDeleted dev)
  | deleteUser {vc : Nat} {currentUser : Uid} :
      Moves models d dev (.reply (.deleteUser d vc currentUser) .success)
        (dev.signOut currentUser)
  | userDeleted {vc : Nat} :
      Moves models d dev (.reply (.userDeleted d vc) .success)
        (HomeViewController.userDeleted dev vc)
  | stay {e : Event} (hsite : e.site ≠ some d) : Moves models d dev e dev

/-- The uid stored on a device after it signed somebody in or up is theirs,
and every other event keeps the stored uid or removes it. -/
theorem Device.Moves.userUID {models : List Model} {d : DeviceId} {dev dev' : Device}
    {e : Event} {u : Uid} (h : dev.Moves models d e dev')
    (hu : dev'.defaults.userUID = some u) :
    dev.defaults.userUID = some u ∨
      (∃ vc email password,
        e = .reply (.signIn d vc email password) (.successWith u)) ∨
      ∃ vc userName email password,
        e = .reply (.createUser d vc userName email password) (.successWith u) := by
  cases h with
  | act hdoes =>
      rw [hdoes.userUID] at hu
      exact Or.inl hu
  | @signIn vc email password uid =>
      obtain rfl : uid = u := Option.some.inj (UserDefaults.string_set_string.symm.trans hu)
      exact Or.inr (Or.inl ⟨vc, email, password, rfl⟩)
  | @createUser vc userName email password uid =>
      obtain rfl : uid = u := Option.some.inj (UserDefaults.string_set_string.symm.trans hu)
      exact Or.inr (Or.inr ⟨vc, userName, email, password, rfl⟩)
  | documentDeleted | userDeleted =>
      exact absurd (UserDefaults.string_removeObject.symm.trans hu) (by simp)
  | deleteUser =>
      rw [Device.signOut_defaults] at hu
      exact Or.inl hu
  | stay => exact Or.inl hu

/-- What an event can do to the local store of device `d`. -/
inductive Device.Stores (d : DeviceId) (dev : Device) : Event → UserDefaults → Prop
  | quiz {vc : Nat} {collectionData origin : Option Collection}
      (hshows : dev.Shows vc ⟨.web collectionData, origin⟩) :
      Stores d dev (.act d .voltarButtonPressionado)
        (dev.defaults.set ((collectionData.map Collection.id).map .int)
          (quizKey (collectionData.map Collection.id)))
  | redeem {vc : Nat} {canRedeem : Bool} {collectionData origin : Option Collection}
      (hshows : dev.Shows vc ⟨.result canRedeem collectionData, origin⟩) :
      Stores d dev (.act d .redeemButtonTapped)
        (ResultViewController.redeemButtonTapped dev.defaults collectionData).1
  | reset :
      Stores d dev (.act d .buttonSearchTapped)
        (DetailsTableViewController.buttonSearchTapped dev.defaults)
  | signedIn {r : Request} {uid : Uid} :
      Stores d dev (.reply r (.successWith uid))
        (dev.defaults.set (some (.string uid)) userUIDKey)
  | deleted {r : Request} :
      Stores d dev (.reply r .success) (dev.defaults.removeObject userUIDKey)
  | same {e : Event} (hredeem : e ≠ .act d .redeemButtonTapped)
      (hreset : e ≠ .act d .buttonSearchTapped) : Stores d dev e dev.defaults

theorem Device.Does.stores {models : List Model} {d : DeviceId} {dev : Device}
    {a : Action} {o : Outcome} (h : dev.Does models d a o) :
    dev.Stores d (.act d a) o.device.defaults := by
  have hplain : a.Plain → dev.Stores d (.act d a) dev.defaults := by
    intro ha
    refine .same ?_ ?_
    · intro he
      cases he
      exact ha
    · intro he
      cases he
      exact ha
  cases h with
  | leaveQuiz hshows => exact .quiz hshows
  | redeem hshows => exact .redeem hshows
  | reset => exact .reset
  | appear =>
      rw [Outcome.local, TabBarController.viewDidAppear_defaults]
      exact .same (by simp) (by simp)
  | push _ _ ha | send _ _ ha | idle ha => exact hplain ha
  | switch | back | album | gallery => exact .same (by simp) (by simp)

theorem Device.Moves.stores {models : List Model} {d : DeviceId} {dev dev' : Device}
    {e : Event} (h : dev.Moves models d e dev') : dev.Stores d e dev'.defaults := by
  cases h with
  | act hdoes => exact hdoes.stores
  | signIn | createUser => exact .signedIn
  | documentDeleted | userDeleted => exact .deleted
  | deleteUser =>
      rw [Device.signOut_defaults]
      exact .same (by simp) (by simp)
  | stay hsite =>
      refine .same ?_ ?_
      · intro he
        cases he
        exact hsite rfl
      · intro he
        cases he
        exact hsite rfl

/-- An event moves the device it happens on and leaves the others alone. -/
theorem World.step_moves {models : List Model} {w w' : World} {e : Event}
    (h : w.step models e = some w') (d : DeviceId) :
    (w.device d).Moves models d e (w'.device d) := by
  have hother : ∀ {d' : DeviceId} {dev : Device}, d' ≠ d →
      Function.update w.device d' dev d = w.device d :=
    fun hne => Function.update_of_ne (Ne.symm hne) _ _
  cases e with
  | act d' a =>
      obtain ⟨o, hdoes, hdev, -⟩ := act_some h
      rw [hdev]
      by_cases hd : d' = d
      · subst hd
        rw [Function.update_self]
        exact .act hdoes
      · rw [hother hd]
        exact .stay (by simpa [Event.site] using hd)
  | reply r answer =>
      obtain ⟨-, hans⟩ := reply_answers h
      cases hans with
      | @signIn d' vc email password uid _ | @createUser d' vc _ _ _ uid _
      | @documentDeleted d' vc _ | @deleteUser d' vc _ _ | @userDeleted d' vc =>
          by_cases hd : d' = d
          · subst hd
            simp only [World.setDevice, Function.update_self]
            constructor
          · simp only [World.setDevice, hother hd]
            exact .stay (by simpa [Event.site] using hd)
      | addDocument _ | deleteDocument | failed _ _ =>
          exact .stay (by simp [Event.site])
  | scoreRead i ok =>
      obtain ⟨s, -, rfl⟩ := scoreRead_some h
      exact .stay (by simp [Event.site])
  | scoreWrite i ok =>
      obtain ⟨s, -, rfl⟩ := scoreWrite_some h
      exact .stay (by simp [Event.site])

end GloboCollection
