import GloboCollection.Lib.Run
import GloboCollection.App.Device

/-!
# The app, the services, and the requests between them

A world is a number of devices that run the app, the two services behind it,
and the requests in flight. The authentication service keeps the accounts;
the document store keeps the `users` and the `user_scores` collections. An
event is one user's action, the answer to one request in flight, or one step
of a redeem. Requests are answered in any order, and each may fail.

Of the services we take what their documentation says: a sign-in succeeds
with the uid of an account that has the given email and password; a new
account gets a uid never handed out before, and none is made for an email in
use; an added document gets an identifier of its own, which is not a uid;
deleting a document that is not there succeeds; deleting an account signs a
device out only if the account is still the current one there.
-/

namespace GloboCollection

open GloboCollection.Lib

structure Account where
  uid : Uid
  email : String
  password : String
deriving DecidableEq, Repr

/-- A document of `users`, with the identifier it is stored under. -/
structure UserDoc where
  docID : String
  nickName : String
  email : String
  uid : Uid
deriving DecidableEq, Repr

/-- The accounts, the uids handed out so far, and the `users` collection. -/
structure Server where
  accounts : List Account
  issued : List Uid
  users : List UserDoc
deriving DecidableEq, Repr

structure World where
  device : DeviceId → Device
  server : Server
  scores : Scores
  requests : List Request

/-- How a request is answered. -/
inductive Reply where
  | failure
  | success
  | successWith (id : String)
deriving DecidableEq, Repr

inductive Event where
  | act (d : DeviceId) (action : Action)
  | reply (r : Request) (answer : Reply)
  | scoreRead (i : Nat) (ok : Bool)
  | scoreWrite (i : Nat) (ok : Bool)
deriving DecidableEq, Repr

/-! ## The callbacks -/

/-- A sign-in that went through: the tab bar first, the uid after it. -/
def LoginViewController.signedIn (dev : Device) (vc : Nat) (uid : Uid) : Device :=
  let dev := transitionToTabBar { dev with currentUser := some uid } vc
  { dev with defaults := dev.defaults.set (some (.string uid)) userUIDKey }

/-- A sign-up that went through; the profile document is asked for in
between, and nobody waits for it. -/
def RegisterViewController.userCreated (dev : Device) (vc : Nat) (uid : Uid) :
    Device :=
  transitionToTabBar
    { dev with
      currentUser := some uid
      defaults := dev.defaults.set (some (.string uid)) userUIDKey } vc

/-- The first callback of a deletion. -/
def HomeViewController.documentDeleted (dev : Device) : Device :=
  { dev with defaults := dev.defaults.removeObject userUIDKey }

/-- The last callback of a deletion, which removes the stored uid again. -/
def HomeViewController.userDeleted (dev : Device) (vc : Nat) : Device :=
  transitionToLogin
    { dev with defaults := dev.defaults.removeObject userUIDKey } vc

/-- The device after the account `uid` was deleted from it. -/
def Device.signOut (dev : Device) (uid : Uid) : Device :=
  if dev.currentUser = some uid then { dev with currentUser := none } else dev

@[simp] theorem Device.signOut_defaults {dev : Device} {uid : Uid} :
    (dev.signOut uid).defaults = dev.defaults := by
  rw [signOut]
  split <;> rfl

@[simp] theorem Device.signOut_root {dev : Device} {uid : Uid} :
    (dev.signOut uid).root = dev.root := by
  rw [signOut]
  split <;> rfl

theorem Device.signOut_currentUser {dev : Device} {uid : Uid} :
    (dev.signOut uid).currentUser =
      if dev.currentUser = some uid then none else dev.currentUser := by
  rw [signOut]
  split <;> rfl

/-! ## The services -/

namespace Server

/-- A new account may be made with this email and this uid. -/
def Admits (s : Server) (email : String) (uid : Uid) : Prop :=
  (∀ a ∈ s.accounts, a.email ≠ email) ∧ uid ∉ s.issued ∧
    ∀ doc ∈ s.users, doc.docID ≠ uid

instance (s : Server) (email : String) (uid : Uid) : Decidable (s.Admits email uid) :=
  inferInstanceAs (Decidable (_ ∧ _ ∧ _))

/-- A document may be added under this identifier. -/
def Unused (s : Server) (docID : String) : Prop :=
  docID ∉ s.issued ∧ ∀ doc ∈ s.users, doc.docID ≠ docID

instance (s : Server) (docID : String) : Decidable (s.Unused docID) :=
  inferInstanceAs (Decidable (_ ∧ _))

def createUser (s : Server) (email password : String) (uid : Uid) : Server :=
  { s with
    accounts := s.accounts ++ [⟨uid, email, password⟩]
    issued := s.issued ++ [uid] }

def addDocument (s : Server) (docID nickName email : String) (uid : Uid) : Server :=
  { s with users := s.users ++ [⟨docID, nickName, email, uid⟩] }

def deleteDocument (s : Server) (docID : String) : Server :=
  { s with users := s.users.filter fun doc => doc.docID ≠ docID }

def deleteUser (s : Server) (uid : Uid) : Server :=
  { s with accounts := s.accounts.filter fun a => a.uid ≠ uid }

end Server

/-! ## The steps -/

namespace World

def setDevice (w : World) (d : DeviceId) (dev : Device) : World :=
  { w with device := Function.update w.device d dev }

/-- An action on device `d`: its requests are sent, its redeem is issued. -/
def act (models : List Model) (w : World) (d : DeviceId) (action : Action) :
    Option World :=
  match (w.device d).act models d action with
  | some o =>
      some { w.setDevice d o.device with
        requests := w.requests ++ o.requests
        scores := match o.redeem with
          | some (userUID, collection) => w.scores.issue userUID collection
          | none => w.scores }
  | none => none

/-- The answer to a request that is no longer in flight, and the callback
that runs on it. A request that fails has no effect beyond a message. -/
def answer (w : World) : Request → Reply → Option World
  | .signIn d vc email password, .successWith uid =>
      if ⟨uid, email, password⟩ ∈ w.server.accounts then
        some (w.setDevice d (LoginViewController.signedIn (w.device d) vc uid))
      else none
  | .createUser d vc userName email password, .successWith uid =>
      if w.server.Admits email uid then
        some { w.setDevice d (RegisterViewController.userCreated (w.device d) vc uid) with
          server := w.server.createUser email password uid
          requests := w.requests ++ [.addDocument userName email uid] }
      else none
  | .addDocument nickName email uid, .successWith docID =>
      if w.server.Unused docID then
        some { w with server := w.server.addDocument docID nickName email uid }
      else none
  | .deleteDocument d vc userUID currentUser, .success =>
      some { w with
        server := w.server.deleteDocument userUID
        requests := w.requests ++ [.documentDeleted d vc currentUser] }
  | .documentDeleted d vc currentUser, .success =>
      some { w.setDevice d (HomeViewController.documentDeleted (w.device d)) with
        requests := w.requests ++ [.deleteUser d vc currentUser] }
  | .deleteUser d vc currentUser, .success =>
      if currentUser ∈ w.server.accounts.map Account.uid then
        some { w.setDevice d ((w.device d).signOut currentUser) with
          server := w.server.deleteUser currentUser
          requests := w.requests ++ [.userDeleted d vc] }
      else none
  | .userDeleted d vc, .success =>
      some (w.setDevice d (HomeViewController.userDeleted (w.device d) vc))
  | .signIn .., .failure | .createUser .., .failure | .addDocument .., .failure
  | .deleteDocument .., .failure | .deleteUser .., .failure => some w
  | _, _ => none

/-- Answer a request in flight. -/
def reply (w : World) (r : Request) (answer : Reply) : Option World :=
  if r ∈ w.requests then
    World.answer { w with requests := w.requests.erase r } r answer
  else none

def step (models : List Model) (w : World) : Event → Option World
  | .act d action => w.act models d action
  | .reply r answer => w.reply r answer
  | .scoreRead i ok => (w.scores.readCallback i ok).map fun s => { w with scores := s }
  | .scoreWrite i ok => (w.scores.write i ok).map fun s => { w with scores := s }

/-- Every device has just launched the app, and nothing is under way. -/
structure AtLaunch (w : World) : Prop where
  screens : ∀ d, (w.device d).AtLaunch
  requests : w.requests = []
  redeems : w.scores.redeems = []

/-- No one has ever used the app: every device is new, there is no account
and no document. -/
def empty : World := ⟨fun _ => .fresh, ⟨[], [], []⟩, ⟨fun _ => none, []⟩, []⟩

theorem empty_atLaunch : empty.AtLaunch := ⟨fun _ => Device.fresh_atLaunch, rfl, rfl⟩

/-- Ana signed up on device 0 when the app was last open there, and has done
nothing since. -/
def signedUp : World :=
  { World.empty with
    device := Function.update World.empty.device 0 { Device.fresh with
      defaults := Device.fresh.defaults.set (some (.string "A")) userUIDKey
      currentUser := some "A" }
    server := ⟨[⟨"A", "ana@globo.com", "senha-segura"⟩], ["A"],
      [⟨"doc1", "Ana", "ana@globo.com", "A"⟩]⟩ }

theorem signedUp_atLaunch : signedUp.AtLaunch := by
  refine ⟨fun d => ?_, rfl, rfl⟩
  rcases eq_or_ne d 0 with rfl | hd
  · exact ⟨rfl, rfl, rfl⟩
  · simp only [signedUp, Function.update_of_ne hd]
    exact Device.fresh_atLaunch

end World

/-! ## Flows

The events of the common flows on device 0, for the runs the proofs give as
examples. Those that tap a button in a navigation bar start from `signedUp`
where they can, so that no sign-in has hidden the bar. -/

/-- A sign-up on device 0 that goes through, from the login page in front to
the tab bar; `vc` is the register page it opens. -/
def signUpEvents (vc : Nat) (userName email : String) (uid : Uid) (docID : String) :
    List Event :=
  [.act 0 .registerButtonTapped,
    .act 0 (.signupButtonTapped userName email "senha-segura"),
    .reply (.createUser 0 vc userName email "senha-segura") (.successWith uid),
    .reply (.addDocument userName email uid) (.successWith docID),
    .act 0 (.viewDidAppear (vc + 1))]

/-- A deletion on device 0 that goes through; `vc` is the home page. -/
def deletionEvents (vc : Nat) (uid : Uid) : List Event :=
  [.act 0 .deleteAccount,
    .reply (.deleteDocument 0 vc uid uid) .success,
    .reply (.documentDeleted 0 vc uid) .success,
    .reply (.deleteUser 0 vc uid) .success,
    .reply (.userDeleted 0 vc) .success]

/-- The app is launched again, and Ana is still signed in. -/
def launchEvents : List Event := [.act 0 (.viewDidAppear 0)]

/-- From the tab bar `bar` to the result page of the sticker `item` of the
first album. -/
def quizEvents (bar item : Nat) : List Event :=
  [.act 0 (.switchTab bar 2), .act 0 (.handleCellTap 0), .act 0 (.didSelectItemAt item),
    .act 0 .startQuizButtonTapped, .act 0 .voltarButtonPressionado]

/-- The first redeem, recorded. -/
def redeemEvents : List Event :=
  [.act 0 .redeemButtonTapped, .scoreRead 0 true, .scoreWrite 0 true]

/-- The first launch of the app, and a sign-up. -/
def firstSignUp : List Event :=
  .act 0 (.viewDidAppear 0) :: signUpEvents 7 "Ana" "ana@globo.com" "A" "doc1"

end GloboCollection
