import GloboCollection.App.Scores
import GloboCollection.App.Screens

/-!
# What the user does on a device

Each action is a handler of the page in front: it may change the local
store, move to another screen, send requests to the services, and issue a
redeem. `Device.act` runs the handler; an action whose page is not in front,
or that comes while a tab bar is still to appear, is not possible.

The requests name the device and the controller that sent them, because
their callbacks act on both. What the services do with them is `World`'s
business.
-/

namespace GloboCollection

open GloboCollection.Lib

abbrev DeviceId := Nat

/-- The requests of the account flows. Deleting an account takes two of
them, and each of the two is followed by a callback that may run later than
the deletion itself, so the callback is a request in flight as well. -/
inductive Request where
  | signIn (d : DeviceId) (vc : Nat) (email password : String)
  | createUser (d : DeviceId) (vc : Nat) (userName email password : String)
  | addDocument (nickName email : String) (uid : Uid)
  | deleteDocument (d : DeviceId) (vc : Nat) (userUID currentUser : Uid)
  | documentDeleted (d : DeviceId) (vc : Nat) (currentUser : Uid)
  | deleteUser (d : DeviceId) (vc : Nat) (currentUser : Uid)
  | userDeleted (d : DeviceId) (vc : Nat)
deriving DecidableEq, Repr

inductive Action where
  | viewDidAppear (bar : Nat)
  | switchTab (bar i : Nat)
  | backButtonTapped
  | handleCellTap (row : Nat)
  | didSelectItemAt (item : Nat)
  | buttonSearchTapped
  | startQuizButtonTapped
  | voltarButtonPressionado
  | redeemButtonTapped
  | galeryButtonTapped
  | restartButtonTapped
  | registerButtonTapped
  | loginButtonTapped (email password : String)
  | signupButtonTapped (userName email password : String)
  | deleteAccount
deriving DecidableEq, Repr

/-- What an action leaves behind: the device, the requests it sent, and the
redeem it issued. -/
structure Outcome where
  device : Device
  requests : List Request
  redeem : Option (Uid × Collection)

/-- An action that only changes the device. -/
def Outcome.local (dev : Device) : Outcome := ⟨dev, [], none⟩

/-! ## Typed text -/

/-- Foundation's `whitespacesAndNewlines`: the separators of Unicode and the
line breaks. -/
def isWhitespaceOrNewline (c : Char) : Bool :=
  let n := c.toNat
  (9 ≤ n && n ≤ 13) || n == 0x20 || n == 0x85 || n == 0xA0 || n == 0x1680 ||
    (0x2000 ≤ n && n ≤ 0x200A) || n == 0x2028 || n == 0x2029 || n == 0x202F ||
    n == 0x205F || n == 0x3000

def trimmingCharacters (s : String) : String :=
  String.ofList
    ((s.toList.dropWhile isWhitespaceOrNewline).reverse.dropWhile
      isWhitespaceOrNewline).reverse

def RegisterViewController.validateFields (userName email password : String) :
    Option String :=
  if trimmingCharacters userName = "" ∨ trimmingCharacters email = "" ∨
      trimmingCharacters password = "" then
    some "preste atencao aos espacos"
  else none

/-! ## The handlers

Each takes the identity and the contents of the page in front, and answers
`none` when that page is not the one it belongs to. -/

namespace Handlers

variable (dev : Device) (vc : Nat) (self : ViewController)

/-- Switching tabs on a bar that is on screen. -/
def switchTab (bar i : Nat) : Option Outcome :=
  if bar ∈ stackVisibleTabs dev.root ∧ i < tabPages.length then
    some (.local (dev.display (stackSelectTab bar i dev.root) 0))
  else none

/-- The back button of the album and info screens, and the system's on the
register screen. The quiz screen puts its own button in its place, the
result screens and tab bars hide it. -/
def backButtonTapped : Option Outcome :=
  match self.page with
  | .details _ | .info _ _ | .register => some (.local (dev.popViewController vc))
  | _ => none

/-- A tap on an album. The album opens on the root navigation controller,
wherever the tab bar is. -/
def handleCellTap (models : List Model) (row : Nat) : Option Outcome :=
  match self.page, models[row]? with
  | .collection, some m =>
      some (.local (dev.display
        (.page dev.nextId ⟨.details (some m.figurinhas), none⟩ :: dev.root) 1))
  | _, _ => none

def didSelectItemAt (item : Nat) : Option Outcome :=
  match self.page with
  | .details (some collections) =>
      match collections[item]? with
      | some c =>
          some (.local (dev.pushViewController vc
            ⟨.info (some c) (InfoViewController.viewDidLoad dev.defaults (some c)),
              some c⟩))
      | none => none
  | _ => none

def buttonSearchTapped : Option Outcome :=
  match self.page with
  | .details _ =>
      some (.local { dev with
        defaults := DetailsTableViewController.buttonSearchTapped dev.defaults })
  | _ => none

/-- Open the quiz of the page's sticker, if it has one. -/
def openQuiz (collectionData : Option Collection) : Outcome :=
  match collectionData with
  | some collection =>
      .local (dev.pushViewController vc ⟨.web (some collection), self.origin⟩)
  | none => .local dev

def startQuizButtonTapped : Option Outcome :=
  match self.page with
  | .info collectionData view =>
      if view.startQuizHidden then none else some (openQuiz dev vc self collectionData)
  | _ => none

def restartButtonTapped : Option Outcome :=
  match self.page with
  | .error _ collectionData => some (openQuiz dev vc self collectionData)
  | _ => none

/-- Leaving the quiz, which is never asked how it went. -/
def voltarButtonPressionado : Option Outcome :=
  match self.page with
  | .web collectionData =>
      let id := collectionData.map Collection.id
      let dev := { dev with defaults := dev.defaults.set (id.map .int) (quizKey id) }
      some (.local (dev.pushViewController vc
        ⟨.result false collectionData, self.origin⟩))
  | _ => none

def redeemButtonTapped : Option Outcome :=
  match self.page with
  | .result _ collectionData =>
      let tapped := ResultViewController.redeemButtonTapped dev.defaults collectionData
      some ⟨{ dev with defaults := tapped.1 }, [], tapped.2⟩
  | _ => none

def galeryButtonTapped : Option Outcome :=
  match self.page with
  | .result _ _ =>
      some (.local (dev.display
        (updateEnclosing vc (fun stk => TabBarController dev.nextId :: stk) dev.root) 6))
  | _ => none

def registerButtonTapped : Option Outcome :=
  match self.page with
  | .login => some (.local (dev.pushViewController vc ⟨.register, none⟩))
  | _ => none

def loginButtonTapped (d : DeviceId) (email password : String) : Option Outcome :=
  match self.page with
  | .login =>
      some ⟨dev, [.signIn d vc (trimmingCharacters email)
        (trimmingCharacters password)], none⟩
  | _ => none

def signupButtonTapped (d : DeviceId) (userName email password : String) :
    Option Outcome :=
  match self.page with
  | .register =>
      match RegisterViewController.validateFields userName email password with
      | some _ => some (.local dev)
      | none =>
          some ⟨dev, [.createUser d vc (trimmingCharacters userName)
            (trimmingCharacters email) (trimmingCharacters password)], none⟩
  | _ => none

/-- The confirmed deletion: it needs a stored uid and a signed-in user, and
takes the document from the one and the account from the other. -/
def deleteAccount (d : DeviceId) : Option Outcome :=
  match self.page with
  | .home =>
      match dev.defaults.userUID, dev.currentUser with
      | some userUID, some currentUser =>
          some ⟨dev, [.deleteDocument d vc userUID currentUser], none⟩
      | _, _ => some (.local dev)
  | _ => none

end Handlers

/-- A tap is possible when no tab bar is still to appear; the page in front
handles it. -/
def Device.tap (dev : Device) (handler : Nat → ViewController → Option Outcome) :
    Option Outcome :=
  if dev.appearing = [] then
    match dev.front with
    | some (vc, self) => handler vc self
    | none => none
  else none

def Device.act (models : List Model) (d : DeviceId) (dev : Device) :
    Action → Option Outcome
  | .viewDidAppear bar =>
      if bar ∈ dev.appearing then
        some (.local (TabBarController.viewDidAppear dev bar))
      else none
  | .switchTab bar i => dev.tap fun _ _ => Handlers.switchTab dev bar i
  | .backButtonTapped => dev.tap (Handlers.backButtonTapped dev)
  | .handleCellTap row =>
      dev.tap fun _ self => Handlers.handleCellTap dev self models row
  | .didSelectItemAt item =>
      dev.tap fun vc self => Handlers.didSelectItemAt dev vc self item
  | .buttonSearchTapped => dev.tap fun _ self => Handlers.buttonSearchTapped dev self
  | .startQuizButtonTapped => dev.tap (Handlers.startQuizButtonTapped dev)
  | .voltarButtonPressionado => dev.tap (Handlers.voltarButtonPressionado dev)
  | .redeemButtonTapped => dev.tap fun _ self => Handlers.redeemButtonTapped dev self
  | .galeryButtonTapped => dev.tap (Handlers.galeryButtonTapped dev)
  | .restartButtonTapped => dev.tap (Handlers.restartButtonTapped dev)
  | .registerButtonTapped => dev.tap (Handlers.registerButtonTapped dev)
  | .loginButtonTapped email password =>
      dev.tap fun vc self => Handlers.loginButtonTapped dev vc self d email password
  | .signupButtonTapped userName email password =>
      dev.tap fun vc self =>
        Handlers.signupButtonTapped dev vc self d userName email password
  | .deleteAccount => dev.tap fun vc self => Handlers.deleteAccount dev vc self d

theorem Device.tap_some {dev : Device} {o : Outcome}
    {handler : Nat → ViewController → Option Outcome} :
    dev.tap handler = some o ↔
      dev.appearing = [] ∧
        ∃ vc self, dev.front = some (vc, self) ∧ handler vc self = some o := by
  rw [Device.tap]
  split <;> rename_i happ
  · cases hf : dev.front with
    | none => simp
    | some p =>
        obtain ⟨vc, self⟩ := p
        simp [happ]
  · simp [happ]

end GloboCollection
