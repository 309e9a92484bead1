import Mathlib.Data.Finmap
import GloboCollection.App.Catalogue

/-!
# The device's local store

`UserDefaults.standard` holds two kinds of keys for this app: the signed-in
user's uid under `userUID`, and one flag for each sticker. A sticker's flag
is its own id, stored under a key that ends in that id, and a screen takes
the sticker for unlocked when reading the key gives the id back; a missing
key reads as 0.

The flag is read the same way by three screens, so the test stands here once
as `unlocked` and the three displays apply it. The keys are written in two
spellings: the result screen prints the id, the quiz screen prints the
optional id, `Optional(…)` included.
-/

namespace GloboCollection

abbrev Uid := String

/-- What a key of the local store, or a field of a score entry, holds. -/
inductive Value where
  | int (n : Int)
  | string (s : String)
deriving DecidableEq, Repr

/-- A dictionary from strings; two of them are equal when their entries are. -/
abbrev Dict := Finmap fun _ : String => Value

/-- A string read as a number: blanks, a sign, and the digits that follow. -/
def integerValue (s : String) : Int :=
  let digits (cs : List Char) : Int :=
    (cs.takeWhile Char.isDigit).foldl (fun n c => 10 * n + (c.toNat - 48)) 0
  match s.toList.dropWhile Char.isWhitespace with
  | '-' :: cs => -digits cs
  | '+' :: cs => digits cs
  | cs => digits cs

abbrev UserDefaults := Dict

namespace UserDefaults

/-- `set(_:forKey:)`; storing `nil` removes the key. -/
def set (ud : UserDefaults) (value : Option Value) (key : String) :
    UserDefaults :=
  match value with
  | some v => Finmap.insert key v ud
  | none => Finmap.erase key ud

def removeObject (ud : UserDefaults) (key : String) : UserDefaults :=
  Finmap.erase key ud

def integer (ud : UserDefaults) (key : String) : Int :=
  match Finmap.lookup key ud with
  | some (.int n) => n
  | some (.string s) => integerValue s
  | none => 0

def string (ud : UserDefaults) (key : String) : Option String :=
  match Finmap.lookup key ud with
  | some (.string s) => some s
  | some (.int n) => some (toString n)
  | none => none

end UserDefaults

/-! ## The keys -/

def stickerPrefix : String := "stickerResgatado"

/-- The key that says whether sticker `n` was redeemed. -/
def stickerKey (n : Int) : String := stickerPrefix ++ toString n

/-- How Swift prints an optional number. -/
def describing : Option Int → String
  | some n => "Optional(" ++ toString n ++ ")"
  | none => "nil"

/-- The key the quiz screen writes: the same start, the printed optional id
at the end. -/
def quizKey (id : Option Int) : String := stickerPrefix ++ describing id

def userUIDKey : String := "userUID"

/-- The stored uid of the signed-in user. -/
def UserDefaults.userUID (ud : UserDefaults) : Option Uid :=
  ud.string userUIDKey

/-- No sticker's key, in either spelling, is the uid's. -/
theorem stickerPrefix_append_ne_userUIDKey {s : String} :
    stickerPrefix ++ s ≠ userUIDKey := by
  intro h
  have hhead := congrArg (fun t : String => t.toList.head?) h
  simp [stickerPrefix, userUIDKey] at hhead

/-! ## The lock state and the screens that show it -/

/-- The test of the three displays. -/
def unlocked (ud : UserDefaults) (n : Int) : Bool :=
  ud.integer (stickerKey n) == n

inductive Cor where
  | red
  | white
deriving DecidableEq, Repr

/-- The rarity label and its colour. -/
def textoRaridade (raridade : Bool) : String × Cor :=
  if raridade then ("RARA", .red) else ("NORMAL", .white)

structure CollectionItemCell where
  image : String
  titleImage : String
  raridade : String × Cor
deriving DecidableEq, Repr

def CollectionItemCell.configure (ud : UserDefaults) (collection : Collection) :
    CollectionItemCell :=
  if unlocked ud collection.id then
    { image := collection.imagemDesbloqueada
      titleImage := collection.nome
      raridade := textoRaridade collection.raridade }
  else
    { image := collection.imagemBloqueada
      titleImage := collection.nome
      raridade := textoRaridade collection.raridade }

/-- The picture a cell of the "recents" row shows; none while locked. -/
def MyRecentCollectionViewCell.configure (ud : UserDefaults)
    (recents : ModelRecents) : String :=
  if unlocked ud recents.id then recents.imagemDesbloqueada else ""

/-- What the info screen shows once its view is loaded. -/
structure InfoView where
  image : Option String
  title : Option String
  description : Option String
  object : Option (String × Cor)
  startQuizHidden : Bool
  showProfileHidden : Bool
deriving DecidableEq, Repr

def textoBloqueada : String :=
  "Opa! Parece que você ainda não tem essa figurinha. Faça o quiz abaixo " ++
    "para ter a chance de resgatá-la ;-)"

def InfoViewController.viewDidLoad (ud : UserDefaults)
    (collectionData : Option Collection) : InfoView :=
  match collectionData with
  | none => ⟨none, none, none, none, false, false⟩
  | some collection =>
      if unlocked ud collection.id then
        { image := collection.imagemDesbloqueada
          title := collection.nome
          description := collection.descricao
          object := textoRaridade collection.raridade
          startQuizHidden := true
          showProfileHidden := false }
      else
        { image := collection.imagemBloqueada
          title := collection.nome
          description := textoBloqueada
          object := none
          startQuizHidden := false
          showProfileHidden := true }

/-! ## The reset -/

/-- The keys the album screen's reset removes, listed by hand. -/
def DetailsTableViewController.keysToDelete : List String :=
  ["stickerResgatado1", "stickerResgatado2", "stickerResgatado3",
    "stickerResgatado4", "stickerResgatado5", "stickerResgatado6",
    "stickerResgatado7", "stickerResgatado8", "stickerResgatado9",
    "stickerResgatado10", "stickerResgatado11", "stickerResgatado12",
    "stickerResgatado13", "stickerResgatado14", "stickerResgatado15",
    "stickerResgatado16", "stickerResgatado17", "stickerResgatado18",
    "stickerResgatado19", "stickerResgatado20"]

def DetailsTableViewController.buttonSearchTapped (ud : UserDefaults) :
    UserDefaults :=
  keysToDelete.foldl UserDefaults.removeObject ud

/-! ## Reading after writing

The lemmas the proofs above this layer rewrite with: a key reads what was
last written to it, and writing one key leaves the others alone. -/

namespace UserDefaults

variable {ud : UserDefaults} {key key' : String} {value : Option Value}

theorem lookup_set : Finmap.lookup key (ud.set value key) = value := by
  cases value with
  | none => exact Finmap.lookup_erase key ud
  | some v => exact Finmap.lookup_insert ud

theorem lookup_set_of_ne (h : key' ≠ key) :
    Finmap.lookup key' (ud.set value key) = Finmap.lookup key' ud := by
  cases value with
  | none => exact Finmap.lookup_erase_ne h
  | some v => exact Finmap.lookup_insert_of_ne ud h

theorem integer_congr {ud' : UserDefaults}
    (h : Finmap.lookup key ud' = Finmap.lookup key ud) :
    ud'.integer key = ud.integer key := by
  rw [integer, integer, h]

theorem string_congr {ud' : UserDefaults}
    (h : Finmap.lookup key ud' = Finmap.lookup key ud) :
    ud'.string key = ud.string key := by
  rw [string, string, h]

theorem integer_set_int {n : Int} : (ud.set (some (.int n)) key).integer key = n := by
  rw [integer, lookup_set]

theorem integer_set_of_ne (h : key' ≠ key) :
    (ud.set value key).integer key' = ud.integer key' :=
  integer_congr (lookup_set_of_ne h)

theorem string_set_string {s : String} :
    (ud.set (some (.string s)) key).string key = some s := by
  rw [string, lookup_set]

theorem string_set_of_ne (h : key' ≠ key) :
    (ud.set value key).string key' = ud.string key' :=
  string_congr (lookup_set_of_ne h)

theorem string_removeObject : (ud.removeObject key).string key = none := by
  rw [string, removeObject, Finmap.lookup_erase]

theorem lookup_foldl_removeObject {keys : List String} :
    Finmap.lookup key (keys.foldl removeObject ud) =
      if key ∈ keys then none else Finmap.lookup key ud := by
  induction keys generalizing ud with
  | nil => rfl
  | cons k keys ih =>
      rw [List.foldl_cons, ih]
      by_cases hk : key = k
      · subst hk
        simp [removeObject]
      · simp [hk, removeObject, Finmap.lookup_erase_ne]

/-- The reset removes the keys of its list and leaves the others. -/
theorem lookup_buttonSearchTapped :
    Finmap.lookup key (DetailsTableViewController.buttonSearchTapped ud) =
      if key ∈ DetailsTableViewController.keysToDelete then none
      else Finmap.lookup key ud :=
  lookup_foldl_removeObject

theorem integer_buttonSearchTapped :
    (DetailsTableViewController.buttonSearchTapped ud).integer key =
      if key ∈ DetailsTableViewController.keysToDelete then 0 else ud.integer key := by
  rw [integer, lookup_buttonSearchTapped]
  by_cases hkey : key ∈ DetailsTableViewController.keysToDelete
  · rw [if_pos hkey, if_pos hkey]
  · rw [if_neg hkey, if_neg hkey, integer]

theorem userUID_set_sticker {s : String} :
    (ud.set value (stickerPrefix ++ s)).userUID = ud.userUID :=
  string_set_of_ne (Ne.symm stickerPrefix_append_ne_userUIDKey)

theorem userUID_buttonSearchTapped :
    (DetailsTableViewController.buttonSearchTapped ud).userUID = ud.userUID :=
  string_congr (by rw [lookup_buttonSearchTapped, if_neg (by decide)])

end UserDefaults

end GloboCollection
