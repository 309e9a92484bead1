import Mathlib.Logic.Function.Basic
import GloboCollection.Lib.ArrayUnion
import GloboCollection.App.Defaults

/-!
# Redeeming a sticker

`ResultViewController.redeemButtonTapped` does two things. On the device it
stores the sticker's flag, before anything else and whatever happens later.
Then, if a uid is stored, it records the score on the server, in the
document `user_scores/<uid>`: it reads the document, and the callback of the
read writes, with `updateData` and an array union when the document exists
and with `setData`, which replaces the document, otherwise.

The server half is a protocol of three steps — the tap issues the read, the
read's callback chooses the write, the write takes effect — and any number
of taps may be under way at the same time. `Scores.step` gives each step as
a function. A redeem is never forgotten: it stays in `redeems` with its
phase, so its position in that list names it for good.
-/

namespace GloboCollection

open GloboCollection.Lib

/-- An entry of the `scores` array. -/
abbrev Entry := Dict

namespace ResultViewController

/-- The entry the result screen builds for a sticker. -/
def stickerScore (userUID : Uid) (collection : Collection) : Entry :=
  Finmap.insert ("stickerID" ++ toString collection.id) (.int collection.id)
    (Finmap.insert ("score" ++ toString collection.id) (.int collection.stickerScore)
      (Finmap.insert "uid" (.string userUID) ∅))

/-- The part of the tap that runs at once: the new local store, and the
redeem to be recorded for the stored uid, if there is one. -/
def redeemButtonTapped (ud : UserDefaults) (collectionData : Option Collection) :
    UserDefaults × Option (Uid × Collection) :=
  match collectionData with
  | some collection =>
      let ud' := ud.set (some (.int collection.id)) (stickerKey collection.id)
      match ud'.userUID with
      | some userUID => (ud', some (userUID, collection))
      | none => (ud', none)
  | none => (ud, none)

theorem redeemButtonTapped_defaults (ud : UserDefaults) (c : Collection) :
    (redeemButtonTapped ud (some c)).1 =
      ud.set (some (.int c.id)) (stickerKey c.id) := by
  rw [redeemButtonTapped]
  split <;> rfl

theorem redeemButtonTapped_userUID (ud : UserDefaults)
    (collectionData : Option Collection) :
    (redeemButtonTapped ud collectionData).1.userUID = ud.userUID := by
  cases collectionData with
  | none => rfl
  | some c =>
      rw [redeemButtonTapped_defaults]
      exact UserDefaults.userUID_set_sticker

/-- A tap issues a redeem for its sticker exactly when a uid is stored. -/
theorem redeemButtonTapped_redeem (ud : UserDefaults) (c : Collection) :
    (redeemButtonTapped ud (some c)).2 = ud.userUID.map fun u => (u, c) := by
  rw [← redeemButtonTapped_userUID ud (some c), redeemButtonTapped]
  split <;> rename_i h <;> rw [h] <;> rfl

end ResultViewController

open ResultViewController (stickerScore)

/-! ## The documents -/

/-- A document of `user_scores`; the field may be missing. -/
structure ScoreDoc where
  scores : Option (List Entry)
deriving DecidableEq

/-- The entries a document holds, none when there is no document. -/
def entriesOf (doc : Option ScoreDoc) : List Entry :=
  (doc.bind ScoreDoc.scores).getD []

/-- `updateData` with an array union; without a document the update is
refused and there still is none. -/
def updateData (doc : Option ScoreDoc) (entries : List Entry) : Option ScoreDoc :=
  doc.map fun d => ⟨some (arrayUnion (d.scores.getD []) entries)⟩

/-- `setData` without merge: the document is what was given. -/
def setData (entries : List Entry) : ScoreDoc := ⟨some entries⟩

/-! ## The protocol -/

/-- Where a redeem stands: its read is out, one of the two writes is out, or
its last callback has run. -/
inductive Phase where
  | reading
  | updating
  | setting
  | finished
deriving DecidableEq, Repr

structure Redeem where
  userUID : Uid
  stickerScore : Entry
  phase : Phase
deriving DecidableEq

/-- The `user_scores` collection and the redeems issued so far. -/
structure Scores where
  docs : Uid → Option ScoreDoc
  redeems : List Redeem

inductive ScoreEvent where
  | tap (userUID : Uid) (collection : Collection)
  | readCallback (i : Nat) (ok : Bool)
  | write (i : Nat) (ok : Bool)
deriving DecidableEq

/-- The document once the write of `r` was accepted. -/
def Redeem.written (r : Redeem) (doc : Option ScoreDoc) : Option ScoreDoc :=
  match r.phase with
  | .updating => updateData doc [r.stickerScore]
  | .setting => some (setData [r.stickerScore])
  | .reading | .finished => doc

namespace Scores

def issue (s : Scores) (userUID : Uid) (collection : Collection) : Scores :=
  { s with redeems := s.redeems ++ [⟨userUID, stickerScore userUID collection, .reading⟩] }

/-- Act on redeem `i`, which must be in one of the given phases. -/
def atRedeem (s : Scores) (i : Nat) (phases : List Phase) (f : Redeem → Scores) :
    Option Scores :=
  match s.redeems[i]? with
  | some r => if r.phase ∈ phases then some (f r) else none
  | none => none

/-- The read's callback. A failed read hands over no document, and the
callback looks at nothing but the document. -/
def readCallback (s : Scores) (i : Nat) (ok : Bool) : Option Scores :=
  s.atRedeem i [.reading] fun r =>
    { s with redeems := s.redeems.set i { r with phase :=
        if ok && (s.docs r.userUID).isSome then .updating else .setting } }

/-- The write takes effect, or is refused; the redeem is over either way. -/
def write (s : Scores) (i : Nat) (ok : Bool) : Option Scores :=
  s.atRedeem i [.updating, .setting] fun r =>
    { docs :=
        if ok then Function.update s.docs r.userUID (r.written (s.docs r.userUID))
        else s.docs
      redeems := s.redeems.set i { r with phase := .finished } }

def step (s : Scores) : ScoreEvent → Option Scores
  | .tap userUID collection => some (s.issue userUID collection)
  | .readCallback i ok => s.readCallback i ok
  | .write i ok => s.write i ok

/-- No redeem waits for a callback. -/
def Quiet (s : Scores) : Prop := ∀ r ∈ s.redeems, r.phase = .finished

instance (s : Scores) : Decidable s.Quiet :=
  inferInstanceAs (Decidable (∀ r ∈ s.redeems, r.phase = .finished))

/-! ## What the steps do

Each step touches one redeem, and only an accepted write touches a document.
The lemmas say so once; everything about runs is derived from them. -/

theorem atRedeem_some {s s' : Scores} {i : Nat} {phases : List Phase}
    {f : Redeem → Scores} :
    s.atRedeem i phases f = some s' ↔
      ∃ r, s.redeems[i]? = some r ∧ r.phase ∈ phases ∧ s' = f r := by
  rw [atRedeem]
  cases hr : s.redeems[i]? with
  | none => simp only [reduceCtorEq, false_and, exists_false]
  | some r =>
      simp only [Option.some.injEq]
      split <;> rename_i hp
      · constructor
        · intro h
          exact ⟨r, rfl, hp, (Option.some.inj h).symm⟩
        · rintro ⟨r', rfl, -, rfl⟩
          rfl
      · constructor
        · intro h
          cases h
        · rintro ⟨r', rfl, hp', -⟩
          exact absurd hp' hp

theorem readCallback_some {s s' : Scores} {i : Nat} {ok : Bool} :
    s.readCallback i ok = some s' ↔
      ∃ r, s.redeems[i]? = some r ∧ r.phase = .reading ∧
        s' = { s with redeems := s.redeems.set i { r with phase :=
          if ok && (s.docs r.userUID).isSome then .updating else .setting } } := by
  rw [readCallback, atRedeem_some]
  simp only [List.mem_singleton]

theorem write_some {s s' : Scores} {i : Nat} {ok : Bool} :
    s.write i ok = some s' ↔
      ∃ r, s.redeems[i]? = some r ∧ (r.phase = .updating ∨ r.phase = .setting) ∧
        s' = { docs := if ok then
                  Function.update s.docs r.userUID (r.written (s.docs r.userUID))
                else s.docs
               redeems := s.redeems.set i { r with phase := .finished } } := by
  rw [write, atRedeem_some]
  simp only [List.mem_cons, List.not_mem_nil, or_false]

/-- An accepted write, field by field. -/
theorem write_accepted {s s' : Scores} {i : Nat} (h : s.write i true = some s') :
    ∃ r, s.redeems[i]? = some r ∧ (r.phase = .updating ∨ r.phase = .setting) ∧
      s'.redeems = s.redeems.set i { r with phase := .finished } ∧
      s'.docs = Function.update s.docs r.userUID (r.written (s.docs r.userUID)) := by
  obtain ⟨r, hr, hphase, rfl⟩ := write_some.mp h
  exact ⟨r, hr, hphase, rfl, by simp⟩

/-- A write, accepted or not, and the document of each user after it. -/
theorem write_docs {s s' : Scores} {i : Nat} {ok : Bool} (h : s.write i ok = some s') :
    ∃ r, s.redeems[i]? = some r ∧ (r.phase = .updating ∨ r.phase = .setting) ∧
      s'.redeems = s.redeems.set i { r with phase := .finished } ∧
      ∀ u, s'.docs u =
        if ok = true ∧ r.userUID = u then r.written (s.docs u) else s.docs u := by
  obtain ⟨r, hr, hphase, rfl⟩ := write_some.mp h
  refine ⟨r, hr, hphase, rfl, fun u => ?_⟩
  cases ok with
  | false => simp
  | true =>
      by_cases hu : r.userUID = u
      · subst hu
        simp
      · simp [hu, Function.update_of_ne (Ne.symm hu)]

end Scores

/-! ## The entries of a written document -/

@[simp] theorem entriesOf_none : entriesOf none = [] := rfl

@[simp] theorem entriesOf_setData {entries : List Entry} :
    entriesOf (some (setData entries)) = entries := rfl

theorem entriesOf_updateData {d : ScoreDoc} {entries : List Entry} :
    entriesOf (updateData (some d) entries) =
      arrayUnion (entriesOf (some d)) entries := rfl

theorem mem_entriesOf_updateData {doc : Option ScoreDoc} {entry e : Entry}
    (hdoc : doc.isSome) :
    e ∈ entriesOf (updateData doc [entry]) ↔ e ∈ entriesOf doc ∨ e = entry := by
  obtain ⟨d, rfl⟩ := Option.isSome_iff_exists.mp hdoc
  rw [entriesOf_updateData, mem_arrayUnion, List.mem_singleton]

end GloboCollection
