import GloboCollection.Lib.Run
import GloboCollection.App.Scores

/-!
# One redeem after the other

When no two redeems overlap the protocol is easy to read: a whole redeem,
from the tap to its last callback, is one function of the state and of the
two outcomes, and `Scores.redeem_spec` is that function. Two of its corners
matter.

* A read that fails looks to the callback like a document that does not
  exist, so the write replaces. A failed read is harmless exactly when there
  was nothing to lose, that is when the list held no entry but the tapped
  sticker's own. `keepsScores_iff` says so along whole sequences of taps, in
  terms of the list at the start and of the stickers tapped.

* The sticker's flag is set before the uid is looked up and never taken
  back. Device and server agree after the tap exactly when the entry ends up
  in the document, and `allOrNothing_iff` says when that is.
-/

namespace GloboCollection

open GloboCollection.Lib
open ResultViewController (stickerScore redeemButtonTapped redeemButtonTapped_defaults
  redeemButtonTapped_userUID redeemButtonTapped_redeem)

/-- A redeem from the tap to its last callback, with nothing in between. -/
def Scores.redeem (s : Scores) (u : Uid) (c : Collection) (readOk writeOk : Bool) :
    Option Scores :=
  run Scores.step s
    [.tap u c, .readCallback s.redeems.length readOk,
      .write s.redeems.length writeOk]

/-- The document a whole redeem leaves behind. -/
def redeemed (doc : Option ScoreDoc) (entry : Entry) (readOk writeOk : Bool) :
    Option ScoreDoc :=
  if writeOk then
    if readOk && doc.isSome then updateData doc [entry] else some (setData [entry])
  else doc

/-- A redeem always runs to its end, and touches its own document only. -/
theorem Scores.redeem_spec (s : Scores) (u : Uid) (c : Collection)
    (readOk writeOk : Bool) :
    ∃ t, s.redeem u c readOk writeOk = some t ∧
      t.docs = Function.update s.docs u
        (redeemed (s.docs u) (stickerScore u c) readOk writeOk) := by
  obtain ⟨r, hr⟩ : ∃ r : Redeem, r = ⟨u, stickerScore u c,
      if readOk && (s.docs u).isSome then .updating else .setting⟩ := ⟨_, rfl⟩
  have hread : (s.issue u c).readCallback s.redeems.length readOk =
      some { s with redeems := s.redeems ++ [r] } :=
    Scores.readCallback_some.mpr
      ⟨⟨u, stickerScore u c, .reading⟩, by simp [Scores.issue], rfl,
        by simp [Scores.issue, hr]⟩
  have hphase : r.phase = .updating ∨ r.phase = .setting := by
    rw [hr]
    dsimp only
    split <;> simp
  have hwrite := (@Scores.write_some { s with redeems := s.redeems ++ [r] } _
    s.redeems.length writeOk).mpr ⟨r, List.getElem?_concat_length, hphase, rfl⟩
  rw [Scores.redeem, run_cons, Scores.step, Option.bind_some, run_cons,
    Scores.step, hread, Option.bind_some, run_cons, Scores.step, hwrite]
  refine ⟨_, rfl, ?_⟩
  cases writeOk with
  | false => simp [redeemed]
  | true =>
      simp only [if_true, redeemed, Redeem.written, hr]
      cases readOk && (s.docs u).isSome <;> rfl

/-- What an accepted redeem leaves: its own entry, and the entries before it
if the read went through. -/
theorem mem_entriesOf_redeemed {doc : Option ScoreDoc} {entry e : Entry}
    {readOk : Bool} :
    e ∈ entriesOf (redeemed doc entry readOk true) ↔
      (readOk = true ∧ e ∈ entriesOf doc) ∨ e = entry := by
  rw [redeemed, if_pos rfl]
  cases readOk with
  | false => simp
  | true =>
      cases doc with
      | none => simp
      | some d =>
          rw [if_pos (by simp), mem_entriesOf_updateData (by simp)]
          simp

/-! ## Failed reads -/

/-- Along a sequence of taps, each with the outcome of its read and an
accepted write, every tap keeps the entries it finds. -/
def KeepsScores (u : Uid) : Scores → List (Collection × Bool) → Prop
  | _, [] => True
  | s, (c, readOk) :: rest => ∃ t, s.redeem u c readOk true = some t ∧
      (∀ e ∈ entriesOf (s.docs u), e ∈ entriesOf (t.docs u)) ∧
        KeepsScores u t rest

/-- From a list of entries, a tap whose read fails has nothing to lose but the
entry it is about to write: that is what every entry of the list is, and what
every tap before it wrote. -/
def FailsHarmlessly (u : Uid) (scores : List Entry) (taps : List (Collection × Bool)) :
    Prop :=
  ∀ pre c post, taps = pre ++ (c, false) :: post →
    (∀ e ∈ scores, e = stickerScore u c) ∧
      ∀ tap ∈ pre, stickerScore u tap.1 = stickerScore u c

/-- The first tap, and the others from the list it leaves behind. -/
theorem failsHarmlessly_cons {u : Uid} {scores after : List Entry} {c : Collection}
    {readOk : Bool} {rest : List (Collection × Bool)}
    (hafter : ∀ e, e ∈ after ↔ (readOk = true ∧ e ∈ scores) ∨ e = stickerScore u c) :
    FailsHarmlessly u scores ((c, readOk) :: rest) ↔
      (readOk = true ∨ ∀ e ∈ scores, e = stickerScore u c) ∧
        FailsHarmlessly u after rest := by
  constructor
  · intro h
    refine ⟨?_, fun pre c' post hrest => ?_⟩
    · cases readOk with
      | true => exact Or.inl rfl
      | false => exact Or.inr (h [] c rest rfl).1
    · obtain ⟨hscores, hpre⟩ := h ((c, readOk) :: pre) c' post (by rw [hrest]; rfl)
      rw [List.forall_mem_cons] at hpre
      refine ⟨fun e he => ?_, hpre.2⟩
      rcases (hafter e).mp he with ⟨-, he⟩ | rfl
      · exact hscores e he
      · exact hpre.1
  · intro h pre c' post htaps
    obtain ⟨hfirst, hrest⟩ := h
    cases pre with
    | nil =>
        rw [List.nil_append, List.cons.injEq, Prod.mk.injEq] at htaps
        obtain ⟨⟨rfl, rfl⟩, -⟩ := htaps
        exact ⟨hfirst.resolve_left (by simp), by simp⟩
    | cons tap pre =>
        rw [List.cons_append, List.cons.injEq] at htaps
        obtain ⟨rfl, rfl⟩ := htaps
        obtain ⟨hlater, hpre⟩ := hrest pre c' post rfl
        have hown : stickerScore u c = stickerScore u c' :=
          hlater _ ((hafter _).mpr (Or.inr rfl))
        refine ⟨fun e he => ?_, List.forall_mem_cons.mpr ⟨hown, hpre⟩⟩
        -- What a failed read loses is the entry the tap then writes.
        rcases hfirst with hread | hsame
        · exact hlater e ((hafter e).mpr (Or.inl ⟨hread, he⟩))
        · exact (hsame e he).trans hown

/-- One tap keeps the entries exactly when its read went through or there was
nothing else to keep. -/
theorem redeem_keeps_iff {s t : Scores} {u : Uid} {c : Collection} {readOk : Bool}
    (ht : t.docs = Function.update s.docs u
      (redeemed (s.docs u) (stickerScore u c) readOk true)) :
    (∀ e ∈ entriesOf (s.docs u), e ∈ entriesOf (t.docs u)) ↔
      (readOk = true ∨ ∀ e ∈ entriesOf (s.docs u), e = stickerScore u c) := by
  rw [ht, Function.update_self]
  simp only [mem_entriesOf_redeemed]
  cases readOk with
  | true => exact iff_of_true (fun e he => Or.inl ⟨rfl, he⟩) (Or.inl rfl)
  | false => simp

/-- No failed read of a sequence of taps destroys a recorded score exactly
when, for each of them, the list at the start and the taps before it have no
other entry than that of the sticker tapped. -/
theorem keepsScores_iff (u : Uid) (s : Scores) (taps : List (Collection × Bool)) :
    KeepsScores u s taps ↔ FailsHarmlessly u (entriesOf (s.docs u)) taps := by
  induction taps generalizing s with
  | nil =>
      refine iff_of_true trivial fun pre c post h => ?_
      exact absurd h.symm (List.append_ne_nil_of_right_ne_nil _ (List.cons_ne_nil _ _))
  | cons tap rest ih =>
      obtain ⟨c, readOk⟩ := tap
      obtain ⟨t, ht, hdocs⟩ := s.redeem_spec u c readOk true
      have hafter : ∀ e, e ∈ entriesOf (t.docs u) ↔
          (readOk = true ∧ e ∈ entriesOf (s.docs u)) ∨ e = stickerScore u c := by
        intro e
        rw [hdocs, Function.update_self]
        exact mem_entriesOf_redeemed
      rw [KeepsScores, failsHarmlessly_cons hafter]
      simp only [ht, Option.some.injEq, exists_eq_left']
      rw [redeem_keeps_iff hdocs, ih t]

open CollectionViewController (collection1 collection2)

/-- With one score recorded, a redeem of another sticker whose read fails
wipes it out. -/
theorem failed_read_destroys :
    ¬ KeepsScores "u"
      ⟨fun _ => some ⟨some [stickerScore "u" collection1]⟩, []⟩
      [(collection2, false)] := by
  rintro ⟨t, ht, hkeep, -⟩
  cases ht
  exact absurd (hkeep (stickerScore "u" collection1) (by decide)) (by decide)

/-! ## Device and server -/

/-- Carry the redeem a tap issued to its end; without a uid there is none. -/
def Scores.finishTap (s : Scores) (tap : Option (Uid × Collection))
    (readOk writeOk : Bool) : Option Scores :=
  match tap with
  | some (u, c) => s.redeem u c readOk writeOk
  | none => some s

/-- The signed-in user's document holds the entry of the sticker. -/
def Recorded (ud : UserDefaults) (s : Scores) (c : Collection) : Prop :=
  ∃ u, ud.userUID = some u ∧ stickerScore u c ∈ entriesOf (s.docs u)

/-- After the tap and its callbacks: a sticker that is not recorded on the
server is still locked on the device, and the info screen offers its quiz. -/
def AllOrNothing (ud : UserDefaults) (s : Scores) (c : Collection)
    (readOk writeOk : Bool) : Prop :=
  ∃ t, s.finishTap (redeemButtonTapped ud (some c)).2 readOk writeOk = some t ∧
    (¬ Recorded (redeemButtonTapped ud (some c)).1 t c →
      unlocked (redeemButtonTapped ud (some c)).1 c.id = false ∧
      (InfoViewController.viewDidLoad (redeemButtonTapped ud (some c)).1
        (some c)).startQuizHidden = false)

/-- The tap unlocks the sticker on the device, whatever follows. -/
theorem unlocked_redeemButtonTapped (ud : UserDefaults) (c : Collection) :
    unlocked (redeemButtonTapped ud (some c)).1 c.id = true := by
  rw [redeemButtonTapped_defaults, unlocked, UserDefaults.integer_set_int]
  exact beq_self_eq_true c.id

/-- Redeeming is all or nothing exactly when a uid is stored and either the
write is accepted or the entry was there before. -/
theorem allOrNothing_iff (ud : UserDefaults) (s : Scores) (c : Collection)
    (readOk writeOk : Bool) :
    AllOrNothing ud s c readOk writeOk ↔
      ∃ u, ud.userUID = some u ∧
        (writeOk = true ∨ stickerScore u c ∈ entriesOf (s.docs u)) := by
  have hiff : AllOrNothing ud s c readOk writeOk ↔
      ∃ t, s.finishTap (ud.userUID.map fun u => (u, c)) readOk writeOk = some t ∧
        Recorded ud t c := by
    rw [AllOrNothing, redeemButtonTapped_redeem, unlocked_redeemButtonTapped]
    simp only [Recorded, redeemButtonTapped_userUID, Bool.true_eq_false,
      false_and, imp_false, not_not]
  rw [hiff]
  cases hu : ud.userUID with
  | none => simp [Recorded, hu]
  | some u =>
      obtain ⟨t, ht, hdocs⟩ := s.redeem_spec u c readOk writeOk
      simp only [Option.map_some, Scores.finishTap, ht, Option.some.injEq,
        exists_eq_left', Recorded, hu, hdocs, Function.update_self]
      cases writeOk with
      | true =>
          rw [mem_entriesOf_redeemed]
          simp
      | false => simp [redeemed]

/-- Without a stored uid the tap unlocks the sticker and records nothing. -/
theorem redeem_without_uid_unlocks :
    unlocked ∅ collection1.id = false ∧
    ¬ AllOrNothing ∅ ⟨fun _ => none, []⟩ collection1 true true := by
  refine ⟨by decide, ?_⟩
  rintro ⟨t, ht, himp⟩
  cases ht
  refine absurd (himp ?_).1 (by decide)
  rintro ⟨u, hu, -⟩
  cases hu

end GloboCollection
