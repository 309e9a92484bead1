import GloboCollection.Lib.Lists
import GloboCollection.Lib.Run
import GloboCollection.App.Scores

/-!
# Redeems of one user under every interleaving

A redeem decides between merging and replacing when its read calls back, and
acts on that decision later. Once the document exists every further read
finds it and every further write merges, so only the redeems that read
before the first write of the run can replace. Each of them does, and wipes
out whatever was written in between.

So the order of the steps alone settles which scores survive: an entry is
there in the end exactly when the document was there from the start, or some
write of the entry comes at or after the last write of an early reader.
`noneLost_iff` is that statement; the invariant behind it tracks, for a
document that starts out absent, which entries the steps so far have left
standing.
-/

namespace GloboCollection

open GloboCollection.Lib
open ResultViewController (stickerScore)

/-! ## Schedules -/

/-- A step of a redeem of `u` in a run where every request succeeds. -/
def ScoreEvent.succeedsFor (u : Uid) : ScoreEvent → Prop
  | .tap v _ => v = u
  | .readCallback _ ok => ok = true
  | .write _ ok => ok = true

def ScoreEvent.isWrite : ScoreEvent → Bool
  | .write _ _ => true
  | _ => false

/-- The row a step belongs to. -/
def ScoreEvent.row : ScoreEvent → Option Nat
  | .tap _ _ => none
  | .readCallback k _ => some k
  | .write k _ => some k

/-- The stickers tapped, in the order of the taps; the position of a tap is
the number its later steps go by. -/
def taps (es : List ScoreEvent) : List Collection :=
  es.filterMap fun
    | .tap _ c => some c
    | _ => none

/-- The read of tap `k` calls back before any write takes effect. -/
def ReadEarly (es : List ScoreEvent) (k : Nat) : Prop :=
  ∃ pre post, es = pre ++ .readCallback k true :: post ∧
    ∀ e ∈ pre, e.isWrite = false

/-- The write of tap `i` takes effect, and after it no write of a tap that
read early. -/
def Stands (es : List ScoreEvent) (i : Nat) : Prop :=
  ∃ pre post, es = pre ++ .write i true :: post ∧
    ∀ k, .write k true ∈ post → ¬ ReadEarly es k

/-- What the redeems promise between them: the document keeps what it held
and gains the entry of every tapped sticker. -/
def NoneLost (u : Uid) (es : List ScoreEvent) (before after : Option ScoreDoc) :
    Prop :=
  (∀ e ∈ entriesOf before, e ∈ entriesOf after) ∧
    ∀ c ∈ taps es, stickerScore u c ∈ entriesOf after

theorem readEarly_concat {es : List ScoreEvent} {e : ScoreEvent} {k : Nat} :
    ReadEarly (es ++ [e]) k ↔
      ReadEarly es k ∨
        (e = .readCallback k true ∧ ∀ e ∈ es, e.isWrite = false) := by
  constructor
  · rintro ⟨pre, post, hsplit, hpre⟩
    rcases concat_eq_append_cons.mp hsplit with ⟨rfl, rfl, -⟩ | ⟨post', -, h⟩
    · exact Or.inr ⟨rfl, hpre⟩
    · exact Or.inl ⟨pre, post', h, hpre⟩
  · rintro (⟨pre, post, rfl, hpre⟩ | ⟨rfl, hpre⟩)
    · exact ⟨pre, post ++ [e], by simp, hpre⟩
    · exact ⟨es, [], rfl, hpre⟩

theorem mem_of_readEarly {es : List ScoreEvent} {k : Nat} (h : ReadEarly es k) :
    .readCallback k true ∈ es := by
  obtain ⟨pre, post, rfl, -⟩ := h
  simp

theorem mem_of_stands {es : List ScoreEvent} {i : Nat} (h : Stands es i) :
    .write i true ∈ es := by
  obtain ⟨pre, post, rfl, -⟩ := h
  simp

/-- A step that writes nothing changes nobody's standing: where a write
stands already, a read that calls back now is no early one. -/
theorem stands_concat_of_not_write {es : List ScoreEvent} {e : ScoreEvent}
    {i : Nat} (he : e.isWrite = false) : Stands (es ++ [e]) i ↔ Stands es i := by
  have hearly : ScoreEvent.write i true ∈ es → ∀ k,
      (ReadEarly (es ++ [e]) k ↔ ReadEarly es k) := by
    intro hmem k
    rw [readEarly_concat]
    constructor
    · rintro (h | ⟨-, hnone⟩)
      · exact h
      · exact absurd (hnone _ hmem) (by simp [ScoreEvent.isWrite])
    · exact Or.inl
  constructor
  · rintro ⟨pre, post, hsplit, hpost⟩
    rcases concat_eq_append_cons.mp hsplit with ⟨-, rfl, -⟩ | ⟨post', rfl, h⟩
    · exact absurd he (by simp [ScoreEvent.isWrite])
    · refine ⟨pre, post', h, fun k hk hr => ?_⟩
      have hmem : ScoreEvent.write i true ∈ es := by rw [h]; simp
      exact hpost k (List.mem_append_left _ hk) ((hearly hmem k).mpr hr)
  · rintro ⟨pre, post, h, hpost⟩
    have hmem : ScoreEvent.write i true ∈ es := by rw [h]; simp
    refine ⟨pre, post ++ [e], by rw [h]; simp, fun k hk hr => ?_⟩
    rcases List.mem_append.mp hk with hk | hk
    · exact hpost k hk ((hearly hmem k).mp hr)
    · rw [List.mem_singleton] at hk
      subst hk
      exact absurd he (by simp [ScoreEvent.isWrite])

/-- A write stands itself, and an early reader's write knocks out all the
others. -/
theorem stands_concat_write {es : List ScoreEvent} {i j : Nat} :
    Stands (es ++ [.write j true]) i ↔
      i = j ∨ (Stands es i ∧ ¬ ReadEarly es j) := by
  have hearly : ∀ k, ReadEarly (es ++ [.write j true]) k ↔ ReadEarly es k := by
    intro k
    rw [readEarly_concat]
    simp
  constructor
  · rintro ⟨pre, post, hsplit, hpost⟩
    rcases concat_eq_append_cons.mp hsplit with ⟨-, h, -⟩ | ⟨post', rfl, h⟩
    · simp only [ScoreEvent.write.injEq, and_true] at h
      exact Or.inl h
    · refine Or.inr ⟨⟨pre, post', h, fun k hk hr => ?_⟩, fun hr => ?_⟩
      · exact hpost k (List.mem_append_left _ hk) ((hearly k).mpr hr)
      · exact hpost j (by simp) ((hearly j).mpr hr)
  · rintro (rfl | ⟨⟨pre, post, h, hpost⟩, hj⟩)
    · exact ⟨es, [], rfl, by simp⟩
    · refine ⟨pre, post ++ [.write j true], by rw [h]; simp, fun k hk hr => ?_⟩
      rw [hearly] at hr
      rcases List.mem_append.mp hk with hk | hk
      · exact hpost k hk hr
      · simp only [List.mem_singleton, ScoreEvent.write.injEq, and_true] at hk
        exact hj (hk ▸ hr)

/-! ## The bookkeeping

Whatever the document does, the redeems are the taps: row `i` carries the
entry of tap `i`, for the user all of them are for. -/

structure Books (u : Uid) (es : List ScoreEvent) (s : Scores) : Prop where
  entries : s.redeems.map Redeem.stickerScore = (taps es).map (stickerScore u)
  uid : ∀ r ∈ s.redeems, r.userUID = u

theorem Books.getElem? {u : Uid} {es : List ScoreEvent} {s : Scores}
    (hb : Books u es s) {i : Nat} {r : Redeem} (hr : s.redeems[i]? = some r) :
    ∃ c, (taps es)[i]? = some c ∧ stickerScore u c = r.stickerScore := by
  have h : (s.redeems.map Redeem.stickerScore)[i]? = some r.stickerScore := by
    rw [List.getElem?_map, hr]
    rfl
  rw [hb.entries, List.getElem?_map] at h
  simpa using h

/-- A redeem's progress touches neither its entry nor its user. -/
theorem Books.setPhase {u : Uid} {es es' : List ScoreEvent} {s : Scores}
    (hb : Books u es s) (htaps : taps es' = taps es) {i : Nat} {r : Redeem}
    (hr : s.redeems[i]? = some r) (phase : Phase) (docs : Uid → Option ScoreDoc) :
    Books u es' ⟨docs, s.redeems.set i { r with phase := phase }⟩ := by
  refine ⟨?_, fun q hq => ?_⟩
  · rw [htaps, ← hb.entries]
    exact map_set_eq hr rfl
  · rcases List.mem_or_eq_of_mem_set hq with hq | rfl
    · exact hb.uid q hq
    · exact hb.uid r (List.mem_of_getElem? hr)

theorem Books.step {u : Uid} {es : List ScoreEvent} {s s' : Scores}
    {e : ScoreEvent} (hb : Books u es s) (hok : e.succeedsFor u)
    (hs : s.step e = some s') : Books u (es ++ [e]) s' := by
  cases e with
  | tap v c =>
      cases hok
      rw [Scores.step, Option.some.injEq] at hs
      subst hs
      refine ⟨by simp [Scores.issue, taps, hb.entries], fun r hr => ?_⟩
      rcases List.mem_append.mp hr with hr | hr
      · exact hb.uid r hr
      · rw [List.mem_singleton.mp hr]
  | readCallback i ok =>
      obtain ⟨r, hr, -, rfl⟩ := Scores.readCallback_some.mp hs
      exact hb.setPhase (by simp [taps]) hr _ _
  | write i ok =>
      obtain ⟨r, hr, -, rfl⟩ := Scores.write_some.mp hs
      exact hb.setPhase (by simp [taps]) hr _ _

/-! ## A document that is there from the start

Every read finds it, so no write replaces. -/

structure Present (u : Uid) (before : Option ScoreDoc) (s : Scores) : Prop where
  doc : (s.docs u).isSome
  kept : ∀ e ∈ entriesOf before, e ∈ entriesOf (s.docs u)
  merging : ∀ r ∈ s.redeems, r.phase ≠ .setting
  written : ∀ r ∈ s.redeems, r.phase = .finished →
    r.stickerScore ∈ entriesOf (s.docs u)

theorem Present.step {u : Uid} {before : Option ScoreDoc}
    {es : List ScoreEvent} {s s' : Scores} {e : ScoreEvent} (hb : Books u es s)
    (hp : Present u before s) (hok : e.succeedsFor u)
    (hs : s.step e = some s') : Present u before s' := by
  cases e with
  | tap v c =>
      rw [Scores.step, Option.some.injEq] at hs
      subst hs
      refine ⟨hp.doc, hp.kept, fun r hr => ?_, fun r hr hfin => ?_⟩
      · rcases List.mem_append.mp hr with hr | hr
        · exact hp.merging r hr
        · rw [List.mem_singleton.mp hr]
          exact fun h => Phase.noConfusion h
      · rcases List.mem_append.mp hr with hr | hr
        · exact hp.written r hr hfin
        · rw [List.mem_singleton.mp hr] at hfin
          cases hfin
  | readCallback i ok =>
      cases hok
      obtain ⟨r, hr, -, rfl⟩ := Scores.readCallback_some.mp hs
      rw [hb.uid r (List.mem_of_getElem? hr), hp.doc]
      refine ⟨hp.doc, hp.kept, fun q hq => ?_, fun q hq hfin => ?_⟩
      · rcases List.mem_or_eq_of_mem_set hq with hq | rfl
        · exact hp.merging q hq
        · exact fun h => Phase.noConfusion h
      · rcases List.mem_or_eq_of_mem_set hq with hq | rfl
        · exact hp.written q hq hfin
        · cases hfin
  | write i ok =>
      cases hok
      obtain ⟨r, hr, hphase, hredeems, hdocs⟩ := Scores.write_accepted hs
      have hmem := List.mem_of_getElem? hr
      have hupd : r.phase = .updating :=
        hphase.resolve_right (hp.merging r hmem)
      have hdoc : s'.docs u = updateData (s.docs u) [r.stickerScore] := by
        rw [hdocs, hb.uid r hmem, Function.update_self, Redeem.written, hupd]
      refine ⟨?_, fun e he => ?_, fun q hq => ?_, fun q hq hfin => ?_⟩
      · rw [hdoc, updateData, Option.isSome_map]
        exact hp.doc
      · rw [hdoc, mem_entriesOf_updateData hp.doc]
        exact Or.inl (hp.kept e he)
      · rw [hredeems] at hq
        rcases List.mem_or_eq_of_mem_set hq with hq | rfl
        · exact hp.merging q hq
        · exact fun h => Phase.noConfusion h
      · rw [hdoc, mem_entriesOf_updateData hp.doc]
        rw [hredeems] at hq
        rcases List.mem_or_eq_of_mem_set hq with hq | rfl
        · exact Or.inl (hp.written q hq hfin)
        · exact Or.inr rfl

/-! ## A document that starts out absent

The invariant carries the schedule along: which rows will replace is which
rows read early, and an entry is in the document exactly when a write of it
stands. -/

structure Absent (u : Uid) (es : List ScoreEvent) (s : Scores) : Prop where
  doc : s.docs u = none ↔ ∀ e ∈ es, e.isWrite = false
  bound : ∀ e ∈ es, ∀ k, e.row = some k → k < s.redeems.length
  reading : ∀ k r, s.redeems[k]? = some r → r.phase = .reading →
    ∀ ok, .readCallback k ok ∉ es
  setting : ∀ k r, s.redeems[k]? = some r → r.phase = .setting → ReadEarly es k
  updating : ∀ k r, s.redeems[k]? = some r → r.phase = .updating →
    ¬ ReadEarly es k ∧ (s.docs u).isSome
  standing : ∀ e, e ∈ entriesOf (s.docs u) ↔
    ∃ i r, s.redeems[i]? = some r ∧ r.stickerScore = e ∧ Stands es i

theorem Absent.init {u : Uid} {docs : Uid → Option ScoreDoc}
    (hdoc : docs u = none) : Absent u [] ⟨docs, []⟩ where
  doc := by simp [hdoc]
  bound := by simp
  reading := by simp
  setting := by simp
  updating := by simp
  standing := by simp [hdoc]

theorem Absent.bound_concat {u : Uid} {es : List ScoreEvent} {s s' : Scores}
    {e : ScoreEvent} (ha : Absent u es s)
    (hlen : s.redeems.length ≤ s'.redeems.length)
    (he : ∀ k, e.row = some k → k < s'.redeems.length) :
    ∀ e' ∈ es ++ [e], ∀ k, e'.row = some k → k < s'.redeems.length := by
  rw [List.forall_mem_append]
  refine ⟨fun e' he' k hk => ?_, fun e' he' => ?_⟩
  · exact Nat.lt_of_lt_of_le (ha.bound e' he' k hk) hlen
  · rw [List.mem_singleton.mp he']
    exact he

/-- A new tap reads nothing and writes nothing yet. -/
theorem Absent.tap {u : Uid} {es : List ScoreEvent} {s : Scores}
    (ha : Absent u es s) (c : Collection) :
    Absent u (es ++ [.tap u c]) (s.issue u c) := by
  have hearly : ∀ k, ReadEarly (es ++ [.tap u c]) k ↔ ReadEarly es k := by
    intro k
    rw [readEarly_concat]
    simp
  have hread : ∀ {k ok}, .readCallback k ok ∈ es ++ [.tap u c] →
      .readCallback k ok ∈ es := by
    intro k ok h
    simpa using h
  refine ⟨?_, ?_, fun k r hr hp ok h => ?_, fun k r hr hp => ?_,
    fun k r hr hp => ?_, fun e => ?_⟩
  · rw [List.forall_mem_append, ← ha.doc]
    simp [Scores.issue, ScoreEvent.isWrite]
  · exact ha.bound_concat (by simp [Scores.issue]) (fun k hk => by cases hk)
  · rcases getElem?_concat_some.mp hr with hr | ⟨rfl, -⟩
    · exact ha.reading k r hr hp ok (hread h)
    · exact absurd (ha.bound _ (hread h) _ rfl) (Nat.lt_irrefl _)
  · rcases getElem?_concat_some.mp hr with hr | ⟨-, rfl⟩
    · exact (hearly k).mpr (ha.setting k r hr hp)
    · cases hp
  · rcases getElem?_concat_some.mp hr with hr | ⟨-, rfl⟩
    · rw [hearly]
      exact ha.updating k r hr hp
    · cases hp
  · rw [show (s.issue u c).docs = s.docs from rfl, ha.standing]
    constructor
    · rintro ⟨i, r, hr, he, hst⟩
      exact ⟨i, r, getElem?_concat_some.mpr (Or.inl hr), he,
        (stands_concat_of_not_write rfl).mpr hst⟩
    · rintro ⟨i, r, hr, he, hst⟩
      rw [stands_concat_of_not_write rfl] at hst
      rcases getElem?_concat_some.mp hr with hr | ⟨rfl, -⟩
      · exact ⟨i, r, hr, he, hst⟩
      · exact absurd (ha.bound _ (mem_of_stands hst) _ rfl) (Nat.lt_irrefl _)

/-- Seen through its entry, a row does not notice the progress of any. -/
theorem exists_row_set {l : List Redeem} {i : Nat} {r r' : Redeem}
    (hr : l[i]? = some r) (hscore : r'.stickerScore = r.stickerScore)
    {Q : Nat → Entry → Prop} :
    (∃ k q, (l.set i r')[k]? = some q ∧ Q k q.stickerScore) ↔
      ∃ k q, l[k]? = some q ∧ Q k q.stickerScore := by
  constructor
  · rintro ⟨k, q, hq, hQ⟩
    rcases (getElem?_set_some hr).mp hq with ⟨rfl, rfl⟩ | ⟨-, hq⟩
    · exact ⟨k, r, hr, hscore ▸ hQ⟩
    · exact ⟨k, q, hq, hQ⟩
  · rintro ⟨k, q, hq, hQ⟩
    by_cases hk : k = i
    · subst hk
      rw [hr, Option.some.injEq] at hq
      subst hq
      exact ⟨k, r', (getElem?_set_some hr).mpr (Or.inl ⟨rfl, rfl⟩),
        hscore.symm ▸ hQ⟩
    · exact ⟨k, q, (getElem?_set_some hr).mpr (Or.inr ⟨hk, hq⟩), hQ⟩

/-- The read's callback: the row will replace exactly when it is early. -/
theorem Absent.readCallback {u : Uid} {es : List ScoreEvent} {s s' : Scores}
    {i : Nat} (hb : Books u es s) (ha : Absent u es s)
    (hs : s.readCallback i true = some s') :
    Absent u (es ++ [.readCallback i true]) s' := by
  obtain ⟨r, hr, hphase, rfl⟩ := Scores.readCallback_some.mp hs
  have hlt : i < s.redeems.length := (List.getElem?_eq_some_iff.mp hr).1
  have hnew : ¬ ReadEarly es i := fun h =>
    ha.reading i r hr hphase true (mem_of_readEarly h)
  have hother : ∀ {k}, k ≠ i →
      (ReadEarly (es ++ [.readCallback i true]) k ↔ ReadEarly es k) := by
    intro k hk
    rw [readEarly_concat]
    simp [Ne.symm hk]
  have hself : ReadEarly (es ++ [.readCallback i true]) i ↔ s.docs u = none := by
    rw [readEarly_concat, ha.doc]
    simp [hnew]
  rw [hb.uid r (List.mem_of_getElem? hr)]
  refine ⟨?_, ?_, fun k q hq hp ok h => ?_, fun k q hq hp => ?_,
    fun k q hq hp => ?_, fun e => ?_⟩
  · rw [List.forall_mem_append, ← ha.doc]
    simp [ScoreEvent.isWrite]
  · refine ha.bound_concat (by simp) (fun k hk => ?_)
    cases hk
    simpa using hlt
  · rcases (getElem?_set_some hr).mp hq with ⟨-, rfl⟩ | ⟨hk, hq⟩
    · simp only [] at hp
      split at hp <;> cases hp
    · refine ha.reading k q hq hp ok ?_
      simpa [hk] using h
  · rcases (getElem?_set_some hr).mp hq with ⟨rfl, rfl⟩ | ⟨hk, hq⟩
    · rw [hself]
      cases hdoc : s.docs u with
      | none => rfl
      | some d => simp [hdoc] at hp
    · exact (hother hk).mpr (ha.setting k q hq hp)
  · rcases (getElem?_set_some hr).mp hq with ⟨rfl, rfl⟩ | ⟨hk, hq⟩
    · rw [hself]
      cases hdoc : s.docs u with
      | none => simp [hdoc] at hp
      | some d => simp
    · rw [hother hk]
      exact ha.updating k q hq hp
  · rw [ha.standing]
    simp only [stands_concat_of_not_write (e := .readCallback i true) rfl]
    exact (exists_row_set hr (by rfl) (Q := fun k x => x = e ∧ Stands es k)).symm

/-- An accepted write: it stands, and when it replaces nothing else does. -/
theorem Absent.write {u : Uid} {es : List ScoreEvent} {s s' : Scores}
    {i : Nat} (hb : Books u es s) (ha : Absent u es s)
    (hs : s.write i true = some s') :
    Absent u (es ++ [.write i true]) s' := by
  obtain ⟨r, hr, hphase, hredeems, hdocs⟩ := Scores.write_accepted hs
  have hlt : i < s.redeems.length := (List.getElem?_eq_some_iff.mp hr).1
  have hearly : ∀ k, ReadEarly (es ++ [.write i true]) k ↔ ReadEarly es k := by
    intro k
    rw [readEarly_concat]
    simp
  have hdoc : s'.docs u = r.written (s.docs u) := by
    rw [hdocs, hb.uid r (List.mem_of_getElem? hr), Function.update_self]
  have hmem : ∀ e, e ∈ entriesOf (s'.docs u) ↔
      e = r.stickerScore ∨ (¬ ReadEarly es i ∧ e ∈ entriesOf (s.docs u)) := by
    intro e
    rw [hdoc, Redeem.written]
    rcases hphase with hp | hp
    · obtain ⟨hne, hsome⟩ := ha.updating i r hr hp
      simp only [hp, mem_entriesOf_updateData hsome, hne, not_false_eq_true,
        true_and]
      exact or_comm
    · simp [hp, ha.setting i r hr hp]
  have hsome : (s'.docs u).isSome := by
    rw [hdoc, Redeem.written]
    rcases hphase with hp | hp
    · simp [hp, updateData, (ha.updating i r hr hp).2]
    · simp [hp]
  refine ⟨?_, ?_, fun k q hq hp ok h => ?_, fun k q hq hp => ?_,
    fun k q hq hp => ?_, fun e => ?_⟩
  · obtain ⟨d, hd⟩ := Option.isSome_iff_exists.mp hsome
    simp [hd, ScoreEvent.isWrite]
  · refine ha.bound_concat (by simp [hredeems]) (fun k hk => ?_)
    cases hk
    simpa [hredeems] using hlt
  · rw [hredeems] at hq
    rcases (getElem?_set_some hr).mp hq with ⟨-, rfl⟩ | ⟨hk, hq⟩
    · cases hp
    · refine ha.reading k q hq hp ok ?_
      simpa using h
  · rw [hredeems] at hq
    rcases (getElem?_set_some hr).mp hq with ⟨rfl, rfl⟩ | ⟨hk, hq⟩
    · cases hp
    · exact (hearly k).mpr (ha.setting k q hq hp)
  · rw [hredeems] at hq
    rcases (getElem?_set_some hr).mp hq with ⟨rfl, rfl⟩ | ⟨hk, hq⟩
    · cases hp
    · exact ⟨fun h => (ha.updating k q hq hp).1 ((hearly k).mp h), hsome⟩
  · rw [hmem, ha.standing, hredeems]
    simp only [stands_concat_write]
    refine Iff.trans ?_ (exists_row_set hr (by rfl) (Q := fun k x =>
      x = e ∧ (k = i ∨ (Stands es k ∧ ¬ ReadEarly es i)))).symm
    constructor
    · rintro (rfl | ⟨hne, k, q, hq, he, hst⟩)
      · exact ⟨i, r, hr, rfl, Or.inl rfl⟩
      · exact ⟨k, q, hq, he, Or.inr ⟨hst, hne⟩⟩
    · rintro ⟨k, q, hq, he, rfl | ⟨hst, hne⟩⟩
      · rw [hr, Option.some.injEq] at hq
        exact Or.inl (by rw [hq, he])
      · exact Or.inr ⟨hne, k, q, hq, he, hst⟩

theorem Absent.step {u : Uid} {es : List ScoreEvent} {s s' : Scores}
    {e : ScoreEvent} (hb : Books u es s) (ha : Absent u es s)
    (hok : e.succeedsFor u) (hs : s.step e = some s') :
    Absent u (es ++ [e]) s' := by
  cases e with
  | tap v c =>
      cases hok
      rw [Scores.step, Option.some.injEq] at hs
      exact hs ▸ ha.tap c
  | readCallback i ok =>
      cases hok
      exact ha.readCallback hb hs
  | write i ok =>
      cases hok
      exact ha.write hb hs

/-! ## Whole runs -/

section Runs

variable {u : Uid} {docs : Uid → Option ScoreDoc} {es : List ScoreEvent}
  {s : Scores}

theorem books_of_run (hes : ∀ e ∈ es, e.succeedsFor u)
    (hrun : run Scores.step ⟨docs, []⟩ es = some s) : Books u es s := by
  refine run_induction (P := fun es s => (∀ e ∈ es, e.succeedsFor u) → Books u es s)
    (fun _ => ⟨rfl, by simp⟩) (fun es s e s' _ ih hs hes => ?_) hrun hes
  rw [List.forall_mem_append] at hes
  exact (ih hes.1).step (hes.2 e (List.mem_singleton_self e)) hs

theorem present_of_run (hdoc : (docs u).isSome)
    (hes : ∀ e ∈ es, e.succeedsFor u)
    (hrun : run Scores.step ⟨docs, []⟩ es = some s) : Present u (docs u) s := by
  refine run_induction
    (P := fun es s => (∀ e ∈ es, e.succeedsFor u) → Present u (docs u) s)
    (fun _ => ⟨hdoc, fun _ he => he, by simp, by simp⟩)
    (fun es s e s' hrun ih hs hes => ?_) hrun hes
  rw [List.forall_mem_append] at hes
  exact (ih hes.1).step (books_of_run hes.1 hrun)
    (hes.2 e (List.mem_singleton_self e)) hs

theorem absent_of_run (hdoc : docs u = none)
    (hes : ∀ e ∈ es, e.succeedsFor u)
    (hrun : run Scores.step ⟨docs, []⟩ es = some s) : Absent u es s := by
  refine run_induction
    (P := fun es s => (∀ e ∈ es, e.succeedsFor u) → Absent u es s)
    (fun _ => Absent.init hdoc) (fun es s e s' hrun ih hs hes => ?_) hrun hes
  rw [List.forall_mem_append] at hes
  exact (ih hes.1).step (books_of_run hes.1 hrun)
    (hes.2 e (List.mem_singleton_self e)) hs

/-- Once no redeem is under way, nothing is lost exactly when the document
was there from the start, or every tapped sticker has a write that comes at
or after the last write of a tap that read before the first write. -/
theorem noneLost_iff (hes : ∀ e ∈ es, e.succeedsFor u)
    (hrun : run Scores.step ⟨docs, []⟩ es = some s) (hquiet : s.Quiet) :
    NoneLost u es (docs u) (s.docs u) ↔
      (docs u).isSome ∨
        ∀ c ∈ taps es, ∃ i c', (taps es)[i]? = some c' ∧
          stickerScore u c' = stickerScore u c ∧ Stands es i := by
  have hb := books_of_run hes hrun
  cases hdoc : docs u with
  | some d =>
      have hp := present_of_run (by simp [hdoc]) hes hrun
      refine iff_of_true ⟨hdoc ▸ hp.kept, fun c hc => ?_⟩ (Or.inl rfl)
      have hmem : stickerScore u c ∈ s.redeems.map Redeem.stickerScore := by
        rw [hb.entries]
        exact List.mem_map_of_mem hc
      obtain ⟨r, hr, hscore⟩ := List.mem_map.mp hmem
      rw [← hscore]
      exact hp.written r hr (hquiet r hr)
  | none =>
      have ha := absent_of_run hdoc hes hrun
      simp only [NoneLost, entriesOf_none, List.not_mem_nil, false_implies,
        implies_true, true_and, Option.isSome_none, Bool.false_eq_true, false_or]
      refine forall₂_congr fun c hc => ?_
      rw [ha.standing]
      constructor
      · rintro ⟨i, r, hr, hscore, hst⟩
        obtain ⟨c', hc', heq⟩ := hb.getElem? hr
        exact ⟨i, c', hc', heq.trans hscore, hst⟩
      · rintro ⟨i, c', hc', heq, hst⟩
        have hrow : (s.redeems.map Redeem.stickerScore)[i]? =
            some (stickerScore u c') := by
          rw [hb.entries, List.getElem?_map, hc']
          rfl
        rw [List.getElem?_map, Option.map_eq_some_iff] at hrow
        obtain ⟨r, hr, hscore⟩ := hrow
        exact ⟨i, r, hr, hscore.trans heq, hst⟩

end Runs

open CollectionViewController (collection1 collection2)

/-- One redeem after the other, on a user who has no document yet: the second
tap reads what the first one wrote. -/
theorem noneLost_one_by_one :
    let es := [.tap "u" collection1, .readCallback 0 true, .write 0 true,
      .tap "u" collection2, .readCallback 1 true, .write 1 true]
    ∃ s, run Scores.step ⟨fun _ => none, []⟩ es = some s ∧ s.Quiet ∧
      (∀ c ∈ taps es, ∃ i c', (taps es)[i]? = some c' ∧
        stickerScore "u" c' = stickerScore "u" c ∧ Stands es i) ∧
      NoneLost "u" es none (s.docs "u") := by
  intro es
  obtain ⟨s, hrun, hquiet⟩ : ∃ s, run Scores.step ⟨fun _ => none, []⟩ es = some s ∧ s.Quiet :=
    ⟨_, rfl, by decide⟩
  have hlate : ¬ ReadEarly es 1 := by
    rintro ⟨pre, post, hes, hnone⟩
    have hwrite : .write 0 true ∈ pre := by
      rcases pre with _ | ⟨a, _ | ⟨b, _ | ⟨c, pre⟩⟩⟩ <;> simp [es] at hes ⊢
      exact Or.inr (Or.inr (Or.inl hes.2.2.1))
    exact absurd (hnone _ hwrite) (by decide)
  have hstands : ∀ c ∈ taps es, ∃ i c', (taps es)[i]? = some c' ∧
      stickerScore "u" c' = stickerScore "u" c ∧ Stands es i := by
    intro c hc
    have htaps : c = collection1 ∨ c = collection2 := by simpa [es, taps] using hc
    rcases htaps with rfl | rfl
    · refine ⟨0, _, rfl, rfl, es.take 2, es.drop 3, rfl, fun k hk => ?_⟩
      obtain rfl : k = 1 := by simpa [es] using hk
      exact hlate
    · exact ⟨1, _, rfl, rfl, es.take 5, [], rfl, fun k hk => by cases hk⟩
  have hsucceeds : ∀ e ∈ es, e.succeedsFor "u" := by simp [es, ScoreEvent.succeedsFor]
  exact ⟨s, hrun, hquiet, hstands,
    (@noneLost_iff "u" (fun _ => none) es s hsucceeds hrun hquiet).mpr (Or.inr hstands)⟩

/-- Two taps of a user without a document, both of which read before either
writes: the second write replaces the document the first one created, and
the first sticker's score is gone. -/
theorem overlapping_redeems_lose_one : ∃ s,
    run Scores.step ⟨fun _ => none, []⟩
      [.tap "u" collection1, .tap "u" collection2, .readCallback 0 true,
        .readCallback 1 true, .write 0 true, .write 1 true] = some s ∧
    s.Quiet ∧
    ¬ NoneLost "u"
      [.tap "u" collection1, .tap "u" collection2, .readCallback 0 true,
        .readCallback 1 true, .write 0 true, .write 1 true]
      none (s.docs "u") := by
  refine ⟨_, rfl, by decide, fun h => ?_⟩
  exact absurd (h.2 collection1 (by simp [taps])) (by decide)

end GloboCollection
