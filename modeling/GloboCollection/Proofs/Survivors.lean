import GloboCollection.Lib.Lists
import GloboCollection.Proofs.Steps

/-!
# Which scores survive

A redeem whose read came back without a document replaces the document by
its own entry, and one whose read came back with one adds to it. The read may
have failed, the document may have been made since, the write may be refused,
and any number of redeems of any number of users may be under way. What a
user's document holds in the end is nevertheless simple to say: the entries
whose write was accepted and after which no blind redeem of the same user was
accepted any more, and as long as there was no such redeem at all, what the
document held at first. `mem_scores_iff` states this for every run of the
whole app, whatever fails.

The invariant ties the phase of every redeem to its read: a redeem that is
going to replace is one that read blindly, and one that is going to add did
not, and found a document which is still there.
-/

namespace GloboCollection

open GloboCollection.Lib

/-- The redeem an event of the protocol is about. -/
def Event.scoreRow : Event → Option Nat
  | .scoreRead i _ | .scoreWrite i _ => some i
  | _ => none

/-- Redeem `k` is one of user `u`, and its read came back without a document:
it failed, or there was none at that moment. -/
def ReadBlind (models : List Model) (w₀ : World) (es : List Event) (u : Uid) (k : Nat) :
    Prop :=
  ∃ pre ok post w r, es = pre ++ .scoreRead k ok :: post ∧
    run (World.step models) w₀ pre = some w ∧ w.scores.redeems[k]? = some r ∧
    r.userUID = u ∧ (ok = false ∨ w.scores.docs u = none)

/-- None of the accepted writes among these events replaces the document of
`u`. -/
def NoneBlind (models : List Model) (w₀ : World) (es : List Event) (u : Uid)
    (events : List Event) : Prop :=
  ∀ k, .scoreWrite k true ∈ events → ¬ ReadBlind models w₀ es u k

/-- The entry is of the start and no write replaced it, or it was written and
no later write replaced it. -/
def Survives (models : List Model) (w₀ : World) (es : List Event) (u : Uid)
    (entry : Entry) : Prop :=
  (entry ∈ entriesOf (w₀.scores.docs u) ∧ NoneBlind models w₀ es u es) ∨
    ∃ pre i post w r, es = pre ++ .scoreWrite i true :: post ∧
      run (World.step models) w₀ pre = some w ∧ w.scores.redeems[i]? = some r ∧
      r.userUID = u ∧ r.stickerScore = entry ∧ NoneBlind models w₀ es u post

section Events

variable {models : List Model} {w₀ w : World} {es : List Event} {e : Event} {u : Uid}
  {k : Nat} {entry : Entry}

theorem readBlind_concat (hrun : run (World.step models) w₀ es = some w) :
    ReadBlind models w₀ (es ++ [e]) u k ↔
      ReadBlind models w₀ es u k ∨ ∃ ok r, e = .scoreRead k ok ∧
        w.scores.redeems[k]? = some r ∧ r.userUID = u ∧
        (ok = false ∨ w.scores.docs u = none) := by
  refine ⟨fun h => ?_, fun h => ?_⟩
  · obtain ⟨pre, ok, post, w', r, hsplit, hpre, hr⟩ := h
    rcases concat_eq_append_cons.mp hsplit with ⟨rfl, rfl, -⟩ | ⟨post', -, rfl⟩
    · rw [hrun] at hpre
      cases hpre
      exact Or.inr ⟨ok, r, rfl, hr⟩
    · exact Or.inl ⟨pre, ok, post', w', r, rfl, hpre, hr⟩
  · rcases h with ⟨pre, ok, post, w', r, rfl, hpre, hr⟩ | ⟨ok, r, rfl, hr⟩
    · exact ⟨pre, ok, post ++ [e], w', r, by simp, hpre, hr⟩
    · exact ⟨es, ok, [], w, r, rfl, hrun, hr⟩

/-- Only the read of a redeem makes it blind. -/
theorem readBlind_concat_of_ne (hrun : run (World.step models) w₀ es = some w)
    (he : ∀ ok, e ≠ .scoreRead k ok) :
    ReadBlind models w₀ (es ++ [e]) u k ↔ ReadBlind models w₀ es u k := by
  rw [readBlind_concat hrun]
  refine ⟨fun h => ?_, Or.inl⟩
  rcases h with h | ⟨ok, r, rfl, -⟩
  · exact h
  · exact absurd rfl (he ok)

theorem mem_of_readBlind (h : ReadBlind models w₀ es u k) : ∃ ok, .scoreRead k ok ∈ es := by
  obtain ⟨pre, ok, post, -, -, rfl, -⟩ := h
  exact ⟨ok, by simp⟩

/-- An event that is no accepted write, and that makes no redeem blind which
was already written, changes nobody's standing. -/
theorem survives_concat_of_not_write (he : ∀ i, e ≠ .scoreWrite i true)
    (hblind : ∀ k, .scoreWrite k true ∈ es →
      (ReadBlind models w₀ (es ++ [e]) u k ↔ ReadBlind models w₀ es u k)) :
    Survives models w₀ (es ++ [e]) u entry ↔ Survives models w₀ es u entry := by
  have hnone : ∀ events, (∀ e ∈ events, e ∈ es) →
      (NoneBlind models w₀ (es ++ [e]) u (events ++ [e]) ↔
        NoneBlind models w₀ es u events) := by
    intro events hsub
    refine ⟨fun h k hk hr => ?_, fun h k hk hr => ?_⟩
    · exact h k (List.mem_append_left _ hk) ((hblind k (hsub _ hk)).mpr hr)
    · rcases List.mem_append.mp hk with hk | hk
      · exact h k hk ((hblind k (hsub _ hk)).mp hr)
      · exact he k (List.mem_singleton.mp hk).symm
  refine or_congr (and_congr_right fun _ => hnone es fun _ => id) ⟨fun h => ?_, fun h => ?_⟩
  · obtain ⟨pre, i, post, w, r, hsplit, hpre, hr, hu, hentry, hpost⟩ := h
    rcases concat_eq_append_cons.mp hsplit with ⟨-, hi, -⟩ | ⟨post', rfl, rfl⟩
    · exact absurd hi.symm (he i)
    · refine ⟨pre, i, post', w, r, rfl, hpre, hr, hu, hentry, (hnone post' ?_).mp hpost⟩
      intro e' he'
      simp [he']
  · obtain ⟨pre, i, post, w, r, rfl, hpre, hr, hu, hentry, hpost⟩ := h
    refine ⟨pre, i, post ++ [e], w, r, by simp, hpre, hr, hu, hentry, (hnone post ?_).mpr hpost⟩
    intro e' he'
    simp [he']

/-- An accepted write stands itself if it is of this user, and if it replaces
it knocks out all the others. -/
theorem survives_concat_write (hrun : run (World.step models) w₀ es = some w) {r : Redeem}
    (hr : w.scores.redeems[k]? = some r) :
    Survives models w₀ (es ++ [.scoreWrite k true]) u entry ↔
      (Survives models w₀ es u entry ∧ ¬ ReadBlind models w₀ es u k) ∨
        (r.userUID = u ∧ r.stickerScore = entry) := by
  have hblind : ∀ j, ReadBlind models w₀ (es ++ [.scoreWrite k true]) u j ↔
      ReadBlind models w₀ es u j :=
    fun j => readBlind_concat_of_ne hrun (by simp)
  have hnone : ∀ events, NoneBlind models w₀ (es ++ [.scoreWrite k true]) u
      (events ++ [.scoreWrite k true]) ↔
        NoneBlind models w₀ es u events ∧ ¬ ReadBlind models w₀ es u k := by
    intro events
    refine ⟨fun h => ⟨fun j hj hb => ?_, fun hb => ?_⟩, fun h j hj hb => ?_⟩
    · exact h j (List.mem_append_left _ hj) ((hblind j).mpr hb)
    · exact h k (by simp) ((hblind k).mpr hb)
    · rcases List.mem_append.mp hj with hj | hj
      · exact h.1 j hj ((hblind j).mp hb)
      · simp only [List.mem_singleton, Event.scoreWrite.injEq, and_true] at hj
        subst hj
        exact h.2 ((hblind j).mp hb)
  refine ⟨fun h => ?_, fun h => ?_⟩
  · rcases h with ⟨hentry, hkept⟩ | ⟨pre, i, post, w', r', hsplit, hpre, hr', hu, hentry, hpost⟩
    · obtain ⟨hkept, hk⟩ := (hnone es).mp hkept
      exact Or.inl ⟨Or.inl ⟨hentry, hkept⟩, hk⟩
    · rcases concat_eq_append_cons.mp hsplit with ⟨rfl, hi, -⟩ | ⟨post', rfl, rfl⟩
      · cases hi
        rw [hrun] at hpre
        cases hpre
        rw [hr] at hr'
        cases hr'
        exact Or.inr ⟨hu, hentry⟩
      · obtain ⟨hpost, hk⟩ := (hnone post').mp hpost
        exact Or.inl ⟨Or.inr ⟨pre, i, post', w', r', rfl, hpre, hr', hu, hentry, hpost⟩, hk⟩
  · rcases h with ⟨⟨hentry, hkept⟩ | h, hk⟩ | ⟨hu, hentry⟩
    · exact Or.inl ⟨hentry, (hnone es).mpr ⟨hkept, hk⟩⟩
    · obtain ⟨pre, i, post, w', r', rfl, hpre, hr', hu, hentry, hpost⟩ := h
      exact Or.inr ⟨pre, i, post ++ [.scoreWrite k true], w', r', by simp, hpre, hr', hu,
        hentry, (hnone post).mpr ⟨hpost, hk⟩⟩
    · refine Or.inr ⟨es, k, [], w, r, rfl, hrun, hr, hu, hentry, fun j hj => ?_⟩
      cases hj

end Events

/-! ## The invariant -/

structure Standing (models : List Model) (w₀ : World) (u : Uid) (es : List Event)
    (w : World) : Prop where
  fresh : ∀ k, (∀ r, w.scores.redeems[k]? = some r → r.phase = .reading) →
    ∀ e ∈ es, e.scoreRow ≠ some k
  owner : ∀ k, ReadBlind models w₀ es u k →
    ∃ r, w.scores.redeems[k]? = some r ∧ r.userUID = u
  updating : ∀ k r, w.scores.redeems[k]? = some r → r.userUID = u → r.phase = .updating →
    ¬ ReadBlind models w₀ es u k ∧ (w.scores.docs u).isSome = true
  setting : ∀ k r, w.scores.redeems[k]? = some r → r.userUID = u → r.phase = .setting →
    ReadBlind models w₀ es u k
  entries : ∀ entry, entry ∈ entriesOf (w.scores.docs u) ↔ Survives models w₀ es u entry

namespace Standing

variable {models : List Model} {w₀ w w' : World} {es : List Event} {e : Event} {u : Uid}

theorem init (hredeems : w₀.scores.redeems = []) : Standing models w₀ u [] w₀ := by
  have hrow : ∀ (k : Nat) (r : Redeem), w₀.scores.redeems[k]? ≠ some r := by
    simp [hredeems]
  refine ⟨fun k _ e he => ?_, fun k hk => ?_, fun k r hr => absurd hr (hrow k r),
    fun k r hr => absurd hr (hrow k r), fun entry => ?_⟩
  · cases he
  · obtain ⟨ok, hmem⟩ := mem_of_readBlind hk
    cases hmem
  · refine ⟨fun h => Or.inl ⟨h, fun k hk => ?_⟩, fun h => ?_⟩
    · cases hk
    · rcases h with ⟨h, -⟩ | ⟨pre, i, post, w, r, hnil, -⟩
      · exact h
      · simp at hnil

/-- An event outside the protocol writes nothing, and what it issues is
still to be read. -/
theorem other (h : Standing models w₀ u es w) (hrun : run (World.step models) w₀ es = some w)
    (he : e.scoreRow = none) (hdocs : w'.scores.docs = w.scores.docs)
    (hold : ∀ (k : Nat) (r : Redeem), w.scores.redeems[k]? = some r →
      w'.scores.redeems[k]? = some r)
    (hnew : ∀ (k : Nat) (r : Redeem), w'.scores.redeems[k]? = some r →
      w.scores.redeems[k]? = some r ∨ r.phase = .reading) :
    Standing models w₀ u (es ++ [e]) w' := by
  have hblind : ∀ k, ReadBlind models w₀ (es ++ [e]) u k ↔ ReadBlind models w₀ es u k := by
    refine fun k => readBlind_concat_of_ne hrun fun ok heq => ?_
    rw [heq] at he
    cases he
  have hwrite : ∀ i, e ≠ .scoreWrite i true := by
    intro i heq
    rw [heq] at he
    cases he
  refine ⟨fun k hk e' he' => ?_, fun k hk => ?_, fun k r hr hu hphase => ?_,
    fun k r hr hu hphase => ?_, fun entry => ?_⟩
  · rcases List.mem_append.mp he' with he' | he'
    · exact h.fresh k (fun r hr => hk r (hold k r hr)) e' he'
    · rw [List.mem_singleton.mp he', he]
      simp
  · obtain ⟨r, hr, hu⟩ := h.owner k ((hblind k).mp hk)
    exact ⟨r, hold k r hr, hu⟩
  · rw [hblind, hdocs]
    rcases hnew k r hr with hr | hreading
    · exact h.updating k r hr hu hphase
    · rw [hreading] at hphase
      cases hphase
  · rw [hblind]
    rcases hnew k r hr with hr | hreading
    · exact h.setting k r hr hu hphase
    · rw [hreading] at hphase
      cases hphase
  · rw [hdocs, h.entries, survives_concat_of_not_write hwrite fun k _ => hblind k]

/-- A callback of redeem `i` leaves the others as unheard of as they were. -/
theorem fresh_set (h : Standing models w₀ u es w) {i : Nat} {r : Redeem} {phase : Phase}
    {redeems : List Redeem} (hr : w.scores.redeems[i]? = some r)
    (hredeems : redeems = w.scores.redeems.set i { r with phase := phase })
    (hphase : phase ≠ .reading) (he : e.scoreRow = some i) :
    ∀ k, (∀ r, redeems[k]? = some r → r.phase = .reading) →
      ∀ e' ∈ es ++ [e], e'.scoreRow ≠ some k := by
  subst hredeems
  intro k hk e' he'
  by_cases hki : k = i
  · subst hki
    exact absurd (hk _ ((getElem?_set_some hr).mpr (Or.inl ⟨rfl, rfl⟩))) hphase
  · rcases List.mem_append.mp he' with he' | he'
    · refine h.fresh k (fun r' hr' => ?_) e' he'
      exact hk r' ((getElem?_set_some hr).mpr (Or.inr ⟨hki, hr'⟩))
    · rw [List.mem_singleton.mp he', he]
      exact fun heq => hki (Option.some.inj heq).symm

theorem scoreRead (h : Standing models w₀ u es w)
    (hrun : run (World.step models) w₀ es = some w) {i : Nat} {ok : Bool} {s : Scores}
    (hs : w.scores.readCallback i ok = some s) :
    Standing models w₀ u (es ++ [.scoreRead i ok]) { w with scores := s } := by
  obtain ⟨r, hr, hreading, rfl⟩ := Scores.readCallback_some.mp hs
  -- Nothing was heard of the redeem before.
  have hfresh : ∀ e ∈ es, e.scoreRow ≠ some i := by
    refine h.fresh i fun r' hr' => ?_
    rw [hr] at hr'
    cases hr'
    exact hreading
  have hblind : ∀ k, k ≠ i → (ReadBlind models w₀ (es ++ [.scoreRead i ok]) u k ↔
      ReadBlind models w₀ es u k) := by
    refine fun k hk => readBlind_concat_of_ne hrun fun ok' heq => ?_
    cases heq
    exact hk rfl
  have hself : ReadBlind models w₀ (es ++ [.scoreRead i ok]) u i ↔
      r.userUID = u ∧ (ok = false ∨ w.scores.docs u = none) := by
    rw [readBlind_concat hrun]
    refine ⟨fun hb => ?_, fun hb => Or.inr ⟨ok, r, rfl, hr, hb⟩⟩
    rcases hb with hb | ⟨ok', r', heq, hr', hb⟩
    · obtain ⟨ok', hmem⟩ := mem_of_readBlind hb
      exact absurd rfl (hfresh _ hmem)
    · cases heq
      rw [hr] at hr'
      cases hr'
      exact hb
  refine ⟨fun k hk e he => ?_, fun k hk => ?_, fun k r' hr' hu hphase => ?_,
    fun k r' hr' hu hphase => ?_, fun entry => ?_⟩
  · refine h.fresh_set hr rfl ?_ rfl k hk e he
    split <;> simp
  · by_cases hki : k = i
    · subst hki
      exact ⟨_, (getElem?_set_some hr).mpr (Or.inl ⟨rfl, rfl⟩), (hself.mp hk).1⟩
    · obtain ⟨r', hr', hu⟩ := h.owner k ((hblind k hki).mp hk)
      exact ⟨r', (getElem?_set_some hr).mpr (Or.inr ⟨hki, hr'⟩), hu⟩
  · rcases (getElem?_set_some hr).mp hr' with ⟨rfl, rfl⟩ | ⟨hki, hr'⟩
    · obtain rfl : r.userUID = u := hu
      simp only at hphase
      split at hphase <;> rename_i hdoc
      · rw [Bool.and_eq_true] at hdoc
        refine ⟨fun hb => ?_, hdoc.2⟩
        rcases (hself.mp hb).2 with hok | hnone
        · rw [hok] at hdoc
          cases hdoc.1
        · rw [hnone] at hdoc
          cases hdoc.2
      · cases hphase
    · rw [hblind k hki]
      exact h.updating k r' hr' hu hphase
  · rcases (getElem?_set_some hr).mp hr' with ⟨rfl, rfl⟩ | ⟨hki, hr'⟩
    · obtain rfl : r.userUID = u := hu
      simp only at hphase
      split at hphase <;> rename_i hdoc
      · cases hphase
      · refine hself.mpr ⟨rfl, ?_⟩
        cases ok with
        | false => exact Or.inl rfl
        | true => exact Or.inr (by simpa using hdoc)
    · rw [hblind k hki]
      exact h.setting k r' hr' hu hphase
  · rw [h.entries, survives_concat_of_not_write (by simp)]
    intro k hk
    refine hblind k fun hki => hfresh _ hk ?_
    rw [hki]
    rfl

/-- What the document holds after the write. -/
theorem entries_write (h : Standing models w₀ u es w)
    (hrun : run (World.step models) w₀ es = some w) {i : Nat} {ok : Bool} {r : Redeem}
    (hr : w.scores.redeems[i]? = some r) (hphase : r.phase = .updating ∨ r.phase = .setting)
    (entry : Entry) :
    entry ∈ entriesOf (if ok = true ∧ r.userUID = u then r.written (w.scores.docs u)
        else w.scores.docs u) ↔
      Survives models w₀ (es ++ [.scoreWrite i ok]) u entry := by
  cases ok with
  | false =>
      rw [if_neg (by simp), h.entries, survives_concat_of_not_write (by simp)]
      exact fun k _ => readBlind_concat_of_ne hrun (by simp)
  | true =>
      rw [survives_concat_write hrun hr, ← h.entries]
      by_cases hu : r.userUID = u
      · rw [if_pos ⟨rfl, hu⟩, Redeem.written]
        rcases hphase with hphase | hphase
        · obtain ⟨hblind, hdoc⟩ := h.updating i r hr hu hphase
          simp only [hphase, mem_entriesOf_updateData hdoc, hblind, not_false_eq_true,
            and_true, hu, true_and, eq_comm]
        · have hblind := h.setting i r hr hu hphase
          simp only [hphase, entriesOf_setData, List.mem_singleton, hblind, not_true_eq_false,
            and_false, false_or, hu, true_and, eq_comm]
      · -- A write of somebody else; the redeem did not read blindly for `u`.
        have hblind : ¬ ReadBlind models w₀ es u i := by
          intro hb
          obtain ⟨r', hr', hu'⟩ := h.owner i hb
          rw [hr] at hr'
          cases hr'
          exact hu hu'
        simp only [hu, and_false, if_false, hblind, not_false_eq_true, and_true, false_and,
          or_false]

theorem scoreWrite (h : Standing models w₀ u es w)
    (hrun : run (World.step models) w₀ es = some w) {i : Nat} {ok : Bool} {s : Scores}
    (hs : w.scores.write i ok = some s) :
    Standing models w₀ u (es ++ [.scoreWrite i ok]) { w with scores := s } := by
  obtain ⟨r, hr, hphase, hredeems, hdocs⟩ := Scores.write_docs hs
  have hblind : ∀ k, ReadBlind models w₀ (es ++ [.scoreWrite i ok]) u k ↔
      ReadBlind models w₀ es u k :=
    fun k => readBlind_concat_of_ne hrun (by simp)
  have hrow : ∀ {k : Nat} {r' : Redeem}, s.redeems[k]? = some r' ↔
      (k = i ∧ r' = { r with phase := .finished }) ∨
        (k ≠ i ∧ w.scores.redeems[k]? = some r') := by
    intro k r'
    rw [hredeems]
    exact getElem?_set_some hr
  refine ⟨fun k hk e he => ?_, fun k hk => ?_, fun k r' hr' hu hphase' => ?_,
    fun k r' hr' hu hphase' => ?_, fun entry => ?_⟩
  · exact h.fresh_set hr hredeems (by simp) rfl k hk e he
  · obtain ⟨r', hr', hu⟩ := h.owner k ((hblind k).mp hk)
    by_cases hki : k = i
    · subst hki
      rw [hr] at hr'
      cases hr'
      exact ⟨_, hrow.mpr (Or.inl ⟨rfl, rfl⟩), hu⟩
    · exact ⟨r', hrow.mpr (Or.inr ⟨hki, hr'⟩), hu⟩
  · rcases hrow.mp hr' with ⟨rfl, rfl⟩ | ⟨-, hr'⟩
    · cases hphase'
    · obtain ⟨hnot, hdoc⟩ := h.updating k r' hr' hu hphase'
      refine ⟨by rwa [hblind], ?_⟩
      rw [hdocs]
      split
      · rw [Redeem.written]
        rcases hphase with hphase | hphase <;> simp [hphase, updateData, hdoc]
      · exact hdoc
  · rcases hrow.mp hr' with ⟨rfl, rfl⟩ | ⟨-, hr'⟩
    · cases hphase'
    · rw [hblind]
      exact h.setting k r' hr' hu hphase'
  · rw [hdocs]
    exact h.entries_write hrun hr hphase entry

theorem step (h : Standing models w₀ u es w) (hrun : run (World.step models) w₀ es = some w)
    (hstep : w.step models e = some w') : Standing models w₀ u (es ++ [e]) w' := by
  cases e with
  | act d a =>
      obtain ⟨o, -, -, -, -, hscores⟩ := World.act_some hstep
      refine h.other hrun rfl ?_ (fun k r hr => ?_) fun k r hr => ?_
      · rw [hscores]
        split <;> rfl
      · rw [hscores]
        split
        · exact getElem?_concat_some.mpr (Or.inl hr)
        · exact hr
      · rw [hscores] at hr
        split at hr
        · rcases getElem?_concat_some.mp hr with hr | ⟨-, rfl⟩
          · exact Or.inl hr
          · exact Or.inr rfl
        · exact Or.inl hr
  | reply r answer =>
      obtain ⟨-, hans⟩ := World.reply_answers hstep
      cases hans <;> exact h.other hrun rfl rfl (fun _ _ => id) fun _ _ => Or.inl
  | scoreRead i ok =>
      obtain ⟨s, hs, rfl⟩ := World.scoreRead_some hstep
      exact h.scoreRead hrun hs
  | scoreWrite i ok =>
      obtain ⟨s, hs, rfl⟩ := World.scoreWrite_some hstep
      exact h.scoreWrite hrun hs

end Standing

/-- After every run, whatever failed in it and however the redeems of all
users interleaved, the document of `u` holds the entries that survive: those
of the start if no blind redeem of `u` was accepted, and each that was
written with no blind redeem of `u` accepted after it. -/
theorem mem_scores_iff {models : List Model} {w₀ w : World} {es : List Event}
    (hstart : w₀.scores.redeems = []) (hrun : run (World.step models) w₀ es = some w)
    (u : Uid) (entry : Entry) :
    entry ∈ entriesOf (w.scores.docs u) ↔ Survives models w₀ es u entry := by
  have h : Standing models w₀ u es w :=
    run_induction (P := fun es w => Standing models w₀ u es w) (Standing.init hstart)
      (fun es w e w' hw h hstep => h.step hw hstep) hrun
  exact h.entries entry

/-- Ana, signed in from an earlier launch, redeems the first sticker: its entry
is written, and nothing is written after it. -/
theorem mem_scores_iff_first :
    let es := launchEvents ++ quizEvents 0 0 ++ redeemEvents.take 2
    let entry := ResultViewController.stickerScore "A" CollectionViewController.collection1
    ∃ w, run (World.step CollectionViewController.models) World.signedUp
        (es ++ [.scoreWrite 0 true]) = some w ∧
      Survives CollectionViewController.models World.signedUp (es ++ [.scoreWrite 0 true])
        "A" entry ∧
      entry ∈ entriesOf (w.scores.docs "A") := by
  intro es entry
  have hobs : (run (World.step CollectionViewController.models) World.signedUp es).bind
      (fun w => (World.step CollectionViewController.models w (.scoreWrite 0 true)).map
        fun _ => w.scores.redeems) = some [⟨"A", entry, .setting⟩] := by decide +kernel
  obtain ⟨w₁, hbefore, hobs⟩ := Option.bind_eq_some_iff.mp hobs
  obtain ⟨w, hwrite, hredeems⟩ := Option.map_eq_some_iff.mp hobs
  have hrun := run_concat_some.mpr ⟨w₁, hbefore, hwrite⟩
  have hredeem : w₁.scores.redeems[0]? = some ⟨"A", entry, .setting⟩ := by
    rw [hredeems, List.getElem?_cons_zero]
  have hsurvives : Survives CollectionViewController.models World.signedUp
      (es ++ [.scoreWrite 0 true]) "A" entry :=
    Or.inr ⟨es, 0, [], w₁, _, rfl, hbefore, hredeem, rfl, rfl, fun k hk => by cases hk⟩
  exact ⟨w, hrun, hsurvives, (mem_scores_iff rfl hrun "A" entry).mpr hsurvives⟩

end GloboCollection
