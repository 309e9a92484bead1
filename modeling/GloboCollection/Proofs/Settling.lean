import Mathlib
import GloboCollection.Lib.Settle
import GloboCollection.Proofs.Steps

/-!
# The app comes to rest

A tap can set off a chain of requests: a deletion is four, a sign-up two, a
redeem a read and a write. The chains of all devices run at the same time,
each answer may be a failure, and an answer may set off the next request. If
nobody taps any more, though, it is soon over: whatever the services answer
and in whatever order, there are at most as many answers and callbacks left as
the requests in flight weigh, nothing in flight is ever without a possible
answer, and when none is possible any more nothing is in flight. Tab bars may
appear meanwhile, and that adds nothing.

A request weighs as much as the longest chain it can still set off.
-/

namespace GloboCollection

open GloboCollection.Lib

/-! ## The weight of what is in flight -/

def Request.weight : Request → Nat
  | .signIn .. | .addDocument .. | .userDeleted .. => 1
  | .createUser .. | .deleteUser .. => 2
  | .documentDeleted .. => 3
  | .deleteDocument .. => 4

def Phase.weight : Phase → Nat
  | .reading => 2
  | .updating | .setting => 1
  | .finished => 0

def World.weight (w : World) : Nat :=
  (w.requests.map Request.weight).sum +
    (w.scores.redeems.map fun r => r.phase.weight).sum

/-- The answer to a request, or a callback of a redeem. -/
def Event.works : Event → Bool
  | .act _ _ => false
  | .reply _ _ | .scoreRead _ _ | .scoreWrite _ _ => true

/-- Somebody's tap; that a tab bar appears is nobody's. -/
def Event.Taps : Event → Prop
  | .act _ (.viewDidAppear _) => False
  | .act _ _ => True
  | .reply _ _ | .scoreRead _ _ | .scoreWrite _ _ => False

/-- Nothing is in flight. -/
def World.AtRest (w : World) : Prop := w.requests = [] ∧ w.scores.Quiet

/-- A redeem that moves on weighs less. -/
theorem sum_map_set_lt {l : List Redeem} {i : Nat} {r : Redeem} {phase : Phase}
    (hr : l[i]? = some r) (hlt : phase.weight < r.phase.weight) :
    ((l.set i { r with phase := phase }).map fun r => r.phase.weight).sum <
      (l.map fun r => r.phase.weight).sum := by
  induction l generalizing i with
  | nil => simp at hr
  | cons a l ih =>
      cases i with
      | zero =>
          obtain rfl : a = r := by simpa using hr
          simp only [List.set_cons_zero, List.map_cons, List.sum_cons]
          omega
      | succ i =>
          have h := ih (i := i) (by simpa using hr)
          simp only [List.set_cons_succ, List.map_cons, List.sum_cons]
          omega

section Weight

variable {models : List Model} {w w' : World} {e : Event}

/-- Every answer and every callback makes what is in flight weigh less. -/
theorem World.weight_step (he : e.works) (h : w.step models e = some w') :
    w'.weight < w.weight := by
  cases e with
  | act d a => cases he
  | reply r answer =>
      obtain ⟨hr, hans⟩ := reply_answers h
      have hsum := List.sum_map_erase Request.weight hr
      simp only [World.weight]
      cases hans with
      | signIn | addDocument | userDeleted =>
          simp only [World.setDevice, Request.weight] at hsum ⊢
          omega
      | createUser | deleteDocument | documentDeleted | deleteUser =>
          simp only [World.setDevice, Request.weight, List.map_append, List.map_singleton,
            List.sum_append, List.sum_singleton] at hsum ⊢
          omega
      | failed =>
          have hpos : 0 < r.weight := by cases r <;> simp [Request.weight]
          dsimp only
          omega
  | scoreRead i ok =>
      obtain ⟨s, hs, rfl⟩ := scoreRead_some h
      obtain ⟨r, hr, hphase, rfl⟩ := Scores.readCallback_some.mp hs
      refine Nat.add_lt_add_left (sum_map_set_lt hr ?_) _
      rw [hphase]
      split <;> decide
  | scoreWrite i ok =>
      obtain ⟨s, hs, rfl⟩ := scoreWrite_some h
      obtain ⟨r, hr, hphase, hredeems, -⟩ := Scores.write_docs hs
      refine Nat.add_lt_add_left ?_ _
      rw [hredeems]
      refine sum_map_set_lt hr ?_
      rcases hphase with hphase | hphase <;> rw [hphase] <;> decide

/-- A tab bar that appears leaves what is in flight as it is. -/
theorem World.weight_appear {d : DeviceId} {bar : Nat}
    (h : w.step models (.act d (.viewDidAppear bar)) = some w') : w'.weight = w.weight := by
  obtain ⟨o, hdoes, -, -, hreq, hscores⟩ := act_some h
  cases hdoes with
  | appear => rw [World.weight, World.weight, hreq, hscores, Outcome.local, List.append_nil]
  | push _ _ ha | send _ _ ha | idle ha => cases ha

/-- A request in flight can be answered: the services may refuse, and the
callbacks of a deletion just run. -/
theorem World.step_of_request {r : Request} (hr : r ∈ w.requests) :
    ∃ e w', e.works ∧ w.step models e = some w' := by
  have hreply : ∀ answer w',
      World.answer { w with requests := w.requests.erase r } r answer = some w' →
        ∃ e w', e.works ∧ w.step models e = some w' := by
    intro answer w' h
    refine ⟨.reply r answer, w', rfl, ?_⟩
    rw [World.step, World.reply, if_pos hr]
    exact h
  cases r with
  | signIn | createUser | addDocument | deleteDocument | deleteUser =>
      exact hreply .failure _ rfl
  | documentDeleted | userDeleted => exact hreply .success _ rfl

/-- A redeem that is not over has its next callback to come. -/
theorem World.step_of_redeem (h : ¬ w.scores.Quiet) :
    ∃ e w', e.works ∧ w.step models e = some w' := by
  rw [Scores.Quiet, not_forall] at h
  obtain ⟨r, h⟩ := h
  rw [Classical.not_imp] at h
  obtain ⟨hmem, hphase⟩ := h
  obtain ⟨i, hr⟩ := List.mem_iff_getElem?.mp hmem
  have hread : r.phase = .reading → ∃ s, w.scores.readCallback i true = some s :=
    fun hp => ⟨_, Scores.readCallback_some.mpr ⟨r, hr, hp, rfl⟩⟩
  have hwrite : r.phase = .updating ∨ r.phase = .setting →
      ∃ s, w.scores.write i true = some s :=
    fun hp => ⟨_, Scores.write_some.mpr ⟨r, hr, hp, rfl⟩⟩
  have hnext : (∃ s, w.scores.readCallback i true = some s) ∨
      ∃ s, w.scores.write i true = some s := by
    cases hp : r.phase with
    | reading => exact Or.inl (hread hp)
    | updating => exact Or.inr (hwrite (Or.inl hp))
    | setting => exact Or.inr (hwrite (Or.inr hp))
    | finished => exact absurd hp hphase
  rcases hnext with ⟨s, hs⟩ | ⟨s, hs⟩
  · refine ⟨.scoreRead i true, { w with scores := s }, rfl, ?_⟩
    rw [World.step, hs, Option.map_some]
  · refine ⟨.scoreWrite i true, { w with scores := s }, rfl, ?_⟩
    rw [World.step, hs, Option.map_some]

theorem World.AtRest.weight (h : w.AtRest) : w.weight = 0 := by
  obtain ⟨hreq, hquiet⟩ := h
  rw [World.weight, hreq, List.map_nil, List.sum_nil, Nat.zero_add, List.sum_eq_zero]
  intro n hn
  obtain ⟨r, hr, rfl⟩ := List.mem_map.mp hn
  rw [hquiet r hr]
  rfl

theorem World.progress (h : ¬ w.AtRest) : ∃ e w', e.works ∧ w.step models e = some w' := by
  by_cases hreq : w.requests = []
  · exact World.step_of_redeem fun hquiet => h ⟨hreq, hquiet⟩
  · obtain ⟨r, hr⟩ := List.exists_mem_of_ne_nil _ hreq
    exact World.step_of_request hr

end Weight

/-- From any state, as long as nobody taps: there are at most as many answers
and callbacks as what was in flight weighs, none is possible exactly when
nothing is in flight any more, and some of them lead there. -/
theorem comes_to_rest {models : List Model} {w w' : World} {es : List Event}
    (hes : ∀ e ∈ es, ¬ e.Taps) (hrun : run (World.step models) w es = some w') :
    es.countP Event.works ≤ w.weight ∧
      ((∀ e, e.works → w'.step models e = none) ↔ w'.AtRest) ∧
      ∃ fs w'', (∀ e ∈ fs, e.works) ∧ run (World.step models) w' fs = some w'' ∧
        w''.AtRest := by
  have hdec : ∀ w e w', Event.works e → World.step models w e = some w' →
      w'.weight < w.weight := fun _ _ _ => World.weight_step
  refine ⟨?_, ⟨fun hstuck => ?_, fun hrest e he => ?_⟩, ?_⟩
  · have hstep : ∀ w e w', ¬ Event.Taps e → World.step models w e = some w' →
        if e.works then w'.weight < w.weight else w'.weight ≤ w.weight := by
      intro w e w' he hstep
      split <;> rename_i hworks
      · exact hdec w e w' hworks hstep
      · cases e with
        | act d a =>
            cases a with
            | viewDidAppear bar => exact (World.weight_appear hstep).le
            | _ => exact absurd trivial he
        | reply | scoreRead | scoreWrite => exact absurd rfl hworks
    have hle := countP_le_weight hstep hes hrun
    omega
  · by_contra hrest
    obtain ⟨e, w'', he, hstep⟩ := World.progress hrest
    rw [hstuck e he] at hstep
    cases hstep
  · -- At rest everything that could happen would have to weigh less than nothing.
    have hzero : w'.weight = 0 := hrest.weight
    cases hstep : w'.step models e with
    | none => rfl
    | some w'' =>
        have hlt := hdec w' e w'' he hstep
        omega
  · exact exists_run_to_rest hdec (fun w => World.progress) w'

/-- A deletion after its tap, while the tab bar of another device appears:
four answers and callbacks, as much as its first request weighs, and nothing
is in flight then. -/
theorem comes_to_rest_deletion :
    let es := .act 1 (.viewDidAppear 0) :: (deletionEvents 9 "A").drop 1
    ∃ w w', run (World.step CollectionViewController.models) World.empty
        (firstSignUp ++ (deletionEvents 9 "A").take 1) = some w ∧
      run (World.step CollectionViewController.models) w es = some w' ∧
      es.countP Event.works ≤ w.weight ∧ w.weight = 4 ∧
      ∀ e, e.works → w'.step CollectionViewController.models e = none := by
  intro es
  have hobs : (run (World.step CollectionViewController.models) World.empty
      (firstSignUp ++ (deletionEvents 9 "A").take 1)).bind (fun w =>
        (run (World.step CollectionViewController.models) w es).map fun w' =>
          (w.weight, w'.requests, w'.scores.redeems)) = some (4, [], []) := by decide +kernel
  obtain ⟨w, hrun, hobs⟩ := Option.bind_eq_some_iff.mp hobs
  obtain ⟨w', hrun', hobs⟩ := Option.map_eq_some_iff.mp hobs
  simp only [Prod.mk.injEq] at hobs
  have hnotap : ∀ e ∈ es, ¬ e.Taps := by simp [es, deletionEvents, Event.Taps]
  obtain ⟨hcount, hstuck, -⟩ := comes_to_rest hnotap hrun'
  refine ⟨w, w', hrun, hrun', hcount, hobs.1, hstuck.mpr ⟨hobs.2.1, ?_⟩⟩
  simp [Scores.Quiet, hobs.2.2]

end GloboCollection
