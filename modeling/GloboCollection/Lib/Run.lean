import Mathlib.Data.List.Induction

/-!
# Runs of a partial step function

A component is a state type, an event type and `step : σ → ε → Option σ`,
where `none` says that the event cannot happen in that state. All the
nondeterminism — which request answers next, with what outcome — sits in
the events, so a step stays a function and a run is a list of events.

Two induction rules carry every proof about whole runs. `run_induction` is
for facts about a state that may also mention the events so far; it adds
events at the end, because that is where histories grow. `run_invariant` is
the special case of a fact about the state alone.
-/

namespace GloboCollection.Lib

variable {σ ε : Type}

/-- Run the events one after the other; `none` as soon as one of them cannot
happen. -/
def run (step : σ → ε → Option σ) : σ → List ε → Option σ
  | s, [] => some s
  | s, e :: es => (step s e).bind fun t => run step t es

variable {step : σ → ε → Option σ}

@[simp] theorem run_nil {s : σ} : run step s [] = some s := rfl

@[simp] theorem run_cons {s : σ} {e : ε} {es : List ε} :
    run step s (e :: es) = (step s e).bind fun t => run step t es := rfl

theorem run_append {s : σ} {es fs : List ε} :
    run step s (es ++ fs) = (run step s es).bind fun t => run step t fs := by
  induction es generalizing s with
  | nil => rfl
  | cons e es ih =>
      rw [List.cons_append, run_cons, run_cons]
      cases step s e with
      | none => rfl
      | some t => exact ih

theorem run_append_some {s u : σ} {es fs : List ε} :
    run step s (es ++ fs) = some u ↔
      ∃ t, run step s es = some t ∧ run step t fs = some u := by
  rw [run_append, Option.bind_eq_some_iff]

theorem run_concat_some {s u : σ} {es : List ε} {e : ε} :
    run step s (es ++ [e]) = some u ↔
      ∃ t, run step s es = some t ∧ step t e = some u := by
  rw [run_append_some]
  simp

/-- Events that carry more than the step function looks at. -/
theorem run_map {δ : Type} {f : δ → ε} {s : σ} {es : List δ} :
    run (fun s e => step s (f e)) s es = run step s (es.map f) := by
  induction es generalizing s with
  | nil => rfl
  | cons e es ih =>
      rw [List.map_cons, run_cons, run_cons]
      cases step s (f e) with
      | none => rfl
      | some t => exact ih

/-- What holds before the first event and survives each further one holds
after every run, together with the events that led there. -/
theorem run_induction {s₀ : σ} {P : List ε → σ → Prop} (h0 : P [] s₀)
    (hstep : ∀ es s e s', run step s₀ es = some s → P es s →
      step s e = some s' → P (es ++ [e]) s') :
    ∀ {es : List ε} {s : σ}, run step s₀ es = some s → P es s := by
  intro es
  induction es using List.reverseRecOn with
  | nil =>
      intro s h
      rw [run_nil, Option.some.injEq] at h
      exact h ▸ h0
  | append_singleton es e ih =>
      intro s h
      obtain ⟨t, ht, hs⟩ := run_concat_some.mp h
      exact hstep es t e s ht (ih ht) hs

/-- A fact about the state that every step keeps holds after every run. -/
theorem run_invariant {P : σ → Prop}
    (hstep : ∀ s e s', P s → step s e = some s' → P s')
    {s₀ s : σ} {es : List ε} (h : run step s₀ es = some s) (h0 : P s₀) : P s :=
  run_induction (P := fun _ s => P s) h0
    (fun _ s e s' _ hs he => hstep s e s' hs he) h

end GloboCollection.Lib
