import GloboCollection.Lib.Run

/-!
# What an observer sees of a run

An observer reads some of the events of a run as operations of a simpler
machine and overlooks the others; `op s e` is the operation, if any, that
the event `e` in the state `s` counts as. `trace` collects the operations of
a run.

`run_simulates` is the rule to refine by: when a relation between the
simple machine and the state is kept by every event, the simple machine
doing the observed operation or nothing, then it holds between what the whole
trace makes of the one and what the whole run makes of the other.

`Along` is for what is asked of every moment of a run, which may look back at
the events so far.
-/

namespace GloboCollection.Lib

variable {σ ε ο α : Type} {step : σ → ε → Option σ} {op : σ → ε → Option ο}

/-- The operations observed along a run, in order. -/
def trace (step : σ → ε → Option σ) (op : σ → ε → Option ο) : σ → List ε → List ο
  | _, [] => []
  | s, e :: es =>
      (op s e).toList ++
        match step s e with
        | some t => trace step op t es
        | none => []

theorem trace_append {s t : σ} {es fs : List ε} (h : run step s es = some t) :
    trace step op s (es ++ fs) = trace step op s es ++ trace step op t fs := by
  induction es generalizing s with
  | nil =>
      rw [run_nil, Option.some.injEq] at h
      rw [h]
      rfl
  | cons e es ih =>
      rw [run_cons, Option.bind_eq_some_iff] at h
      obtain ⟨u, hu, ht⟩ := h
      simp only [List.cons_append, trace, hu, ih ht, List.append_assoc]

theorem trace_concat {s t : σ} {es : List ε} {e : ε} (h : run step s es = some t) :
    trace step op s (es ++ [e]) = trace step op s es ++ (op t e).toList := by
  rw [trace_append h]
  simp only [trace]
  cases step t e <;> simp

/-- An operation is in the trace exactly when some event of the run, in the
state it happened in, counts as it. -/
theorem mem_trace_iff {s u : σ} {es : List ε} {o : ο} (h : run step s es = some u) :
    o ∈ trace step op s es ↔
      ∃ pre e post t, es = pre ++ e :: post ∧ run step s pre = some t ∧
        op t e = some o := by
  induction es generalizing s with
  | nil => simp [trace]
  | cons e es ih =>
      rw [run_cons, Option.bind_eq_some_iff] at h
      obtain ⟨t, ht, hu⟩ := h
      simp only [trace, ht, List.mem_append, Option.mem_toList, ih hu]
      constructor
      · intro hmem
        obtain ho | ⟨pre, f, post, v, rfl, hv, ho⟩ := hmem
        · exact ⟨[], e, es, s, rfl, rfl, ho⟩
        · exact ⟨e :: pre, f, post, v, rfl, by rw [run_cons, ht, Option.bind_some, hv],
            ho⟩
      · intro hmem
        obtain ⟨pre, f, post, v, hsplit, hv, ho⟩ := hmem
        cases pre with
        | nil =>
            obtain ⟨rfl, -⟩ := List.cons.inj hsplit
            rw [run_nil, Option.some.injEq] at hv
            exact Or.inl (hv ▸ ho)
        | cons f' pre =>
            obtain ⟨rfl, hes⟩ := List.cons.inj hsplit
            rw [run_cons, ht, Option.bind_some] at hv
            exact Or.inr ⟨pre, f, post, v, hes, hv, ho⟩

/-- Operations observed in a given order were observed in that order after
one more event. -/
theorem sublist_trace_concat {s t : σ} {es : List ε} {e : ε} {os : List ο}
    (h : run step s es = some t) (hos : os.Sublist (trace step op s es)) :
    os.Sublist (trace step op s (es ++ [e])) := by
  rw [trace_concat h]
  exact hos.trans (List.sublist_append_left _ _)

/-- The next operation comes after those observed so far. -/
theorem sublist_trace_concat_op {s t : σ} {es : List ε} {e : ε} {os : List ο} {o : ο}
    (h : run step s es = some t) (hos : os.Sublist (trace step op s es))
    (ho : op t e = some o) : (os ++ [o]).Sublist (trace step op s (es ++ [e])) := by
  rw [trace_concat h, ho]
  exact hos.append (List.Sublist.refl _)

/-- Refinement along whole runs, from refinement step by step. -/
theorem run_simulates {apply : α → ο → α} {R : α → σ → Prop}
    (hsim : ∀ a s e s', R a s → step s e = some s' →
      R ((op s e).toList.foldl apply a) s')
    {a : α} {s t : σ} {es : List ε} (h0 : R a s) (hrun : run step s es = some t) :
    R ((trace step op s es).foldl apply a) t := by
  refine run_induction
    (P := fun es t => R ((trace step op s es).foldl apply a) t) h0 ?_ hrun
  intro es t e t' ht hR hstep
  rw [trace_concat ht, List.foldl_append]
  exact hsim _ t e t' hR hstep

/-- The special case of a machine with more state and fewer steps: its runs
are runs of the machine below. -/
theorem run_project {σ' ε' : Type} {step' : σ' → ε' → Option σ'} {f : σ → σ'} {g : ε → ε'}
    (hstep : ∀ s e t, step s e = some t → step' (f s) (g e) = some (f t))
    {s t : σ} {es : List ε} (hrun : run step s es = some t) :
    run step' (f s) (es.map g) = some (f t) := by
  induction es generalizing s with
  | nil =>
      rw [run_nil, Option.some.injEq] at hrun
      rw [hrun]
      rfl
  | cons e es ih =>
      rw [run_cons, Option.bind_eq_some_iff] at hrun
      obtain ⟨u, hu, hrun⟩ := hrun
      rw [List.map_cons, run_cons, hstep s e u hu]
      exact ih hrun

/-! ## Every moment of a run -/

/-- The property holds at every moment of the run: of the events so far, the
state they led to, the next event, and the state after it. -/
def Along (step : σ → ε → Option σ) (P : List ε → σ → ε → σ → Prop) (s : σ)
    (es : List ε) : Prop :=
  ∀ pre e post t t', es = pre ++ e :: post → run step s pre = some t →
    step t e = some t' → P pre t e t'

end GloboCollection.Lib
