import GloboCollection.Lib.Run

/-!
# Systems that come to rest

Some of a system's events bring in something new, some only work off what is
there, and some do neither. If every event of the second kind makes a weight
smaller and none of the third makes it greater, a run without the first kind
has no more events of the second than the weight; if moreover one of these is
possible as long as there is anything to work off, there is a run that works
off all of it.
-/

namespace GloboCollection.Lib

variable {σ ε : Type} {step : σ → ε → Option σ} {works : ε → Prop} {weight : σ → Nat}

/-- Where the events that work off make the weight smaller and the others of
a run do not make it greater, the run has no more of the first kind than the
weight allows. -/
theorem countP_le_weight {allowed : ε → Prop} {p : ε → Bool}
    (hstep : ∀ s e s', allowed e → step s e = some s' →
      if p e then weight s' < weight s else weight s' ≤ weight s)
    {s t : σ} {es : List ε} (hes : ∀ e ∈ es, allowed e) (hrun : run step s es = some t) :
    es.countP p + weight t ≤ weight s := by
  induction es generalizing s with
  | nil =>
      rw [run_nil, Option.some.injEq] at hrun
      simp [hrun]
  | cons e es ih =>
      rw [run_cons, Option.bind_eq_some_iff] at hrun
      obtain ⟨s', hs', hrun⟩ := hrun
      rw [List.forall_mem_cons] at hes
      have hweight := hstep s e s' hes.1 hs'
      have hle := ih hes.2 hrun
      split at hweight <;> rename_i hp
      · rw [List.countP_cons_of_pos hp]
        omega
      · rw [List.countP_cons_of_neg hp]
        omega

/-- Where `I n s` says that `n` is left in the state `s`, and each event of
one kind takes one of it and no other event any, a run has as many events of
that kind as it took. -/
theorem countP_add_left {I : Nat → σ → Prop} {p : ε → Bool}
    (hstep : ∀ n s e s', I n s → step s e = some s' →
      if p e then ∃ m, n = m + 1 ∧ I m s' else I n s')
    {n : Nat} {s t : σ} {es : List ε} (hs : I n s) (hrun : run step s es = some t) :
    ∃ m, I m t ∧ es.countP p + m = n := by
  induction es generalizing n s with
  | nil =>
      rw [run_nil, Option.some.injEq] at hrun
      exact ⟨n, hrun ▸ hs, by simp⟩
  | cons e es ih =>
      rw [run_cons, Option.bind_eq_some_iff] at hrun
      obtain ⟨s', hs', hrun⟩ := hrun
      have hnext := hstep n s e s' hs hs'
      split at hnext <;> rename_i hp
      · obtain ⟨m, rfl, hm⟩ := hnext
        obtain ⟨k, ht, hk⟩ := ih hm hrun
        exact ⟨k, ht, by rw [List.countP_cons_of_pos hp]; omega⟩
      · obtain ⟨k, ht, hk⟩ := ih hnext hrun
        exact ⟨k, ht, by rw [List.countP_cons_of_neg hp]; omega⟩

/-- Some run works everything off. -/
theorem exists_run_to_rest {rest : σ → Prop}
    (hdec : ∀ s e s', works e → step s e = some s' → weight s' < weight s)
    (hprogress : ∀ s, ¬ rest s → ∃ e s', works e ∧ step s e = some s') (s : σ) :
    ∃ es t, (∀ e ∈ es, works e) ∧ run step s es = some t ∧ rest t := by
  induction hn : weight s using Nat.strongRecOn generalizing s with
  | ind n ih =>
      by_cases hrest : rest s
      · exact ⟨[], s, by simp, rfl, hrest⟩
      · obtain ⟨e, s', he, hstep⟩ := hprogress s hrest
        obtain ⟨es, t, hes, hrun, ht⟩ := ih (weight s') (hn ▸ hdec s e s' he hstep) s' rfl
        refine ⟨e :: es, t, List.forall_mem_cons.mpr ⟨he, hes⟩, ?_, ht⟩
        rw [run_cons, hstep]
        exact hrun

end GloboCollection.Lib
