import GloboCollection.Lib.Containers

/-!
# Which navigation controller a screen belongs to

`updateEnclosing` acts on the stack that holds a controller and never says
which stack that is. Where a navigation controller has a state of its own
besides its screens, such as whether its bar is hidden, it needs a name:
`owner` is the name of the stack `updateEnclosing` acts on.
-/

namespace GloboCollection.Lib

/-- A navigation controller: the root's, or that of one tab of a tab bar. -/
inductive Nav where
  | root
  | tab (bar i : Nat)
deriving DecidableEq, Repr

variable {κ : Type}

mutual

/-- `owner` below a screen. -/
def Screen.owner (id : Nat) : Screen κ → Option Nav
  | .page _ _ => none
  | .tabs bar _ navs => navsOwner id bar 0 navs

def innerOwner (id : Nat) : List (Screen κ) → Option Nav
  | [] => none
  | s :: rest => (s.owner id).or (innerOwner id rest)

/-- The tabs of `bar` from tab `i` on. -/
def navsOwner (id bar i : Nat) : List (List (Screen κ)) → Option Nav
  | [] => none
  | stk :: rest =>
      if Stack.holds id stk then some (.tab bar i)
      else (innerOwner id stk).or (navsOwner id bar (i + 1) rest)

end

/-- The navigation controller whose stack holds the controller `id`. -/
def owner (id : Nat) (root : Stack κ) : Option Nav :=
  if Stack.holds id root then some .root else innerOwner id root

variable {id : Nat}

mutual

theorem Screen.owner_ne_root (s : Screen κ) : s.owner id ≠ some .root := by
  cases s with
  | page => simp [Screen.owner]
  | tabs bar selected navs =>
      rw [Screen.owner]
      exact navsOwner_ne_root navs

theorem innerOwner_ne_root (stk : Stack κ) : innerOwner id stk ≠ some .root := by
  cases stk with
  | nil => simp [innerOwner]
  | cons s rest =>
      rw [innerOwner, ne_eq, Option.or_eq_some_iff]
      intro h
      rcases h with hs | ⟨-, hrest⟩
      · exact s.owner_ne_root hs
      · exact innerOwner_ne_root rest hrest

theorem navsOwner_ne_root {bar i : Nat} (navs : List (Stack κ)) :
    navsOwner id bar i navs ≠ some .root := by
  cases navs with
  | nil => simp [navsOwner]
  | cons stk rest =>
      rw [navsOwner]
      split
      · simp
      · rw [ne_eq, Option.or_eq_some_iff]
        intro h
        rcases h with hstk | ⟨-, hrest⟩
        · exact innerOwner_ne_root stk hstk
        · exact navsOwner_ne_root rest hrest

end

/-- The root owns what it holds and nothing else. -/
theorem owner_eq_root {root : Stack κ} :
    owner id root = some .root ↔ Stack.holds id root = true := by
  rw [owner]
  split <;> rename_i hholds
  · simp [hholds]
  · simp [hholds, innerOwner_ne_root]

end GloboCollection.Lib
