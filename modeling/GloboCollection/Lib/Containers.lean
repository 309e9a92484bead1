import Mathlib.Data.List.Basic

/-!
# Trees of screen containers

A screen is a page, or a tab bar that holds one navigation stack for each
tab. A navigation stack is a list of screens with the front one first, and
the window shows one such stack, the root. Pages and tab bars carry an
identity, because a callback acts on the controller that issued it, wherever
that controller sits by then.

The nearest enclosing navigation controller of a screen is the stack that
holds it directly. `updateEnclosing id f` applies `f` to that stack; when no
stack holds `id` any more nothing happens, which is what a message to a
missing navigation controller does. Pushing, popping and replacing a stack
are all `updateEnclosing` with the right `f`.

Everything here is generic in what a page shows. The one rule the proofs
above live on is `forall_pages_updateEnclosing`: a fact about all pages of a
tree survives any update whose `f` keeps it.
-/

namespace GloboCollection.Lib

/-- A page, or a tab bar over navigation stacks. -/
inductive Screen (κ : Type) where
  | page (id : Nat) (content : κ)
  | tabs (id : Nat) (selected : Nat) (navs : List (List (Screen κ)))

/-- A navigation controller's screens, the one in front first. -/
abbrev Stack (κ : Type) := List (Screen κ)

variable {κ : Type}

def Screen.id : Screen κ → Nat
  | .page id _ => id
  | .tabs id _ _ => id

/-- Whether the stack holds the controller `id` directly. -/
def Stack.holds (id : Nat) (stk : Stack κ) : Bool := stk.any fun s => s.id == id

/-! ## Pages, front page and visible tab bars -/

mutual

/-- All pages below a screen, behind whatever tab or screen they are. -/
def Screen.pages : Screen κ → List (Nat × κ)
  | .page id content => [(id, content)]
  | .tabs _ _ navs => navPages navs

def stackPages : List (Screen κ) → List (Nat × κ)
  | [] => []
  | s :: rest => s.pages ++ stackPages rest

def navPages : List (List (Screen κ)) → List (Nat × κ)
  | [] => []
  | stk :: rest => stackPages stk ++ navPages rest

end

mutual

/-- The page a screen shows: its own, or the front page of the selected tab. -/
def Screen.front : Screen κ → Option (Nat × κ)
  | .page id content => some (id, content)
  | .tabs _ selected navs => navFront selected navs

def stackFront : List (Screen κ) → Option (Nat × κ)
  | [] => none
  | s :: _ => s.front

def navFront : Nat → List (List (Screen κ)) → Option (Nat × κ)
  | _, [] => none
  | 0, stk :: _ => stackFront stk
  | n + 1, _ :: rest => navFront n rest

end

mutual

/-- The tab bars on screen, outermost first. -/
def Screen.visibleTabs : Screen κ → List Nat
  | .page _ _ => []
  | .tabs id selected navs => id :: navVisibleTabs selected navs

def stackVisibleTabs : List (Screen κ) → List Nat
  | [] => []
  | s :: _ => s.visibleTabs

def navVisibleTabs : Nat → List (List (Screen κ)) → List Nat
  | _, [] => []
  | 0, stk :: _ => stackVisibleTabs stk
  | n + 1, _ :: rest => navVisibleTabs n rest

end

/-! ## Acting on the enclosing stack -/

mutual

/-- `updateEnclosing` below a screen. -/
def Screen.updateEnclosing (id : Nat) (f : List (Screen κ) → List (Screen κ)) :
    Screen κ → Screen κ
  | .page i content => .page i content
  | .tabs i selected navs => .tabs i selected (updateNavs id f navs)

def updateInner (id : Nat) (f : List (Screen κ) → List (Screen κ)) :
    List (Screen κ) → List (Screen κ)
  | [] => []
  | s :: rest => s.updateEnclosing id f :: updateInner id f rest

def updateNavs (id : Nat) (f : List (Screen κ) → List (Screen κ)) :
    List (List (Screen κ)) → List (List (Screen κ))
  | [] => []
  | stk :: rest =>
      (if Stack.holds id stk then f stk else updateInner id f stk) ::
        updateNavs id f rest

end

/-- Apply `f` to the navigation stack that holds the controller `id`. -/
def updateEnclosing (id : Nat) (f : Stack κ → Stack κ) (root : Stack κ) :
    Stack κ :=
  if Stack.holds id root then f root else updateInner id f root

/-- Go back: drop the front screen unless it is the only one. -/
def popStack : Stack κ → Stack κ
  | _ :: t :: rest => t :: rest
  | stk => stk

mutual

/-- Bring tab `i` of the tab bar `id` to the front. -/
def Screen.selectTab (id i : Nat) : Screen κ → Screen κ
  | .page j content => .page j content
  | .tabs j selected navs =>
      .tabs j (if j = id then i else selected) (navSelectTab id i navs)

def stackSelectTab (id i : Nat) : List (Screen κ) → List (Screen κ)
  | [] => []
  | s :: rest => s.selectTab id i :: stackSelectTab id i rest

def navSelectTab (id i : Nat) : List (List (Screen κ)) → List (List (Screen κ))
  | [] => []
  | stk :: rest => stackSelectTab id i stk :: navSelectTab id i rest

end

/-! ## What the updates do to the pages -/

section Pages

variable {P : Nat × κ → Prop} {id : Nat} {f : Stack κ → Stack κ}

theorem forall_stackPages_cons {s : Screen κ} {rest : Stack κ} :
    (∀ p ∈ stackPages (s :: rest), P p) ↔
      (∀ p ∈ s.pages, P p) ∧ ∀ p ∈ stackPages rest, P p := by
  rw [stackPages, List.forall_mem_append]

theorem forall_navPages_cons {stk : Stack κ} {rest : List (Stack κ)} :
    (∀ p ∈ navPages (stk :: rest), P p) ↔
      (∀ p ∈ stackPages stk, P p) ∧ ∀ p ∈ navPages rest, P p := by
  rw [navPages, List.forall_mem_append]

mutual

theorem forall_screen_updateEnclosing {s : Screen κ}
    (hf : ∀ stk : Stack κ, (∀ p ∈ stackPages stk, P p) →
      ∀ p ∈ stackPages (f stk), P p)
    (h : ∀ p ∈ s.pages, P p) : ∀ p ∈ (s.updateEnclosing id f).pages, P p := by
  match s with
  | .page i content =>
      rw [Screen.updateEnclosing]
      exact h
  | .tabs i selected navs =>
      rw [Screen.pages] at h
      rw [Screen.updateEnclosing, Screen.pages]
      exact forall_updateNavs hf h
termination_by sizeOf s

theorem forall_updateInner {stk : Stack κ}
    (hf : ∀ stk : Stack κ, (∀ p ∈ stackPages stk, P p) →
      ∀ p ∈ stackPages (f stk), P p)
    (h : ∀ p ∈ stackPages stk, P p) :
    ∀ p ∈ stackPages (updateInner id f stk), P p := by
  match stk with
  | [] =>
      rw [updateInner]
      exact h
  | s :: rest =>
      rw [forall_stackPages_cons] at h
      rw [updateInner, forall_stackPages_cons]
      exact ⟨forall_screen_updateEnclosing hf h.1, forall_updateInner hf h.2⟩
termination_by sizeOf stk

theorem forall_updateNavs {navs : List (Stack κ)}
    (hf : ∀ stk : Stack κ, (∀ p ∈ stackPages stk, P p) →
      ∀ p ∈ stackPages (f stk), P p)
    (h : ∀ p ∈ navPages navs, P p) :
    ∀ p ∈ navPages (updateNavs id f navs), P p := by
  match navs with
  | [] =>
      rw [updateNavs]
      exact h
  | stk :: rest =>
      rw [forall_navPages_cons] at h
      rw [updateNavs, forall_navPages_cons]
      refine ⟨?_, forall_updateNavs hf h.2⟩
      split
      · exact hf stk h.1
      · exact forall_updateInner hf h.1
termination_by sizeOf navs

end

/-- A fact about every page survives an update of one stack that keeps it. -/
theorem forall_pages_updateEnclosing {root : Stack κ}
    (hf : ∀ stk : Stack κ, (∀ p ∈ stackPages stk, P p) →
      ∀ p ∈ stackPages (f stk), P p)
    (h : ∀ p ∈ stackPages root, P p) :
    ∀ p ∈ stackPages (updateEnclosing id f root), P p := by
  rw [updateEnclosing]
  split
  · exact hf root h
  · exact forall_updateInner hf h

theorem forall_pages_popStack {stk : Stack κ} (h : ∀ p ∈ stackPages stk, P p) :
    ∀ p ∈ stackPages (popStack stk), P p := by
  match stk with
  | [] => exact h
  | [_] => exact h
  | _ :: _ :: _ => exact (forall_stackPages_cons.mp h).2

mutual

theorem Screen.pages_selectTab {i : Nat} (s : Screen κ) :
    (s.selectTab id i).pages = s.pages := by
  match s with
  | .page j content => rw [Screen.selectTab]
  | .tabs j selected navs =>
      rw [Screen.selectTab, Screen.pages, Screen.pages, navPages_selectTab navs]
termination_by sizeOf s

theorem stackPages_selectTab {i : Nat} (stk : Stack κ) :
    stackPages (stackSelectTab id i stk) = stackPages stk := by
  match stk with
  | [] => rw [stackSelectTab]
  | s :: rest =>
      rw [stackSelectTab, stackPages, stackPages, Screen.pages_selectTab s,
        stackPages_selectTab rest]
termination_by sizeOf stk

theorem navPages_selectTab {i : Nat} (navs : List (Stack κ)) :
    navPages (navSelectTab id i navs) = navPages navs := by
  match navs with
  | [] => rw [navSelectTab]
  | stk :: rest =>
      rw [navSelectTab, navPages, navPages, stackPages_selectTab stk,
        navPages_selectTab rest]
termination_by sizeOf navs

end

end Pages

/-! ## The front page is one of the pages -/

mutual

theorem Screen.front_mem {s : Screen κ} {p : Nat × κ} (h : s.front = some p) :
    p ∈ s.pages := by
  match s with
  | .page id content =>
      rw [Screen.front, Option.some.injEq] at h
      rw [Screen.pages, h]
      exact List.mem_singleton_self p
  | .tabs id selected navs =>
      rw [Screen.front] at h
      rw [Screen.pages]
      exact navFront_mem h
termination_by sizeOf s

theorem stackFront_mem {stk : Stack κ} {p : Nat × κ}
    (h : stackFront stk = some p) : p ∈ stackPages stk := by
  match stk with
  | [] =>
      rw [stackFront] at h
      cases h
  | s :: rest =>
      rw [stackFront] at h
      rw [stackPages]
      exact List.mem_append_left _ (Screen.front_mem h)
termination_by sizeOf stk

theorem navFront_mem {n : Nat} {navs : List (Stack κ)} {p : Nat × κ}
    (h : navFront n navs = some p) : p ∈ navPages navs := by
  match n, navs with
  | _, [] =>
      rw [navFront] at h
      cases h
  | 0, stk :: rest =>
      rw [navFront] at h
      rw [navPages]
      exact List.mem_append_left _ (stackFront_mem h)
  | n + 1, stk :: rest =>
      rw [navFront] at h
      rw [navPages]
      exact List.mem_append_right _ (navFront_mem h)
termination_by sizeOf navs

end

/-! ## The front after the stack in front was replaced

Whatever the tree, replacing the stack that encloses the page in front brings
the new stack to the front, under the tab bars that were around the old
one. -/

section Replace

variable {id : Nat} {content : κ} {new : Stack κ}

/-- The stack `new` is what `stk` shows in front. -/
def ShowsStack (new stk : Stack κ) : Prop :=
  stackFront stk = stackFront new ∧ stackVisibleTabs new <:+ stackVisibleTabs stk

mutual

theorem stack_showsStack {stk : Stack κ} (h : stackFront stk = some (id, content)) :
    ShowsStack new (if Stack.holds id stk then new else updateInner id (fun _ => new) stk) := by
  match stk with
  | [] =>
      rw [stackFront] at h
      cases h
  | .page i c :: rest =>
      rw [stackFront, Screen.front, Option.some.injEq, Prod.mk.injEq] at h
      rw [if_pos (by simp [Stack.holds, Screen.id, h.1])]
      exact ⟨rfl, List.suffix_rfl⟩
  | .tabs i selected navs :: rest =>
      rw [stackFront, Screen.front] at h
      split
      · exact ⟨rfl, List.suffix_rfl⟩
      · obtain ⟨hfront, htabs⟩ := navs_showsStack h
        rw [updateInner, Screen.updateEnclosing, ShowsStack, stackFront, Screen.front,
          stackVisibleTabs, Screen.visibleTabs]
        exact ⟨hfront, htabs.trans (List.suffix_cons _ _)⟩
termination_by sizeOf stk

theorem navs_showsStack {n : Nat} {navs : List (Stack κ)}
    (h : navFront n navs = some (id, content)) :
    navFront n (updateNavs id (fun _ => new) navs) = stackFront new ∧
      stackVisibleTabs new <:+ navVisibleTabs n (updateNavs id (fun _ => new) navs) := by
  match n, navs with
  | _, [] =>
      rw [navFront] at h
      cases h
  | 0, stk :: rest =>
      rw [navFront] at h
      rw [updateNavs, navFront, navVisibleTabs]
      exact stack_showsStack h
  | n + 1, stk :: rest =>
      rw [navFront] at h
      rw [updateNavs, navFront, navVisibleTabs]
      exact navs_showsStack h
termination_by sizeOf navs

end

theorem updateEnclosing_showsStack {root : Stack κ} (new : Stack κ)
    (h : stackFront root = some (id, content)) :
    ShowsStack new (updateEnclosing id (fun _ => new) root) :=
  stack_showsStack h

end Replace

end GloboCollection.Lib
