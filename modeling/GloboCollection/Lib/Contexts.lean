import Mathlib.Data.List.Nodup
import GloboCollection.Lib.Containers

/-!
# The place of a stack in a tree

A message to a controller finds it by its identity, so where two controllers
share one a single message acts twice. As long as they do not, an update
touches one stack and leaves the rest of the tree alone, and "the rest of the
tree" can be named: a `Context` is a tree with a hole for one stack, and
`plug` fills the hole. `updateEnclosing_plug` says that updating the stack a
controller sits in is filling its context with the updated stack.

Proofs about an update are then inductions on the context, which is a list in
all but name, instead of three inductions at once on screens, stacks and
lists of stacks. What is left to prove on the trees themselves is that a
context exists: for every controller of the tree, and for the page in front,
whose context is `Shown`.
-/

namespace GloboCollection.Lib

variable {κ : Type}

/-! ## The controllers of a tree -/

mutual

/-- The controllers of a screen and of everything below it: each with its
identity, a page also with what it shows. -/
def Screen.controllers : Screen κ → List (Nat × Option κ)
  | .page id content => [(id, some content)]
  | .tabs id _ navs => (id, none) :: navControllers navs

def stackControllers : List (Screen κ) → List (Nat × Option κ)
  | [] => []
  | s :: rest => s.controllers ++ stackControllers rest

def navControllers : List (List (Screen κ)) → List (Nat × Option κ)
  | [] => []
  | stk :: rest => stackControllers stk ++ navControllers rest

end

theorem stackControllers_append {stk stk' : Stack κ} :
    stackControllers (stk ++ stk') = stackControllers stk ++ stackControllers stk' := by
  induction stk with
  | nil => rfl
  | cons s stk ih => simp only [List.cons_append, stackControllers, ih, List.append_assoc]

theorem navControllers_append {navs navs' : List (Stack κ)} :
    navControllers (navs ++ navs') = navControllers navs ++ navControllers navs' := by
  induction navs with
  | nil => rfl
  | cons stk navs ih => simp only [List.cons_append, navControllers, ih, List.append_assoc]

/-- The identities of a screen and of everything below it. -/
def Screen.ids (s : Screen κ) : List Nat := s.controllers.map Prod.fst

def stackIds (stk : Stack κ) : List Nat := (stackControllers stk).map Prod.fst

def navIds (navs : List (Stack κ)) : List Nat := (navControllers navs).map Prod.fst

@[simp] theorem Screen.ids_page {id : Nat} {content : κ} :
    (Screen.page id content).ids = [id] := rfl

@[simp] theorem Screen.ids_tabs {id selected : Nat} {navs : List (Stack κ)} :
    (Screen.tabs id selected navs).ids = id :: navIds navs := rfl

@[simp] theorem stackIds_nil : stackIds ([] : Stack κ) = [] := rfl

@[simp] theorem stackIds_cons {s : Screen κ} {rest : Stack κ} :
    stackIds (s :: rest) = s.ids ++ stackIds rest := by
  rw [stackIds, stackControllers, List.map_append, Screen.ids, stackIds]

@[simp] theorem navIds_nil : navIds ([] : List (Stack κ)) = [] := rfl

@[simp] theorem navIds_cons {stk : Stack κ} {rest : List (Stack κ)} :
    navIds (stk :: rest) = stackIds stk ++ navIds rest := by
  rw [navIds, navControllers, List.map_append, stackIds, navIds]

theorem Screen.id_mem_ids (s : Screen κ) : s.id ∈ s.ids := by
  cases s <;> simp [Screen.id]

theorem mem_stackIds_of_holds {id : Nat} {stk : Stack κ} (h : Stack.holds id stk = true) :
    id ∈ stackIds stk := by
  rw [Stack.holds, List.any_eq_true] at h
  obtain ⟨s, hs, hid⟩ := h
  rw [beq_iff_eq] at hid
  obtain ⟨before, after, rfl⟩ := List.append_of_mem hs
  rw [stackIds, stackControllers_append, List.map_append, ← stackIds, ← stackIds,
    stackIds_cons, ← hid]
  exact List.mem_append_right _ (List.mem_append_left _ s.id_mem_ids)

theorem holds_eq_false {id : Nat} {stk : Stack κ} (h : id ∉ stackIds stk) :
    Stack.holds id stk = false := by
  rw [Bool.eq_false_iff]
  exact fun hholds => h (mem_stackIds_of_holds hholds)

/-! ## A controller that is gone -/

section Absent

variable {id i : Nat} {f : Stack κ → Stack κ}

mutual

theorem Screen.updateEnclosing_of_notMem {s : Screen κ} (h : id ∉ s.ids) :
    s.updateEnclosing id f = s := by
  match s with
  | .page j content => rw [Screen.updateEnclosing]
  | .tabs j selected navs =>
      rw [Screen.ids_tabs, List.mem_cons, not_or] at h
      rw [Screen.updateEnclosing, updateNavs_of_notMem h.2]
termination_by sizeOf s

theorem updateInner_of_notMem {stk : Stack κ} (h : id ∉ stackIds stk) :
    updateInner id f stk = stk := by
  match stk with
  | [] => rw [updateInner]
  | s :: rest =>
      rw [stackIds_cons, List.mem_append, not_or] at h
      rw [updateInner, Screen.updateEnclosing_of_notMem h.1, updateInner_of_notMem h.2]
termination_by sizeOf stk

theorem updateNavs_of_notMem {navs : List (Stack κ)} (h : id ∉ navIds navs) :
    updateNavs id f navs = navs := by
  match navs with
  | [] => rw [updateNavs]
  | stk :: rest =>
      rw [navIds_cons, List.mem_append, not_or] at h
      rw [updateNavs, holds_eq_false h.1, updateInner_of_notMem h.1,
        updateNavs_of_notMem h.2]
      rfl
termination_by sizeOf navs

end

/-- A message to a controller that is gone does nothing. -/
theorem updateEnclosing_of_notMem {root : Stack κ} (h : id ∉ stackIds root) :
    updateEnclosing id f root = root := by
  rw [updateEnclosing, holds_eq_false h, updateInner_of_notMem h]
  rfl

mutual

theorem Screen.selectTab_of_notMem {s : Screen κ} (h : id ∉ s.ids) :
    s.selectTab id i = s := by
  match s with
  | .page j content => rw [Screen.selectTab]
  | .tabs j selected navs =>
      rw [Screen.ids_tabs, List.mem_cons, not_or] at h
      rw [Screen.selectTab, if_neg (Ne.symm h.1), navSelectTab_of_notMem h.2]
termination_by sizeOf s

theorem stackSelectTab_of_notMem {stk : Stack κ} (h : id ∉ stackIds stk) :
    stackSelectTab id i stk = stk := by
  match stk with
  | [] => rw [stackSelectTab]
  | s :: rest =>
      rw [stackIds_cons, List.mem_append, not_or] at h
      rw [stackSelectTab, Screen.selectTab_of_notMem h.1, stackSelectTab_of_notMem h.2]
termination_by sizeOf stk

theorem navSelectTab_of_notMem {navs : List (Stack κ)} (h : id ∉ navIds navs) :
    navSelectTab id i navs = navs := by
  match navs with
  | [] => rw [navSelectTab]
  | stk :: rest =>
      rw [navIds_cons, List.mem_append, not_or] at h
      rw [navSelectTab, stackSelectTab_of_notMem h.1, navSelectTab_of_notMem h.2]
termination_by sizeOf navs

end

end Absent

/-! ## Contexts -/

/-- A tree with a hole for one stack: the hole is the stack itself, or lies
below one of the tab bars of the stack. -/
inductive Context (κ : Type) where
  | here
  | under (before : Stack κ) (bar selected : Nat) (left : List (Stack κ))
      (inner : Context κ) (right : List (Stack κ)) (after : Stack κ)

namespace Context

/-- Fill the hole. -/
def plug : Context κ → Stack κ → Stack κ
  | here, stk => stk
  | under before bar selected left inner right after, stk =>
      before ++ .tabs bar selected (left ++ inner.plug stk :: right) :: after

/-- The controllers around the hole. -/
def controllers : Context κ → List (Nat × Option κ)
  | here => []
  | under before bar _ left inner right after =>
      stackControllers before ++ (bar, none) ::
        (navControllers left ++ inner.controllers ++ navControllers right) ++
        stackControllers after

/-- The identities around the hole. -/
def ids (C : Context κ) : List Nat := C.controllers.map Prod.fst

theorem perm_stackControllers_plug {C : Context κ} {stk : Stack κ} :
    (stackControllers (C.plug stk)).Perm (stackControllers stk ++ C.controllers) := by
  classical
  induction C with
  | here => rw [plug, controllers, List.append_nil]
  | under before bar selected left inner right after ih =>
      rw [List.perm_iff_count]
      intro a
      have hcount := List.perm_iff_count.mp ih a
      simp only [plug, controllers, stackControllers_append, stackControllers,
        Screen.controllers, navControllers_append, navControllers, List.count_append,
        List.count_cons] at hcount ⊢
      omega

theorem mem_stackControllers_plug {C : Context κ} {stk : Stack κ} {c : Nat × Option κ} :
    c ∈ stackControllers (C.plug stk) ↔ c ∈ stackControllers stk ∨ c ∈ C.controllers := by
  rw [perm_stackControllers_plug.mem_iff, List.mem_append]

theorem perm_stackIds_plug {C : Context κ} {stk : Stack κ} :
    (stackIds (C.plug stk)).Perm (stackIds stk ++ C.ids) := by
  rw [stackIds, stackIds, ids, ← List.map_append]
  exact perm_stackControllers_plug.map Prod.fst

theorem nodup_stackIds_plug {C : Context κ} {stk : Stack κ} :
    (stackIds (C.plug stk)).Nodup ↔
      (stackIds stk).Nodup ∧ C.ids.Nodup ∧ (stackIds stk).Disjoint C.ids := by
  rw [perm_stackIds_plug.nodup_iff, List.nodup_append']

/-- A stack put in the place of another keeps the identities distinct if its
own are, and are those of the other or fresh. -/
theorem nodup_plug_of_subset {C : Context κ} {stk stk' : Stack κ} {n : Nat}
    (h : (stackIds (C.plug stk)).Nodup) (hnodup : (stackIds stk').Nodup)
    (hbelow : ∀ i ∈ stackIds (C.plug stk), i < n)
    (hsub : ∀ i ∈ stackIds stk', i ∈ stackIds stk ∨ n ≤ i) :
    (stackIds (C.plug stk')).Nodup := by
  rw [nodup_stackIds_plug] at h ⊢
  refine ⟨hnodup, h.2.1, fun i hi hC => ?_⟩
  rcases hsub i hi with hi | hi
  · exact h.2.2 hi hC
  · have hlt := hbelow i (perm_stackIds_plug.mem_iff.mpr (List.mem_append_right _ hC))
    omega

/-! ## Updates through a context -/

section Update

variable {id i : Nat} {f : Stack κ → Stack κ}

theorem updateInner_append {stk stk' : Stack κ} :
    updateInner id f (stk ++ stk') = updateInner id f stk ++ updateInner id f stk' := by
  induction stk with
  | nil => simp only [updateInner, List.nil_append]
  | cons s stk ih => simp only [List.cons_append, updateInner, ih]

theorem updateNavs_append {navs navs' : List (Stack κ)} :
    updateNavs id f (navs ++ navs') = updateNavs id f navs ++ updateNavs id f navs' := by
  induction navs with
  | nil => simp only [updateNavs, List.nil_append]
  | cons stk navs ih => simp only [List.cons_append, updateNavs, ih]

theorem stackSelectTab_append {stk stk' : Stack κ} :
    stackSelectTab id i (stk ++ stk') =
      stackSelectTab id i stk ++ stackSelectTab id i stk' := by
  induction stk with
  | nil => simp only [stackSelectTab, List.nil_append]
  | cons s stk ih => simp only [List.cons_append, stackSelectTab, ih]

theorem navSelectTab_append {navs navs' : List (Stack κ)} :
    navSelectTab id i (navs ++ navs') =
      navSelectTab id i navs ++ navSelectTab id i navs' := by
  induction navs with
  | nil => simp only [navSelectTab, List.nil_append]
  | cons stk navs ih => simp only [List.cons_append, navSelectTab, ih]

/-- What is around the hole of a tree has none of the identities in it. -/
theorem notMem_under {before : Stack κ} {bar selected : Nat} {left : List (Stack κ)}
    {inner : Context κ} {right : List (Stack κ)} {after stk : Stack κ}
    (h : (stackIds ((under before bar selected left inner right after).plug stk)).Nodup)
    (hid : id ∈ stackIds stk) :
    id ∉ stackIds before ∧ id ≠ bar ∧ id ∉ navIds left ∧ id ∉ navIds right ∧
      id ∉ stackIds after ∧ (stackIds (inner.plug stk)).Nodup := by
  obtain ⟨hstk, hids, hdisjoint⟩ := nodup_stackIds_plug.mp h
  have hout : id ∉ ids (under before bar selected left inner right after) :=
    fun hmem => hdisjoint hid hmem
  have hsub : inner.ids.Sublist (ids (under before bar selected left inner right after)) := by
    simp only [ids, controllers, List.map_append, List.map_cons]
    refine List.Sublist.trans ?_ (List.sublist_append_left _ _)
    refine List.Sublist.trans ?_ (List.sublist_append_right _ _)
    refine List.Sublist.trans ?_ (List.sublist_cons_self _ _)
    exact (List.sublist_append_right _ _).trans (List.sublist_append_left _ _)
  have hinner : (stackIds (inner.plug stk)).Nodup :=
    nodup_stackIds_plug.mpr ⟨hstk, hids.sublist hsub,
      fun i hi hmem => hdisjoint hi (hsub.subset hmem)⟩
  simp only [ids, controllers, List.map_append, List.map_cons, List.mem_append,
    List.mem_cons, not_or] at hout
  obtain ⟨⟨hbefore, hbar, ⟨hleft, -⟩, hright⟩, hafter⟩ := hout
  exact ⟨hbefore, hbar, hleft, hright, hafter, hinner⟩

/-- The update of the stack in the hole. -/
theorem updateEnclosing_plug {C : Context κ} {stk : Stack κ}
    (h : (stackIds (C.plug stk)).Nodup) (hholds : Stack.holds id stk = true) :
    updateEnclosing id f (C.plug stk) = C.plug (f stk) := by
  have hid := mem_stackIds_of_holds hholds
  induction C with
  | here => exact if_pos hholds
  | under before bar selected left inner right after ih =>
      obtain ⟨hbefore, hbar, hleft, hright, hafter, hinner⟩ := notMem_under h hid
      have hroot : Stack.holds id
          (before ++ .tabs bar selected (left ++ inner.plug stk :: right) :: after) =
            false := by
        have hb := holds_eq_false hbefore
        have ha := holds_eq_false hafter
        rw [Stack.holds] at hb ha
        rw [Stack.holds, List.any_append, List.any_cons, hb, ha, Screen.id]
        simpa using Ne.symm hbar
      rw [plug, updateEnclosing, hroot, updateInner_append, updateInner,
        Screen.updateEnclosing, updateNavs_append, updateNavs,
        updateInner_of_notMem hbefore, updateInner_of_notMem hafter,
        updateNavs_of_notMem hleft, updateNavs_of_notMem hright]
      rw [updateEnclosing] at ih
      rw [ih hinner]
      rfl

/-- The selection of a tab of a bar in the hole. -/
theorem stackSelectTab_plug {C : Context κ} {selected : Nat} {navs : List (Stack κ)}
    {rest : Stack κ}
    (h : (stackIds (C.plug (.tabs id selected navs :: rest))).Nodup) :
    stackSelectTab id i (C.plug (.tabs id selected navs :: rest)) =
      C.plug (.tabs id i navs :: rest) := by
  have hid : id ∈ stackIds (.tabs id selected navs :: rest) := by
    simp
  induction C with
  | here =>
      simp only [plug, stackIds_cons, Screen.ids_tabs, List.cons_append, List.nodup_cons,
        List.mem_append, not_or] at h
      rw [plug, stackSelectTab, Screen.selectTab, if_pos rfl,
        navSelectTab_of_notMem h.1.1, stackSelectTab_of_notMem h.1.2, plug]
  | under before bar selected left inner right after ih =>
      obtain ⟨hbefore, hbar, hleft, hright, hafter, hinner⟩ := notMem_under h hid
      rw [plug, stackSelectTab_append, stackSelectTab, Screen.selectTab,
        if_neg (Ne.symm hbar), navSelectTab_append, navSelectTab,
        stackSelectTab_of_notMem hbefore, stackSelectTab_of_notMem hafter,
        navSelectTab_of_notMem hleft, navSelectTab_of_notMem hright, ih hinner, plug]

end Update

/-! ## What a tree shows through a context -/

/-- The hole is on screen: it is in front at every level. -/
def Shown : Context κ → Prop
  | here => True
  | under before _ selected left inner _ _ =>
      before = [] ∧ left.length = selected ∧ inner.Shown

/-- The tab bars around the hole, outermost first. -/
def bars : Context κ → List Nat
  | here => []
  | under _ bar _ _ inner _ _ => bar :: inner.bars

end Context

theorem navFront_eq {n : Nat} {navs : List (Stack κ)} :
    navFront n navs = navs[n]?.bind stackFront := by
  induction navs generalizing n with
  | nil => rfl
  | cons stk navs ih =>
      cases n with
      | zero => rfl
      | succ n => exact ih

theorem navVisibleTabs_eq {n : Nat} {navs : List (Stack κ)} :
    navVisibleTabs n navs = (navs[n]?.map stackVisibleTabs).getD [] := by
  induction navs generalizing n with
  | nil => rfl
  | cons stk navs ih =>
      cases n with
      | zero => rfl
      | succ n => exact ih

namespace Context

variable {C : Context κ}

/-- A tree shows what is in a hole on screen. -/
theorem Shown.front_plug (h : C.Shown) (stk : Stack κ) :
    stackFront (C.plug stk) = stackFront stk := by
  induction C with
  | here => rfl
  | under before bar selected left inner right after ih =>
      obtain ⟨rfl, rfl, hinner⟩ := h
      rw [plug, List.nil_append, stackFront, Screen.front, navFront_eq,
        List.getElem?_append_right (Nat.le_refl _), Nat.sub_self, List.getElem?_cons_zero,
        Option.bind_some, ih hinner]

theorem Shown.visibleTabs_plug (h : C.Shown) (stk : Stack κ) :
    stackVisibleTabs (C.plug stk) = C.bars ++ stackVisibleTabs stk := by
  induction C with
  | here => rfl
  | under before bar selected left inner right after ih =>
      obtain ⟨rfl, rfl, hinner⟩ := h
      rw [plug, List.nil_append, stackVisibleTabs, Screen.visibleTabs, navVisibleTabs_eq,
        List.getElem?_append_right (Nat.le_refl _), Nat.sub_self, List.getElem?_cons_zero,
        Option.map_some, Option.getD_some, ih hinner, bars, List.cons_append]

/-- What is in a hole off screen makes no difference to what the tree shows. -/
theorem shows_plug_of_not_shown (h : ¬ C.Shown) (stk stk' : Stack κ) :
    stackFront (C.plug stk) = stackFront (C.plug stk') ∧
      stackVisibleTabs (C.plug stk) = stackVisibleTabs (C.plug stk') := by
  induction C with
  | here => exact absurd trivial h
  | under before bar selected left inner right after ih =>
      cases before with
      | cons s before => exact ⟨rfl, rfl⟩
      | nil =>
          simp only [plug, List.nil_append, stackFront, Screen.front, stackVisibleTabs,
            Screen.visibleTabs, navFront_eq, navVisibleTabs_eq]
          by_cases hlen : left.length = selected
          · subst hlen
            obtain ⟨hfront, htabs⟩ := ih fun hinner => h ⟨rfl, rfl, hinner⟩
            simp only [List.getElem?_append_right (Nat.le_refl _), Nat.sub_self,
              List.getElem?_cons_zero, Option.bind_some, Option.map_some, hfront, htabs,
              and_self]
          · have hother : (left ++ inner.plug stk :: right)[selected]? =
                (left ++ inner.plug stk' :: right)[selected]? := by
              rw [List.getElem?_append, List.getElem?_append]
              split
              · rfl
              · rw [List.getElem?_cons, List.getElem?_cons, if_neg (by omega),
                  if_neg (by omega)]
            rw [hother]
            exact ⟨rfl, rfl⟩

end Context

/-! ## Finding the context -/

section Finding

variable {id : Nat} {content : κ}

/-- One more screen in front of the tree. -/
theorem exists_plug_cons {s : Screen κ} {rest : Stack κ}
    (h : ∃ (C : Context κ) (stk : Stack κ), rest = C.plug stk ∧ Stack.holds id stk = true) :
    ∃ (C : Context κ) (stk : Stack κ), s :: rest = C.plug stk ∧
      Stack.holds id stk = true := by
  obtain ⟨C, stk, rfl, hholds⟩ := h
  cases C with
  | here =>
      refine ⟨.here, s :: stk, rfl, ?_⟩
      rw [Stack.holds] at hholds ⊢
      rw [List.any_cons, hholds, Bool.or_true]
  | under before bar selected left inner right after =>
      exact ⟨.under (s :: before) bar selected left inner right after, stk, rfl, hholds⟩

mutual

/-- Every controller of a tree sits in the hole of some context. -/
theorem exists_plug_of_mem {root : Stack κ} (h : id ∈ stackIds root) :
    ∃ (C : Context κ) (stk : Stack κ), root = C.plug stk ∧ Stack.holds id stk = true := by
  match root with
  | [] => cases h
  | .page i content :: rest =>
      rw [stackIds_cons, Screen.ids_page, List.singleton_append, List.mem_cons] at h
      rcases h with rfl | h
      · exact ⟨.here, _, rfl, by simp [Stack.holds, Screen.id]⟩
      · exact exists_plug_cons (exists_plug_of_mem h)
  | .tabs bar selected navs :: rest =>
      rw [stackIds_cons, Screen.ids_tabs, List.cons_append, List.mem_cons,
        List.mem_append] at h
      rcases h with rfl | h | h
      · exact ⟨.here, _, rfl, by simp [Stack.holds, Screen.id]⟩
      · obtain ⟨left, inner, stk, right, rfl, hholds⟩ := exists_plug_navs_of_mem h
        exact ⟨.under [] bar selected left inner right rest, stk, rfl, hholds⟩
      · exact exists_plug_cons (exists_plug_of_mem h)
termination_by sizeOf root

theorem exists_plug_navs_of_mem {navs : List (Stack κ)} (h : id ∈ navIds navs) :
    ∃ (left : List (Stack κ)) (C : Context κ) (stk : Stack κ) (right : List (Stack κ)),
      navs = left ++ C.plug stk :: right ∧ Stack.holds id stk = true := by
  match navs with
  | [] => cases h
  | stk :: rest =>
      rw [navIds_cons, List.mem_append] at h
      rcases h with h | h
      · obtain ⟨C, stk', rfl, hholds⟩ := exists_plug_of_mem h
        exact ⟨[], C, stk', rest, rfl, hholds⟩
      · obtain ⟨left, C, stk', right, rfl, hholds⟩ := exists_plug_navs_of_mem h
        exact ⟨stk :: left, C, stk', right, rfl, hholds⟩
termination_by sizeOf navs

end

mutual

/-- The page in front is in front in the hole of a context on screen. -/
theorem exists_plug_of_front {root : Stack κ} (h : stackFront root = some (id, content)) :
    ∃ (C : Context κ) (rest : Stack κ), C.Shown ∧
      root = C.plug (.page id content :: rest) := by
  match root with
  | [] =>
      rw [stackFront] at h
      cases h
  | .page i c :: rest =>
      rw [stackFront, Screen.front] at h
      cases h
      exact ⟨.here, rest, trivial, rfl⟩
  | .tabs bar selected navs :: rest =>
      rw [stackFront, Screen.front] at h
      obtain ⟨left, C, rest', right, hC, rfl, rfl⟩ := exists_plug_of_navFront h
      exact ⟨.under [] bar left.length left C right rest, rest', ⟨rfl, rfl, hC⟩, rfl⟩
termination_by sizeOf root

theorem exists_plug_of_navFront {n : Nat} {navs : List (Stack κ)}
    (h : navFront n navs = some (id, content)) :
    ∃ (left : List (Stack κ)) (C : Context κ) (rest : Stack κ) (right : List (Stack κ)),
      C.Shown ∧ n = left.length ∧
        navs = left ++ C.plug (.page id content :: rest) :: right := by
  match n, navs with
  | _, [] =>
      rw [navFront] at h
      cases h
  | 0, stk :: navs =>
      rw [navFront] at h
      obtain ⟨C, rest, hC, rfl⟩ := exists_plug_of_front h
      exact ⟨[], C, rest, navs, hC, rfl, rfl⟩
  | n + 1, stk :: navs =>
      rw [navFront] at h
      obtain ⟨left, C, rest, right, hC, rfl, rfl⟩ := exists_plug_of_navFront h
      exact ⟨stk :: left, C, rest, right, hC, rfl, rfl⟩
termination_by sizeOf navs

end

mutual

/-- A tab bar on screen is in front in the hole of a context on screen. -/
theorem exists_plug_of_visibleTabs {root : Stack κ} (h : id ∈ stackVisibleTabs root) :
    ∃ (C : Context κ) (selected : Nat) (navs : List (Stack κ)) (rest : Stack κ),
      C.Shown ∧ root = C.plug (.tabs id selected navs :: rest) := by
  match root with
  | [] => cases h
  | .page i c :: rest => cases h
  | .tabs bar selected navs :: rest =>
      rw [stackVisibleTabs, Screen.visibleTabs, List.mem_cons] at h
      rcases h with rfl | h
      · exact ⟨.here, selected, navs, rest, trivial, rfl⟩
      · obtain ⟨left, C, selected', navs', rest', right, hC, rfl, rfl⟩ :=
          exists_plug_of_navVisibleTabs h
        exact ⟨.under [] bar left.length left C right rest, selected', navs', rest',
          ⟨rfl, rfl, hC⟩, rfl⟩
termination_by sizeOf root

theorem exists_plug_of_navVisibleTabs {n : Nat} {navs : List (Stack κ)}
    (h : id ∈ navVisibleTabs n navs) :
    ∃ (left : List (Stack κ)) (C : Context κ) (selected : Nat) (navs' : List (Stack κ))
      (rest : Stack κ) (right : List (Stack κ)), C.Shown ∧ n = left.length ∧
        navs = left ++ C.plug (.tabs id selected navs' :: rest) :: right := by
  match n, navs with
  | _, [] =>
      rw [navVisibleTabs] at h
      cases h
  | 0, stk :: navs =>
      rw [navVisibleTabs] at h
      obtain ⟨C, selected, navs', rest, hC, rfl⟩ := exists_plug_of_visibleTabs h
      exact ⟨[], C, selected, navs', rest, navs, hC, rfl, rfl⟩
  | n + 1, stk :: navs =>
      rw [navVisibleTabs] at h
      obtain ⟨left, C, selected, navs', rest, right, hC, rfl, rfl⟩ :=
        exists_plug_of_navVisibleTabs h
      exact ⟨stk :: left, C, selected, navs', rest, right, hC, rfl, rfl⟩
termination_by sizeOf navs

end

end Finding

end GloboCollection.Lib
