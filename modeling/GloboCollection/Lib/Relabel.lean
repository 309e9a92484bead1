import GloboCollection.Lib.Containers

/-!
# Container trees with their contents replaced

Replacing what the pages of a tree show leaves the tree as it is, so it
commutes with everything that only looks at the tree: what is in front, which
tab bars are visible, selecting a tab, going back, and any update of the
stack around a controller that itself commutes with the replacement.
-/

namespace GloboCollection.Lib

variable {κ κ' κ'' : Type}

mutual

def Screen.map (f : κ → κ') : Screen κ → Screen κ'
  | .page id content => .page id (f content)
  | .tabs id selected navs => .tabs id selected (navMap f navs)

def stackMap (f : κ → κ') : List (Screen κ) → List (Screen κ')
  | [] => []
  | s :: rest => s.map f :: stackMap f rest

def navMap (f : κ → κ') : List (List (Screen κ)) → List (List (Screen κ'))
  | [] => []
  | stk :: rest => stackMap f stk :: navMap f rest

end

variable {f : κ → κ'} {f' : κ' → κ''} {id : Nat}

mutual

theorem Screen.map_map (s : Screen κ) :
    (s.map f).map f' = s.map fun c => f' (f c) := by
  match s with
  | .page i content => simp only [Screen.map]
  | .tabs i selected navs => simp only [Screen.map, navMap_navMap navs]
termination_by sizeOf s

theorem stackMap_stackMap (stk : Stack κ) :
    stackMap f' (stackMap f stk) = stackMap (fun c => f' (f c)) stk := by
  match stk with
  | [] => simp only [stackMap]
  | s :: rest => simp only [stackMap, Screen.map_map s, stackMap_stackMap rest]
termination_by sizeOf stk

theorem navMap_navMap (navs : List (Stack κ)) :
    navMap f' (navMap f navs) = navMap (fun c => f' (f c)) navs := by
  match navs with
  | [] => simp only [navMap]
  | stk :: rest => simp only [navMap, stackMap_stackMap stk, navMap_navMap rest]
termination_by sizeOf navs

end

/-! ## The front page and the visible tab bars -/

mutual

theorem Screen.front_map (s : Screen κ) :
    (s.map f).front = s.front.map fun p => (p.1, f p.2) := by
  match s with
  | .page i content => simp only [Screen.map, Screen.front, Option.map_some]
  | .tabs i selected navs => simp only [Screen.map, Screen.front, navFront_map selected navs]
termination_by sizeOf s

theorem stackFront_map (stk : Stack κ) :
    stackFront (stackMap f stk) = (stackFront stk).map fun p => (p.1, f p.2) := by
  match stk with
  | [] => simp only [stackMap, stackFront, Option.map_none]
  | s :: rest => simp only [stackMap, stackFront, Screen.front_map s]
termination_by sizeOf stk

theorem navFront_map (n : Nat) (navs : List (Stack κ)) :
    navFront n (navMap f navs) = (navFront n navs).map fun p => (p.1, f p.2) := by
  match n, navs with
  | _, [] => simp only [navMap, navFront, Option.map_none]
  | 0, stk :: rest => simp only [navMap, navFront, stackFront_map stk]
  | n + 1, stk :: rest => simp only [navMap, navFront, navFront_map n rest]
termination_by sizeOf navs

end

mutual

theorem Screen.visibleTabs_map (s : Screen κ) :
    (s.map f).visibleTabs = s.visibleTabs := by
  match s with
  | .page i content => simp only [Screen.map, Screen.visibleTabs]
  | .tabs i selected navs =>
      simp only [Screen.map, Screen.visibleTabs, navVisibleTabs_map selected navs]
termination_by sizeOf s

theorem stackVisibleTabs_map (stk : Stack κ) :
    stackVisibleTabs (stackMap f stk) = stackVisibleTabs stk := by
  match stk with
  | [] => simp only [stackMap, stackVisibleTabs]
  | s :: rest => simp only [stackMap, stackVisibleTabs, Screen.visibleTabs_map s]
termination_by sizeOf stk

theorem navVisibleTabs_map (n : Nat) (navs : List (Stack κ)) :
    navVisibleTabs n (navMap f navs) = navVisibleTabs n navs := by
  match n, navs with
  | _, [] => simp only [navMap, navVisibleTabs]
  | 0, stk :: rest => simp only [navMap, navVisibleTabs, stackVisibleTabs_map stk]
  | n + 1, stk :: rest => simp only [navMap, navVisibleTabs, navVisibleTabs_map n rest]
termination_by sizeOf navs

end

/-! ## The updates -/

theorem Stack.holds_map (stk : Stack κ) :
    Stack.holds id (stackMap f stk) = Stack.holds id stk := by
  induction stk with
  | nil => rfl
  | cons s rest ih =>
      rw [Stack.holds, Stack.holds, stackMap, List.any_cons, List.any_cons]
      congr 1
      cases s <;> rfl

section Update

variable {g : Stack κ → Stack κ} {g' : Stack κ' → Stack κ'}

mutual

theorem Screen.updateEnclosing_map (hg : ∀ stk, stackMap f (g stk) = g' (stackMap f stk))
    (s : Screen κ) :
    (s.updateEnclosing id g).map f = (s.map f).updateEnclosing id g' := by
  match s with
  | .page i content => simp only [Screen.map, Screen.updateEnclosing]
  | .tabs i selected navs =>
      simp only [Screen.map, Screen.updateEnclosing, updateNavs_map hg navs]
termination_by sizeOf s

theorem updateInner_map (hg : ∀ stk, stackMap f (g stk) = g' (stackMap f stk))
    (stk : Stack κ) :
    stackMap f (updateInner id g stk) = updateInner id g' (stackMap f stk) := by
  match stk with
  | [] => simp only [stackMap, updateInner]
  | s :: rest =>
      simp only [stackMap, updateInner, Screen.updateEnclosing_map hg s,
        updateInner_map hg rest]
termination_by sizeOf stk

theorem updateNavs_map (hg : ∀ stk, stackMap f (g stk) = g' (stackMap f stk))
    (navs : List (Stack κ)) :
    navMap f (updateNavs id g navs) = updateNavs id g' (navMap f navs) := by
  match navs with
  | [] => simp only [navMap, updateNavs]
  | stk :: rest =>
      simp only [navMap, updateNavs, Stack.holds_map, updateNavs_map hg rest]
      congr 1
      split
      · exact hg stk
      · exact updateInner_map hg stk
termination_by sizeOf navs

end

/-- An update that commutes with the replacement on one stack does so on the
whole tree. -/
theorem stackMap_updateEnclosing (g' : Stack κ' → Stack κ')
    (hg : ∀ stk, stackMap f (g stk) = g' (stackMap f stk)) (root : Stack κ) :
    stackMap f (updateEnclosing id g root) = updateEnclosing id g' (stackMap f root) := by
  rw [updateEnclosing, updateEnclosing, Stack.holds_map]
  split
  · exact hg root
  · exact updateInner_map hg root

end Update

theorem stackMap_popStack (stk : Stack κ) :
    stackMap f (popStack stk) = popStack (stackMap f stk) := by
  match stk with
  | [] => rfl
  | [_] => rfl
  | _ :: _ :: _ => rfl

mutual

theorem Screen.map_selectTab {i : Nat} (s : Screen κ) :
    (s.selectTab id i).map f = (s.map f).selectTab id i := by
  match s with
  | .page j content => simp only [Screen.map, Screen.selectTab]
  | .tabs j selected navs =>
      simp only [Screen.map, Screen.selectTab, navMap_selectTab navs]
termination_by sizeOf s

theorem stackMap_selectTab {i : Nat} (stk : Stack κ) :
    stackMap f (stackSelectTab id i stk) = stackSelectTab id i (stackMap f stk) := by
  match stk with
  | [] => simp only [stackMap, stackSelectTab]
  | s :: rest =>
      simp only [stackMap, stackSelectTab, Screen.map_selectTab s, stackMap_selectTab rest]
termination_by sizeOf stk

theorem navMap_selectTab {i : Nat} (navs : List (Stack κ)) :
    navMap f (navSelectTab id i navs) = navSelectTab id i (navMap f navs) := by
  match navs with
  | [] => simp only [navMap, navSelectTab]
  | stk :: rest =>
      simp only [navMap, navSelectTab, stackMap_selectTab stk, navMap_selectTab rest]
termination_by sizeOf navs

end

end GloboCollection.Lib
