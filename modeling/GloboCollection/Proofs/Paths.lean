import GloboCollection.Proofs.Turns
import GloboCollection.Proofs.Album

/-!
# The paths through the app

No code keeps track of where the user is; there are only the stacks. And yet
the root stack always is a path of the app's screens: a tab bar or the login
page at the bottom, and above it only what a tap can have put there — an
album over the tab bar that shows the list of albums, a sticker over its
album, its quiz over the sticker, the result over the quiz, a new tab bar
over the result, and so on. The tab bars keep four of their five tabs for
good. The home tab is the exception: a deletion puts the login page there,
and whoever signs in on it gets a whole tab bar inside the tab.

`Path` and `Bar` say this, and `path_of_run` that it holds in every state.
The proof goes by the rewritings of `Turns`: a rewriting inside a tab bar
leaves the path above and below the bar alone, and a rewriting of the root
extends the path, cuts it or starts it over.

That no info page is ever in front with the wrong lock state, and no quiz in
front for a sticker the device has already, is a consequence: once the quiz
is opened over an info page, nothing uncovers the info page again.
-/

namespace GloboCollection

open GloboCollection.Lib

/-! ## Bars and paths -/

/-- The login page alone, or the register page over it. -/
inductive GateStack : Stack ViewController → Prop
  | login {i : Nat} : GateStack [.page i ⟨.login, none⟩]
  | register {i j : Nat} :
      GateStack [.page j ⟨.register, none⟩, .page i ⟨.login, none⟩]

mutual

/-- A tab bar with its five tabs. -/
inductive Bar : Screen ViewController → Prop
  | mk {bar selected i₁ i₂ i₃ i₄ : Nat} {home : Stack ViewController}
      (hselected : selected < tabPages.length) (hhome : HomeTab home) :
      Bar (.tabs bar selected
        [home, [.page i₁ ⟨.option, none⟩], [.page i₂ ⟨.collection, none⟩],
          [.page i₃ ⟨.myView, none⟩], [.page i₄ ⟨.downloads, none⟩]])

/-- What the home tab can hold. -/
inductive HomeTab : Stack ViewController → Prop
  | home {i : Nat} : HomeTab [.page i ⟨.home, none⟩]
  | gate {stk : Stack ViewController} (h : GateStack stk) : HomeTab stk
  | bar {s : Screen ViewController} (h : Bar s) : HomeTab [s]

end

/-- The screen shows the list of albums. -/
def ShowsAlbums (s : Screen ViewController) : Prop :=
  ∃ vc self, s.front = some (vc, self) ∧ self.page = .collection

/-- Which screen may lie over which. -/
inductive Over (models : List Model) :
    Screen ViewController → Screen ViewController → Prop
  | album {i : Nat} {s : Screen ViewController} {m : Model} (hs : Bar s)
      (halbums : ShowsAlbums s) (hm : m ∈ models) :
      Over models (.page i ⟨.details (some m.figurinhas), none⟩) s
  | info {i j : Nat} {cs : List Collection} {c : Collection} {view : InfoView}
      (hc : c ∈ cs) (hview : ∃ ud, view = InfoViewController.viewDidLoad ud (some c)) :
      Over models (.page i ⟨.info (some c) view, some c⟩)
        (.page j ⟨.details (some cs), none⟩)
  | quiz {i j : Nat} {c : Collection} {view : InfoView}
      (hview : view.startQuizHidden = false) :
      Over models (.page i ⟨.web (some c), some c⟩)
        (.page j ⟨.info (some c) view, some c⟩)
  | result {i j : Nat} {c : Collection} :
      Over models (.page i ⟨.result false (some c), some c⟩)
        (.page j ⟨.web (some c), some c⟩)
  | gallery {j bar selected : Nat} {navs : List (Stack ViewController)} {c : Collection}
      (hs : Bar (.tabs bar selected navs)) :
      Over models (.tabs bar selected navs) (.page j ⟨.result false (some c), some c⟩)
  | register {i j : Nat} :
      Over models (.page j ⟨.register, none⟩) (.page i ⟨.login, none⟩)

/-- What a path starts from. -/
inductive Bottom : Screen ViewController → Prop
  | bar {bar selected : Nat} {navs : List (Stack ViewController)}
      (hs : Bar (.tabs bar selected navs)) : Bottom (.tabs bar selected navs)
  | login {i : Nat} : Bottom (.page i ⟨.login, none⟩)

/-- A stack in which each screen may lie over the next. -/
def Path (models : List Model) : Stack ViewController → Prop
  | [] => False
  | [s] => Bottom s
  | t :: s :: rest => Over models t s ∧ Path models (s :: rest)

section Bars

theorem bar_tabBar {n : Nat} : Bar (TabBarController n) := .mk (by decide) .home

/-- A tab of a bar other than the home tab. -/
def FixedTab (stk : Stack ViewController) : Prop :=
  ∃ i page, page ∈ tabPages.tail ∧ stk = [.page i ⟨page, none⟩]

variable {C : Context ViewController} {old : Stack ViewController}

/-- A stack without a tab bar has no hole but itself. -/
theorem plug_eq_page {i : Nat} {self : ViewController} (h : C.plug old = [.page i self]) :
    C = .here ∧ old = [.page i self] := by
  cases C with
  | here => exact ⟨rfl, h⟩
  | under before bar selected left inner right after =>
      rw [Context.plug, List.append_eq_singleton_iff] at h
      simp at h

theorem not_gateStack_under {before after : Stack ViewController} {bar selected : Nat}
    {navs : List (Stack ViewController)} :
    ¬ GateStack (before ++ .tabs bar selected navs :: after) := by
  intro h
  generalize hstk : before ++ .tabs bar selected navs :: after = stk at h
  have hmem : .tabs bar selected navs ∈ stk := hstk ▸ by simp
  cases h <;> simp at hmem

/-- The stack in the hole of a bar is a fixed tab, or the stack of a home tab
that may be replaced by any other. -/
theorem Bar.tab {bar selected : Nat} {left right : List (Stack ViewController)}
    {stk : Stack ViewController} (h : Bar (.tabs bar selected (left ++ stk :: right))) :
    FixedTab stk ∨
      (HomeTab stk ∧ ∀ new, HomeTab new → Bar (.tabs bar selected (left ++ new :: right))) := by
  generalize hnavs : left ++ stk :: right = navs at h
  cases h with
  | @mk _ _ i₁ i₂ i₃ i₄ home hselected hhome =>
      match left, hnavs with
      | [], hnavs =>
          rw [List.nil_append, List.cons.injEq] at hnavs
          obtain ⟨rfl, rfl⟩ := hnavs
          exact Or.inr ⟨hhome, fun new hnew => .mk hselected hnew⟩
      | [_], hnavs =>
          simp only [List.cons_append, List.nil_append, List.cons.injEq] at hnavs
          exact Or.inl ⟨i₁, .option, by decide, hnavs.2.1⟩
      | [_, _], hnavs =>
          simp only [List.cons_append, List.nil_append, List.cons.injEq] at hnavs
          exact Or.inl ⟨i₂, .collection, by decide, hnavs.2.2.1⟩
      | [_, _, _], hnavs =>
          simp only [List.cons_append, List.nil_append, List.cons.injEq] at hnavs
          exact Or.inl ⟨i₃, .myView, by decide, hnavs.2.2.2.1⟩
      | [_, _, _, _], hnavs =>
          simp only [List.cons_append, List.nil_append, List.cons.injEq] at hnavs
          exact Or.inl ⟨i₄, .downloads, by decide, hnavs.2.2.2.2.1⟩
      | _ :: _ :: _ :: _ :: _ :: left, hnavs =>
          simp at hnavs

/-- The same for a hole deeper inside a home tab. -/
theorem HomeTab.hole (h : HomeTab (C.plug old)) :
    FixedTab old ∨ (HomeTab old ∧ ∀ new, HomeTab new → HomeTab (C.plug new)) := by
  induction C with
  | here => exact Or.inr ⟨h, fun _ hnew => hnew⟩
  | under before bar selected left inner right after ih =>
      generalize hstk : (Context.under before bar selected left inner right after).plug old =
        stk at h
      rw [Context.plug] at hstk
      cases h with
      | home =>
          rw [List.append_eq_singleton_iff] at hstk
          simp at hstk
      | gate h => exact absurd (hstk ▸ h) not_gateStack_under
      | bar h =>
          rw [List.append_eq_singleton_iff] at hstk
          simp only [List.cons.injEq, reduceCtorEq, and_false, or_false] at hstk
          obtain ⟨rfl, rfl, rfl⟩ := hstk
          rcases h.tab with ⟨i, page, hpage, hfixed⟩ | ⟨hhome, hbar⟩
          · exact Or.inl ⟨i, page, hpage, (plug_eq_page hfixed).2⟩
          · exact (ih hhome).imp id fun hole =>
              ⟨hole.1, fun new hnew => .bar (hbar _ (hole.2 new hnew))⟩

/-- A hole anywhere below a bar. -/
theorem Bar.hole {bar selected : Nat} {left right : List (Stack ViewController)}
    (h : Bar (.tabs bar selected (left ++ C.plug old :: right))) :
    FixedTab old ∨ (HomeTab old ∧
      ∀ new, HomeTab new → Bar (.tabs bar selected (left ++ C.plug new :: right))) := by
  rcases h.tab with ⟨i, page, hpage, hfixed⟩ | ⟨hhome, hbar⟩
  · exact Or.inl ⟨i, page, hpage, (plug_eq_page hfixed).2⟩
  · exact hhome.hole.imp id fun hole =>
      ⟨hole.1, fun new hnew => hbar _ (hole.2 new hnew)⟩

mutual

/-- A tab bar always shows a page. -/
theorem Bar.front_isSome {s : Screen ViewController} (h : Bar s) :
    s.front.isSome = true := by
  cases h with
  | @mk bar selected i₁ i₂ i₃ i₄ home hselected hhome =>
      rw [Screen.front]
      match selected, hselected with
      | 0, _ => exact hhome.front_isSome
      | 1, _ | 2, _ | 3, _ | 4, _ => rfl

theorem HomeTab.front_isSome {stk : Stack ViewController} (h : HomeTab stk) :
    (stackFront stk).isSome = true := by
  cases h with
  | home => rfl
  | gate h => cases h <;> rfl
  | bar h =>
      rw [stackFront]
      exact h.front_isSome

end

end Bars

/-! ## Rewriting a path -/

section Rewriting

variable {models : List Model} {C : Context ViewController}
  {old rest before after : Stack ViewController} {s s' t : Screen ViewController}

theorem Path.tail (h : Path models (t :: s :: rest)) : Path models (s :: rest) := h.2

/-- A screen in the middle of a path gives way to one that may lie where it
lay. -/
theorem Path.replace (h : Path models (before ++ s :: after))
    (habove : ∀ t, before ≠ [] → Over models t s → Over models t s')
    (hbelow : ∀ t, Over models s t → Over models s' t) (hbottom : Bottom s → Bottom s') :
    Path models (before ++ s' :: after) := by
  induction before with
  | nil =>
      cases after with
      | nil => exact hbottom h
      | cons t after => exact ⟨hbelow t h.1, h.2⟩
  | cons u before ih =>
      cases before with
      | nil => exact ⟨habove u (by simp) h.1, ih h.2 fun _ hne => absurd rfl hne⟩
      | cons v before => exact ⟨h.1, ih h.2 fun t _ => habove t (by simp)⟩

/-- What lies under a page at the head of a path. -/
theorem Path.page_cases {i : Nat} {self : ViewController}
    (h : Path models (.page i self :: rest)) :
    (rest = [] ∧ self = ⟨.login, none⟩) ∨
      ∃ t rest', rest = t :: rest' ∧ Over models (.page i self) t := by
  cases rest with
  | nil =>
      cases h
      exact Or.inl ⟨rfl, rfl⟩
  | cons t rest => exact Or.inr ⟨t, rest, rfl, h.1⟩

/-- Every tab bar of a path is one. -/
theorem Path.bar {bar selected : Nat} {navs : List (Stack ViewController)}
    (h : Path models (before ++ .tabs bar selected navs :: after)) :
    Bar (.tabs bar selected navs) := by
  induction before with
  | nil =>
      cases after with
      | nil =>
          cases h with
          | bar hs => exact hs
      | cons t after =>
          cases h.1 with
          | gallery hs => exact hs
  | cons u before ih =>
      cases before with
      | nil => exact ih h.2
      | cons v before => exact ih h.2

theorem Path.head_bar {bar selected : Nat} {navs : List (Stack ViewController)}
    {rest : Stack ViewController} (h : Path models (.tabs bar selected navs :: rest)) :
    Bar (.tabs bar selected navs) :=
  Path.bar (show Path models ([] ++ .tabs bar selected navs :: rest) from h)

/-- A bar of a path gives way to another bar. It goes on showing the albums if
there is an album over it. -/
theorem Path.replace_bar {bar selected selected' : Nat}
    {navs navs' : List (Stack ViewController)}
    (h : Path models (before ++ .tabs bar selected navs :: after))
    (hs : Bar (.tabs bar selected' navs'))
    (halbums : before ≠ [] → ShowsAlbums (.tabs bar selected navs) →
      ShowsAlbums (.tabs bar selected' navs')) :
    Path models (before ++ .tabs bar selected' navs' :: after) := by
  refine h.replace (fun t hne ht => ?_) (fun t ht => ?_) fun _ => .bar hs
  · cases ht with
    | album _ hshows hm => exact .album hs (halbums hne hshows) hm
  · cases ht with
    | gallery => exact .gallery hs

/-- The stack in a hole of a path is the path itself, a fixed tab, or the
stack of a home tab. The last may be replaced by any other, except that an
album over the bar must not lose the list of albums it was opened from. -/
theorem Path.hole (h : Path models (C.plug old)) :
    C = .here ∨ FixedTab old ∨
      (HomeTab old ∧ ∀ new, HomeTab new →
        (C.Shown ∨ ∀ vc self, stackFront old = some (vc, self) →
          self.page ≠ .collection) → Path models (C.plug new)) := by
  cases C with
  | here => exact Or.inl rfl
  | under before bar selected left inner right after =>
      refine Or.inr ?_
      rcases h.bar.hole with hfixed | ⟨hhome, hbar⟩
      · exact Or.inl hfixed
      · refine Or.inr ⟨hhome, fun new hnew hfront => ?_⟩
        refine h.replace_bar (hbar new hnew) fun hne halbums => ?_
        -- An album lies over the bar, so the hole is off screen; if it were in
        -- front of the bar, its stack would show the albums.
        rcases hfront with hC | hfront
        · exact absurd hC.1 hne
        · obtain ⟨vc, self, hshows, hpage⟩ := halbums
          have hbarShown : ¬ (Context.under [] bar selected left inner right []).Shown := by
            intro hC
            refine hfront vc self ?_ hpage
            rw [← hC.front_plug old, Context.plug, List.nil_append, stackFront]
            exact hshows
          have hsame := (Context.shows_plug_of_not_shown hbarShown old new).1
          simp only [Context.plug, List.nil_append, stackFront] at hsame
          exact ⟨vc, self, by rw [← hsame]; exact hshows, hpage⟩

/-! ## The steps -/

theorem notMem_tabPages_of_goesBack {page : Page} (h : page.goesBack) :
    page ∉ tabPages.tail := by
  cases page <;> simp_all [Page.goesBack, tabPages]

/-- A stack with a page that no fixed tab has is no fixed tab. -/
theorem FixedTab.page_mem {i : Nat} {self : ViewController} (h : FixedTab old)
    (hmem : .page i self ∈ old) : self.page ∈ tabPages.tail := by
  obtain ⟨j, page, hpage, rfl⟩ := h
  rw [List.mem_singleton, Screen.page.injEq] at hmem
  rw [hmem.2]
  exact hpage

theorem FixedTab.tabs_notMem {bar selected : Nat} {navs : List (Stack ViewController)}
    (h : FixedTab old) : .tabs bar selected navs ∉ old := by
  obtain ⟨j, page, -, rfl⟩ := h
  simp

/-- A home tab that holds a page of the account flows shows one. -/
theorem HomeTab.front_of_mem {i : Nat} {self : ViewController} (h : HomeTab old)
    (hmem : .page i self ∈ old) {vc : Nat} {front : ViewController}
    (hfront : stackFront old = some (vc, front)) : front.page ≠ .collection := by
  cases h with
  | home =>
      cases hfront
      simp
  | gate h =>
      cases h with
      | login | register =>
          cases hfront
          simp
  | bar h =>
      cases h
      simp at hmem

/-- A path that shows the albums has a bar in front, and an album may lie
over it. -/
theorem Path.album {n vc : Nat} {self : ViewController} {m : Model}
    {root : Stack ViewController} (h : Path models root)
    (hfront : stackFront root = some (vc, self)) (hpage : self.page = .collection)
    (hm : m ∈ models) :
    Path models (.page n ⟨.details (some m.figurinhas), none⟩ :: root) := by
  match root with
  | [] => cases h
  | .tabs bar selected navs :: rest =>
      exact ⟨.album h.head_bar ⟨vc, self, hfront, hpage⟩ hm, h⟩
  | .page i self' :: rest =>
      rw [stackFront, Screen.front, Option.some.injEq, Prod.mk.injEq] at hfront
      obtain ⟨-, rfl⟩ := hfront
      rcases h.page_cases with ⟨-, rfl⟩ | ⟨t, rest', -, hover⟩
      · cases hpage
      · cases hover <;> cases hpage

/-- What a tap opens lies over the page that was tapped. -/
theorem Path.opens {ud : UserDefaults} {a : Action} {n vc : Nat}
    {self new : ViewController} (h : Path models (.page vc self :: rest))
    (hopens : Opens ud a self new) :
    Path models (.page n new :: .page vc self :: rest) := by
  refine ⟨?_, h⟩
  rcases h.page_cases with ⟨rfl, rfl⟩ | ⟨t, rest', rfl, hover⟩
  · cases hopens with
    | register => exact .register
  · cases hopens with
    | info hc =>
        cases hover with
        | album => exact .info (List.mem_of_getElem? hc) ⟨ud, rfl⟩
    | quiz hview =>
        cases hover with
        | info => exact .quiz hview
    | again | register => cases hover

/-- Every rewriting of a path gives a path. -/
theorem Turns.path {ud : UserDefaults} {n n' : Nat} {root root' : Stack ViewController}
    (h : Turns models ud n root n' root') (hpath : Path models root) :
    Path models root' := by
  have hlogin : Path models [.page n ⟨.login, none⟩] := .login
  have hhome : HomeTab [.page n ⟨.login, none⟩] := .gate .login
  cases h with
  | same => exact hpath
  | gate hC =>
      rcases hpath.hole with rfl | hfixed | ⟨-, hplug⟩
      · exact hlogin
      · exact absurd List.mem_cons_self hfixed.tabs_notMem
      · exact hplug _ hhome (Or.inl hC)
  | leave hold =>
      rcases hpath.hole with rfl | hfixed | ⟨htab, hplug⟩
      · exact hlogin
      · exact absurd (hfixed.page_mem hold) (by simp [tabPages])
      · exact hplug _ hhome (Or.inr fun vc self => htab.front_of_mem hold)
  | enter hpage hold =>
      rcases hpath.hole with rfl | hfixed | ⟨htab, hplug⟩
      · exact Bottom.bar bar_tabBar
      · exact absurd (hfixed.page_mem hold)
          (by rcases hpage with rfl | rfl <;> simp [tabPages])
      · exact hplug _ (.bar bar_tabBar) (Or.inr fun vc self => htab.front_of_mem hold)
  | @select C bar selected i navs rest hC hi =>
      have hselect : Bar (.tabs bar selected navs) → Bar (.tabs bar i navs) := by
        intro hbar
        cases hbar with
        | mk _ hhome => exact .mk hi hhome
      rcases hpath.hole with rfl | hfixed | ⟨htab, hplug⟩
      · have hroot : Path models ([] ++ .tabs bar selected navs :: rest) := hpath
        exact hroot.replace_bar (hselect hroot.bar) fun hne => absurd rfl hne
      · exact absurd List.mem_cons_self hfixed.tabs_notMem
      · refine hplug _ ?_ (Or.inl hC)
        cases htab with
        | gate h => cases h
        | bar h => exact .bar (hselect h)
  | @back C vc self rest hC hpage =>
      rcases hpath.hole with rfl | hfixed | ⟨htab, hplug⟩
      · cases rest with
        | nil => exact hpath
        | cons t rest => exact hpath.2
      · exact absurd (hfixed.page_mem List.mem_cons_self)
          (notMem_tabPages_of_goesBack hpage)
      · refine hplug _ ?_ (Or.inl hC)
        cases htab with
        | home => exact .home
        | gate h =>
            cases h with
            | login | register => exact .gate .login
        | bar h => exact .bar h
  | album hfront hpage hm => exact hpath.album hfront hpage hm
  | @push C a vc self new rest hC hopens =>
      rcases hpath.hole with rfl | hfixed | ⟨htab, hplug⟩
      · exact hpath.opens hopens
      · exact absurd (hfixed.page_mem List.mem_cons_self)
          (by cases hopens <;> simp [tabPages])
      · refine hplug _ ?_ (Or.inl hC)
        cases htab with
        | home => cases hopens
        | gate h =>
            cases h with
            | login =>
                cases hopens with
                | register => exact .gate .register
            | register => cases hopens
        | bar h => cases h
  | result hC =>
      rcases hpath.hole with rfl | hfixed | ⟨htab, -⟩
      · refine ⟨?_, hpath⟩
        rcases hpath.page_cases with ⟨-, heq⟩ | ⟨t, rest', rfl, hover⟩
        · cases heq
        · cases hover
          exact .result
      · exact absurd (hfixed.page_mem List.mem_cons_self) (by simp [tabPages])
      · cases htab with
        | gate h => cases h
        | bar h => cases h
  | gallery hC =>
      rcases hpath.hole with rfl | hfixed | ⟨htab, -⟩
      · refine ⟨?_, hpath⟩
        rcases hpath.page_cases with ⟨-, heq⟩ | ⟨t, rest', rfl, hover⟩
        · cases heq
        · cases hover
          exact .gallery bar_tabBar
      · exact absurd (hfixed.page_mem List.mem_cons_self) (by simp [tabPages])
      · cases htab with
        | gate h => cases h
        | bar h => cases h

end Rewriting

/-! ## Every state -/

theorem Path.front_isSome {models : List Model} {root : Stack ViewController}
    (h : Path models root) : (stackFront root).isSome = true := by
  match root with
  | [] => cases h
  | .page i self :: rest => rfl
  | .tabs bar selected navs :: rest =>
      exact h.head_bar.front_isSome

theorem World.paths_of_run {models : List Model} {w₀ w : World} {es : List Event}
    (hlaunch : w₀.AtLaunch) (hrun : run (World.step models) w₀ es = some w) (d : DeviceId) :
    Path models (w.device d).root := by
  refine run_induction (P := fun _ w => Path models (w.device d).root) ?_ ?_ hrun
  · rw [(hlaunch.screens d).1]
    exact Bottom.bar bar_tabBar
  · intro es w e w' hw hpath hstep
    exact ((identified_of_run hlaunch hw).turns hstep d).path hpath

/-- In every state of every run from launch, on every device, the screens on
the root are a path, the tab bars in it have their tabs, and there is a page
in front. -/
theorem path_of_run {models : List Model} {w₀ w : World} {es : List Event}
    (hlaunch : w₀.AtLaunch) (hrun : run (World.step models) w₀ es = some w) (d : DeviceId) :
    Path models (w.device d).root ∧ (w.device d).front.isSome = true := by
  have hpath := World.paths_of_run hlaunch hrun d
  exact ⟨hpath, hpath.front_isSome⟩

theorem path_after_redeem :
    ∃ w, run (World.step CollectionViewController.models) World.signedUp
        (launchEvents ++ quizEvents 0 0 ++ redeemEvents) = some w ∧
      Path CollectionViewController.models (w.device 0).root ∧
      (w.device 0).front.isSome = true := by
  obtain ⟨w, hrun⟩ : ∃ w, run (World.step CollectionViewController.models) World.signedUp
      (launchEvents ++ quizEvents 0 0 ++ redeemEvents) = some w :=
    Option.isSome_iff_exists.mp (by decide +kernel)
  exact ⟨w, hrun, path_of_run World.signedUp_atLaunch hrun 0⟩

/-! ## What is in front is up to date -/

/-- The page says nothing about its sticker that the store does not say. -/
def Page.UpToDate (ud : UserDefaults) : Page → Prop
  | .info c view => view = InfoViewController.viewDidLoad ud c
  | .web c => ∀ c', c = some c' → unlocked ud c'.id = false
  | _ => True

theorem unlocked_congr {ud ud' : UserDefaults} (h : flags ud' = flags ud) (n : Int) :
    unlocked ud' n = unlocked ud n := by
  have hn : n ∈ flags ud' ↔ n ∈ flags ud := by rw [h]
  exact Bool.eq_iff_iff.mpr hn

theorem Page.UpToDate.congr {ud ud' : UserDefaults} {page : Page}
    (hflags : flags ud' = flags ud) (h : page.UpToDate ud) : page.UpToDate ud' := by
  cases page with
  | info c view =>
      have hview : InfoViewController.viewDidLoad ud' c =
          InfoViewController.viewDidLoad ud c := by
        cases c with
        | none => rfl
        | some c =>
            rw [InfoViewController.viewDidLoad, InfoViewController.viewDidLoad,
              unlocked_congr hflags]
      exact Eq.trans h hview.symm
  | web c => exact fun c' hc => (unlocked_congr hflags c'.id).trans (h c' hc)
  | home | option | collection | myView | downloads | login | register | details | result
  | error => trivial

/-- The lock flags of a device change only under a page that shows none. -/
theorem Device.Moves.flags_or_front {models : List Model} {d : DeviceId}
    {dev dev' : Device} {e : Event} (h : dev.Moves models d e dev') :
    flags dev'.defaults = flags dev.defaults ∨
      (dev'.root = dev.root ∧ ∃ vc self, dev.front = some (vc, self) ∧
        ∀ ud, self.page.UpToDate ud) := by
  cases h with
  | act hdoes =>
      cases hdoes with
      | appear =>
          exact Or.inl (congrArg flags TabBarController.viewDidAppear_defaults)
      | leaveQuiz => exact Or.inl (flags_set_of_ne fun _ => stickerKey_ne_quizKey)
      | redeem hshows => exact Or.inr ⟨rfl, _, _, hshows.2, fun _ => trivial⟩
      | reset hshows hpage =>
          obtain ⟨collections, hpage⟩ := hpage
          exact Or.inr ⟨rfl, _, _, hshows.2, fun _ => by rw [hpage]; trivial⟩
      | switch | back | album | push | gallery | send | idle => exact Or.inl rfl
  | signIn | createUser => exact Or.inl (flags_set_of_ne fun _ => stickerKey_ne_userUIDKey)
  | documentDeleted | userDeleted => exact Or.inl flags_removeObject_userUIDKey
  | deleteUser => exact Or.inl (congrArg flags Device.signOut_defaults)
  | stay => exact Or.inl rfl

/-- A page at the head of a tree was there whatever is in the hole, unless the
hole is the tree. -/
theorem plug_head {C : Context ViewController} {old new rest : Stack ViewController}
    {i : Nat} {self : ViewController} (h : C.plug new = .page i self :: rest) :
    C = .here ∨ ∃ rest', C.plug old = .page i self :: rest' := by
  cases C with
  | here => exact Or.inl rfl
  | under before bar selected left inner right after =>
      rw [Context.plug] at h
      cases before with
      | nil => cases h
      | cons s before =>
          rw [List.cons_append, List.cons.injEq] at h
          rw [h.1]
          exact Or.inr ⟨_, rfl⟩

/-- The page at the head of the root after an event was there before, or was
opened by the one that was there, or shows no lock state. -/
theorem Turns.head {models : List Model} {ud : UserDefaults} {n n' i : Nat}
    {root root' rest : Stack ViewController} {self : ViewController}
    (h : Turns models ud n root n' root') (hpath : Path models root)
    (hroot : root' = .page i self :: rest) :
    (∃ rest', root = .page i self :: rest') ∨
      (∃ a j self₀ rest', root = .page j self₀ :: rest' ∧ Opens ud a self₀ self) ∨
      ∀ ud, self.page.UpToDate ud := by
  cases h with
  | same => exact Or.inl ⟨rest, hroot⟩
  | gate | leave =>
      rcases plug_head hroot with rfl | hhead
      · cases hroot
        exact Or.inr (Or.inr fun _ => trivial)
      · exact Or.inl hhead
  | enter | select | gallery =>
      rcases plug_head hroot with rfl | hhead
      · cases hroot
      · exact Or.inl hhead
  | @back C vc self' rest' hC hpage =>
      rcases plug_head hroot with rfl | hhead
      · cases rest' with
        | nil => exact Or.inl ⟨rest, hroot⟩
        | cons t rest' =>
            cases hroot
            refine Or.inr (Or.inr fun ud => ?_)
            generalize hs : Screen.page i self = s at hpath
            cases hpath.1 with
            | album hbar =>
                subst hs
                cases hbar
            | info | register =>
                cases hs
                trivial
            | quiz | result => exact hpage.elim
      · exact Or.inl hhead
  | album =>
      cases hroot
      exact Or.inr (Or.inr fun _ => trivial)
  | push hC hopens =>
      rcases plug_head hroot with rfl | hhead
      · cases hroot
        exact Or.inr (Or.inl ⟨_, _, _, _, rfl, hopens⟩)
      · exact Or.inl hhead
  | result =>
      rcases plug_head hroot with rfl | hhead
      · cases hroot
        exact Or.inr (Or.inr fun _ => trivial)
      · exact Or.inl hhead

/-- The page at the head of the root is up to date. -/
def Device.UpToDate (dev : Device) : Prop :=
  ∀ i self rest, dev.root = .page i self :: rest → self.page.UpToDate dev.defaults

/-- A quiz is opened from a sticker that is shown as locked. -/
theorem Opens.upToDate {ud : UserDefaults} {a : Action} {self new : ViewController}
    (h : Opens ud a self new) (hself : self.page.UpToDate ud)
    (herror : ∀ canRedeem c, self.page ≠ .error canRedeem c) : new.page.UpToDate ud := by
  cases h with
  | info => rfl
  | @quiz c view origin hview =>
      intro c' hc'
      cases hc'
      obtain rfl : view = InfoViewController.viewDidLoad ud (some c) := hself
      rw [InfoViewController.viewDidLoad] at hview
      split at hview <;> rename_i hlock
      · cases hview
      · exact Bool.eq_false_iff.mpr hlock
  | again => exact absurd rfl (herror _ _)
  | register => trivial

theorem Device.UpToDate.moves {models : List Model} {d : DeviceId} {dev dev' : Device}
    {e : Event} {n' : Nat} (h : dev.UpToDate) (hpath : Path models dev.root)
    (hturns : Turns models dev.defaults dev.nextId dev.root n' dev'.root)
    (hmoves : dev.Moves models d e dev') : dev'.UpToDate := by
  intro i self rest hroot
  rcases hmoves.flags_or_front with hflags | ⟨hsame, vc, self₀, hfront, hpage⟩
  · rcases hturns.head hpath hroot with ⟨rest', hold⟩ | ⟨a, j, self₀, rest', hold, hopens⟩ |
      hpage
    · exact (h i self rest' hold).congr hflags
    · refine Page.UpToDate.congr hflags (hopens.upToDate (h j self₀ rest' hold) ?_)
      intro canRedeem c herror
      rw [hold] at hpath
      rcases hpath.page_cases with ⟨-, rfl⟩ | ⟨t, rest'', -, hover⟩
      · cases herror
      · cases hover <;> cases herror
    · exact hpage _
  · rw [hsame] at hroot
    rw [Device.front, hroot, stackFront, Screen.front, Option.some.injEq,
      Prod.mk.injEq] at hfront
    rw [hfront.2]
    exact hpage _

theorem World.upToDate_of_run {models : List Model} {w₀ w : World} {es : List Event}
    (hlaunch : w₀.AtLaunch) (hrun : run (World.step models) w₀ es = some w) (d : DeviceId) :
    (w.device d).UpToDate := by
  refine run_induction (P := fun _ w => (w.device d).UpToDate) ?_ ?_ hrun
  · intro i self rest hroot
    rw [(hlaunch.screens d).1] at hroot
    cases hroot
  · intro es w e w' hw h hstep
    exact h.moves (World.paths_of_run hlaunch hw d)
      ((identified_of_run hlaunch hw).turns hstep d) (World.step_moves hstep d)

/-- The pages that are only ever on the root. -/
def Page.OnRoot : Page → Prop
  | .details _ | .info _ _ | .web _ | .result _ _ | .error _ _ => True
  | _ => False

/-- Such a page is in front as the head of the root. -/
theorem Path.head_of_front {models : List Model} {root : Stack ViewController} {vc : Nat}
    {self : ViewController} (h : Path models root)
    (hfront : stackFront root = some (vc, self)) (hself : self.page.OnRoot) :
    ∃ rest, root = .page vc self :: rest := by
  obtain ⟨C, rest, -, rfl⟩ := exists_plug_of_front hfront
  rcases h.hole with rfl | ⟨j, page, hpage, hfixed⟩ | ⟨htab, -⟩
  · exact ⟨rest, rfl⟩
  · cases hfixed
    simp only [tabPages, List.tail_cons, List.mem_cons, List.not_mem_nil, or_false] at hpage
    rcases hpage with rfl | rfl | rfl | rfl <;> cases hself
  · cases htab with
    | home => cases hself
    | gate hgate =>
        cases hgate with
        | login | register => cases hself
    | bar hbar => cases hbar

/-- Whenever an info page is in front, what it shows is what it would show if
it were opened now. -/
theorem info_never_stale {models : List Model} {w₀ w : World} {es : List Event}
    {d : DeviceId} {vc : Nat} {c origin : Option Collection} {view : InfoView}
    (hlaunch : w₀.AtLaunch) (hrun : run (World.step models) w₀ es = some w)
    (hfront : (w.device d).front = some (vc, ⟨.info c view, origin⟩)) :
    view = InfoViewController.viewDidLoad (w.device d).defaults c := by
  obtain ⟨rest, hroot⟩ := (World.paths_of_run hlaunch hrun d).head_of_front hfront trivial
  exact World.upToDate_of_run hlaunch hrun d vc _ rest hroot

theorem info_never_stale_first_sticker :
    ∃ w view, run (World.step CollectionViewController.models) World.signedUp
        (launchEvents ++ (quizEvents 0 0).take 3) = some w ∧
      (w.device 0).front = some (7,
        ⟨.info (some CollectionViewController.collection1) view,
          some CollectionViewController.collection1⟩) ∧
      view = InfoViewController.viewDidLoad (w.device 0).defaults
        (some CollectionViewController.collection1) := by
  have hfront : (run (World.step CollectionViewController.models) World.signedUp
      (launchEvents ++ (quizEvents 0 0).take 3)).map (fun w => (w.device 0).front) =
      some (some (7, ⟨.info (some CollectionViewController.collection1)
        (InfoViewController.viewDidLoad ∅ (some CollectionViewController.collection1)),
          some CollectionViewController.collection1⟩)) := by decide +kernel
  obtain ⟨w, hrun, hfront⟩ := Option.map_eq_some_iff.mp hfront
  exact ⟨w, _, hrun, hfront, info_never_stale World.signedUp_atLaunch hrun hfront⟩

/-- Whenever a quiz is in front, its sticker is locked on the device. -/
theorem quiz_only_of_locked {models : List Model} {w₀ w : World} {es : List Event}
    {d : DeviceId} {vc : Nat} {c : Collection} {origin : Option Collection}
    (hlaunch : w₀.AtLaunch) (hrun : run (World.step models) w₀ es = some w)
    (hfront : (w.device d).front = some (vc, ⟨.web (some c), origin⟩)) :
    unlocked (w.device d).defaults c.id = false := by
  obtain ⟨rest, hroot⟩ := (World.paths_of_run hlaunch hrun d).head_of_front hfront trivial
  exact World.upToDate_of_run hlaunch hrun d vc _ rest hroot c rfl

theorem quiz_only_of_locked_first_sticker :
    ∃ w, run (World.step CollectionViewController.models) World.signedUp
        (launchEvents ++ (quizEvents 0 0).take 4) = some w ∧
      (w.device 0).front = some (8, ⟨.web (some CollectionViewController.collection1),
        some CollectionViewController.collection1⟩) ∧
      unlocked (w.device 0).defaults CollectionViewController.collection1.id = false := by
  have hfront : (run (World.step CollectionViewController.models) World.signedUp
      (launchEvents ++ (quizEvents 0 0).take 4)).map (fun w => (w.device 0).front) =
      some (some (8, ⟨.web (some CollectionViewController.collection1),
        some CollectionViewController.collection1⟩)) := by decide +kernel
  obtain ⟨w, hrun, hfront⟩ := Option.map_eq_some_iff.mp hfront
  exact ⟨w, hrun, hfront, quiz_only_of_locked World.signedUp_atLaunch hrun hfront⟩

end GloboCollection
