import GloboCollection.Lib.Settle
import GloboCollection.App.Shell
import GloboCollection.Proofs.Paths

/-!
# A page without a bar

An album, a sticker and a quiz have no way back but a button in the bar of
the navigation controller they are on, and that is always the root's. If the
root's bar is hidden, a user who opens an album is trapped: the album leads
to a sticker, the sticker to its quiz, and the quiz to nothing at all. There
are at most two taps left, and nothing that happens elsewhere helps, because
a callback acts on a login, a register or a home page, and those are never
on the root under an album.

`stuck_until_relaunch` is the whole of it. When the root's bar is hidden is
the business of `Proofs.FirstSession`.
-/

namespace GloboCollection

open GloboCollection.Lib

/-! ## Paths that start at the gate -/

/-- A path with a page of the account flows on it is the login page's. -/
theorem Path.gateStack_of_mem {models : List Model} {root : Stack ViewController} {i : Nat}
    {self : ViewController} (h : Path models root) (hmem : .page i self ∈ root)
    (hpage : self.page = .login ∨ self.page = .register ∨ self.page = .home) :
    GateStack root := by
  induction root with
  | nil => cases h
  | cons t rest ih =>
      cases rest with
      | nil =>
          rw [List.mem_singleton] at hmem
          subst hmem
          cases h
          exact .login
      | cons s rest =>
          rcases List.mem_cons.mp hmem with rfl | hmem
          · cases h.1 with
            | register =>
                rcases h.2.page_cases with ⟨rfl, -⟩ | ⟨t, rest', -, hover⟩
                · exact .register
                · cases hover
            | album | info | quiz | result => simp at hpage
          · have hgate := ih h.2 hmem
            cases hgate with
            | login =>
                cases h.1 with
                | register => exact .register
                | album hs => cases hs
            | register =>
                cases h.1 with
                | album hs => cases hs

/-! ## The page at the head of the root -/

section Head

variable {dev : Device} {vc : Nat} {self : ViewController} {rest : Stack ViewController}

theorem Device.front_of_head (hroot : dev.root = .page vc self :: rest) :
    dev.front = some (vc, self) := by
  rw [Device.front, hroot]
  rfl

/-- Its bar is the root's. -/
theorem Device.barHidden_of_head (hroot : dev.root = .page vc self :: rest)
    (hidden : List Nav) : dev.barHidden hidden = decide (.root ∈ hidden) := by
  have howner : dev.navigationController vc = some .root := by
    rw [Device.navigationController, owner_eq_root, hroot]
    exact holds_page
  rw [Device.barHidden, Device.front_of_head hroot]
  dsimp only
  rw [howner]

/-- What it opens is in front. -/
theorem Device.front_pushViewController (hroot : dev.root = .page vc self :: rest)
    (new : ViewController) :
    (dev.pushViewController vc new).front = some (dev.nextId, new) := by
  rw [Device.front, Device.pushViewController, Device.display_root, hroot, updateEnclosing,
    if_pos holds_page]
  rfl

/-- It handles the tap. -/
theorem Device.tap_front {handler : Nat → ViewController → Option Outcome} {o : Outcome}
    (hfront : dev.front = some (vc, self)) (h : dev.tap handler = some o) :
    handler vc self = some o := by
  obtain ⟨-, vc', self', hfront', h⟩ := Device.tap_some.mp h
  rw [hfront] at hfront'
  cases hfront'
  exact h

end Head

/-! ## Trapped -/

/-- The pages that only the bar leads back from, with the number of taps that
lead further on. -/
def Page.tapsLeft : Page → Option Nat
  | .details _ => some 2
  | .info _ _ => some 1
  | .web _ => some 0
  | _ => none

theorem Page.onRoot_of_tapsLeft {page : Page} {n : Nat} (h : page.tapsLeft = some n) :
    page.OnRoot := by
  cases page with
  | details | info | web => trivial
  | home | option | collection | myView | downloads | login | register | result | error =>
      cases h

/-- The root's bar is hidden, and the page in front is one that needs it. -/
structure Device.Trapped (dev : Device) (hidden : List Nav) (n : Nat) : Prop where
  hidden : .root ∈ hidden
  front : ∃ vc self, dev.front = some (vc, self) ∧ self.page.tapsLeft = some n

section Trapped

variable {models : List Model} {d : DeviceId} {dev dev' : Device} {hidden : List Nav}
  {n : Nat} {a : Action} {o : Outcome} {e : Event}

theorem Device.Trapped.not_onBar (h : dev.Trapped hidden n) (hpath : Path models dev.root)
    (hoffers : dev.offers hidden a = true) : a.onBar = false := by
  obtain ⟨vc, self, hfront, htaps⟩ := h.front
  obtain ⟨rest, hroot⟩ := hpath.head_of_front hfront (Page.onRoot_of_tapsLeft htaps)
  rw [Device.offers, Device.barHidden_of_head hroot] at hoffers
  simpa [h.hidden] using hoffers

/-- A tap on a page without a bar leads further on, never back. -/
theorem Device.Trapped.act (h : dev.Trapped hidden n) (hpath : Path models dev.root)
    (hdistinct : dev.Distinct) (hoffers : dev.offers hidden a = true)
    (hact : dev.act models d a = some o) : ∃ m, n = m + 1 ∧ o.device.Trapped hidden m := by
  have honBar := h.not_onBar hpath hoffers
  obtain ⟨hhidden, vc, self, hfront, htaps⟩ := h
  obtain ⟨rest, hroot⟩ := hpath.head_of_front hfront (Page.onRoot_of_tapsLeft htaps)
  have hvisible : ∀ bar, bar ∉ stackVisibleTabs dev.root := by
    intro bar hbar
    rw [hroot] at hbar
    cases hbar
  have hpush := Device.front_pushViewController hroot
  cases a with
  | backButtonTapped | buttonSearchTapped | voltarButtonPressionado => cases honBar
  | viewDidAppear bar =>
      rw [Device.act] at hact
      split at hact <;> rename_i hbar
      · exact absurd (hdistinct.appearing bar hbar) (hvisible bar)
      · cases hact
  | switchTab bar i =>
      have h := Device.tap_front hfront hact
      rw [Handlers.switchTab] at h
      split at h <;> rename_i hbar
      · exact absurd hbar.1 (hvisible bar)
      · cases h
  | didSelectItemAt item =>
      have h := Device.tap_front hfront hact
      rw [Handlers.didSelectItemAt] at h
      split at h <;> rename_i hpage
      · rw [hpage] at htaps
        cases htaps
        split at h <;> cases h
        exact ⟨1, rfl, hhidden, _, _, hpush _, rfl⟩
      · cases h
  | startQuizButtonTapped =>
      obtain ⟨page, origin⟩ := self
      have h := Device.tap_front hfront hact
      rw [Handlers.startQuizButtonTapped] at h
      split at h <;> rename_i hpage
      · obtain rfl : page = _ := hpage
        cases htaps
        rw [hroot] at hpath
        -- A sticker's page on a path does have its sticker.
        rcases hpath.page_cases with ⟨-, hlogin⟩ | ⟨t, rest', -, hover⟩
        · cases hlogin
        · cases hover with
          | info =>
              split at h <;> cases h
              exact ⟨0, rfl, hhidden, _, _, hpush _, rfl⟩
      · cases h
  | handleCellTap | redeemButtonTapped | galeryButtonTapped | restartButtonTapped
  | registerButtonTapped | loginButtonTapped | signupButtonTapped | deleteAccount =>
      have h := Device.tap_front hfront hact
      simp only [Handlers.handleCellTap, Handlers.redeemButtonTapped,
        Handlers.galeryButtonTapped, Handlers.restartButtonTapped,
        Handlers.registerButtonTapped, Handlers.loginButtonTapped,
        Handlers.signupButtonTapped, Handlers.deleteAccount] at h
      -- None of these buttons is on a page that needs the bar.
      cases hpage : self.page <;> simp [hpage, Page.tapsLeft] at htaps h

/-- A callback finds its page elsewhere, if at all, and leaves the page in
front where it is. -/
theorem Device.Trapped.front_updateEnclosing (h : dev.Trapped hidden n)
    (hpath : Path models dev.root) {vc : Nat} {page : Page} (hsent : dev.Sent vc page)
    (hpage : page = .login ∨ page = .register ∨ page = .home)
    (f : Stack ViewController → Stack ViewController) :
    stackFront (updateEnclosing vc f dev.root) = dev.front := by
  obtain ⟨-, i, self, hfront, htaps⟩ := h
  obtain ⟨rest, hroot⟩ := hpath.head_of_front hfront (Page.onRoot_of_tapsLeft htaps)
  have hholds : ¬ Stack.holds vc dev.root = true := by
    intro hholds
    obtain ⟨origin, hmem⟩ := hsent.exists_mem (C := .here) rfl hholds
    have hgate := hpath.gateStack_of_mem hmem hpage
    rw [hroot] at hgate
    cases hgate <;> cases htaps
  rw [updateEnclosing, if_neg hholds, Device.front, hroot]
  rfl

theorem Device.Trapped.moves (h : dev.Trapped hidden n) (hpath : Path models dev.root)
    (hmoves : dev.Moves models d e dev') (hact : ∀ a, e ≠ .act d a)
    (hsent : ∀ {r answer vc page}, e = .reply r answer → r.sender = some (d, vc, page) →
      dev.Sent vc page) : dev'.Trapped hidden n := by
  have hfront : dev'.front = dev.front := by
    cases hmoves with
    | act => exact absurd rfl (hact _)
    | signIn => exact h.front_updateEnclosing hpath (hsent rfl rfl) (Or.inl rfl) _
    | createUser =>
        exact h.front_updateEnclosing hpath (hsent rfl rfl) (Or.inr (Or.inl rfl)) _
    | userDeleted =>
        exact h.front_updateEnclosing hpath (hsent rfl rfl) (Or.inr (Or.inr rfl)) _
    | deleteUser => rw [Device.front, Device.front, Device.signOut_root]
    | documentDeleted | stay => rfl
  exact ⟨h.hidden, by rw [hfront]; exact h.front⟩

end Trapped

/-! ## For good -/

/-- A tap on device `d`. -/
def Event.isTap (d : DeviceId) : Event → Bool
  | .act d' _ => d' == d
  | _ => false

section Runs

variable {models : List Model} {s₀ s s' : Shell} {d : DeviceId}

/-- What the invariants of the other modules say of a state of a run. -/
structure Shell.Sound (models : List Model) (s : Shell) : Prop where
  identified : s.world.Identified
  path : ∀ d, Path models (s.world.device d).root

theorem Shell.sound_of_run {es : List Shell.Event} (hlaunch : s₀.AtLaunch)
    (hrun : run (Shell.step models) s₀ es = some s) : s.Sound models :=
  ⟨identified_of_run hlaunch.world (Shell.run_world hrun),
    World.paths_of_run hlaunch.world (Shell.run_world hrun)⟩

theorem Shell.Sound.step {e : Shell.Event} (h : s.Sound models)
    (hstep : s.step models e = some s') : s'.Sound models := by
  obtain ⟨-, hworld, -⟩ := Shell.step_some.mp hstep
  exact ⟨h.identified.step hworld,
    fun d => (h.identified.turns hworld d).path (h.path d)⟩

theorem Shell.Sound.trapped_step {n : Nat} {e : Shell.Event} (h : s.Sound models)
    (htrapped : (s.world.device d).Trapped (s.hidden d) n)
    (hstep : s.step models e = some s') :
    if e.event.isTap d then ∃ m, n = m + 1 ∧ (s'.world.device d).Trapped (s'.hidden d) m
    else (s'.world.device d).Trapped (s'.hidden d) n := by
  obtain ⟨hallows, hworld, hhidden⟩ := Shell.step_some.mp hstep
  have hmono : ∀ {dev : Device} {m : Nat}, dev.Trapped (s.hidden d) m →
      dev.Trapped (s'.hidden d) m := by
    intro dev m hdev
    exact ⟨hhidden ▸ Shell.hidden_subset e hdev.hidden, hdev.front⟩
  split <;> rename_i htap
  · obtain ⟨event, found⟩ := e
    cases event with
    | act d' a =>
        obtain rfl : d' = d := by simpa [Event.isTap] using htap
        obtain ⟨o, hact, hdev, -⟩ := World.act_outcome hworld
        rw [hdev, Function.update_self]
        obtain ⟨m, hm, hnext⟩ :=
          htrapped.act (h.path d') (h.identified.distinct d') hallows hact
        exact ⟨m, hm, hmono hnext⟩
    | reply | scoreRead | scoreWrite => cases htap
  · refine hmono (htrapped.moves (h.path d) (World.step_moves hworld d) ?_ ?_)
    · intro a ha
      simp [ha, Event.isTap] at htap
    · intro r answer vc page hr hsender
      rw [hr] at hworld
      exact h.identified.sent r (World.reply_answers hworld).1 d vc page hsender

theorem Shell.Sound.trapped_run {fs : List Shell.Event} {n : Nat} (h : s.Sound models)
    (htrapped : (s.world.device d).Trapped (s.hidden d) n)
    (hrun : run (Shell.step models) s fs = some s') :
    ∃ m, (s'.world.device d).Trapped (s'.hidden d) m ∧
      fs.countP (fun e => e.event.isTap d) + m = n := by
  have hnext : ∀ n s e s',
      (Shell.Sound models s ∧ (s.world.device d).Trapped (s.hidden d) n) →
      s.step models e = some s' →
      if e.event.isTap d then
        ∃ m, n = m + 1 ∧ s'.Sound models ∧ (s'.world.device d).Trapped (s'.hidden d) m
      else s'.Sound models ∧ (s'.world.device d).Trapped (s'.hidden d) n := by
    intro n s e s' ⟨hsound, htrapped⟩ hstep
    have hnext := hsound.trapped_step htrapped hstep
    split at hnext <;> rename_i htap
    · obtain ⟨m, hm, hnext⟩ := hnext
      rw [if_pos htap]
      exact ⟨m, hm, hsound.step hstep, hnext⟩
    · rw [if_neg htap]
      exact ⟨hsound.step hstep, hnext⟩
  obtain ⟨m, ⟨-, hm⟩, hcount⟩ :=
    countP_add_left (p := fun e => e.event.isTap d) hnext ⟨h, htrapped⟩ hrun
  exact ⟨m, hm, hcount⟩

/-- With the root's bar hidden, an album, a sticker or a quiz in front stays
in front, or one of the others does, whatever happens on the device and
elsewhere: at most two more taps are possible, each leads from the album to a
sticker or from the sticker to its quiz, and from the quiz there is none. -/
theorem stuck_until_relaunch {es fs : List Shell.Event} {n : Nat} (hlaunch : s₀.AtLaunch)
    (hrun : run (Shell.step models) s₀ es = some s)
    (htrapped : (s.world.device d).Trapped (s.hidden d) n)
    (hrun' : run (Shell.step models) s fs = some s') :
    ∃ m, (s'.world.device d).Trapped (s'.hidden d) m ∧
      fs.countP (fun e => e.event.isTap d) + m = n :=
  (Shell.sound_of_run hlaunch hrun).trapped_run htrapped hrun'

end Runs

/-- The first user of a device opens an album. -/
theorem exists_trapped :
    ∃ s, run (Shell.step CollectionViewController.models) Shell.empty
        (Shell.found (firstSignUp ++ (quizEvents 8 0).take 2)) = some s ∧
      (s.world.device 0).Trapped (s.hidden 0) 2 := by
  have hobs : (run (Shell.step CollectionViewController.models) Shell.empty
      (Shell.found (firstSignUp ++ (quizEvents 8 0).take 2))).map (fun s =>
        (s.hidden 0, (s.world.device 0).front.map fun p => p.2.page.tapsLeft)) =
      some ([.root], some (some 2)) := by decide +kernel
  obtain ⟨s, hrun, hobs⟩ := Option.map_eq_some_iff.mp hobs
  rw [Prod.mk.injEq, Option.map_eq_some_iff] at hobs
  obtain ⟨hhidden, ⟨vc, self⟩, hfront, htaps⟩ := hobs
  exact ⟨s, hrun, by rw [hhidden]; decide, vc, self, hfront, htaps⟩

theorem stuck_until_relaunch_first_album :
    ∃ s s', run (Shell.step CollectionViewController.models) Shell.empty
        (Shell.found (firstSignUp ++ (quizEvents 8 0).take 2)) = some s ∧
      run (Shell.step CollectionViewController.models) s
        (Shell.found (((quizEvents 8 0).drop 2).take 2)) = some s' ∧
      (s.world.device 0).Trapped (s.hidden 0) 2 ∧
      (s'.world.device 0).Trapped (s'.hidden 0) 0 := by
  obtain ⟨s, hrun, htrapped⟩ := exists_trapped
  obtain ⟨s', hrun'⟩ : ∃ s', run (Shell.step CollectionViewController.models) s
      (Shell.found (((quizEvents 8 0).drop 2).take 2)) = some s' := by
    have hall : (run (Shell.step CollectionViewController.models) Shell.empty
        (Shell.found (firstSignUp ++ (quizEvents 8 0).take 2) ++
          Shell.found (((quizEvents 8 0).drop 2).take 2))).isSome = true := by
      decide +kernel
    rw [run_append, hrun] at hall
    exact Option.isSome_iff_exists.mp hall
  obtain ⟨m, hm, hcount⟩ :=
    stuck_until_relaunch Shell.empty_atLaunch hrun htrapped hrun'
  have htwo : (Shell.found (((quizEvents 8 0).drop 2).take 2)).countP
      (fun e => e.event.isTap 0) = 2 := by decide
  obtain rfl : m = 0 := by omega
  exact ⟨s, s', hrun, hrun', htrapped, hm⟩

end GloboCollection
