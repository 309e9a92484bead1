import Mathlib.Data.List.DropRight
import GloboCollection.Lib.Trace
import GloboCollection.Proofs.HalfDone
import GloboCollection.Proofs.Requests

/-!
# The life of an account

An account is made by a sign-up, used by sign-ins, and ended by a deletion,
each on any device and with other requests under way. Two things hold however
these fall. Both rest on what the service sees to on its side: a uid names one
account, for good, and no two accounts share an email (`Server.Registry`).

What was typed at the sign-up signs in. Both pages trim what is typed before
they send it, so the texts of an account are trimmed and not blank, and
whoever types them again, blanks around them or not, is let in under the uid
of that account and under no other.

No account goes unasked. The deletion of an account is the last of four
events in a fixed order, the first of them a tap on a home page, on the same
device, by the very user whose account it is.
-/

namespace GloboCollection

open GloboCollection.Lib

/-! ## The register of accounts -/

/-- Uids are handed out once, in the order the accounts were made; no two
accounts have the same email. -/
structure Server.Registry (s : Server) : Prop where
  issued : s.issued.Nodup
  accounts : (s.accounts.map Account.uid).Sublist s.issued
  emails : (s.accounts.map Account.email).Nodup

theorem Server.Registry.uids {s : Server} (h : s.Registry) :
    (s.accounts.map Account.uid).Nodup := h.issued.sublist h.accounts

/-- How a step can change the accounts. -/
inductive World.Registers (w : World) (e : Event) (w' : World) : Prop
  | same (haccounts : w'.server.accounts = w.server.accounts)
      (hissued : w'.server.issued = w.server.issued)
  | created (d : DeviceId) (vc : Nat) (userName email password : String) (uid : Uid)
      (he : e = .reply (.createUser d vc userName email password) (.successWith uid))
      (hr : .createUser d vc userName email password ∈ w.requests)
      (hadmits : w.server.Admits email uid)
      (haccounts : w'.server.accounts = w.server.accounts ++ [⟨uid, email, password⟩])
      (hissued : w'.server.issued = w.server.issued ++ [uid])
  | deleted (d : DeviceId) (vc : Nat) (uid : Uid)
      (he : e = .reply (.deleteUser d vc uid) .success)
      (haccounts : w'.server.accounts = w.server.accounts.filter fun a => a.uid ≠ uid)
      (hissued : w'.server.issued = w.server.issued)

section Registers

variable {models : List Model} {w w' : World} {e : Event}

theorem World.step_registers (h : w.step models e = some w') : w.Registers e w' := by
  cases e with
  | act d a =>
      obtain ⟨o, -, -, hserver, -⟩ := act_some h
      exact .same (by rw [hserver]) (by rw [hserver])
  | reply r answer =>
      obtain ⟨hr, hans⟩ := reply_answers h
      cases hans with
      | @createUser d vc userName email password uid hadmits =>
          exact .created d vc userName email password uid rfl hr hadmits rfl rfl
      | @deleteUser d vc uid => exact .deleted d vc uid rfl rfl rfl
      | signIn | addDocument | deleteDocument | documentDeleted | userDeleted | failed =>
          exact .same rfl rfl
  | scoreRead i ok =>
      obtain ⟨s, -, rfl⟩ := scoreRead_some h
      exact .same rfl rfl
  | scoreWrite i ok =>
      obtain ⟨s, -, rfl⟩ := scoreWrite_some h
      exact .same rfl rfl

theorem Server.Registry.step (h : w.server.Registry) (hreg : w.Registers e w') :
    w'.server.Registry := by
  cases hreg with
  | same haccounts hissued => exact ⟨hissued ▸ h.issued, hissued ▸ haccounts ▸ h.accounts,
      haccounts ▸ h.emails⟩
  | created d vc userName email password uid _ _ hadmits haccounts hissued =>
      refine ⟨?_, ?_, ?_⟩
      · rw [hissued, ← List.concat_eq_append, List.nodup_concat]
        exact ⟨hadmits.2.1, h.issued⟩
      · rw [hissued, haccounts, List.map_append, List.map_singleton]
        exact h.accounts.append (List.Sublist.refl _)
      · rw [haccounts, List.map_append, List.map_singleton, ← List.concat_eq_append,
          List.nodup_concat]
        refine ⟨fun hmem => ?_, h.emails⟩
        obtain ⟨a, ha, heq⟩ := List.mem_map.mp hmem
        exact hadmits.1 a ha heq
  | deleted d vc uid _ haccounts hissued =>
      have hsub : w'.server.accounts.Sublist w.server.accounts :=
        haccounts ▸ List.filter_sublist
      refine ⟨hissued ▸ h.issued, hissued ▸ (hsub.map _).trans h.accounts, ?_⟩
      exact h.emails.sublist (hsub.map _)

/-- A uid that is out stays out, and no account is made for it. -/
theorem World.Registers.old (hreg : w.Registers e w') {a : Account}
    (ha : a.uid ∈ w.server.issued) :
    a.uid ∈ w'.server.issued ∧ (a ∈ w'.server.accounts → a ∈ w.server.accounts) := by
  cases hreg with
  | same haccounts hissued => exact ⟨hissued ▸ ha, fun h => haccounts ▸ h⟩
  | created d vc userName email password uid _ _ hadmits haccounts hissued =>
      rw [haccounts, hissued]
      refine ⟨List.mem_append_left _ ha, fun h => ?_⟩
      rcases List.mem_append.mp h with h | h
      · exact h
      · rw [List.mem_singleton.mp h] at ha
        exact absurd ha hadmits.2.1
  | deleted d vc uid _ haccounts hissued =>
      rw [haccounts, hissued]
      exact ⟨ha, fun h => List.mem_of_mem_filter h⟩

theorem registry_of_run {w₀ : World} {es : List Event} (hstart : w₀.server.Registry)
    (hrun : run (World.step models) w₀ es = some w) : w.server.Registry :=
  run_invariant (P := fun w => w.server.Registry)
    (fun _ _ _ h hstep => h.step (World.step_registers hstep)) hrun hstart

/-- From a uid that is out, any later account with it was there already. -/
theorem account_of_later {es : List Event} {a : Account} (ha : a.uid ∈ w.server.issued)
    (hrun : run (World.step models) w es = some w') (hmem : a ∈ w'.server.accounts) :
    a ∈ w.server.accounts := by
  have hold : a.uid ∈ w'.server.issued ∧ (a ∈ w'.server.accounts → a ∈ w.server.accounts) := by
    refine run_invariant (P := fun w' => a.uid ∈ w'.server.issued ∧
      (a ∈ w'.server.accounts → a ∈ w.server.accounts)) ?_ hrun ⟨ha, id⟩
    intro w₁ e w₂ h hstep
    obtain ⟨hissued, hold⟩ := (World.step_registers hstep).old h.1
    exact ⟨hissued, fun hmem => h.2 (hold hmem)⟩
  exact hold.2 hmem

end Registers

theorem World.empty_registry : World.empty.server.Registry :=
  ⟨List.nodup_nil, List.Sublist.refl _, List.nodup_nil⟩

/-! ## Typed texts -/

theorem trimmingCharacters_eq (s : String) :
    trimmingCharacters s =
      String.ofList (List.rdropWhile isWhitespaceOrNewline
        (s.toList.dropWhile isWhitespaceOrNewline)) := rfl

/-- Trimming a trimmed text changes nothing. -/
theorem trimmingCharacters_idem (s : String) :
    trimmingCharacters (trimmingCharacters s) = trimmingCharacters s := by
  rw [trimmingCharacters_eq (trimmingCharacters s), trimmingCharacters_eq s,
    String.toList_ofList]
  have hfront : (List.rdropWhile isWhitespaceOrNewline
      (s.toList.dropWhile isWhitespaceOrNewline)).dropWhile isWhitespaceOrNewline =
        List.rdropWhile isWhitespaceOrNewline
          (s.toList.dropWhile isWhitespaceOrNewline) := by
    -- What is cut off at the end leaves a prefix, and that starts with no blank.
    rw [List.dropWhile_eq_self_iff]
    intro hlen
    have hprefix := List.rdropWhile_prefix isWhitespaceOrNewline
      (s.toList.dropWhile isWhitespaceOrNewline)
    have hlen' := Nat.lt_of_lt_of_le hlen hprefix.length_le
    have hhead := List.dropWhile_get_zero_not isWhitespaceOrNewline s.toList hlen'
    rwa [List.get_eq_getElem, ← hprefix.getElem hlen] at hhead
  rw [hfront, List.rdropWhile_idempotent]

/-- A text as the pages send it: trimmed, and not blank. -/
def TypedText (s : String) : Prop := trimmingCharacters s = s ∧ s ≠ ""

/-- The texts of a sign-up on its way. -/
def Request.Typed : Request → Prop
  | .createUser _ _ userName email password =>
      TypedText userName ∧ TypedText email ∧ TypedText password
  | .addDocument nickName email _ => TypedText nickName ∧ TypedText email
  | _ => True

section Typed

variable {models : List Model} {d : DeviceId} {w w' : World} {e : Event}

theorem typed_of_validateFields {userName email password : String}
    (h : RegisterViewController.validateFields userName email password = none) :
    TypedText (trimmingCharacters userName) ∧ TypedText (trimmingCharacters email) ∧
      TypedText (trimmingCharacters password) := by
  rw [RegisterViewController.validateFields] at h
  split at h <;> rename_i hblank
  · cases h
  · rw [not_or, not_or] at hblank
    exact ⟨⟨trimmingCharacters_idem _, hblank.1⟩, ⟨trimmingCharacters_idem _, hblank.2.1⟩,
      ⟨trimmingCharacters_idem _, hblank.2.2⟩⟩

/-- The texts of a sign-up and of its profile are those that passed the
check. -/
theorem typed_step (h : w.step models e = some w') (hreq : ∀ r ∈ w.requests, r.Typed) :
    ∀ r ∈ w'.requests, r.Typed := by
  intro r hr
  rcases World.step_requests h hr with hr | ⟨d, a, -, hasks⟩ | ⟨r₀, answer, -, hr₀, hfollows⟩
  · exact hreq r hr
  · cases hasks with
    | signIn | deletion => trivial
    | signUp _ hvalid => exact typed_of_validateFields hvalid
  · have htyped := hreq r₀ hr₀
    cases hfollows with
    | profile => exact ⟨htyped.1, htyped.2.1⟩
    | callback | account | last => trivial

theorem typed_of_run {w₀ : World} {es : List Event} (hstart : w₀.requests = [])
    (hrun : run (World.step models) w₀ es = some w) : ∀ r ∈ w.requests, r.Typed := by
  refine run_invariant (P := fun w => ∀ r ∈ w.requests, r.Typed)
    (fun _ _ _ h hstep => typed_step hstep h) hrun ?_
  simp [hstart]

end Typed

/-! ## Signing in again -/

/-- The account a sign-up made, as long as it is there. -/
theorem account_of_created {models : List Model} {w₀ w : World} {es : List Event}
    {d : DeviceId} {vc : Nat} {userName email password : String} {u : Uid}
    (hrequests : w₀.requests = []) (hstart : w₀.server.Registry)
    (hrun : run (World.step models) w₀ es = some w)
    (hcreated : .reply (.createUser d vc userName email password) (.successWith u) ∈ es)
    (halive : u ∈ w.server.accounts.map Account.uid) :
    ⟨u, email, password⟩ ∈ w.server.accounts ∧ TypedText email ∧ TypedText password := by
  obtain ⟨pre, post, rfl⟩ := List.append_of_mem hcreated
  obtain ⟨w₁, hpre, hrest⟩ := run_append_some.mp hrun
  rw [run_cons, Option.bind_eq_some_iff] at hrest
  obtain ⟨w₂, hstep, hpost⟩ := hrest
  have hreg₂ : w₂.server.Registry :=
    (registry_of_run hstart hpre).step (World.step_registers hstep)
  obtain ⟨hr, hans⟩ := World.reply_answers hstep
  have htyped := typed_of_run hrequests hpre _ hr
  cases hans with
  | createUser =>
      obtain ⟨a, ha, rfl⟩ := List.mem_map.mp halive
      have hnew : (⟨a.uid, email, password⟩ : Account) ∈
          (w₁.server.createUser email password a.uid).accounts :=
        List.mem_append_right _ (List.mem_singleton_self _)
      have hissued : a.uid ∈ (w₁.server.createUser email password a.uid).issued :=
        List.mem_append_right _ (List.mem_singleton_self _)
      have hold := account_of_later hissued hpost ha
      have heq : a = ⟨a.uid, email, password⟩ :=
        List.inj_on_of_nodup_map hreg₂.uids hold hnew rfl
      exact ⟨heq ▸ ha, htyped.2.1, htyped.2.2⟩

theorem act_login (models : List Model) (d : DeviceId) (email password : String)
    {dev : Device} {vc : Nat} {origin : Option Collection} (hshows : dev.Shows vc ⟨.login, origin⟩) :
    dev.act models d (.loginButtonTapped email password) =
      some ⟨dev, [.signIn d vc (trimmingCharacters email)
        (trimmingCharacters password)], none⟩ := by
  rw [Device.act, Device.tap_of_shows hshows, Handlers.loginButtonTapped]

/-- The callback of a sign-in puts the tab bar in front. -/
theorem showsTabBar_signedIn {dev : Device} {vc : Nat} {self : ViewController}
    (hshows : dev.Shows vc self) (uid : Uid) :
    (LoginViewController.signedIn dev vc uid).ShowsTabBar dev.nextId := by
  obtain ⟨hfront, htabs⟩ := updateEnclosing_showsStack
    [TabBarController dev.nextId] hshows.2
  refine ⟨htabs.subset ?_, hfront⟩
  simp [TabBarController, stackVisibleTabs, Screen.visibleTabs]

/-- Whoever made an account by a sign-up, and whose account is still there,
signs in on any device with the login page in front by typing the same texts,
with or without blanks around them: the answer with the account's uid is
possible and no other is, and it leaves the device with that uid stored and
current and the tab bar in front. -/
theorem signIn_roundTrip {models : List Model} {w₀ w : World} {es : List Event}
    {d₀ d : DeviceId} {vc₀ vc : Nat} {userName email password typedEmail
      typedPassword : String} {u : Uid} {origin : Option Collection}
    (hrequests : w₀.requests = []) (hstart : w₀.server.Registry)
    (hrun : run (World.step models) w₀ es = some w)
    (hcreated : .reply (.createUser d₀ vc₀ userName email password) (.successWith u) ∈ es)
    (halive : u ∈ w.server.accounts.map Account.uid)
    (hshows : (w.device d).Shows vc ⟨.login, origin⟩)
    (hemail : trimmingCharacters typedEmail = email)
    (hpassword : trimmingCharacters typedPassword = password) :
    TypedText email ∧ TypedText password ∧
      ∃ w₁, w.step models (.act d (.loginButtonTapped typedEmail typedPassword)) = some w₁ ∧
        (∀ v, (w₁.step models (.reply (.signIn d vc email password)
          (.successWith v))).isSome = true ↔ v = u) ∧
        ∃ w₂, w₁.step models (.reply (.signIn d vc email password) (.successWith u)) =
            some w₂ ∧
          (w₂.device d).defaults.userUID = some u ∧
          (w₂.device d).currentUser = some u ∧
          (w₂.device d).ShowsTabBar (w.device d).nextId := by
  obtain ⟨haccount, htyped⟩ := account_of_created hrequests hstart hrun hcreated halive
  have hreg := registry_of_run hstart hrun
  have hsend := World.step_send (act_login models d typedEmail typedPassword hshows)
  rw [hemail, hpassword] at hsend
  refine ⟨htyped.1, htyped.2, _, hsend, fun v => ?_, ?_⟩
  · rw [World.step_reply (by simp), World.answer]
    constructor
    · intro h
      split at h <;> rename_i hmem
      · -- Two accounts with one email are one account.
        have heq := List.inj_on_of_nodup_map hreg.emails hmem haccount rfl
        exact congrArg Account.uid heq
      · cases h
    · rintro rfl
      rw [if_pos haccount]
      rfl
  · rw [World.step_reply (by simp), World.answer, if_pos haccount]
    refine ⟨_, rfl, ?_, ?_, ?_⟩ <;> simp only [World.setDevice, Function.update_self]
    · exact UserDefaults.string_set_string
    · rfl
    · exact showsTabBar_signedIn hshows u

/-- Ana, having signed up on one device, at the login page of another. -/
theorem signIn_roundTrip_ana :
    ∃ w w₁ w₂, run (World.step CollectionViewController.models) World.empty
        (firstSignUp ++ [.act 1 (.viewDidAppear 0)]) = some w ∧
      w.step CollectionViewController.models
        (.act 1 (.loginButtonTapped " ana@globo.com" "senha-segura ")) = some w₁ ∧
      w₁.step CollectionViewController.models
        (.reply (.signIn 1 6 "ana@globo.com" "senha-segura") (.successWith "A")) = some w₂ ∧
      (w₂.device 1).defaults.userUID = some "A" := by
  have hobs : (run (World.step CollectionViewController.models) World.empty
      (firstSignUp ++ [.act 1 (.viewDidAppear 0)])).map (fun w =>
        (w.server.accounts.map Account.uid, (w.device 1).appearing, (w.device 1).front)) =
      some (["A"], [], some (6, ⟨.login, none⟩)) := by decide +kernel
  obtain ⟨w, hrun, hobs⟩ := Option.map_eq_some_iff.mp hobs
  simp only [Prod.mk.injEq] at hobs
  obtain ⟨haccounts, happ, hfront⟩ := hobs
  have hcreated : Event.reply (.createUser 0 7 "Ana" "ana@globo.com" "senha-segura")
      (.successWith "A") ∈ firstSignUp ++ [.act 1 (.viewDidAppear 0)] := by decide
  have hemail : trimmingCharacters " ana@globo.com" = "ana@globo.com" := by decide +kernel
  have hpassword : trimmingCharacters "senha-segura " = "senha-segura" := by decide +kernel
  obtain ⟨-, -, w₁, hw₁, -, w₂, hw₂, huid, -⟩ := signIn_roundTrip rfl World.empty_registry
    hrun hcreated (by rw [haccounts]; decide) ⟨happ, hfront⟩ hemail hpassword
  exact ⟨w, w₁, w₂, hrun, hw₁, hw₂, huid⟩

/-! ## No account goes unasked -/

/-- What counts in the deletion of the account `currentUser`, for which the
document under `userUID` goes first. -/
inductive DeletionOp where
  | asked (d : DeviceId) (vc : Nat) (userUID currentUser : Uid)
  | documentGone (d : DeviceId) (vc : Nat) (userUID currentUser : Uid)
  | cleared (d : DeviceId) (vc : Nat) (currentUser : Uid)
  | accountGone (d : DeviceId) (vc : Nat) (currentUser : Uid)
deriving DecidableEq, Repr

/-- A tap asks for the deletion of the account that is signed in, from the
home page in front. -/
def deletionOp (w : World) : Event → Option DeletionOp
  | .act d .deleteAccount =>
      match (w.device d).front, (w.device d).defaults.userUID, (w.device d).currentUser with
      | some (vc, ⟨.home, _⟩), some userUID, some currentUser =>
          some (.asked d vc userUID currentUser)
      | _, _, _ => none
  | .reply (.deleteDocument d vc userUID currentUser) .success =>
      some (.documentGone d vc userUID currentUser)
  | .reply (.documentDeleted d vc currentUser) .success => some (.cleared d vc currentUser)
  | .reply (.deleteUser d vc currentUser) .success => some (.accountGone d vc currentUser)
  | _ => none

/-- What has to have happened for a request of a deletion to be in flight. -/
def Request.Asked (ops : List DeletionOp) : Request → Prop
  | .deleteDocument d vc userUID currentUser =>
      [.asked d vc userUID currentUser].Sublist ops
  | .documentDeleted d vc currentUser =>
      ∃ userUID, [.asked d vc userUID currentUser,
        .documentGone d vc userUID currentUser].Sublist ops
  | .deleteUser d vc currentUser =>
      ∃ userUID, [.asked d vc userUID currentUser, .documentGone d vc userUID currentUser,
        .cleared d vc currentUser].Sublist ops
  | _ => True

theorem Request.Asked.mono {ops ops' : List DeletionOp} {r : Request} (h : r.Asked ops)
    (hops : ops.Sublist ops') : r.Asked ops' := by
  cases r with
  | deleteDocument => exact h.trans hops
  | documentDeleted | deleteUser =>
      obtain ⟨userUID, h⟩ := h
      exact ⟨userUID, h.trans hops⟩
  | signIn | createUser | addDocument | userDeleted => trivial

section Asked

variable {models : List Model} {w₀ w : World} {es : List Event}

/-- Every request of a deletion has the ones before it behind it. -/
theorem asked_of_run (hstart : w₀.requests = [])
    (hrun : run (World.step models) w₀ es = some w) :
    ∀ r ∈ w.requests, r.Asked (trace (World.step models) deletionOp w₀ es) := by
  refine run_induction (P := fun es w => ∀ r ∈ w.requests,
    r.Asked (trace (World.step models) deletionOp w₀ es)) (by simp [hstart]) ?_ hrun
  intro es w e w' hw ih hstep r hr
  rcases World.step_requests hstep hr with hr | ⟨d, a, rfl, hasks⟩ |
    ⟨r₀, answer, rfl, hr₀, hfollows⟩
  · exact (ih r hr).mono (sublist_trace_concat hw (List.Sublist.refl _))
  · cases hasks with
    | signIn | signUp => trivial
    | deletion hshows hstored hcurrent =>
        refine sublist_trace_concat_op hw (List.nil_sublist _) ?_
        rw [deletionOp, hshows.2, hstored, hcurrent]
  · have hasked := ih r₀ hr₀
    cases hfollows with
    | profile | last => trivial
    | callback => exact ⟨_, sublist_trace_concat_op hw hasked rfl⟩
    | account =>
        obtain ⟨userUID, hasked⟩ := hasked
        exact ⟨userUID, sublist_trace_concat_op hw hasked rfl⟩

/-- An account that is gone was deleted. -/
theorem deleted_of_gone {u : Uid} {w' : World}
    (hrun : run (World.step models) w es = some w')
    (hmem : u ∈ w.server.accounts.map Account.uid)
    (hgone : u ∉ w'.server.accounts.map Account.uid) :
    ∃ pre post d vc, es = pre ++ .reply (.deleteUser d vc u) .success :: post := by
  induction es generalizing w with
  | nil =>
      cases hrun
      exact absurd hmem hgone
  | cons e es ih =>
      rw [run_cons, Option.bind_eq_some_iff] at hrun
      obtain ⟨w₁, hstep, hrun⟩ := hrun
      by_cases hmem₁ : u ∈ w₁.server.accounts.map Account.uid
      · obtain ⟨pre, post, d, vc, rfl⟩ := ih hrun hmem₁
        exact ⟨e :: pre, post, d, vc, rfl⟩
      · cases World.step_registers hstep with
        | same haccounts => exact absurd (haccounts ▸ hmem) hmem₁
        | created d vc userName email password uid _ _ _ haccounts =>
            rw [haccounts, List.map_append] at hmem₁
            exact absurd (List.mem_append_left _ hmem) hmem₁
        | deleted d vc uid he haccounts =>
            obtain ⟨a, ha, rfl⟩ := List.mem_map.mp hmem
            have huid : a.uid = uid := by
              by_contra hne
              refine hmem₁ (List.mem_map.mpr ⟨a, ?_, rfl⟩)
              rw [haccounts]
              exact List.mem_filter.mpr ⟨ha, by simpa using hne⟩
            exact ⟨[], es, d, vc, by rw [he, huid]; rfl⟩

end Asked

/-- An account that was there at one moment of a run and is gone at a later
one was asked to be deleted: somebody signed in with that very account tapped
on the home page of some device, and the deletion of the document, its
callback on that device and the deletion of the account came after it, in
this order. -/
theorem deletion_asked_for {models : List Model} {w₀ w₁ w₂ : World} {es fs : List Event}
    {u : Uid} (hstart : w₀.requests = [])
    (hrun₁ : run (World.step models) w₀ es = some w₁)
    (hrun₂ : run (World.step models) w₁ fs = some w₂)
    (hmem : u ∈ w₁.server.accounts.map Account.uid)
    (hgone : u ∉ w₂.server.accounts.map Account.uid) :
    ∃ d vc userUID, [.asked d vc userUID u, .documentGone d vc userUID u,
      .cleared d vc u, .accountGone d vc u].Sublist
        (trace (World.step models) deletionOp w₀ (es ++ fs)) := by
  obtain ⟨pre, post, d, vc, rfl⟩ := deleted_of_gone hrun₂ hmem hgone
  obtain ⟨w, hpre, hrest⟩ := run_append_some.mp hrun₂
  rw [run_cons, Option.bind_eq_some_iff] at hrest
  obtain ⟨w', hstep, -⟩ := hrest
  have hbefore : run (World.step models) w₀ (es ++ pre) = some w :=
    run_append_some.mpr ⟨w₁, hrun₁, hpre⟩
  obtain ⟨userUID, hasked⟩ := asked_of_run hstart hbefore _ (World.reply_answers hstep).1
  refine ⟨d, vc, userUID, ?_⟩
  have hops := sublist_trace_concat_op hbefore hasked
    (e := .reply (.deleteUser d vc u) .success) rfl
  have hafter : run (World.step models) w₀
      (es ++ pre ++ [.reply (.deleteUser d vc u) .success]) = some w' :=
    run_concat_some.mpr ⟨w, hbefore, hstep⟩
  have hsplit : es ++ (pre ++ .reply (.deleteUser d vc u) .success :: post) =
      es ++ pre ++ [.reply (.deleteUser d vc u) .success] ++ post := by simp
  rw [hsplit, trace_append hafter]
  exact hops.trans (List.sublist_append_left _ _)

theorem deletion_asked_for_ana :
    ∃ d vc userUID, [.asked d vc userUID "A", .documentGone d vc userUID "A",
      .cleared d vc "A", .accountGone d vc "A"].Sublist
        (trace (World.step CollectionViewController.models) deletionOp World.empty
          (firstSignUp ++ deletionEvents 9 "A")) := by
  have hobs : (run (World.step CollectionViewController.models) World.empty
      firstSignUp).bind (fun w₁ => (run (World.step CollectionViewController.models) w₁
        (deletionEvents 9 "A")).map (fun w₂ => (w₁.server.accounts.map Account.uid,
          w₂.server.accounts.map Account.uid))) = some (["A"], []) := by decide +kernel
  obtain ⟨w₁, hrun₁, hobs⟩ := Option.bind_eq_some_iff.mp hobs
  obtain ⟨w₂, hrun₂, hobs⟩ := Option.map_eq_some_iff.mp hobs
  simp only [Prod.mk.injEq] at hobs
  exact deletion_asked_for rfl hrun₁ hrun₂ (by rw [hobs.1]; decide) (by rw [hobs.2]; decide)

end GloboCollection
