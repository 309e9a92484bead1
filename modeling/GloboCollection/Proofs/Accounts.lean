import GloboCollection.Proofs.Steps

/-!
# Accounts and their profile documents

Signing up makes an account and asks for a document in `users` that carries
its uid. The document is stored under an identifier of its own; the deletion
looks for it under the uid. So the deletion finds nothing, reports success,
and leaves the document behind, and the two collections agree for as long as
nobody deletes an account: `mirrors_iff`.

The invariant counts, as the profiles of a world, the documents in `users`
together with those still on their way.
-/

namespace GloboCollection

open GloboCollection.Lib

/-- The uids of `users` are pairwise distinct, and they are those of the
accounts. -/
def Server.Mirrors (s : Server) : Prop :=
  (s.users.map UserDoc.uid).Nodup ∧
    ∀ u, u ∈ s.users.map UserDoc.uid ↔ u ∈ s.accounts.map Account.uid

/-- Nothing the document store is asked for fails; the authentication
service may refuse. -/
def Event.completes : Event → Bool
  | .reply (.addDocument ..) .failure | .reply (.deleteDocument ..) .failure => false
  | _ => true

/-- The event that an account is deleted. -/
def Event.deletesAccount : Event → Prop
  | .reply (.deleteUser ..) .success => True
  | _ => False

/-! ## Profiles -/

/-- The uid of a profile document on its way. -/
def Request.profile : Request → Option Uid
  | .addDocument _ _ uid => some uid
  | _ => none

/-- The uids of the profile documents, stored or on their way. -/
def World.profiles (w : World) : List Uid :=
  w.server.users.map UserDoc.uid ++ w.requests.filterMap Request.profile

theorem profile_erase {requests : List Request} {r : Request} (hr : r ∈ requests) :
    (requests.filterMap Request.profile).Perm
      (r.profile.toList ++ (requests.erase r).filterMap Request.profile) := by
  have hperm := (List.perm_cons_erase hr).filterMap Request.profile
  rw [List.filterMap_cons] at hperm
  cases hp : r.profile <;> rw [hp] at hperm <;> exact hperm

/-- What holds between the accounts, the profiles and the uids in use. -/
structure World.Ledger (w : World) : Prop where
  nodup : w.profiles.Nodup
  issued : ∀ u ∈ w.profiles, u ∈ w.server.issued
  accounts : ∀ u ∈ w.server.accounts.map Account.uid, u ∈ w.profiles
  docIDs : ∀ doc ∈ w.server.users, doc.docID ∉ w.server.issued
  stored : ∀ d u, (w.device d).defaults.userUID = some u → u ∈ w.server.issued
  deleting : ∀ d vc u x, .deleteDocument d vc u x ∈ w.requests → u ∈ w.server.issued

namespace World

variable {models : List Model} {w w' : World} {e : Event} {r : Request}
  {answer : Reply}

/-- Somebody's account is gone and the profile is still there. -/
def Orphaned (w : World) : Prop :=
  ∃ u ∈ w.profiles, u ∉ w.server.accounts.map Account.uid

/-- With no document on its way, the collections agree exactly when no
profile is orphaned. -/
theorem Ledger.mirrors_iff_not_orphaned (h : w.Ledger) (hquiet : w.requests = []) :
    w.server.Mirrors ↔ ¬ w.Orphaned := by
  have hprofiles : w.profiles = w.server.users.map UserDoc.uid := by
    rw [profiles, hquiet, List.filterMap_nil, List.append_nil]
  rw [Server.Mirrors, Orphaned, ← hprofiles]
  constructor
  · rintro ⟨-, hiff⟩ ⟨u, hu, hnot⟩
    exact hnot ((hiff u).mp hu)
  · intro hnone
    refine ⟨h.nodup, fun u => ⟨fun hu => ?_, h.accounts u⟩⟩
    by_contra hnot
    exact hnone ⟨u, hu, hnot⟩

/-- How a step can change the accounts and the profiles: not at all, by a
new account with its profile, or by an account that goes without it. -/
inductive Books (w : World) (e : Event) (w' : World) : Prop
  | same (hdel : ¬ e.deletesAccount) (hprofiles : w'.profiles.Perm w.profiles)
      (haccounts : w'.server.accounts = w.server.accounts)
      (hissued : w'.server.issued = w.server.issued)
  | opened (uid : Uid) (hdel : ¬ e.deletesAccount) (hfresh : uid ∉ w.server.issued)
      (hprofiles : w'.profiles.Perm (uid :: w.profiles))
      (haccounts : w'.server.accounts.map Account.uid =
        w.server.accounts.map Account.uid ++ [uid])
      (hissued : w'.server.issued = w.server.issued ++ [uid])
  | closed (uid : Uid) (hdel : e.deletesAccount)
      (huid : uid ∈ w.server.accounts.map Account.uid)
      (hprofiles : w'.profiles.Perm w.profiles)
      (haccounts : w'.server.accounts = w.server.accounts.filter fun a => a.uid ≠ uid)
      (hissued : w'.server.issued = w.server.issued)

/-- The deletion of a document finds none. -/
theorem Ledger.deleteDocument_users (h : w.Ledger) {u : Uid}
    (hu : u ∈ w.server.issued) : w.server.deleteDocument u = w.server := by
  rw [Server.deleteDocument]
  have hall : w.server.users.filter (fun doc => doc.docID ≠ u) = w.server.users := by
    rw [List.filter_eq_self]
    intro doc hdoc
    simp only [ne_eq, decide_not, Bool.not_eq_true', decide_eq_false_iff_not]
    rintro rfl
    exact h.docIDs doc hdoc hu
  rw [hall]

theorem Ledger.books (h : w.Ledger) (hc : e.completes)
    (hstep : w.step models e = some w') : Books w e w' := by
  have herase : ∀ {r}, r ∈ w.requests → r.profile = none →
      ((w.requests.erase r).filterMap Request.profile).Perm
        (w.requests.filterMap Request.profile) := by
    intro r hr hp
    have hperm := profile_erase hr
    rw [hp] at hperm
    exact hperm.symm
  have hnext : ∀ {r next}, r ∈ w.requests → r.profile = none → next.profile = none →
      ((w.requests.erase r ++ [next]).filterMap Request.profile).Perm
        (w.requests.filterMap Request.profile) := by
    intro r next hr hp hn
    rw [List.filterMap_append, List.filterMap_cons_none hn, List.filterMap_nil,
      List.append_nil]
    exact herase hr hp
  cases e with
  | act d a =>
      obtain ⟨o, hdoes, -, hserver, hreq, -⟩ := act_some hstep
      have hnone : o.requests.filterMap Request.profile = [] := by
        rw [List.filterMap_eq_nil_iff]
        intro r hr
        obtain ⟨vc, page, hsends⟩ := hdoes.requests r hr
        cases hsends <;> rfl
      refine .same (by simp [Event.deletesAccount]) ?_ (by rw [hserver]) (by rw [hserver])
      rw [profiles, profiles, hserver, hreq, List.filterMap_append, hnone, List.append_nil]
  | reply r answer =>
      obtain ⟨hr, hans⟩ := reply_answers hstep
      cases hans with
      | signIn _ =>
          exact .same (by simp [Event.deletesAccount])
            ((herase hr rfl).append_left _) rfl rfl
      | @createUser d vc userName email password uid hadmits =>
          refine .opened uid (by simp [Event.deletesAccount]) hadmits.2.1 ?_
            (by simp [Server.createUser]) rfl
          simp only [profiles, Server.createUser, List.filterMap_append,
            ← List.append_assoc]
          exact (List.perm_append_singleton uid _).trans
            (((herase hr rfl).append_left _).cons uid)
      | @addDocument nickName email uid docID hunused =>
          refine .same (by simp [Event.deletesAccount]) ?_ rfl rfl
          simp only [profiles, Server.addDocument, List.map_append, List.append_assoc]
          exact ((profile_erase hr).symm).append_left _
      | @deleteDocument d vc userUID currentUser =>
          have hserver : w.server.deleteDocument userUID = w.server :=
            h.deleteDocument_users (h.deleting d vc userUID currentUser hr)
          refine .same (by simp [Event.deletesAccount]) ?_ rfl rfl
          simp only [profiles, hserver]
          exact (hnext hr rfl rfl).append_left _
      | documentDeleted =>
          exact .same (by simp [Event.deletesAccount])
            ((hnext hr rfl rfl).append_left _) rfl rfl
      | @deleteUser d vc currentUser haccount =>
          exact .closed currentUser trivial haccount
            ((hnext hr rfl rfl).append_left _) rfl rfl
      | userDeleted =>
          exact .same (by simp [Event.deletesAccount])
            ((herase hr rfl).append_left _) rfl rfl
      | failed _ _ =>
          have hp : r.profile = none := by
            cases r <;> first | rfl | cases hc
          exact .same (by cases r <;> simp [Event.deletesAccount])
            ((herase hr hp).append_left _) rfl rfl
  | scoreRead i ok =>
      obtain ⟨s, -, rfl⟩ := scoreRead_some hstep
      exact .same (by simp [Event.deletesAccount]) (List.Perm.refl _) rfl rfl
  | scoreWrite i ok =>
      obtain ⟨s, -, rfl⟩ := scoreWrite_some hstep
      exact .same (by simp [Event.deletesAccount]) (List.Perm.refl _) rfl rfl

/-! ## The invariant along a run -/

theorem Books.issued_mono (h : Books w e w') {u : Uid} (hu : u ∈ w.server.issued) :
    u ∈ w'.server.issued := by
  cases h with
  | same _ _ _ hissued | closed _ _ _ _ _ hissued =>
      rw [hissued]
      exact hu
  | opened uid _ _ _ _ hissued =>
      rw [hissued]
      exact List.mem_append_left _ hu

/-- A document keeps an identifier that is no uid: new uids avoid the
identifiers in use, new identifiers avoid the uids. -/
theorem Ledger.docIDs_step (h : w.Ledger) (hstep : w.step models e = some w') :
    ∀ doc ∈ w'.server.users, doc.docID ∉ w'.server.issued := by
  cases e with
  | act d a =>
      obtain ⟨o, -, -, hserver, -⟩ := act_some hstep
      rw [hserver]
      exact h.docIDs
  | reply r answer =>
      obtain ⟨hr, hans⟩ := reply_answers hstep
      cases hans with
      | @createUser d vc userName email password uid hadmits =>
          intro doc hdoc hmem
          rcases List.mem_append.mp hmem with hmem | hmem
          · exact h.docIDs doc hdoc hmem
          · exact hadmits.2.2 doc hdoc (List.mem_singleton.mp hmem)
      | @addDocument nickName email uid docID hunused =>
          intro doc hdoc
          rcases List.mem_append.mp hdoc with hdoc | hdoc
          · exact h.docIDs doc hdoc
          · rw [List.mem_singleton.mp hdoc]
            exact hunused.1
      | deleteDocument => exact fun doc hdoc => h.docIDs doc (List.mem_of_mem_filter hdoc)
      | signIn | documentDeleted | deleteUser | userDeleted | failed => exact h.docIDs
  | scoreRead i ok =>
      obtain ⟨s, -, rfl⟩ := scoreRead_some hstep
      exact h.docIDs
  | scoreWrite i ok =>
      obtain ⟨s, -, rfl⟩ := scoreWrite_some hstep
      exact h.docIDs

/-- A stored uid was handed out by the service. -/
theorem Ledger.stored_step (h : w.Ledger) (hbooks : Books w e w')
    (hstep : w.step models e = some w') {d : DeviceId} {u : Uid}
    (hu : (w'.device d).defaults.userUID = some u) : u ∈ w'.server.issued := by
  rcases (step_moves hstep d).userUID hu with hold | ⟨vc, email, password, rfl⟩ |
    ⟨vc, userName, email, password, rfl⟩
  · exact hbooks.issued_mono (h.stored d u hold)
  · obtain ⟨-, hans⟩ := reply_answers hstep
    cases hans with
    | signIn haccount =>
        exact h.issued u (h.accounts u (List.mem_map.mpr ⟨_, haccount, rfl⟩))
  · obtain ⟨-, hans⟩ := reply_answers hstep
    cases hans with
    | createUser => exact List.mem_append_right _ (List.mem_singleton_self u)

/-- A deletion asks for the document of a uid that was handed out. -/
theorem Ledger.deleting_step (h : w.Ledger) (hbooks : Books w e w')
    (hstep : w.step models e = some w') {d : DeviceId} {vc : Nat} {u x : Uid}
    (hr : .deleteDocument d vc u x ∈ w'.requests) : u ∈ w'.server.issued := by
  have hold : .deleteDocument d vc u x ∈ w.requests → u ∈ w'.server.issued :=
    fun hmem => hbooks.issued_mono (h.deleting d vc u x hmem)
  cases e with
  | act d' a =>
      obtain ⟨o, hdoes, -, -, hreq, -⟩ := act_some hstep
      rw [hreq, List.mem_append] at hr
      rcases hr with hr | hr
      · exact hold hr
      · obtain ⟨vc', page, hsends⟩ := hdoes.requests _ hr
        cases hsends with
        | deleteDocument hstored _ => exact hbooks.issued_mono (h.stored d u hstored)
  | reply r answer =>
      obtain ⟨-, hans⟩ := reply_answers hstep
      cases hans with
      | signIn | addDocument | userDeleted | failed =>
          exact hold (List.mem_of_mem_erase hr)
      | createUser | deleteDocument | documentDeleted | deleteUser =>
          rcases List.mem_append.mp hr with hr | hr
          · exact hold (List.mem_of_mem_erase hr)
          · cases List.mem_singleton.mp hr
  | scoreRead i ok =>
      obtain ⟨s, -, rfl⟩ := scoreRead_some hstep
      exact hold hr
  | scoreWrite i ok =>
      obtain ⟨s, -, rfl⟩ := scoreWrite_some hstep
      exact hold hr

theorem Ledger.step (h : w.Ledger) (hc : e.completes)
    (hstep : w.step models e = some w') : w'.Ledger := by
  have hbooks := h.books hc hstep
  refine ⟨?_, ?_, ?_, h.docIDs_step hstep, fun _ _ => h.stored_step hbooks hstep,
    fun _ _ _ _ => h.deleting_step hbooks hstep⟩
  · cases hbooks with
    | same _ hprofiles _ _ | closed _ _ _ hprofiles _ _ =>
        exact hprofiles.nodup_iff.mpr h.nodup
    | opened uid _ hfresh hprofiles _ _ =>
        rw [hprofiles.nodup_iff, List.nodup_cons]
        exact ⟨fun hmem => hfresh (h.issued uid hmem), h.nodup⟩
  · intro u hu
    cases hbooks with
    | same _ hprofiles _ hissued | closed _ _ _ hprofiles _ hissued =>
        rw [hissued]
        exact h.issued u (hprofiles.mem_iff.mp hu)
    | opened uid _ _ hprofiles _ hissued =>
        rw [hissued, List.mem_append, List.mem_singleton]
        rcases List.mem_cons.mp (hprofiles.mem_iff.mp hu) with rfl | hu
        · exact Or.inr rfl
        · exact Or.inl (h.issued u hu)
  · intro u hu
    cases hbooks with
    | same _ hprofiles haccounts _ =>
        rw [haccounts] at hu
        exact hprofiles.mem_iff.mpr (h.accounts u hu)
    | opened uid _ _ hprofiles haccounts _ =>
        rw [haccounts, List.mem_append, List.mem_singleton] at hu
        rw [hprofiles.mem_iff, List.mem_cons]
        exact hu.symm.imp id (h.accounts u)
    | closed uid _ _ hprofiles haccounts _ =>
        rw [haccounts] at hu
        obtain ⟨a, ha, rfl⟩ := List.mem_map.mp hu
        exact hprofiles.mem_iff.mpr
          (h.accounts a.uid (List.mem_map.mpr ⟨a, List.mem_of_mem_filter ha, rfl⟩))

/-- A profile is orphaned by the deletion of its account, and stays so. -/
theorem Ledger.orphaned_step (h : w.Ledger) (hc : e.completes)
    (hstep : w.step models e = some w') :
    w'.Orphaned ↔ w.Orphaned ∨ e.deletesAccount := by
  cases h.books hc hstep with
  | same hdel hprofiles haccounts _ =>
      simp only [Orphaned, haccounts, hprofiles.mem_iff, hdel, or_false]
  | opened uid hdel hfresh hprofiles haccounts _ =>
      simp only [Orphaned, haccounts, hprofiles.mem_iff, hdel, or_false,
        List.mem_cons, List.mem_append, List.not_mem_nil]
      constructor
      · rintro ⟨u, rfl | hu, hnot⟩
        · exact absurd (Or.inr rfl) hnot
        · exact ⟨u, hu, fun hmem => hnot (Or.inl hmem)⟩
      · rintro ⟨u, hu, hnot⟩
        refine ⟨u, Or.inr hu, ?_⟩
        rintro (hmem | rfl)
        · exact hnot hmem
        · exact hfresh (h.issued u hu)
  | closed uid hdel huid hprofiles haccounts _ =>
      refine iff_of_true ⟨uid, ?_, ?_⟩ (Or.inr hdel)
      · exact hprofiles.mem_iff.mpr (h.accounts uid huid)
      · rw [haccounts]
        simp

end World

/-! ## The two collections -/

/-- No account and no profile document, and every uid a device has stored
was handed out at some time. -/
structure World.NoAccounts (w : World) : Prop where
  accounts : w.server.accounts = []
  users : w.server.users = []
  stored : ∀ d u, (w.device d).defaults.userUID = some u → u ∈ w.server.issued

theorem World.NoAccounts.ledger {w : World} (h : w.NoAccounts)
    (hquiet : w.requests = []) : w.Ledger := by
  have hprofiles : w.profiles = [] := by
    rw [World.profiles, h.users, hquiet]
    rfl
  refine ⟨by simp [hprofiles], by simp [hprofiles], by simp [h.accounts],
    by simp [h.users], h.stored, by simp [hquiet]⟩

/-- From no account at all, in every state with no request in flight, the
`users` collection mirrors the accounts exactly when no account was deleted
on the way. -/
theorem mirrors_iff {models : List Model} {w₀ w : World} {es : List Event}
    (hstart : w₀.requests = []) (hnone : w₀.NoAccounts)
    (hrun : run (World.step models) w₀ es = some w)
    (hcompletes : ∀ e ∈ es, e.completes) (hquiet : w.requests = []) :
    w.server.Mirrors ↔ ∀ e ∈ es, ¬ e.deletesAccount := by
  have hledger₀ := hnone.ledger hstart
  have hinv : (∀ e ∈ es, e.completes) →
      w.Ledger ∧ (w.Orphaned ↔ ∃ e ∈ es, e.deletesAccount) := by
    refine run_induction (P := fun es w => (∀ e ∈ es, e.completes) →
      w.Ledger ∧ (w.Orphaned ↔ ∃ e ∈ es, e.deletesAccount))
      (fun _ => ⟨hledger₀, ?_⟩) ?_ hrun
    · simp [World.Orphaned, World.profiles, hnone.users, hstart]
    · intro es w e w' _ ih hstep hc
      rw [List.forall_mem_append, List.forall_mem_singleton] at hc
      obtain ⟨hledger, horphaned⟩ := ih hc.1
      refine ⟨hledger.step hc.2 hstep, ?_⟩
      rw [hledger.orphaned_step hc.2 hstep, horphaned]
      simp only [List.mem_append, List.mem_singleton, or_and_right, exists_or,
        exists_eq_left]
  obtain ⟨hledger, horphaned⟩ := hinv hcompletes
  rw [hledger.mirrors_iff_not_orphaned hquiet, horphaned]
  simp only [not_exists, not_and]

theorem World.empty_noAccounts : World.empty.NoAccounts :=
  ⟨rfl, rfl, fun _ _ hu => by cases hu⟩

theorem mirrors_after_signUp :
    ∃ w, run (World.step CollectionViewController.models) World.empty firstSignUp =
        some w ∧ w.requests = [] ∧ (∀ e ∈ firstSignUp, ¬ e.deletesAccount) ∧
      w.server.users.map UserDoc.uid = ["A"] ∧ w.server.Mirrors := by
  have hobs : (run (World.step CollectionViewController.models) World.empty firstSignUp).map
      (fun w => (w.requests, w.server.users.map UserDoc.uid)) = some ([], ["A"]) := by
    decide +kernel
  obtain ⟨w, hrun, hobs⟩ := Option.map_eq_some_iff.mp hobs
  simp only [Prod.mk.injEq] at hobs
  have hkept : ∀ e ∈ firstSignUp, ¬ e.deletesAccount := by
    simp [firstSignUp, signUpEvents, Event.deletesAccount]
  exact ⟨w, hrun, hobs.1, hkept, hobs.2,
    (mirrors_iff rfl World.empty_noAccounts hrun (by decide) hobs.1).mpr hkept⟩

/-- Whoever signs up and deletes the account stays in `users`. -/
theorem deleted_account_stays_in_users :
    ∃ w, run (World.step CollectionViewController.models) World.empty
        (firstSignUp ++ deletionEvents 9 "A") = some w ∧
      (∀ e ∈ firstSignUp ++ deletionEvents 9 "A", e.completes) ∧
      w.requests = [] ∧ ¬ w.server.Mirrors := by
  refine ⟨_, rfl, by decide, rfl, ?_⟩
  rintro ⟨-, hiff⟩
  exact absurd ((hiff "A").mp (by decide)) (by decide)

end GloboCollection
