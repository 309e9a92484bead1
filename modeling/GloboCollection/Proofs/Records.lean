import GloboCollection.App.Shell
import GloboCollection.Proofs.Accounts
import GloboCollection.Proofs.Lifecycle
import GloboCollection.Proofs.RankingLoad

/-!
# What the server keeps

Two collections are kept for the users of the app: a profile in `users` for
each sign-up, and the scores of whoever redeemed a sticker. This module says
where their documents come from and where they go.

They come from sign-ups. A profile carries the name, the email and the uid
of one sign-up that went through, and no sign-up has two; a score document
belongs to a uid that a sign-up was given. This holds whatever fails, and a
sign-up without a profile is one whose profile is on its way or was refused:
the uids handed out are, each once, those of the three kinds.

They go nowhere. The only request that removes a document asks for one under
a uid, and no document is stored under a uid. So every document that is there
at one moment is there at all later ones, deletions of accounts included.

For the ranking, which lists the profiles in whatever order the store hands
them out, it means that its rows are the sign-ups: `ranking_of_run`.
-/

namespace GloboCollection

open GloboCollection.Lib

/-! ## Sign-ups -/

/-- A sign-up with this name and this email went through, and was given this
uid. -/
def SignedUp (es : List Event) (name email : String) (uid : Uid) : Prop :=
  ∃ d vc password,
    .reply (.createUser d vc name email password) (.successWith uid) ∈ es

/-- Nobody has signed up yet, and no device believes so. -/
structure World.Unclaimed (w : World) : Prop where
  requests : w.requests = []
  server : w.server = ⟨[], [], []⟩
  stored : ∀ d, (w.device d).defaults.userUID = none
  docs : ∀ u, w.scores.docs u = none
  redeems : w.scores.redeems = []

theorem World.empty_unclaimed : World.empty.Unclaimed :=
  ⟨rfl, rfl, fun _ => rfl, fun _ => rfl, rfl⟩

theorem World.Unclaimed.registry {w : World} (h : w.Unclaimed) : w.server.Registry := by
  rw [h.server]
  exact ⟨List.nodup_nil, List.Sublist.refl _, List.nodup_nil⟩

section SignUps

variable {models : List Model} {w₀ w w' : World} {es : List Event} {e : Event}
  {name email : String} {u : Uid}

theorem SignedUp.concat (h : SignedUp es name email u) : SignedUp (es ++ [e]) name email u := by
  obtain ⟨d, vc, password, hmem⟩ := h
  exact ⟨d, vc, password, List.mem_append_left _ hmem⟩

theorem signedUp_concat : SignedUp (es ++ [e]) name email u ↔ SignedUp es name email u ∨
    ∃ d vc password, e = .reply (.createUser d vc name email password) (.successWith u) := by
  refine ⟨fun h => ?_, fun h => ?_⟩
  · obtain ⟨d, vc, password, hmem⟩ := h
    rcases List.mem_append.mp hmem with hmem | hmem
    · exact Or.inl ⟨d, vc, password, hmem⟩
    · exact Or.inr ⟨d, vc, password, (List.mem_singleton.mp hmem).symm⟩
  · rcases h with h | ⟨d, vc, password, rfl⟩
    · exact h.concat
    · exact ⟨d, vc, password, by simp⟩

/-- The texts of a sign-up that went through are trimmed and not blank. -/
theorem SignedUp.typed (hstart : w₀.requests = [])
    (hrun : run (World.step models) w₀ es = some w) (h : SignedUp es name email u) :
    TypedText name ∧ TypedText email := by
  obtain ⟨d, vc, password, hmem⟩ := h
  obtain ⟨pre, post, rfl⟩ := List.append_of_mem hmem
  obtain ⟨w₁, hpre, hrest⟩ := run_append_some.mp hrun
  rw [run_cons, Option.bind_eq_some_iff] at hrest
  obtain ⟨w₂, hstep, -⟩ := hrest
  have htyped := typed_of_run hstart hpre _ (World.reply_answers hstep).1
  exact ⟨htyped.1, htyped.2.1⟩

/-- The uids handed out are those of the sign-ups that went through. -/
theorem mem_issued_iff (hstart : w₀.server.issued = [])
    (hrun : run (World.step models) w₀ es = some w) :
    u ∈ w.server.issued ↔ ∃ name email, SignedUp es name email u := by
  refine run_induction (P := fun es w => u ∈ w.server.issued ↔
    ∃ name email, SignedUp es name email u) ?_ ?_ hrun
  · rw [hstart]
    refine iff_of_false (by simp) fun h => ?_
    obtain ⟨name, email, d, vc, password, hmem⟩ := h
    cases hmem
  · intro es w e w' _ ih hstep
    refine ⟨fun hu => ?_, fun h => ?_⟩
    · have hold : u ∈ w.server.issued → ∃ name email, SignedUp (es ++ [e]) name email u := by
        intro hu
        obtain ⟨name, email, h⟩ := ih.mp hu
        exact ⟨name, email, h.concat⟩
      cases World.step_registers hstep with
      | same _ hissued => exact hold (hissued ▸ hu)
      | deleted _ _ _ _ _ hissued => exact hold (hissued ▸ hu)
      | created d vc userName email password uid he _ _ _ hissued =>
          rw [hissued, List.mem_append, List.mem_singleton] at hu
          rcases hu with hu | rfl
          · exact hold hu
          · exact ⟨userName, email, signedUp_concat.mpr (Or.inr ⟨d, vc, password, he⟩)⟩
    · obtain ⟨name, email, h⟩ := h
      rcases signedUp_concat.mp h with h | ⟨d, vc, password, rfl⟩
      · have hu := ih.mpr ⟨name, email, h⟩
        exact ((World.step_registers hstep).old (a := ⟨u, email, ""⟩) hu).1
      · obtain ⟨-, hans⟩ := World.reply_answers hstep
        cases hans with
        | createUser => exact List.mem_append_right _ (List.mem_singleton_self u)

end SignUps

/-! ## Uids in use -/

/-- Every uid that is stored on a device, asked to be deleted, or redeemed
for was handed out, and so was that of every score document. -/
structure World.Known (w : World) : Prop where
  stored : ∀ d u, (w.device d).defaults.userUID = some u → u ∈ w.server.issued
  deleting : ∀ d vc u x, .deleteDocument d vc u x ∈ w.requests → u ∈ w.server.issued
  redeems : ∀ r ∈ w.scores.redeems, r.userUID ∈ w.server.issued
  docs : ∀ u, w.scores.docs u ≠ none → u ∈ w.server.issued

namespace World.Known

variable {models : List Model} {w w' : World} {e : Event} {u : Uid}

theorem issued_mono (hstep : w.step models e = some w') (hu : u ∈ w.server.issued) :
    u ∈ w'.server.issued :=
  ((World.step_registers hstep).old (a := ⟨u, "", ""⟩) hu).1

theorem stored_step (h : w.Known) (hreg : w.server.Registry)
    (hstep : w.step models e = some w') {d : DeviceId}
    (hu : (w'.device d).defaults.userUID = some u) : u ∈ w'.server.issued := by
  rcases (step_moves hstep d).userUID hu with hold | ⟨vc, email, password, rfl⟩ |
    ⟨vc, userName, email, password, rfl⟩
  · exact issued_mono hstep (h.stored d u hold)
  · obtain ⟨-, hans⟩ := reply_answers hstep
    cases hans with
    | signIn haccount => exact hreg.accounts.subset (List.mem_map.mpr ⟨_, haccount, rfl⟩)
  · obtain ⟨-, hans⟩ := reply_answers hstep
    cases hans with
    | createUser => exact List.mem_append_right _ (List.mem_singleton_self u)

theorem deleting_step (h : w.Known) (hstep : w.step models e = some w') {d : DeviceId}
    {vc : Nat} {x : Uid} (hr : .deleteDocument d vc u x ∈ w'.requests) :
    u ∈ w'.server.issued := by
  rcases step_requests hstep hr with hr | ⟨d', a, -, hasks⟩ | ⟨r₀, answer, -, -, hfollows⟩
  · exact issued_mono hstep (h.deleting d vc u x hr)
  · cases hasks with
    | deletion _ hstored => exact issued_mono hstep (h.stored d u hstored)
  · cases hfollows

/-- The scores after a step: a redeem is issued for the stored uid, a
callback moves one on, and a write is to the document of a redeem. -/
theorem scores_step (h : w.Known) (hstep : w.step models e = some w') :
    (∀ r ∈ w'.scores.redeems, r.userUID ∈ w.server.issued) ∧
      ∀ u, w'.scores.docs u ≠ none → u ∈ w.server.issued := by
  have hset : ∀ {r : Redeem} {i : Nat} {phase : Phase}, w.scores.redeems[i]? = some r →
      ∀ r' ∈ w.scores.redeems.set i { r with phase := phase },
        r'.userUID ∈ w.server.issued := by
    intro r i phase hr r' hr'
    rcases List.mem_or_eq_of_mem_set hr' with hr' | rfl
    · exact h.redeems r' hr'
    · exact h.redeems r (List.mem_of_getElem? hr)
  cases e with
  | act d a =>
      obtain ⟨o, hdoes, -, -, -, hscores⟩ := act_some hstep
      rw [hscores]
      cases ho : o.redeem with
      | none => exact ⟨h.redeems, h.docs⟩
      | some redeem =>
          refine ⟨fun r hr => ?_, h.docs⟩
          rcases List.mem_append.mp hr with hr | hr
          · exact h.redeems r hr
          · rw [List.mem_singleton.mp hr]
            exact h.stored d redeem.1 (hdoes.redeem_userUID ho)
  | reply r answer =>
      obtain ⟨-, hans⟩ := reply_answers hstep
      cases hans <;> exact ⟨h.redeems, h.docs⟩
  | scoreRead i ok =>
      obtain ⟨s, hs, rfl⟩ := scoreRead_some hstep
      obtain ⟨r, hr, -, rfl⟩ := Scores.readCallback_some.mp hs
      exact ⟨hset hr, h.docs⟩
  | scoreWrite i ok =>
      obtain ⟨s, hs, rfl⟩ := scoreWrite_some hstep
      obtain ⟨r, hr, -, hredeems, hdocs⟩ := Scores.write_docs hs
      refine ⟨fun r' hr' => hset hr r' (hredeems ▸ hr'), fun u hu => ?_⟩
      rw [hdocs] at hu
      split at hu <;> rename_i hown
      · rw [← hown.2]
        exact h.redeems r (List.mem_of_getElem? hr)
      · exact h.docs u hu

theorem step (h : w.Known) (hreg : w.server.Registry)
    (hstep : w.step models e = some w') : w'.Known := by
  obtain ⟨hredeems, hdocs⟩ := h.scores_step hstep
  exact ⟨fun _ _ => h.stored_step hreg hstep, fun _ _ _ _ => h.deleting_step hstep,
    fun r hr => issued_mono hstep (hredeems r hr),
    fun u hu => issued_mono hstep (hdocs u hu)⟩

end World.Known

/-! ## The profiles -/

/-- How a step can change the `users` collection. -/
inductive World.Files (w : World) (w' : World) : Prop
  | same (husers : w'.server.users = w.server.users)
  | added (nickName email : String) (uid : Uid) (docID : String)
      (hr : .addDocument nickName email uid ∈ w.requests) (hunused : w.server.Unused docID)
      (husers : w'.server.users = w.server.users ++ [⟨docID, nickName, email, uid⟩])
      (hissued : w'.server.issued = w.server.issued)
  | removed (d : DeviceId) (vc : Nat) (userUID currentUser : Uid)
      (hr : .deleteDocument d vc userUID currentUser ∈ w.requests)
      (husers : w'.server.users = w.server.users.filter fun doc => doc.docID ≠ userUID)
      (hissued : w'.server.issued = w.server.issued)

theorem World.step_files {models : List Model} {w w' : World} {e : Event}
    (h : w.step models e = some w') : w.Files w' := by
  cases e with
  | act d a =>
      obtain ⟨o, -, -, hserver, -⟩ := act_some h
      exact .same (by rw [hserver])
  | reply r answer =>
      obtain ⟨hr, hans⟩ := reply_answers h
      cases hans with
      | @addDocument nickName email uid docID hunused =>
          exact .added nickName email uid docID hr hunused rfl rfl
      | @deleteDocument d vc userUID currentUser =>
          exact .removed d vc userUID currentUser hr rfl rfl
      | signIn | createUser | documentDeleted | deleteUser | userDeleted | failed =>
          exact .same rfl
  | scoreRead i ok =>
      obtain ⟨s, -, rfl⟩ := scoreRead_some h
      exact .same rfl
  | scoreWrite i ok =>
      obtain ⟨s, -, rfl⟩ := scoreWrite_some h
      exact .same rfl

/-- The uid of a profile whose request has just failed. -/
def Event.lostProfile : Event → Option Uid
  | .reply (.addDocument _ _ uid) .failure => some uid
  | _ => none

/-- How a step can change the profiles and the uids handed out: not at all,
by a new one of both, or by the loss of a profile. -/
inductive World.Turnover (w : World) (e : Event) (w' : World) : Prop
  | same (hlost : e.lostProfile = none) (hprofiles : w'.profiles.Perm w.profiles)
      (hissued : w'.server.issued = w.server.issued)
  | opened (uid : Uid) (hlost : e.lostProfile = none)
      (hprofiles : w'.profiles.Perm (uid :: w.profiles))
      (hissued : w'.server.issued = w.server.issued ++ [uid])
  | lost (uid : Uid) (hlost : e.lostProfile = some uid)
      (hprofiles : w.profiles.Perm (uid :: w'.profiles))
      (hissued : w'.server.issued = w.server.issued)

/-- What the run says about the profiles, stored or on their way. -/
structure World.Filed (es : List Event) (w : World) : Prop where
  docIDs : ∀ doc ∈ w.server.users, doc.docID ∉ w.server.issued
  stored : ∀ doc ∈ w.server.users, SignedUp es doc.nickName doc.email doc.uid
  pending : ∀ nickName email uid, .addDocument nickName email uid ∈ w.requests →
    SignedUp es nickName email uid

namespace World.Filed

variable {models : List Model} {w w' : World} {es : List Event} {e : Event}

/-- What a deletion asks for is not there. -/
theorem deleteDocument_eq (h : w.Filed es) (hknown : w.Known) {d : DeviceId} {vc : Nat}
    {u x : Uid} (hr : .deleteDocument d vc u x ∈ w.requests) :
    w.server.users.filter (fun doc => doc.docID ≠ u) = w.server.users := by
  rw [List.filter_eq_self]
  intro doc hdoc
  rw [decide_eq_true_eq]
  intro heq
  refine h.docIDs doc hdoc ?_
  rw [heq]
  exact hknown.deleting d vc u x hr

/-- The `users` collection only grows. -/
theorem users_grow (h : w.Filed es) (hknown : w.Known)
    (hstep : w.step models e = some w') : w.server.users ⊆ w'.server.users := by
  cases step_files hstep with
  | same husers =>
      rw [husers]
      exact List.Subset.refl _
  | added nickName email uid docID _ _ husers _ =>
      rw [husers]
      exact List.subset_append_left _ _
  | removed d vc userUID currentUser hr husers _ =>
      rw [husers, h.deleteDocument_eq hknown hr]
      exact List.Subset.refl _

/-- New uids avoid the identifiers in use, new identifiers avoid the uids. -/
theorem docIDs_step (h : w.Filed es) (hstep : w.step models e = some w') :
    ∀ doc ∈ w'.server.users, doc.docID ∉ w'.server.issued := by
  intro doc hdoc
  have hold : doc ∈ w.server.users ∨ doc.docID ∉ w'.server.issued := by
    cases step_files hstep with
    | same husers => exact Or.inl (husers ▸ hdoc)
    | added nickName email uid docID _ hunused husers hissued =>
        rw [husers, List.mem_append, List.mem_singleton] at hdoc
        rcases hdoc with hdoc | rfl
        · exact Or.inl hdoc
        · rw [hissued]
          exact Or.inr hunused.1
    | removed d vc userUID currentUser _ husers _ =>
        rw [husers] at hdoc
        exact Or.inl (List.mem_of_mem_filter hdoc)
  rcases hold with hold | hnew
  · cases step_registers hstep with
    | same _ hissued | deleted _ _ _ _ _ hissued =>
        rw [hissued]
        exact h.docIDs doc hold
    | created _ _ _ _ _ uid _ _ hadmits _ hissued =>
        rw [hissued, List.mem_append, List.mem_singleton, not_or]
        exact ⟨h.docIDs doc hold, hadmits.2.2 doc hold⟩
  · exact hnew

theorem stored_step (h : w.Filed es) (hstep : w.step models e = some w') :
    ∀ doc ∈ w'.server.users, SignedUp (es ++ [e]) doc.nickName doc.email doc.uid := by
  intro doc hdoc
  cases step_files hstep with
  | same husers => exact (h.stored doc (husers ▸ hdoc)).concat
  | added nickName email uid docID hr _ husers _ =>
      rw [husers, List.mem_append, List.mem_singleton] at hdoc
      rcases hdoc with hdoc | rfl
      · exact (h.stored doc hdoc).concat
      · exact (h.pending _ _ _ hr).concat
  | removed d vc userUID currentUser _ husers _ =>
      rw [husers] at hdoc
      exact (h.stored doc (List.mem_of_mem_filter hdoc)).concat

theorem pending_step (h : w.Filed es) (hstep : w.step models e = some w')
    {nickName email : String} {uid : Uid}
    (hr : .addDocument nickName email uid ∈ w'.requests) :
    SignedUp (es ++ [e]) nickName email uid := by
  rcases step_requests hstep hr with hr | ⟨d, a, -, hasks⟩ | ⟨r₀, answer, rfl, -, hfollows⟩
  · exact (h.pending _ _ _ hr).concat
  · cases hasks
  · cases hfollows with
    | profile => exact ⟨_, _, _, List.mem_append_right _ (List.mem_singleton_self _)⟩

theorem step (h : w.Filed es) (hstep : w.step models e = some w') : w'.Filed (es ++ [e]) :=
  ⟨h.docIDs_step hstep, h.stored_step hstep, fun _ _ _ => h.pending_step hstep⟩

/-- A profile is asked for once, when its uid is handed out. It is then on
its way, stored, or lost. -/
theorem turnover (h : w.Filed es) (hknown : w.Known) (hstep : w.step models e = some w') :
    w.Turnover e w' := by
  have herase : ∀ {r}, r ∈ w.requests → r.profile = none →
      ((w.requests.erase r).filterMap Request.profile).Perm
        (w.requests.filterMap Request.profile) := by
    intro r hr hp
    have hperm := profile_erase hr
    rw [hp] at hperm
    exact hperm.symm
  have hnext : ∀ {r next}, r ∈ w.requests → r.profile = none → next.profile = none →
      ((w.requests.erase r ++ [next]).filterMap Request.profile).Perm
        (w.requests.filterMap Request.profile) := by
    intro r next hr hp hn
    rw [List.filterMap_append, List.filterMap_cons_none hn, List.filterMap_nil,
      List.append_nil]
    exact herase hr hp
  cases e with
  | act d a =>
      obtain ⟨o, hdoes, -, hserver, hreq, -⟩ := act_some hstep
      have hnone : o.requests.filterMap Request.profile = [] := by
        rw [List.filterMap_eq_nil_iff]
        intro r hr
        obtain ⟨vc, page, hsends⟩ := hdoes.requests r hr
        cases hsends <;> rfl
      refine .same rfl ?_ (by rw [hserver])
      rw [profiles, profiles, hserver, hreq, List.filterMap_append, hnone, List.append_nil]
  | reply r answer =>
      obtain ⟨hr, hans⟩ := reply_answers hstep
      cases hans with
      | signIn | userDeleted => exact .same rfl ((herase hr rfl).append_left _) rfl
      | @createUser d vc userName email password uid hadmits =>
          refine .opened uid rfl ?_ rfl
          simp only [profiles, Server.createUser, List.filterMap_append, ← List.append_assoc]
          exact (List.perm_append_singleton uid _).trans
            (((herase hr rfl).append_left _).cons uid)
      | @addDocument nickName email uid docID hunused =>
          refine .same rfl ?_ rfl
          simp only [profiles, Server.addDocument, List.map_append, List.append_assoc]
          exact ((profile_erase hr).symm).append_left _
      | @deleteDocument d vc userUID currentUser =>
          refine .same rfl ?_ rfl
          simp only [profiles, Server.deleteDocument, h.deleteDocument_eq hknown hr]
          exact (hnext hr rfl rfl).append_left _
      | documentDeleted | deleteUser => exact .same rfl ((hnext hr rfl rfl).append_left _) rfl
      | failed =>
          cases r with
          | addDocument nickName email uid =>
              refine .lost uid rfl ?_ rfl
              exact ((profile_erase hr).append_left _).trans List.perm_middle
          | signIn | createUser | deleteDocument | documentDeleted | deleteUser
          | userDeleted => exact .same rfl ((herase hr rfl).append_left _) rfl
  | scoreRead i ok =>
      obtain ⟨s, -, rfl⟩ := scoreRead_some hstep
      exact .same rfl (List.Perm.refl _) rfl
  | scoreWrite i ok =>
      obtain ⟨s, -, rfl⟩ := scoreWrite_some hstep
      exact .same rfl (List.Perm.refl _) rfl

end World.Filed

/-! ## Whole runs -/

section Runs

variable {models : List Model} {w₀ w w₁ w₂ : World} {es fs : List Event}

theorem known_of_run (hstart : w₀.Unclaimed) (hrun : run (World.step models) w₀ es = some w) :
    w.Known := by
  refine run_induction (P := fun _ w => w.Known) ?_ ?_ hrun
  · refine ⟨fun d u hu => ?_, by simp [hstart.requests], by simp [hstart.redeems],
      fun u hu => absurd (hstart.docs u) hu⟩
    rw [hstart.stored] at hu
    cases hu
  · intro es w e w' hw h hstep
    exact h.step (registry_of_run hstart.registry hw) hstep

theorem filed_of_run (hstart : w₀.Unclaimed) (hrun : run (World.step models) w₀ es = some w) :
    w.Filed es := by
  refine run_induction (P := fun es w => w.Filed es) ?_ ?_ hrun
  · exact ⟨by simp [hstart.server], by simp [hstart.server], by simp [hstart.requests]⟩
  · intro es w e w' hw h hstep
    exact h.step hstep

/-- The uids handed out are, each of them once, those of the profiles and of
the requests for one that failed. -/
theorem conserved_of_run (hstart : w₀.Unclaimed)
    (hrun : run (World.step models) w₀ es = some w) :
    (w.profiles ++ es.filterMap Event.lostProfile).Perm w.server.issued := by
  refine run_induction (P := fun es w =>
    (w.profiles ++ es.filterMap Event.lostProfile).Perm w.server.issued) ?_ ?_ hrun
  · simp [World.profiles, hstart.server, hstart.requests]
  · intro es w e w' hw h hstep
    rw [List.filterMap_append, ← List.append_assoc]
    cases (filed_of_run hstart hw).turnover (known_of_run hstart hw) hstep with
    | same hlost hprofiles hissued =>
        rw [hissued, List.filterMap_cons_none hlost, List.filterMap_nil, List.append_nil]
        exact (hprofiles.append_right _).trans h
    | opened uid hlost hprofiles hissued =>
        rw [hissued, List.filterMap_cons_none hlost, List.filterMap_nil, List.append_nil]
        exact ((hprofiles.append_right _).trans (h.cons uid)).trans
          (List.perm_append_singleton uid _).symm
    | lost uid hlost hprofiles hissued =>
        rw [hissued, List.filterMap_cons_some hlost, List.filterMap_nil]
        refine ((List.perm_append_singleton uid _).trans ?_).trans h
        exact (hprofiles.symm).append_right _

theorem nodup_profiles (hstart : w₀.Unclaimed)
    (hrun : run (World.step models) w₀ es = some w) : w.profiles.Nodup := by
  have hissued := (registry_of_run hstart.registry hrun).issued
  exact ((conserved_of_run hstart hrun).nodup_iff.mpr hissued).sublist
    (List.sublist_append_left _ _)

/-- A score document has a list, and stays. -/
theorem World.step_docs {w' : World} {e : Event} (hstep : w.step models e = some w')
    (hlists : ∀ u doc, w.scores.docs u = some doc → doc.scores.isSome = true) :
    (∀ u doc, w'.scores.docs u = some doc → doc.scores.isSome = true) ∧
      ∀ u, (w.scores.docs u).isSome = true → (w'.scores.docs u).isSome = true := by
  cases e with
  | act d a =>
      obtain ⟨o, -, -, -, -, hscores⟩ := act_some hstep
      rw [hscores]
      cases o.redeem <;> exact ⟨hlists, fun _ => id⟩
  | reply r answer =>
      obtain ⟨-, hans⟩ := reply_answers hstep
      cases hans <;> exact ⟨hlists, fun _ => id⟩
  | scoreRead i ok =>
      obtain ⟨s, hs, rfl⟩ := scoreRead_some hstep
      obtain ⟨r, -, -, rfl⟩ := Scores.readCallback_some.mp hs
      exact ⟨hlists, fun _ => id⟩
  | scoreWrite i ok =>
      obtain ⟨s, hs, rfl⟩ := scoreWrite_some hstep
      obtain ⟨r, -, hphase, -, hdocs⟩ := Scores.write_docs hs
      refine ⟨fun u doc hdoc => ?_, fun u hu => ?_⟩
      · rw [hdocs] at hdoc
        split at hdoc
        · rw [Redeem.written] at hdoc
          rcases hphase with hphase | hphase <;> simp only [hphase] at hdoc
          · obtain ⟨d, -, rfl⟩ := Option.map_eq_some_iff.mp hdoc
            rfl
          · cases hdoc
            rfl
        · exact hlists u doc hdoc
      · rw [hdocs]
        split
        · rw [Redeem.written]
          rcases hphase with hphase | hphase <;> simp [hphase, updateData, hu]
        · exact hu

theorem lists_of_run (hstart : w₀.Unclaimed) (hrun : run (World.step models) w₀ es = some w) :
    ∀ u doc, w.scores.docs u = some doc → doc.scores.isSome = true := by
  refine run_invariant (P := fun w => ∀ u doc, w.scores.docs u = some doc →
    doc.scores.isSome = true) (fun w e w' h hstep => (World.step_docs hstep h).1) hrun ?_
  intro u doc hdoc
  rw [hstart.docs] at hdoc
  cases hdoc

end Runs

/-- Every profile is that of one sign-up, with the name and the email typed
there and the uid it was given, no two are of the same uid, and every score
document belongs to a uid that some sign-up was given; whatever failed. -/
theorem documents_of_signUps {models : List Model} {w₀ w : World} {es : List Event}
    (hstart : w₀.Unclaimed) (hrun : run (World.step models) w₀ es = some w) :
    (w.server.users.map UserDoc.uid).Nodup ∧
      (∀ doc ∈ w.server.users, SignedUp es doc.nickName doc.email doc.uid ∧
        TypedText doc.nickName ∧ TypedText doc.email) ∧
      ∀ u, w.scores.docs u ≠ none → ∃ name email, SignedUp es name email u := by
  have hfiled := filed_of_run hstart hrun
  refine ⟨?_, fun doc hdoc => ?_, fun u hu => ?_⟩
  · exact (nodup_profiles hstart hrun).sublist (List.sublist_append_left _ _)
  · have hsigned := hfiled.stored doc hdoc
    exact ⟨hsigned, hsigned.typed hstart.requests hrun⟩
  · exact (mem_issued_iff (by rw [hstart.server]) hrun).mp ((known_of_run hstart hrun).docs u hu)

/-- Ana's profile and her scores, after her account was deleted; the deletion
was asked for before she went on to redeem. -/
theorem documents_of_signUps_ana :
    let es := firstSignUp ++ (deletionEvents 9 "A").take 1 ++ quizEvents 8 0 ++
      redeemEvents ++ (deletionEvents 9 "A").drop 1
    ∃ w, run (World.step CollectionViewController.models) World.empty es = some w ∧
      Shell.Possible CollectionViewController.models World.empty false es ∧
      ⟨"doc1", "Ana", "ana@globo.com", "A"⟩ ∈ w.server.users ∧
      SignedUp es "Ana" "ana@globo.com" "A" ∧
      (w.scores.docs "A").isSome = true ∧ ∃ name email, SignedUp es name email "A" := by
  intro es
  have hobs : (run (World.step CollectionViewController.models) World.empty es).map
      (fun w => (w.server.users, (w.scores.docs "A").isSome)) =
      some ([⟨"doc1", "Ana", "ana@globo.com", "A"⟩], true) := by decide +kernel
  obtain ⟨w, hrun, hobs⟩ := Option.map_eq_some_iff.mp hobs
  simp only [Prod.mk.injEq] at hobs
  have hmem : ⟨"doc1", "Ana", "ana@globo.com", "A"⟩ ∈ w.server.users := by simp [hobs.1]
  obtain ⟨-, hprofiles, hscores⟩ := documents_of_signUps World.empty_unclaimed hrun
  refine ⟨w, hrun, by decide +kernel, hmem, (hprofiles _ hmem).1, hobs.2, hscores "A" ?_⟩
  exact Option.isSome_iff_ne_none.mp hobs.2

/-- Every sign-up that went through is accounted for: the uids given to the
sign-ups of the run are, each exactly once, those of the profiles stored, of
the profiles on their way, and of those whose request failed. -/
theorem signUps_accounted {models : List Model} {w₀ w : World} {es : List Event}
    (hstart : w₀.Unclaimed) (hrun : run (World.step models) w₀ es = some w) :
    (w.server.users.map UserDoc.uid ++ w.requests.filterMap Request.profile ++
        es.filterMap Event.lostProfile).Nodup ∧
      ∀ u, u ∈ w.server.users.map UserDoc.uid ++ w.requests.filterMap Request.profile ++
          es.filterMap Event.lostProfile ↔ ∃ name email, SignedUp es name email u := by
  have hperm := conserved_of_run hstart hrun
  refine ⟨hperm.nodup_iff.mpr (registry_of_run hstart.registry hrun).issued, fun u => ?_⟩
  rw [← mem_issued_iff (by rw [hstart.server]) hrun]
  exact hperm.mem_iff

/-- A sign-up whose profile was not stored. -/
theorem signUps_accounted_lost :
    ∃ w, run (World.step CollectionViewController.models) World.empty
        (firstSignUp.take 4 ++ [.reply (.addDocument "Ana" "ana@globo.com" "A") .failure]) =
          some w ∧
      (w.server.users.map UserDoc.uid ++ w.requests.filterMap Request.profile ++
        ["A"]).Nodup := by
  obtain ⟨w, hrun⟩ : ∃ w, run (World.step CollectionViewController.models) World.empty
      (firstSignUp.take 4 ++ [.reply (.addDocument "Ana" "ana@globo.com" "A") .failure]) =
        some w :=
    Option.isSome_iff_exists.mp (by decide +kernel)
  exact ⟨w, hrun, (signUps_accounted World.empty_unclaimed hrun).1⟩

/-- No document is ever removed: the profiles of one moment are among those of
any later one, unchanged, and a score document that is there stays. -/
theorem documents_only_grow {models : List Model} {w₀ w₁ w₂ : World} {es fs : List Event}
    (hstart : w₀.Unclaimed) (hrun₁ : run (World.step models) w₀ es = some w₁)
    (hrun₂ : run (World.step models) w₁ fs = some w₂) :
    w₁.server.users ⊆ w₂.server.users ∧
      ∀ u, (w₁.scores.docs u).isSome = true → (w₂.scores.docs u).isSome = true := by
  refine run_induction (P := fun _ w₂ => w₁.server.users ⊆ w₂.server.users ∧
    ∀ u, (w₁.scores.docs u).isSome = true → (w₂.scores.docs u).isSome = true)
    ⟨List.Subset.refl _, fun _ => id⟩ ?_ hrun₂
  intro fs w e w' hw h hstep
  have hrun : run (World.step models) w₀ (es ++ fs) = some w :=
    run_append_some.mpr ⟨w₁, hrun₁, hw⟩
  have hgrow := (filed_of_run hstart hrun).users_grow (known_of_run hstart hrun) hstep
  refine ⟨List.Subset.trans h.1 hgrow, fun u hu => ?_⟩
  · exact (World.step_docs hstep (lists_of_run hstart hrun)).2 u (h.2 u hu)

/-- Ana's profile and her scores, while the deletion she asked for goes on. -/
theorem documents_only_grow_deletion :
    let es := firstSignUp ++ (deletionEvents 9 "A").take 1 ++ quizEvents 8 0 ++ redeemEvents
    let fs := (deletionEvents 9 "A").drop 1
    ∃ w₁ w₂, run (World.step CollectionViewController.models) World.empty es = some w₁ ∧
      run (World.step CollectionViewController.models) w₁ fs = some w₂ ∧
      Shell.Possible CollectionViewController.models World.empty false (es ++ fs) ∧
      ⟨"doc1", "Ana", "ana@globo.com", "A"⟩ ∈ w₂.server.users ∧
      (w₂.scores.docs "A").isSome = true := by
  intro es fs
  have hobs : (run (World.step CollectionViewController.models) World.empty es).bind
      (fun w₁ => (run (World.step CollectionViewController.models) w₁ fs).map
        fun _ => (w₁.server.users, (w₁.scores.docs "A").isSome)) =
      some ([⟨"doc1", "Ana", "ana@globo.com", "A"⟩], true) := by decide +kernel
  obtain ⟨w₁, hrun₁, hobs⟩ := Option.bind_eq_some_iff.mp hobs
  obtain ⟨w₂, hrun₂, hobs⟩ := Option.map_eq_some_iff.mp hobs
  simp only [Prod.mk.injEq] at hobs
  obtain ⟨husers, hscores⟩ := documents_only_grow World.empty_unclaimed hrun₁ hrun₂
  exact ⟨w₁, w₂, hrun₁, hrun₂, by decide +kernel, husers (by simp [hobs.1]),
    hscores "A" hobs.2⟩

/-! ## The ranking of a run -/

open RankingViewController (load fetched rowAfter)

/-- A callback writes no more than the percentage of a row. -/
theorem rowAfter_name {read : ScoreRead} {user : User} :
    (rowAfter read user).name = user.name ∧ (rowAfter read user).email = user.email ∧
      (rowAfter read user).uid = user.uid := by
  rw [rowAfter]
  split <;> exact ⟨rfl, rfl, rfl⟩

/-- So after the callbacks the rows still stand for the documents that were
fetched, in the order of the fetch. -/
theorem map_rowAfter_fetched {documents : List UserDoc} {reads : Nat → ScoreRead} :
    ((fetched (some (documents.map UserDoc.data))).usuarios.mapIdx
        fun i => rowAfter (reads i)).map (fun row => (row.name, row.email, row.uid)) =
      documents.map fun doc => (doc.nickName, doc.email, doc.uid) := by
  rw [RankingViewController.usuarios_fetched_users]
  refine List.ext_getElem? fun i => ?_
  simp only [List.getElem?_map, List.getElem?_mapIdx, Option.map_map]
  cases documents[i]? with
  | none => rfl
  | some doc => simp [rowAfter_name]

/-- A read that comes back during a run finds a list exactly when it finds a
document. -/
theorem scores_isSome_iff {models : List Model} {w₀ w : World} {es : List Event}
    {read : ScoreRead} {u : Uid} (hstart : w₀.Unclaimed)
    (hrun : run (World.step models) w₀ es = some w)
    (hread : read = .error ∨ ∃ fs w', run (World.step models) w fs = some w' ∧
      read = .document (w'.scores.docs u)) :
    read.scores.isSome = true ↔ ∃ doc, read = .document (some doc) := by
  rcases hread with rfl | ⟨fs, w', hfs, rfl⟩
  · simp [ScoreRead.scores]
  · have hlists := lists_of_run hstart (run_append_some.mpr ⟨w, hrun, hfs⟩)
    cases hdoc : w'.scores.docs u with
    | none => simp [ScoreRead.scores]
    | some doc => simp [ScoreRead.scores, hlists u doc hdoc]

/-- The ranking opened at any moment of a run. The fetch hands out the
profiles in an order of its own; the score reads are answered at any later
moments or not at all, and their callbacks come in any order. The rows are
those profiles, none left out and none twice, each that of one sign-up, and
the table shows them as soon as one of the reads has found a document, and
nothing otherwise. -/
theorem ranking_of_run {models : List Model} {w₀ w : World} {es : List Event}
    {documents : List UserDoc} (reads : Nat → ScoreRead) (order : List Nat)
    (hstart : w₀.Unclaimed) (hrun : run (World.step models) w₀ es = some w)
    (hdocuments : documents.Perm w.server.users)
    (hreads : ∀ i doc, documents[i]? = some doc → reads i = .error ∨
      ∃ fs w', run (World.step models) w fs = some w' ∧
        reads i = .document (w'.scores.docs doc.uid))
    (horder : order.Perm (List.range documents.length)) :
    ∃ vc, load (some (documents.map UserDoc.data)) reads order = some vc ∧
      (vc.usuarios.map (fun row => (row.name, row.email, row.uid))).Perm
        (w.server.users.map (fun doc => (doc.nickName, doc.email, doc.uid))) ∧
      (vc.usuarios.map User.uid).Nodup ∧
      (∀ row ∈ vc.usuarios, SignedUp es row.name row.email row.uid ∧
        TypedText row.name ∧ TypedText row.email) ∧
      (vc.rendered = vc.usuarios ∨ vc.rendered = []) ∧
      (vc.rendered = [] ↔
        ∀ i < documents.length, ∀ doc, reads i ≠ .document (some doc)) := by
  have hfiled := filed_of_run hstart hrun
  have horder' : order.Perm
      (List.range (fetched (some (documents.map UserDoc.data))).usuarios.length) := by
    rw [RankingViewController.usuarios_fetched_users, List.length_map]
    exact horder
  obtain ⟨vc, hload, hrows, hshown⟩ := RankingViewController.load_rows reads horder'
  have hmap : vc.usuarios.map (fun row => (row.name, row.email, row.uid)) =
      documents.map fun doc => (doc.nickName, doc.email, doc.uid) := by
    rw [hrows]
    exact map_rowAfter_fetched
  have hfound : (∃ i ∈ order, (reads i).scores.isSome) ↔
      ∃ i < documents.length, ∃ doc, reads i = .document (some doc) := by
    refine exists_congr fun i => ?_
    rw [horder.mem_iff, List.mem_range]
    refine and_congr_right fun hi => ?_
    exact scores_isSome_iff hstart hrun (hreads i _ (List.getElem?_eq_getElem hi))
  have hperm : (vc.usuarios.map (fun row => (row.name, row.email, row.uid))).Perm
      (w.server.users.map (fun doc => (doc.nickName, doc.email, doc.uid))) :=
    hmap ▸ hdocuments.map _
  refine ⟨vc, hload, hperm, ?_, fun row hrow => ?_, ?_, ?_⟩
  · have huids : (vc.usuarios.map User.uid).Perm (w.server.users.map UserDoc.uid) := by
      simpa [Function.comp_def] using hperm.map fun p => p.2.2
    rw [huids.nodup_iff]
    exact (nodup_profiles hstart hrun).sublist (List.sublist_append_left _ _)
  · obtain ⟨doc, hdoc, heq⟩ :=
      List.mem_map.mp (hperm.subset (List.mem_map.mpr ⟨row, hrow, rfl⟩))
    have hsigned := hfiled.stored doc hdoc
    simp only [Prod.mk.injEq] at heq
    rw [heq.1, heq.2.1, heq.2.2] at hsigned
    exact ⟨hsigned, hsigned.typed hstart.requests hrun⟩
  · rw [RankingViewController.Shown] at hshown
    split at hshown
    · exact Or.inl hshown
    · exact Or.inr hshown
  · rw [RankingViewController.Shown] at hshown
    split at hshown <;> rename_i hread <;> rw [hfound] at hread
    · obtain ⟨i, hi, doc, hdoc⟩ := hread
      refine iff_of_false (fun hnil => ?_) fun hnone => hnone i hi doc hdoc
      rw [hshown] at hnil
      rw [hnil] at hmap
      have hempty := List.map_eq_nil_iff.mp hmap.symm
      simp [hempty] at hi
    · refine iff_of_true hshown fun i hi doc hdoc => hread ⟨i, hi, doc, hdoc⟩

/-- Ana has redeemed a sticker, Bia has just signed up on another device, and
the fetch hands out Bia's document first. -/
theorem ranking_of_run_two :
    let es := firstSignUp ++ quizEvents 8 0 ++ redeemEvents ++
      [.act 1 (.viewDidAppear 0), .act 1 .registerButtonTapped,
        .act 1 (.signupButtonTapped "Bia" "bia@globo.com" "senha-segura"),
        .reply (.createUser 1 7 "Bia" "bia@globo.com" "senha-segura") (.successWith "B"),
        .reply (.addDocument "Bia" "bia@globo.com" "B") (.successWith "doc0")]
    let documents := [⟨"doc0", "Bia", "bia@globo.com", "B"⟩,
      ⟨"doc1", "Ana", "ana@globo.com", "A"⟩]
    ∃ w vc, run (World.step CollectionViewController.models) World.empty es = some w ∧
      Shell.Possible CollectionViewController.models World.empty false es ∧
      load (some (documents.map UserDoc.data))
        (fun i => .document (w.scores.docs (if i = 0 then "B" else "A"))) [1, 0] =
          some vc ∧
      (vc.usuarios.map User.uid).Nodup ∧ vc.rendered = vc.usuarios ∧
      vc.usuarios.length = 2 := by
  intro es documents
  have hobs : (run (World.step CollectionViewController.models) World.empty es).map
      (fun w => (w.server.users, (w.scores.docs "A").isSome)) =
      some ([⟨"doc1", "Ana", "ana@globo.com", "A"⟩,
        ⟨"doc0", "Bia", "bia@globo.com", "B"⟩], true) := by decide +kernel
  obtain ⟨w, hrun, hobs⟩ := Option.map_eq_some_iff.mp hobs
  simp only [Prod.mk.injEq] at hobs
  obtain ⟨scoreDoc, hdoc⟩ := Option.isSome_iff_exists.mp hobs.2
  have hdocuments : documents.Perm w.server.users := by
    rw [hobs.1]
    exact List.Perm.swap _ _ []
  have hreads : ∀ i doc, documents[i]? = some doc →
      ScoreRead.document (w.scores.docs (if i = 0 then "B" else "A")) = .error ∨
        ∃ fs w', run (World.step CollectionViewController.models) w fs = some w' ∧
          ScoreRead.document (w.scores.docs (if i = 0 then "B" else "A")) =
            .document (w'.scores.docs doc.uid) := by
    intro i doc hi
    refine Or.inr ⟨[], w, rfl, ?_⟩
    match i, hi with
    | 0, hi | 1, hi => cases hi; rfl
  obtain ⟨vc, hload, hperm, hnodup, -, hshown, hnil⟩ := ranking_of_run
    (fun i => .document (w.scores.docs (if i = 0 then "B" else "A"))) [1, 0] World.empty_unclaimed hrun hdocuments hreads (List.Perm.swap _ _ [])
  have hne : vc.rendered ≠ [] := by
    rw [Ne, hnil, not_forall]
    refine ⟨1, fun h => ?_⟩
    exact h (by decide) scoreDoc (congrArg ScoreRead.document hdoc)
  have hlength := hperm.length_eq
  rw [List.length_map, List.length_map, hobs.1] at hlength
  have hpossible : Shell.Possible CollectionViewController.models World.empty false es :=
    Shell.possible_of_run (by decide) hrun
  exact ⟨w, vc, hrun, hpossible, hload, hnodup, hshown.resolve_right hne, hlength⟩

end GloboCollection
