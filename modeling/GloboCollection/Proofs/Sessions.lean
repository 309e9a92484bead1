import GloboCollection.App.Shell
import GloboCollection.Proofs.Steps

/-!
# The stored uid and the current user

A device keeps two records of who is signed in: the uid in its local store
and the current user of the authentication service. A sign-in or a sign-up
sets both. A deletion takes them away one at a time, and its two callbacks
remove the stored uid without looking whose it is. While the account
deletion is still in flight the login page can already be back, and somebody
else may have signed in when the last callback comes.

`SessionLog` follows the events of one device: who signed in last, whether a
deletion's callback ran since, and whether that very account was deleted
since. Both records are functions of the log, and once nothing is in flight
they agree exactly when the callbacks that ran were those of the account
itself.
-/

namespace GloboCollection

open GloboCollection.Lib

/-! ## The log -/

/-- The user an event signs in on device `d`. -/
def Event.signsIn (d : DeviceId) : Event → Option Uid
  | .reply (.signIn d' _ _ _) (.successWith uid) => if d' = d then some uid else none
  | .reply (.createUser d' _ _ _ _) (.successWith uid) =>
      if d' = d then some uid else none
  | _ => none

/-- A callback of a deletion runs on device `d`. -/
def Event.clearsUID (d : DeviceId) : Event → Bool
  | .reply (.documentDeleted d' _ _) .success => d' == d
  | .reply (.userDeleted d' _) .success => d' == d
  | _ => false

/-- The account `x` is deleted from device `d`. -/
def Event.deletes (d : DeviceId) (x : Uid) : Event → Bool
  | .reply (.deleteUser d' _ currentUser) .success => d' == d && currentUser == x
  | _ => false

theorem Event.deletes_iff {d : DeviceId} {x : Uid} {e : Event} :
    e.deletes d x = true ↔ ∃ vc, e = .reply (.deleteUser d vc x) .success := by
  constructor
  · intro h
    rw [Event.deletes.eq_def] at h
    split at h
    · rw [Bool.and_eq_true_iff, beq_iff_eq, beq_iff_eq] at h
      obtain ⟨rfl, rfl⟩ := h
      exact ⟨_, rfl⟩
    · cases h
  · rintro ⟨vc, rfl⟩
    simp [Event.deletes]

/-- The last sign-in or sign-up of a device, and what came after it. -/
structure SessionLog where
  uid : Uid
  cleared : Bool
  deleted : Bool
deriving DecidableEq, Repr

def SessionLog.observe (d : DeviceId) (log : Option SessionLog) (e : Event) :
    Option SessionLog :=
  match e.signsIn d with
  | some uid => some ⟨uid, false, false⟩
  | none => log.map fun l =>
      ⟨l.uid, l.cleared || e.clearsUID d, l.deleted || e.deletes d l.uid⟩

/-- The log of device `d` after the events, if anybody has signed in. -/
def lastSession (d : DeviceId) (es : List Event) : Option SessionLog :=
  es.foldl (SessionLog.observe d) none

/-- What the log says of the device: the records it should have, and that a
deletion of the account has its last callback still to come or behind it. -/
structure World.Follows (d : DeviceId) (log : Option SessionLog) (w : World) :
    Prop where
  stored : (w.device d).defaults.userUID =
    log.bind fun l => if l.cleared then none else some l.uid
  current : (w.device d).currentUser =
    log.bind fun l => if l.deleted then none else some l.uid
  pending : ∀ l, log = some l → l.deleted = true →
    l.cleared = true ∨ ∃ vc, .userDeleted d vc ∈ w.requests

namespace World.Follows

variable {models : List Model} {d : DeviceId} {log : Option SessionLog}
  {w w' : World} {e : Event}

/-- An event that signs nobody in, removes no uid and deletes no account of
the device leaves its log alone. -/
theorem observe_eq (hsign : e.signsIn d = none) (hclear : e.clearsUID d = false)
    (hdel : ∀ x, e.deletes d x = false) : SessionLog.observe d log e = log := by
  rw [SessionLog.observe, hsign]
  cases log with
  | none => rfl
  | some l => simp [hclear, hdel]

theorem observe_of_site (hsite : e.site ≠ some d) :
    SessionLog.observe d log e = log := by
  cases e with
  | reply r answer =>
      refine observe_eq ?_ ?_ ?_
      · cases r <;> cases answer <;> simp_all [Event.site, Event.signsIn]
      · cases r <;> cases answer <;> simp_all [Event.site, Event.clearsUID]
      · cases r <;> cases answer <;> simp_all [Event.site, Event.deletes]
  | act | scoreRead | scoreWrite => exact observe_eq rfl rfl fun _ => rfl

/-- The two records after an event are what the longer log says. -/
theorem records (h : w.Follows d log)
    (hmoves : (w.device d).Moves models d e (w'.device d)) :
    (w'.device d).defaults.userUID =
        (SessionLog.observe d log e).bind
          (fun l => if l.cleared then none else some l.uid) ∧
      (w'.device d).currentUser =
        (SessionLog.observe d log e).bind
          (fun l => if l.deleted then none else some l.uid) := by
  generalize hdev : w'.device d = dev at hmoves
  cases hmoves with
  | act hdoes =>
      rw [observe_eq rfl rfl fun _ => rfl, hdoes.userUID, hdoes.currentUser]
      exact ⟨h.stored, h.current⟩
  | signIn | createUser =>
      simp only [SessionLog.observe, Event.signsIn, if_true]
      exact ⟨UserDefaults.string_set_string, rfl⟩
  | documentDeleted | userDeleted =>
      refine ⟨?_, ?_⟩
      · refine UserDefaults.string_removeObject.trans ?_
        cases log <;> simp [SessionLog.observe, Event.signsIn, Event.clearsUID]
      · refine h.current.trans ?_
        cases log <;> simp [SessionLog.observe, Event.signsIn, Event.deletes]
  | @deleteUser vc x =>
      rw [Device.signOut_defaults, Device.signOut_currentUser, h.stored, h.current]
      cases log with
      | none => exact ⟨rfl, ite_self _⟩
      | some l =>
          simp only [SessionLog.observe, Event.signsIn, Event.clearsUID, Event.deletes,
            Option.map_some, Option.bind_some, Bool.or_false, beq_self_eq_true,
            Bool.true_and]
          refine ⟨trivial, ?_⟩
          cases l.deleted with
          | true => simp
          | false =>
              by_cases hx : x = l.uid
              · simp [hx]
              · simp [hx, Ne.symm hx]
  | stay hsite =>
      rw [observe_of_site hsite]
      exact ⟨h.stored, h.current⟩

/-- The deletion of the last session's account announces its callback, and
the callback stays in flight until it runs. -/
theorem pending_step (h : w.Follows d log) (hstep : w.step models e = some w') :
    ∀ l, SessionLog.observe d log e = some l → l.deleted = true →
      l.cleared = true ∨ ∃ vc, .userDeleted d vc ∈ w'.requests := by
  intro l hl hdel
  rw [SessionLog.observe] at hl
  split at hl
  · cases hl
    cases hdel
  · obtain ⟨l₀, hlog, rfl⟩ := Option.map_eq_some_iff.mp hl
    rcases Bool.or_eq_true_iff.mp hdel with hdel | hdel
    · rcases h.pending l₀ hlog hdel with hcleared | ⟨vc, hvc⟩
      · exact Or.inl (by simp [hcleared])
      · rcases World.mem_requests_step hstep hvc with hvc | ⟨answer, rfl⟩
        · exact Or.inr ⟨vc, hvc⟩
        · obtain ⟨-, hans⟩ := World.reply_answers hstep
          cases hans with
          | userDeleted => exact Or.inl (by simp [Event.clearsUID])
          | failed hr => exact absurd rfl (hr d vc)
    · obtain ⟨vc, rfl⟩ := Event.deletes_iff.mp hdel
      obtain ⟨-, hans⟩ := World.reply_answers hstep
      cases hans with
      | deleteUser =>
          exact Or.inr ⟨vc, List.mem_append_right _ (List.mem_singleton_self _)⟩

theorem step (h : w.Follows d log) (hstep : w.step models e = some w') :
    w'.Follows d (SessionLog.observe d log e) :=
  have hrecords := h.records (World.step_moves hstep d)
  ⟨hrecords.1, hrecords.2, h.pending_step hstep⟩

end World.Follows

/-! ## The two records -/

/-- From a device on which nobody is signed in, in every state with no
request in flight, the stored uid and the current user agree exactly when,
since the last sign-in or sign-up on the device, no callback of a deletion
ran there, or the account that signed in was itself deleted from it. -/
theorem stored_eq_current_iff {models : List Model} {d : DeviceId} {w₀ w : World}
    {es : List Event} (hstored : (w₀.device d).defaults.userUID = none)
    (hcurrent : (w₀.device d).currentUser = none)
    (hrun : run (World.step models) w₀ es = some w) (hquiet : w.requests = []) :
    (∀ u, (w.device d).defaults.userUID = some u ↔ (w.device d).currentUser = some u) ↔
      ∀ l, lastSession d es = some l → l.cleared = false ∨ l.deleted = true := by
  have hfollows : w.Follows d (lastSession d es) := by
    refine run_induction (P := fun es w => w.Follows d (lastSession d es))
      ⟨hstored, hcurrent, fun l hl => by cases hl⟩ ?_ hrun
    intro es w e w' _ h hstep
    rw [lastSession, List.foldl_concat]
    exact h.step hstep
  rw [hfollows.stored, hfollows.current]
  cases hlog : lastSession d es with
  | none => simp
  | some l =>
      have hpending : l.deleted = true → l.cleared = true := by
        intro hdel
        rcases hfollows.pending l hlog hdel with hcleared | ⟨vc, hvc⟩
        · exact hcleared
        · rw [hquiet] at hvc
          cases hvc
      simp only [Option.bind_some, Option.some.injEq, forall_eq']
      cases hcleared : l.cleared <;> cases hdel : l.deleted <;> simp_all

/-- After a sign-up the two agree, with no deletion in between. -/
theorem stored_eq_current_after_signUp :
    ∃ w, run (World.step CollectionViewController.models) World.empty firstSignUp =
        some w ∧ w.requests = [] ∧
      (∀ l, lastSession 0 firstSignUp = some l → l.cleared = false ∨ l.deleted = true) ∧
      ∀ u, (w.device 0).defaults.userUID = some u ↔ (w.device 0).currentUser = some u := by
  obtain ⟨w, hrun, hquiet⟩ : ∃ w, run (World.step CollectionViewController.models)
      World.empty firstSignUp = some w ∧ w.requests = [] := ⟨_, rfl, rfl⟩
  have hlog : lastSession 0 firstSignUp = some ⟨"A", false, false⟩ := by decide
  have hside : ∀ l, lastSession 0 firstSignUp = some l →
      l.cleared = false ∨ l.deleted = true := by
    rw [hlog]
    intro l hl
    cases hl
    exact Or.inl rfl
  exact ⟨w, hrun, hquiet, hside, (stored_eq_current_iff rfl rfl hrun hquiet).mpr hside⟩

/-- On the register page Ana taps sign-up, types Bia's name and email and taps
again. Ana's account comes first, and she deletes it on the home page; once
the first callback of the deletion has run Bia's account is made; only then
is Ana's deleted. -/
def lateDeletion : List Event :=
  [.act 0 (.viewDidAppear 0), .act 0 .registerButtonTapped,
    .act 0 (.signupButtonTapped "Ana" "ana@globo.com" "senha-segura"),
    .act 0 (.signupButtonTapped "Bia" "bia@globo.com" "senha-segura"),
    .reply (.createUser 0 7 "Ana" "ana@globo.com" "senha-segura") (.successWith "A"),
    .reply (.addDocument "Ana" "ana@globo.com" "A") (.successWith "doc1"),
    .act 0 (.viewDidAppear 8)] ++
    (deletionEvents 9 "A").take 3 ++
    [.reply (.createUser 0 7 "Bia" "bia@globo.com" "senha-segura") (.successWith "B"),
      .reply (.addDocument "Bia" "bia@globo.com" "B") (.successWith "doc2")] ++
    (deletionEvents 9 "A").drop 3

/-- In the end Bia is the current user and no uid is stored. None of the taps
is in a bar. -/
theorem late_callback_removes_uid :
    ∃ w, run (World.step CollectionViewController.models) World.empty lateDeletion =
        some w ∧
      Shell.Possible CollectionViewController.models World.empty true lateDeletion ∧
      (∀ r, .reply r .failure ∉ lateDeletion) ∧ w.requests = [] ∧
      ¬ ∀ u, (w.device 0).defaults.userUID = some u ↔
        (w.device 0).currentUser = some u := by
  have hrun : (run (World.step CollectionViewController.models) World.empty
      lateDeletion).map (fun w => (w.requests, (w.device 0).defaults.userUID,
        (w.device 0).currentUser)) = some ([], none, some "B") := by decide +kernel
  obtain ⟨w, hw, hobs⟩ := Option.map_eq_some_iff.mp hrun
  simp only [Prod.mk.injEq] at hobs
  obtain ⟨hquiet, hstored, hcurrent⟩ := hobs
  refine ⟨w, hw, by decide +kernel, ?_, hquiet, fun hiff => ?_⟩
  · intro r
    simp [lateDeletion, deletionEvents]
  · rw [hstored, hcurrent] at hiff
    exact absurd ((hiff "B").mpr rfl) (by simp)

end GloboCollection
