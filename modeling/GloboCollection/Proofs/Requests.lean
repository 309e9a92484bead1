import GloboCollection.Proofs.Steps

/-!
# Where a request comes from

A request in flight was sent by a tap, or it is the next one of a chain whose
last was just answered: a profile follows the account it belongs to, and the
four requests of a deletion follow one another. `World.step_requests` says so
once, with what was typed and who was signed in; what is known of a request
is carried along the chain by it.
-/

namespace GloboCollection

/-- What a tap sends, with what was typed and what was stored. -/
inductive Device.Asks (d : DeviceId) (dev : Device) : Action → Request → Prop
  | signIn {vc : Nat} {origin : Option Collection} {email password : String}
      (hshows : dev.Shows vc ⟨.login, origin⟩) :
      Asks d dev (.loginButtonTapped email password)
        (.signIn d vc (trimmingCharacters email) (trimmingCharacters password))
  | signUp {vc : Nat} {origin : Option Collection} {userName email password : String}
      (hshows : dev.Shows vc ⟨.register, origin⟩)
      (hvalid : RegisterViewController.validateFields userName email password = none) :
      Asks d dev (.signupButtonTapped userName email password)
        (.createUser d vc (trimmingCharacters userName) (trimmingCharacters email)
          (trimmingCharacters password))
  | deletion {vc : Nat} {origin : Option Collection} {userUID currentUser : Uid}
      (hshows : dev.Shows vc ⟨.home, origin⟩)
      (hstored : dev.defaults.userUID = some userUID)
      (hcurrent : dev.currentUser = some currentUser) :
      Asks d dev .deleteAccount (.deleteDocument d vc userUID currentUser)

/-- The request that an answer sets off. -/
inductive Request.Follows : Request → Reply → Request → Prop
  | profile {d : DeviceId} {vc : Nat} {userName email password : String} {uid : Uid} :
      Follows (.createUser d vc userName email password) (.successWith uid)
        (.addDocument userName email uid)
  | callback {d : DeviceId} {vc : Nat} {userUID currentUser : Uid} :
      Follows (.deleteDocument d vc userUID currentUser) .success
        (.documentDeleted d vc currentUser)
  | account {d : DeviceId} {vc : Nat} {currentUser : Uid} :
      Follows (.documentDeleted d vc currentUser) .success (.deleteUser d vc currentUser)
  | last {d : DeviceId} {vc : Nat} {currentUser : Uid} :
      Follows (.deleteUser d vc currentUser) .success (.userDeleted d vc)

section Sending

variable {models : List Model} {d : DeviceId} {dev : Device} {a : Action} {o : Outcome}

/-- Only three actions send anything. -/
theorem Device.act_asks (h : dev.act models d a = some o) :
    ∀ r ∈ o.requests, dev.Asks d a r := by
  intro r hr
  cases a with
  | viewDidAppear bar =>
      rw [Device.act] at h
      split at h <;> cases h
      cases hr
  | loginButtonTapped email password =>
      obtain ⟨happ, vc, ⟨page, origin⟩, hf, h⟩ := Device.tap_some.mp h
      rw [Handlers.loginButtonTapped] at h
      split at h <;> rename_i hpage <;> cases h
      obtain rfl : page = .login := hpage
      rw [List.mem_singleton.mp hr]
      exact .signIn ⟨happ, hf⟩
  | signupButtonTapped userName email password =>
      obtain ⟨happ, vc, ⟨page, origin⟩, hf, h⟩ := Device.tap_some.mp h
      rw [Handlers.signupButtonTapped] at h
      split at h <;> rename_i hpage
      · obtain rfl : page = .register := hpage
        split at h <;> rename_i hvalid <;> cases h
        · cases hr
        · rw [List.mem_singleton.mp hr]
          exact .signUp ⟨happ, hf⟩ hvalid
      · cases h
  | deleteAccount =>
      obtain ⟨happ, vc, ⟨page, origin⟩, hf, h⟩ := Device.tap_some.mp h
      rw [Handlers.deleteAccount] at h
      split at h <;> rename_i hpage
      · obtain rfl : page = .home := hpage
        split at h
        · rename_i hstored hcurrent
          cases h
          rw [List.mem_singleton.mp hr]
          exact .deletion ⟨happ, hf⟩ hstored hcurrent
        · cases h
          cases hr
      · cases h
  | switchTab | backButtonTapped | handleCellTap | didSelectItemAt | buttonSearchTapped
  | startQuizButtonTapped | voltarButtonPressionado | redeemButtonTapped
  | galeryButtonTapped | restartButtonTapped | registerButtonTapped =>
      obtain ⟨-, vc, self, -, h⟩ := Device.tap_some.mp h
      simp only [Handlers.switchTab, Handlers.backButtonTapped, Handlers.handleCellTap,
        Handlers.didSelectItemAt, Handlers.buttonSearchTapped,
        Handlers.startQuizButtonTapped, Handlers.openQuiz,
        Handlers.voltarButtonPressionado, Handlers.redeemButtonTapped,
        Handlers.galeryButtonTapped, Handlers.restartButtonTapped,
        Handlers.registerButtonTapped] at h
      repeat' split at h
      all_goals cases h
      all_goals cases hr

end Sending

/-- A request in flight after a step was in flight before it, was sent by it,
or follows the request it answered. -/
theorem World.step_requests {models : List Model} {w w' : World} {e : Event} {r : Request}
    (h : w.step models e = some w') (hr : r ∈ w'.requests) :
    r ∈ w.requests ∨ (∃ d a, e = .act d a ∧ (w.device d).Asks d a r) ∨
      ∃ r₀ answer, e = .reply r₀ answer ∧ r₀ ∈ w.requests ∧ r₀.Follows answer r := by
  cases e with
  | act d a =>
      rw [World.step, World.act] at h
      split at h <;> rename_i hact
      · cases h
        rcases List.mem_append.mp hr with hr | hr
        · exact Or.inl hr
        · exact Or.inr (Or.inl ⟨d, a, rfl, Device.act_asks hact r hr⟩)
      · cases h
  | reply r₀ answer =>
      obtain ⟨hr₀, hans⟩ := reply_answers h
      cases hans with
      | signIn | addDocument | userDeleted | failed =>
          exact Or.inl (List.mem_of_mem_erase hr)
      | createUser | deleteDocument | documentDeleted | deleteUser =>
          rcases List.mem_append.mp hr with hr | hr
          · exact Or.inl (List.mem_of_mem_erase hr)
          · rw [List.mem_singleton.mp hr]
            exact Or.inr (Or.inr ⟨_, _, rfl, hr₀, by constructor⟩)
  | scoreRead i ok =>
      obtain ⟨s, -, rfl⟩ := scoreRead_some h
      exact Or.inl hr
  | scoreWrite i ok =>
      obtain ⟨s, -, rfl⟩ := scoreWrite_some h
      exact Or.inl hr

end GloboCollection
