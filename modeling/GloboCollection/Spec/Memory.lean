import GloboCollection.Spec.Album

/-!
# What a device remembers

A device remembers three things: who is signed in, the album, and the
quizzes that were left. A sign-in replaces the first and a sign-out takes it
away, a redeem and a reset are the album's, and a left quiz is never
forgotten. How this is laid out in the device's store is a matter of
`Proofs.Memory`.
-/

namespace GloboCollection.Spec

variable {υ ι : Type}

structure Memory (υ ι : Type) where
  user : Option υ
  album : Set ι
  quizzes : Set ι

inductive MemoryOp (υ ι : Type) where
  | signIn (u : υ)
  | signOut
  | leaveQuiz (n : ι)
  | redeem (n : ι)
  | reset
deriving DecidableEq

namespace Memory

/-- Nobody signed in, nothing redeemed, no quiz left. -/
def blank : Memory υ ι := ⟨none, ∅, ∅⟩

/-- One operation; `cleared` is what a reset takes out of the album. -/
def apply (cleared : Set ι) (m : Memory υ ι) : MemoryOp υ ι → Memory υ ι
  | .signIn u => { m with user := some u }
  | .signOut => { m with user := none }
  | .leaveQuiz n => { m with quizzes := insert n m.quizzes }
  | .redeem n => { m with album := applyOp cleared m.album (.redeem n) }
  | .reset => { m with album := applyOp cleared m.album .reset }

end Memory

end GloboCollection.Spec
