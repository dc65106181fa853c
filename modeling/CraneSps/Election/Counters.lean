import CraneSps.Election.Claim

/-!
# What the counters can still bring

A node installs itself when one of its request threads finds the received
count equal to the expected one.  The threads count and test in separate
steps, so the two counts must not only meet: they must still be equal when a
thread that has counted tests them.
-/

namespace CraneSps
namespace Election

variable {Id : Type}

namespace Candidate

variable {candidate : Candidate Id} {threads fewer more : Outcome → Nat}

/-- A request thread has passed its test, or one is about to test equal
counts, or the confirmations to come bring the received count exactly to the
expected one. -/
def Confirmable
    (candidate : Candidate Id) (threads : Outcome → Nat) : Prop :=
  0 < threads .installing ∨
    (candidate.exptectedConfirmationCount =
        candidate.receivedConfirmationCount ∧ 0 < threads .counted) ∨
      (candidate.receivedConfirmationCount <
          candidate.exptectedConfirmationCount ∧
        candidate.exptectedConfirmationCount ≤
          candidate.receivedConfirmationCount + threads .waiting)

instance (candidate : Candidate Id) (threads : Outcome → Nat) :
    Decidable (candidate.Confirmable threads) := by
  unfold Confirmable
  infer_instance

namespace Confirmable

/-- More threads do no harm. -/
theorem mono
    (confirmable : candidate.Confirmable fewer)
    (le : ∀ outcome, fewer outcome ≤ more outcome) :
    candidate.Confirmable more := by
  rcases confirmable with installing | ⟨equal, counted⟩ | ⟨below, enough⟩
  · exact .inl (installing.trans_le (le .installing))
  · exact .inr (.inl ⟨equal, counted.trans_le (le .counted)⟩)
  · exact .inr (.inr ⟨below,
      enough.trans (Nat.add_le_add_left (le .waiting) _)⟩)

/-- A confirmation is counted that is not among the given threads, and it is
not the last expected one. -/
theorem count
    (confirmable : candidate.Confirmable threads)
    (notLast : candidate.receivedConfirmationCount + 1 <
      candidate.exptectedConfirmationCount) :
    candidate.onElectionConfirmationReceive.Confirmable threads := by
  rcases confirmable with installing | ⟨equal, _⟩ | ⟨_, enough⟩
  · exact .inl installing
  · omega
  · right
    right
    simp only [onElectionConfirmationReceive]
    omega

/-- Something is brought only by a running thread. -/
theorem exists_running
    (confirmable : candidate.Confirmable threads) :
    ∃ outcome : Outcome, outcome.running = true ∧ 0 < threads outcome := by
  rcases confirmable with installing | ⟨_, counted⟩ | ⟨below, enough⟩
  · exact ⟨.installing, rfl, installing⟩
  · exact ⟨.counted, rfl, counted⟩
  · exact ⟨.waiting, rfl, by omega⟩

end Confirmable
end Candidate

/-- One of the waiting threads gives up. -/
def oneFewer (threads : Outcome → Nat) : Outcome → Nat :=
  Function.update threads .waiting (threads .waiting - 1)

namespace Network

variable {network : Network Id} {mine : Nat → Id → Bool} {index : Nat}
variable {request : Request Id} {candidate : Candidate Id}

/-- A thread counts a confirmation, and no other one was about to test equal
counts. -/
theorem confirmable_receive
    (found : network.requests[index]? = some request)
    (waiting : request.outcome = .waiting)
    (isMine : mine request.thread request.sender = true)
    (isClaim : request.isClaim = true)
    (confirmable : candidate.Confirmable (network.standing mine))
    (undecided : 0 < network.standing mine .installing ∨
      candidate.receivedConfirmationCount <
        candidate.exptectedConfirmationCount) :
    candidate.onElectionConfirmationReceive.Confirmable
      ((network.setRequest index { request with outcome := .counted }
        ).standing mine) := by
  have sameInstalling : (network.setRequest index
      { request with outcome := .counted }).standing mine .installing =
        network.standing mine .installing :=
    standing_setOutcome_of_ne found (by rw [waiting]; decide) (by decide)
  rcases undecided with installing | below
  · exact .inl (sameInstalling ▸ installing)
  · rcases confirmable with installing | ⟨equal, _⟩ | ⟨_, enough⟩
    · exact .inl (sameInstalling ▸ installing)
    · omega
    · have remaining : network.standing mine .waiting - 1 ≤
          (network.setRequest index { request with outcome := .counted }
            ).standing mine .waiting :=
        standing_le_leave found (by decide)
      have reached : 0 < (network.setRequest index
          { request with outcome := .counted }).standing mine .counted :=
        standing_reach found isMine isClaim
      right
      simp only [Candidate.onElectionConfirmationReceive]
      omega

/-- A thread finds the counts equal. -/
theorem confirmable_testLast
    (found : network.requests[index]? = some request)
    (isClaim : request.isClaim = true)
    (confirmable : candidate.Confirmable (network.standing mine)) :
    candidate.Confirmable
      ((network.setRequest index { request with outcome := .installing }
        ).standing mine) := by
  cases isMine : mine request.thread request.sender with
  | true => exact .inl (standing_reach found isMine isClaim)
  | false =>
      rw [standing_setOutcome_of_foreign found (.inl isMine)]
      exact confirmable

/-- A thread finds the counts different. -/
theorem confirmable_testNotLast
    (found : network.requests[index]? = some request)
    (counted : request.outcome = .counted)
    (notLast : mine request.thread request.sender = true →
      candidate.exptectedConfirmationCount ≠
        candidate.receivedConfirmationCount)
    (confirmable : candidate.Confirmable (network.standing mine)) :
    candidate.Confirmable
      ((network.setRequest index { request with outcome := .answered }
        ).standing mine) := by
  cases isMine : mine request.thread request.sender with
  | true =>
      have stays : ∀ outcome : Outcome, .counted ≠ outcome →
          .answered ≠ outcome → (network.setRequest index
            { request with outcome := .answered }).standing mine outcome =
              network.standing mine outcome :=
        fun outcome left reached => standing_setOutcome_of_ne found
          (by rwa [counted]) reached
      rcases confirmable with installing | ⟨equal, _⟩ | toCome
      · left
        rwa [stays .installing (by decide) (by decide)]
      · exact absurd equal (notLast isMine)
      · right
        right
        rwa [stays .waiting (by decide) (by decide)]
  | false =>
      rw [standing_setOutcome_of_foreign found (.inl isMine)]
      exact confirmable

/-- A waiting thread gives up. -/
theorem confirmable_timeout
    (found : network.requests[index]? = some request)
    (waiting : request.outcome = .waiting)
    (enough : candidate.Confirmable (oneFewer (network.standing mine))) :
    candidate.Confirmable
      ((network.setRequest index { request with outcome := .timedOut }
        ).standing mine) := by
  apply enough.mono
  intro outcome
  by_cases same : outcome = .waiting
  · rw [same, oneFewer, Function.update_self]
    exact standing_le_leave found (by decide)
  · rw [oneFewer, Function.update_of_ne same]
    exact standing_le_setOutcome found (by rw [waiting]; exact Ne.symm same)

end Network
end Election
end CraneSps
