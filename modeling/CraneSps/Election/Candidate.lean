import Mathlib.Order.Defs.LinearOrder
import Mathlib.Data.List.MinMax

/-!
# The election state of one node

`Candidate` and `ElectionMessageHandler`, as pure functions.  Node ids are
only compared, as the ordered `std::string` ids of the source are, so they
stay an arbitrary linear order here.  The empty string stands for "no leader
yet" in the source and is `none` here.
-/

namespace CraneSps
namespace Election

variable {Id : Type} [LinearOrder Id]

/-- `Candidate::Impl` without its sockets and mutexes. -/
structure Candidate (Id : Type) where
  /-- The leader this node reports. -/
  leaderId : Option Id := none
  /-- The leader for which the last `LeaderElectedEvent` was raised. -/
  previousLeaderId : Option Id := none
  /-- An election thread has passed its check and nobody has cleared it. -/
  started : Bool := false
  /-- Some request of the running round was answered with an OK. -/
  okReceived : Bool := false
  /-- Confirmations the last smallest-id claim waits for. -/
  exptectedConfirmationCount : Nat := 0
  /-- Confirmations counted since that claim. -/
  receivedConfirmationCount : Nat := 0
  /-- The ids of the `LeaderElectedEvent`s raised so far, oldest first. -/
  leaderElectedEvents : List Id := []
  deriving DecidableEq

namespace Candidate

/-- `Candidate::setOkReceived`. -/
def setOkReceived (candidate : Candidate Id) : Candidate Id :=
  { candidate with okReceived := true }

/-- `Candidate::Impl::setElectionFinished`. -/
def setElectionFinished (candidate : Candidate Id) : Candidate Id :=
  { candidate with started := false }

/-- `Candidate::setNewLeader`: the event is raised only when the leader
differs from the one of the last event. -/
def setNewLeader (candidate : Candidate Id) (leader : Id) : Candidate Id :=
  let informed := { candidate with leaderId := some leader }
  let notified :=
    if informed.previousLeaderId ≠ some leader then
      { informed with
        previousLeaderId := some leader
        leaderElectedEvents := informed.leaderElectedEvents ++ [leader] }
    else informed
  notified.setElectionFinished

/-- `Candidate::onElectionConfirmationReceive`. -/
def onElectionConfirmationReceive (candidate : Candidate Id) : Candidate Id :=
  { candidate with
    receivedConfirmationCount := candidate.receivedConfirmationCount + 1 }

/-- `Candidate::allConfirmationsReceived`. -/
def allConfirmationsReceived (candidate : Candidate Id) : Bool :=
  candidate.exptectedConfirmationCount == candidate.receivedConfirmationCount

/-- `ElectionMessageHandler::process(ElectionOkMessagePointer)`. -/
def processOkMessage (candidate : Candidate Id) : Candidate Id :=
  candidate.setOkReceived

/-- `ElectionMessageHandler::process(ElectionNewLeaderPointer)`; the
confirmation is sent whether or not the claim is the node's own. -/
def processNewLeader
    (candidate : Candidate Id) (ownId leader : Id) : Candidate Id :=
  if leader ≠ ownId then candidate.setNewLeader leader else candidate

/-- `ElectionMessageHandler::process(ElectionConfirmPointer)`. -/
def processConfirm (candidate : Candidate Id) (ownId : Id) : Candidate Id :=
  let counted := candidate.onElectionConfirmationReceive
  if counted.allConfirmationsReceived then counted.setNewLeader ownId
  else counted

/-- The assignments of the smallest-id branch of `electionThread`. -/
def expectConfirmations
    (candidate : Candidate Id) (count : Nat) : Candidate Id :=
  { candidate with
    exptectedConfirmationCount := count
    receivedConfirmationCount := 0 }

/-- The node has raised the `LeaderElectedEvent` for an id and reports it. -/
def Installed (candidate : Candidate Id) (leader : Id) : Prop :=
  candidate.leaderId = some leader ∧ leader ∈ candidate.leaderElectedEvents

/-- The reported leader is always the one of the last event. -/
structure Coherent (candidate : Candidate Id) : Prop where
  previous : candidate.previousLeaderId = candidate.leaderId
  raised : ∀ leader ∈ candidate.previousLeaderId,
    leader ∈ candidate.leaderElectedEvents

@[simp] theorem setNewLeader_leaderId
    (candidate : Candidate Id) (leader : Id) :
    (candidate.setNewLeader leader).leaderId = some leader := by
  unfold setNewLeader setElectionFinished
  dsimp only
  split <;> rfl

@[simp] theorem setNewLeader_previousLeaderId
    (candidate : Candidate Id) (leader : Id) :
    (candidate.setNewLeader leader).previousLeaderId = some leader := by
  unfold setNewLeader setElectionFinished
  dsimp only
  split
  · rfl
  · next same => simpa using same

theorem setNewLeader_leaderElectedEvents
    (candidate : Candidate Id) (leader : Id) :
    (candidate.setNewLeader leader).leaderElectedEvents =
      if candidate.previousLeaderId ≠ some leader then
        candidate.leaderElectedEvents ++ [leader]
      else candidate.leaderElectedEvents := by
  unfold setNewLeader setElectionFinished
  dsimp only
  split <;> rfl

@[simp] theorem setNewLeader_started
    (candidate : Candidate Id) (leader : Id) :
    (candidate.setNewLeader leader).started = false := rfl

@[simp] theorem setNewLeader_okReceived
    (candidate : Candidate Id) (leader : Id) :
    (candidate.setNewLeader leader).okReceived = candidate.okReceived := by
  unfold setNewLeader setElectionFinished
  dsimp only
  split <;> rfl

@[simp] theorem setNewLeader_exptectedConfirmationCount
    (candidate : Candidate Id) (leader : Id) :
    (candidate.setNewLeader leader).exptectedConfirmationCount =
      candidate.exptectedConfirmationCount := by
  unfold setNewLeader setElectionFinished
  dsimp only
  split <;> rfl

@[simp] theorem setNewLeader_receivedConfirmationCount
    (candidate : Candidate Id) (leader : Id) :
    (candidate.setNewLeader leader).receivedConfirmationCount =
      candidate.receivedConfirmationCount := by
  unfold setNewLeader setElectionFinished
  dsimp only
  split <;> rfl

/-- Handling a foreign claim touches only the reported leader and the round
flag. -/
@[simp] theorem processNewLeader_okReceived
    (candidate : Candidate Id) (ownId leader : Id) :
    (candidate.processNewLeader ownId leader).okReceived =
      candidate.okReceived := by
  unfold processNewLeader
  split <;> simp

@[simp] theorem processNewLeader_exptectedConfirmationCount
    (candidate : Candidate Id) (ownId leader : Id) :
    (candidate.processNewLeader ownId leader).exptectedConfirmationCount =
      candidate.exptectedConfirmationCount := by
  unfold processNewLeader
  split <;> simp

@[simp] theorem processNewLeader_receivedConfirmationCount
    (candidate : Candidate Id) (ownId leader : Id) :
    (candidate.processNewLeader ownId leader).receivedConfirmationCount =
      candidate.receivedConfirmationCount := by
  unfold processNewLeader
  split <;> simp

@[simp] theorem processNewLeader_own
    (candidate : Candidate Id) (ownId : Id) :
    candidate.processNewLeader ownId ownId = candidate := by
  simp [processNewLeader]

theorem processNewLeader_of_ne
    (candidate : Candidate Id) {ownId leader : Id}
    (foreign : leader ≠ ownId) :
    candidate.processNewLeader ownId leader =
      candidate.setNewLeader leader := by
  simp [processNewLeader, foreign]

/-- After a claim the node reports the claimant or what it reported before. -/
theorem leaderId_of_processNewLeader
    {candidate : Candidate Id} {ownId leader reported : Id}
    (reports : (candidate.processNewLeader ownId leader).leaderId =
      some reported) :
    candidate.leaderId = some reported ∨ reported = leader := by
  by_cases own : leader = ownId
  · rw [own, processNewLeader_own] at reports
    exact .inl reports
  · rw [processNewLeader_of_ne _ own, setNewLeader_leaderId] at reports
    exact .inr (Option.some.inj reports).symm

/-- The confirmation that fills the expected count installs the node. -/
theorem processConfirm_of_last
    (candidate : Candidate Id) (ownId : Id)
    (last : candidate.exptectedConfirmationCount =
      candidate.receivedConfirmationCount + 1) :
    candidate.processConfirm ownId =
      candidate.onElectionConfirmationReceive.setNewLeader ownId := by
  simp [processConfirm, allConfirmationsReceived,
    onElectionConfirmationReceive, last]

/-- Any other confirmation is only counted. -/
theorem processConfirm_of_not_last
    (candidate : Candidate Id) (ownId : Id)
    (notLast : candidate.exptectedConfirmationCount ≠
      candidate.receivedConfirmationCount + 1) :
    candidate.processConfirm ownId =
      candidate.onElectionConfirmationReceive := by
  simp [processConfirm, allConfirmationsReceived,
    onElectionConfirmationReceive, notLast]

/-- Setting a leader keeps the event log in step with the reported leader. -/
theorem Coherent.setNewLeader
    {candidate : Candidate Id} (coherent : candidate.Coherent) (leader : Id) :
    (candidate.setNewLeader leader).Coherent := by
  refine ⟨by simp, ?_⟩
  intro current isCurrent
  obtain rfl : leader = current := by simpa using isCurrent
  rw [setNewLeader_leaderElectedEvents]
  by_cases same : candidate.previousLeaderId = some leader
  · simpa [same] using coherent.raised leader (by simp [same])
  · simp [same]

/-- After a coherent node sets a leader, that leader is installed. -/
theorem Coherent.installed_setNewLeader
    {candidate : Candidate Id} (coherent : candidate.Coherent) (leader : Id) :
    (candidate.setNewLeader leader).Installed leader := by
  have after := coherent.setNewLeader leader
  refine ⟨by simp, after.raised leader ?_⟩
  rw [after.previous]
  simp

end Candidate

/-- `std::min_element` on a non-empty membership list. -/
def minElement (membershipList : List Id) : Option Id :=
  membershipList.min?

/-- `SystemHelper::lowerIds`. -/
def lowerIds (ids : List Id) (id : Id) : List Id :=
  ids.filter (· < id)

/-- The request messages of `election.proto`. -/
inductive ElectionRequest (Id : Type)
  | electionStart
  | newLeader (id : Id)
  deriving DecidableEq

end Election
end CraneSps
