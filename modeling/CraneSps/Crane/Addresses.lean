import CraneSps.Crane.Supervisor
import Mathlib.Data.List.Nodup

/-!
# Addresses of workers

The address of a worker determines the supervisor and the port, and a
supervisor never gives a port to two workers.  Addresses that have been issued
are therefore distinct from all later ones.
-/

namespace CraneSps
namespace Crane

/-- The last colon separates the two parts of an address. -/
theorem append_colon_inj
    {first second : List Char} {digits others : List Char}
    (clean : ':' ∉ digits) (alsoClean : ':' ∉ others)
    (same : first ++ ':' :: digits = second ++ ':' :: others) :
    first = second ∧ digits = others := by
  rcases List.append_eq_append_iff.mp same with
    ⟨middle, isSecond, rest⟩ | ⟨middle, isFirst, rest⟩
  · cases middle with
    | nil =>
        rw [List.append_nil] at isSecond
        exact ⟨isSecond.symm, (List.cons.inj rest).2⟩
    | cons head middle =>
        refine absurd ?_ clean
        rw [(List.cons.inj rest).2]
        exact List.mem_append_right _ List.mem_cons_self
  · cases middle with
    | nil =>
        rw [List.append_nil] at isFirst
        exact ⟨isFirst, (List.cons.inj rest).2.symm⟩
    | cons head middle =>
        refine absurd ?_ alsoClean
        rw [(List.cons.inj rest).2]
        exact List.mem_append_right _ List.mem_cons_self

/-- A port is printed without a colon. -/
theorem colon_notMem_repr (port : Nat) : ':' ∉ (toString port).toList := by
  intro present
  change ':' ∈ (Nat.repr port).toList at present
  rw [Nat.toList_repr] at present
  have digit := Nat.isDigit_of_mem_toDigits (by decide) (by decide) present
  nomatch digit

theorem makeAddr_inj
    {id other : String} {port otherPort : Nat}
    (same : makeAddr id port = makeAddr other otherPort) :
    id = other ∧ port = otherPort := by
  have chars := congrArg String.toList same
  simp only [makeAddr, String.toList_append, List.append_assoc] at chars
  obtain ⟨sameId, samePort⟩ := append_colon_inj (colon_notMem_repr port)
    (colon_notMem_repr otherPort) (List.append_cancel_left chars)
  refine ⟨String.toList_injective sameId, ?_⟩
  have read := congrArg (fun digits => Nat.ofDigitChars 10 digits 0) samePort
  simpa [Nat.toString_eq_ofList_toDigits] using read

/-- The address is of a port that its supervisor has given away. -/
def IssuedAt (supervisor : String → Supervisor) (address : String) : Prop :=
  ∃ id port, address = makeAddr id port ∧ port < (supervisor id).port

/-- The addresses are distinct and have been issued by the supervisors. -/
structure Issued
    (supervisor : String → Supervisor) (addresses : List String) : Prop where
  distinct : addresses.Nodup
  issued : ∀ address ∈ addresses, IssuedAt supervisor address

/-- The addresses of the workers that a supervisor creates next. -/
def newAddresses
    (supervisor : String → Supervisor) (id : String) (count : Nat) :
    List String :=
  (List.range count).map fun offset =>
    makeAddr id ((supervisor id).port + offset)

namespace Issued

variable {supervisor next : String → Supervisor} {addresses : List String}

theorem nil : Issued supervisor [] where
  distinct := List.nodup_nil
  issued := nofun

/-- Ports are never given back. -/
theorem mono
    (issued : Issued supervisor addresses)
    (grows : ∀ id, (supervisor id).port ≤ (next id).port) :
    Issued next addresses where
  distinct := issued.distinct
  issued := by
    intro address present
    obtain ⟨id, port, isAddress, below⟩ := issued.issued address present
    exact ⟨id, port, isAddress, Nat.lt_of_lt_of_le below (grows id)⟩

/-- New addresses differ from the issued ones and from each other. -/
theorem append_newAddresses
    (issued : Issued supervisor addresses) {id : String} {count : Nat}
    (grows : ∀ id, (supervisor id).port ≤ (next id).port)
    (given : (next id).port = (supervisor id).port + count) :
    Issued next (addresses ++ newAddresses supervisor id count) where
  distinct := by
    refine List.Nodup.append issued.distinct ?_ ?_
    · refine List.Nodup.map ?_ List.nodup_range
      intro offset other same
      exact Nat.add_left_cancel (makeAddr_inj same).2
    · intro address present isNew
      obtain ⟨owner, port, rfl, below⟩ := issued.issued address present
      obtain ⟨offset, _, same⟩ := List.mem_map.mp isNew
      obtain ⟨rfl, rfl⟩ := makeAddr_inj same
      omega
  issued := by
    intro address present
    rcases List.mem_append.mp present with isOld | isNew
    · exact (issued.mono grows).issued address isOld
    · obtain ⟨offset, inRange, rfl⟩ := List.mem_map.mp isNew
      refine ⟨id, _, rfl, ?_⟩
      rw [given]
      exact Nat.add_lt_add_left (List.mem_range.mp inRange) _

end Issued

end Crane
end CraneSps
