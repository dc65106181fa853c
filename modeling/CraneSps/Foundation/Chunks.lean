import Mathlib.Algebra.Order.Floor.Div
import Mathlib.Data.List.Basic

/-!
# Cutting a list into chunks of one size

A list of length `n` has `⌈n / size⌉` chunks, of which only the last one can be
shorter, and the first `k` of them make up its first `k * size` entries.
-/

namespace List

variable {α : Type*} {size index : Nat}

/-- The chunk of the given index. -/
def chunk (entries : List α) (size index : Nat) : List α :=
  (entries.drop (index * size)).take size

/-- The number of chunks, by division with remainder. -/
def chunkCount (size length : Nat) : Nat :=
  length / size + if length % size = 0 then 0 else 1

@[simp] theorem length_chunk (entries : List α) :
    (entries.chunk size index).length =
      min size (entries.length - index * size) := by
  rw [chunk, length_take, length_drop]

theorem length_chunk_le (entries : List α) :
    (entries.chunk size index).length ≤ size := by
  rw [length_chunk]
  exact Nat.min_le_left _ _

/-- One more chunk extends the entries before it. -/
theorem take_append_chunk (entries : List α) (size index : Nat) :
    entries.take (index * size) ++ entries.chunk size index =
      entries.take ((index + 1) * size) := by
  rw [Nat.succ_mul, take_add, chunk]

/-- The chunks that exist are those that start inside the list. -/
theorem lt_chunkCount_iff
    (positive : 0 < size) (index length : Nat) :
    index < chunkCount size length ↔ index * size < length := by
  have split := Nat.div_add_mod length size
  have bound := Nat.mod_lt length positive
  have scaled : ∀ {first second : Nat},
      first ≤ second → first * size ≤ second * size :=
    fun le => Nat.mul_le_mul_right size le
  rw [Nat.mul_comm] at split
  unfold chunkCount
  constructor
  · intro below
    split at below
    · have next : (index + 1) * size ≤ length / size * size :=
        scaled (by omega)
      rw [Nat.succ_mul] at next
      omega
    · have next : index * size ≤ length / size * size := scaled (by omega)
      omega
  · intro inside
    by_contra above
    split at above
    · have next : length / size * size ≤ index * size := scaled (by omega)
      omega
    · have next : (length / size + 1) * size ≤ index * size :=
        scaled (by omega)
      rw [Nat.succ_mul] at next
      omega

theorem chunkCount_eq_ceilDiv
    (positive : 0 < size) (length : Nat) :
    chunkCount size length = length ⌈/⌉ size := by
  apply eq_of_forall_ge_iff
  intro bound
  rw [ceilDiv_le_iff_le_smul positive, ← Nat.not_lt,
    lt_chunkCount_iff positive, Nat.not_lt, smul_eq_mul, Nat.mul_comm]

theorem chunkCount_le_iff
    (positive : 0 < size) (count length : Nat) :
    chunkCount size length ≤ count ↔ length ≤ count * size := by
  rw [← Nat.not_lt, lt_chunkCount_iff positive, Nat.not_lt]

theorem le_chunkCount_mul (positive : 0 < size) (length : Nat) :
    length ≤ chunkCount size length * size :=
  (chunkCount_le_iff positive _ _).mp (le_refl _)

theorem chunkCount_mono
    (positive : 0 < size) {shorter longer : Nat} (le : shorter ≤ longer) :
    chunkCount size shorter ≤ chunkCount size longer :=
  (chunkCount_le_iff positive _ _).mpr
    (Nat.le_trans le (le_chunkCount_mul positive longer))

/-- Whole chunks in front are counted one by one. -/
theorem chunkCount_mul_add
    (positive : 0 < size) (count length : Nat) :
    chunkCount size (count * size + length) =
      count + chunkCount size length := by
  unfold chunkCount
  rw [Nat.mul_comm, Nat.mul_add_div positive, Nat.mul_add_mod, Nat.add_assoc]

/-- All chunks together reach to the end. -/
theorem take_chunkCount
    (positive : 0 < size) (entries : List α) :
    entries.take (chunkCount size entries.length * size) = entries :=
  take_of_length_le (le_chunkCount_mul positive entries.length)

theorem chunkCount_le
    (positive : 0 < size) (length : Nat) :
    chunkCount size length ≤ length := by
  by_contra above
  have inside : length * size < length :=
    (lt_chunkCount_iff positive length length).mp (Nat.not_le.mp above)
  exact absurd (Nat.le_mul_of_pos_right length positive) (Nat.not_le.mpr inside)

theorem chunkCount_pos
    (positive : 0 < size) {length : Nat} (nonempty : 0 < length) :
    0 < chunkCount size length := by
  rw [lt_chunkCount_iff positive, Nat.zero_mul]
  exact nonempty

end List
