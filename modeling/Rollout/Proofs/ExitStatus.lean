import Rollout.Runner

/-!
# The number shown for a status

Two fields of the word decide the number shown for a status (`exitCode_eq`). An
exit code has eight bits and a signal is one of 126, so it lies between -126
and 255, and it is zero for one kind of status alone: that of a child that
exited with code zero (`exitCode_of_fields`).
-/

namespace Rollout.WaitStatus

variable {status : WaitStatus}

-- ---------------------------------------------------------------------------
-- The fields of the word
-- ---------------------------------------------------------------------------

/-- The number in `width` bits of a status, from bit `start` on. -/
def field (status : WaitStatus) (start width : Nat) : Nat :=
  (status.word.toBitVec.extractLsb' start width).toNat

/-- The status that a signed word carries, bit by bit. -/
def ofSigned (raw : Int32) : WaitStatus := ⟨raw.toUInt32⟩

/-- The bits that neither field has: the mark of a core dump and the upper half. -/
def spare : Int32 := 0xFFFF0080

theorem ending_eq (status : WaitStatus) : status.ending = status.field 0 7 := by
  rw [field, ending, BitVec.extractLsb'_toNat, UInt32.toNat_and]
  exact Nat.and_two_pow_sub_one_eq_mod status.word.toNat 7

theorem code?_eq (status : WaitStatus) :
    status.code? = if status.field 0 7 = 0 then some (status.field 8 8) else none := by
  have hcode : ((status.word >>> 8) &&& 0xFF).toNat = status.field 8 8 := by
    rw [field, BitVec.extractLsb'_toNat, UInt32.toNat_and, UInt32.toNat_shiftRight]
    exact Nat.and_two_pow_sub_one_eq_mod _ 8
  rw [code?, ending_eq, hcode]

theorem exitCode_eq (status : WaitStatus) :
    status.exitCode =
      if status.field 0 7 = 0 then (status.field 8 8 : Int)
      else if status.field 0 7 = 127 then 1
      else -status.field 0 7 := by
  have hlow : status.field 0 7 < 128 := BitVec.isLt _
  unfold exitCode signal? unknownExit
  rw [code?_eq, ending_eq]
  grind

theorem field_ofSigned_flip (raw flips : Int32) {start width : Nat}
    (h : ∀ i < width, spare.toBitVec.getLsbD (start + i) = false) :
    (ofSigned (raw ^^^ (flips &&& spare))).field start width = (ofSigned raw).field start width := by
  have hbits : (raw ^^^ (flips &&& spare)).toBitVec.extractLsb' start width =
      raw.toBitVec.extractLsb' start width := by
    apply BitVec.eq_of_getLsbD_eq
    intro i hi
    simp [hi, h i hi]
  exact congrArg BitVec.toNat hbits

theorem exitCode_ofSigned_flip (raw flips : Int32) :
    (ofSigned (raw ^^^ (flips &&& spare))).exitCode = (ofSigned raw).exitCode := by
  simp only [exitCode_eq]
  rw [field_ofSigned_flip raw flips (by decide), field_ofSigned_flip raw flips (by decide)]

-- ---------------------------------------------------------------------------
-- Bounds
-- ---------------------------------------------------------------------------

theorem exitCode_bounds (status : WaitStatus) :
    -126 ≤ status.exitCode ∧ status.exitCode ≤ 255 := by
  have hlow : status.field 0 7 < 128 := BitVec.isLt _
  have hhigh : status.field 8 8 < 256 := BitVec.isLt _
  rw [exitCode_eq]
  grind

/-- Negating a signal stays within a signed word. -/
theorem toInt_neg_signal {signal : Nat} (h : status.signal? = some signal) :
    (-Int32.ofNat signal).toInt = -(signal : Int) := by
  have hlow : status.field 0 7 < 128 := BitVec.isLt _
  rw [signal?, ending_eq] at h
  obtain ⟨-, rfl⟩ := Option.ite_some_none_eq_some.1 h
  rw [Int32.toInt_neg, Int32.toInt_ofNat_of_lt (by omega)]
  exact Int.bmod_eq_of_le (by omega) (by omega)

/-- The low seven bits of a word and the eight from bit 8 on decide the number
shown, whatever the other bits and with them the sign are. It is negative
exactly for a child that a signal ended and then names the signal; it is zero,
which alone counts as success, exactly for one that exited with code zero. -/
theorem exitCode_of_fields (raw : Int32) :
    let status := ofSigned raw
    let low := status.field 0 7
    let high := status.field 8 8
    status.exitCode = (if low = 0 then (high : Int) else if low = 127 then 1 else -low) ∧
    (∀ flips, (ofSigned (raw ^^^ (flips &&& spare))).exitCode = status.exitCode) ∧
    (-126 ≤ status.exitCode ∧ status.exitCode ≤ 255) ∧
    (∀ signal, status.signal? = some signal → (-Int32.ofNat signal).toInt = -(signal : Int)) ∧
    (status.exitCode < 0 ↔ 1 ≤ low ∧ low ≤ 126) ∧
    (status.exitCode < 0 → status.exitCode = -low) ∧
    (status.exitCode = 0 ↔ low = 0 ∧ high = 0) ∧
    ∀ command stdout stderr, ∃ finished,
      Runner.resultOf command (.ended status stdout stderr) = .ok finished ∧
        finished.exitCode = status.exitCode ∧
        (finished.success = true ↔ low = 0 ∧ high = 0) := by
  intro status low high
  have hcode : status.exitCode = if low = 0 then (high : Int) else if low = 127 then 1 else -low :=
    exitCode_eq status
  have hlow : low < 128 := BitVec.isLt _
  have hzero : status.exitCode = 0 ↔ low = 0 ∧ high = 0 := by
    rw [hcode]
    grind
  refine ⟨hcode, exitCode_ofSigned_flip raw, exitCode_bounds status, fun _ => toInt_neg_signal,
    ?_, ?_, hzero, ?_⟩
  · rw [hcode]
    grind
  · rw [hcode]
    grind
  · intro command stdout stderr
    refine ⟨_, rfl, rfl, ?_⟩
    rw [← hzero, Finished.success, beq_iff_eq]

end Rollout.WaitStatus
