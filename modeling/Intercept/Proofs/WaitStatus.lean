import Intercept.WaitStatus
import Mathlib.Algebra.Ring.Int.Defs
import Mathlib.Algebra.Ring.Nat

/-!
# The word that tells how a child ended

`WaitStatus.ofRaw` takes the word apart by division, as a number without a sign. The host system
describes the same word as a signed one, by masks and shifts: a shift to the right brings in copies
of the sign, and the test for a signal adds one in a signed byte, which overflows where the seven
lowest bits are all ones. This module says that the two descriptions agree on every word, the
negative ones included, and what exit code each kind of word comes to.

Results:
1. `hasExited_iff`, `isSignalled_iff`, `toInt_codeBits`, `toInt_signalBits`: the fields of a word.
2. `exitCode_of_hasExited`, `exitCode_of_isSignalled`, `exitCode_of_neither`: its exit code.
3. `exitCode_lt`, `exitCode_eq_zero_iff`: the range of the codes, and which words mean success.
4. `exitCode_exitWord`: a process that ends with an exit code is told of by that code again.
-/

namespace Intercept.WaitStatus

/-! ## Definitions -/

/-- The child exited: none of the seven lowest bits is set. -/
def HasExited (raw : Int32) : Prop := raw &&& 0x7F = 0

/-- The code with which a child exited. -/
def codeBits (raw : Int32) : Int32 := raw >>> 8 &&& 0xFF

/-- A signal ended the child. Where the seven lowest bits are all ones the sum is -128. -/
def IsSignalled (raw : Int32) : Prop := (0 : Int8) < ((raw &&& 0x7F) + 1).toInt8 >>> 1

/-- The number of the signal that ended a child. -/
def signalBits (raw : Int32) : Int32 := raw &&& 0x7F

/-- The word that the parent of a process is told when it exits with a code. -/
def exitWord (code : Nat) : Int32 := Int32.ofNat code <<< 8

instance (raw : Int32) : Decidable (HasExited raw) := inferInstanceAs (Decidable (_ = _))

instance (raw : Int32) : Decidable (IsSignalled raw) := inferInstanceAs (Decidable (_ < _))

/-! ## Masks and shifts -/

/-- A signed word and the one without a sign differ by whole turns. -/
theorem toInt_emod (raw : Int32) : raw.toInt % 2 ^ 32 = raw.toUInt32.toNat := by
  have bound := raw.toUInt32.toNat_lt
  have turn := Int.bmod_emod (x := raw.toUInt32.toNat) (m := 2 ^ 32)
  rw [← Int32.toInt_toBitVec, BitVec.toInt_eq_toNat_bmod, Int32.toNat_toBitVec]
  omega

/-- A mask of the lowest bits leaves a remainder, whatever the sign. -/
theorem toInt_and_mask (raw : Int32) (width : Nat) (narrow : width < 31) :
    (raw &&& Int32.ofNat (2 ^ width - 1)).toInt = (raw.toUInt32.toNat % 2 ^ width : Nat) := by
  have fits : 2 ^ width ≤ 2 ^ 30 := Nat.pow_le_pow_right (by decide) (by omega)
  have mask : (Int32.ofNat (2 ^ width - 1)).toBitVec.toNat = 2 ^ width - 1 := by
    rw [Int32.toNat_toBitVec, Int32.toUInt32_ofNat', UInt32.toNat_ofNat']
    omega
  have bits : (raw &&& Int32.ofNat (2 ^ width - 1)).toUInt32.toNat =
      raw.toUInt32.toNat % 2 ^ width := by
    rw [← Int32.toNat_toBitVec, Int32.toBitVec_and, BitVec.toNat_and, mask,
      Nat.and_two_pow_sub_one_eq_mod, Int32.toNat_toBitVec]
  have rest : raw.toUInt32.toNat % 2 ^ width < 2 ^ width := Nat.mod_lt _ (Nat.two_pow_pos width)
  -- What is left lies between the bounds of a signed word, so there is no turn to lose.
  have turn := toInt_emod (raw &&& Int32.ofNat (2 ^ width - 1))
  have low := (raw &&& Int32.ofNat (2 ^ width - 1)).le_toInt
  have high := (raw &&& Int32.ofNat (2 ^ width - 1)).toInt_lt
  omega

/-- A shift by eight bits divides, and rounds down also below zero. -/
theorem toInt_shiftRight_eight (raw : Int32) : (raw >>> 8).toInt = raw.toInt / 256 := by
  rw [← Int32.toInt_toBitVec, Int32.toBitVec_shiftRight, BitVec.sshiftRight_eq',
    BitVec.toInt_sshiftRight, Int.shiftRight_eq_div_pow, Int32.toInt_toBitVec]
  rfl

theorem toInt_shiftRight_one (b : Int8) : (b >>> 1).toInt = b.toInt / 2 := by
  rw [← Int8.toInt_toBitVec, Int8.toBitVec_shiftRight, BitVec.sshiftRight_eq',
    BitVec.toInt_sshiftRight, Int.shiftRight_eq_div_pow, Int8.toInt_toBitVec]
  rfl

/-! ## The fields of a word -/

theorem toInt_signalBits (raw : Int32) :
    (signalBits raw).toInt = (raw.toUInt32.toNat % 128 : Nat) :=
  toInt_and_mask raw 7 (by decide)

/-- The sign that the shift brings in lies above the eight bits that are kept. -/
theorem toInt_codeBits (raw : Int32) :
    (codeBits raw).toInt = (raw.toUInt32.toNat / 256 % 256 : Nat) := by
  have masked : (codeBits raw).toInt = ((raw >>> 8).toUInt32.toNat % 256 : Nat) :=
    toInt_and_mask (raw >>> 8) 8 (by decide)
  have shifted := toInt_shiftRight_eight raw
  have turn := toInt_emod raw
  have turnShifted := toInt_emod (raw >>> 8)
  omega

theorem hasExited_iff {raw : Int32} : HasExited raw ↔ raw.toUInt32.toNat % 128 = 0 := by
  have bits := toInt_signalBits raw
  have zero : (0 : Int32).toInt = 0 := rfl
  unfold HasExited
  unfold signalBits at bits
  rw [← Int32.toInt_inj, bits, zero]
  omega

theorem isSignalled_iff {raw : Int32} :
    IsSignalled raw ↔ raw.toUInt32.toNat % 128 ≠ 0 ∧ raw.toUInt32.toNat % 128 ≠ 127 := by
  have bits : (raw &&& 0x7F).toInt = (raw.toUInt32.toNat % 128 : Nat) := toInt_signalBits raw
  have one : (1 : Int32).toInt = 1 := rfl
  have zero : (0 : Int8).toInt = 0 := rfl
  have small : raw.toUInt32.toNat % 128 < 128 := Nat.mod_lt _ (by decide)
  unfold IsSignalled
  rw [Int8.lt_iff_toInt_lt, toInt_shiftRight_one, Int32.toInt_toInt8, Int32.toInt_add, bits, one,
    zero, Int.bmod_bmod_of_dvd (by decide)]
  -- Only 127 + 1 wraps in a signed byte.
  by_cases full : raw.toUInt32.toNat % 128 = 127
  · rw [full]
    decide
  · rw [Int.bmod_eq_of_le (by omega) (by omega)]
    omega

/-! ## Exit codes -/

theorem ofRaw_of_hasExited {raw : Int32} (exit : HasExited raw) :
    ofRaw raw = ofCode (raw.toUInt32.toNat / 256) :=
  if_pos (hasExited_iff.mp exit)

theorem ofRaw_of_isSignalled {raw : Int32} (signal : IsSignalled raw) :
    ofRaw raw = signalled (raw.toUInt32.toNat % 128) := by
  obtain ⟨nonzero, notFull⟩ := isSignalled_iff.mp signal
  exact (if_neg nonzero).trans (if_neg notFull)

theorem ofRaw_of_neither {raw : Int32} (exit : ¬ HasExited raw) (signal : ¬ IsSignalled raw) :
    ofRaw raw = unknown := by
  have nonzero : raw.toUInt32.toNat % 128 ≠ 0 := fun zero => exit (hasExited_iff.mpr zero)
  have full : raw.toUInt32.toNat % 128 = 127 :=
    Decidable.of_not_not fun notFull => signal (isSignalled_iff.mpr ⟨nonzero, notFull⟩)
  exact (if_neg nonzero).trans (if_pos full)

theorem exitCode_of_hasExited {raw : Int32} (exit : HasExited raw) :
    ((ofRaw raw).exitCode : Int) = (codeBits raw).toInt := by
  rw [ofRaw_of_hasExited exit, toInt_codeBits]
  rfl

theorem exitCode_of_isSignalled {raw : Int32} (signal : IsSignalled raw) :
    ((ofRaw raw).exitCode : Int) = 128 + (signalBits raw).toInt := by
  rw [ofRaw_of_isSignalled signal, toInt_signalBits]
  rfl

theorem exitCode_of_neither {raw : Int32} (exit : ¬ HasExited raw) (signal : ¬ IsSignalled raw) :
    (ofRaw raw).exitCode = 1 := by
  rw [ofRaw_of_neither exit signal]
  rfl

/-- No signal has the number zero or needs all seven bits. -/
theorem signalBits_bounds {raw : Int32} (signal : IsSignalled raw) :
    1 ≤ (signalBits raw).toInt ∧ (signalBits raw).toInt ≤ 126 := by
  obtain ⟨nonzero, notFull⟩ := isSignalled_iff.mp signal
  rw [toInt_signalBits]
  omega

theorem codeBits_bounds (raw : Int32) :
    0 ≤ (codeBits raw).toInt ∧ (codeBits raw).toInt ≤ 255 := by
  rw [toInt_codeBits]
  omega

/-- Every word comes to a code of eight bits. -/
theorem exitCode_lt (raw : Int32) : (ofRaw raw).exitCode < 256 := by
  by_cases exit : HasExited raw
  · have code := exitCode_of_hasExited exit
    have bounds := codeBits_bounds raw
    omega
  · by_cases signal : IsSignalled raw
    · have code := exitCode_of_isSignalled signal
      have bounds := signalBits_bounds signal
      omega
    · rw [exitCode_of_neither exit signal]
      decide

/-- Only a child that exited with zero is told of as a success. -/
theorem exitCode_eq_zero_iff (raw : Int32) :
    (ofRaw raw).exitCode = 0 ↔ HasExited raw ∧ codeBits raw = 0 := by
  have zero : codeBits raw = 0 ↔ (codeBits raw).toInt = 0 := Int32.toInt_inj.symm
  by_cases exit : HasExited raw
  · have code := exitCode_of_hasExited exit
    rw [zero]
    exact ⟨fun success => ⟨exit, by omega⟩, fun ⟨_, noBits⟩ => by omega⟩
  · refine iff_of_false (fun success => ?_) (fun both => exit both.1)
    by_cases signal : IsSignalled raw
    · have code := exitCode_of_isSignalled signal
      have bounds := signalBits_bounds signal
      omega
    · rw [exitCode_of_neither exit signal] at success
      exact nomatch success

/-- A process that exits with a code of eight bits is told of by this code. -/
theorem exitCode_exitWord {code : Nat} (small : code < 256) :
    (ofRaw (exitWord code)).exitCode = code := by
  have word : (exitWord code).toUInt32.toNat = code * 256 := by
    have places : ((Int32.toBitVec 8).smod 32).toNat = 8 := by decide
    unfold exitWord
    rw [← Int32.toNat_toBitVec, Int32.toBitVec_shiftLeft, BitVec.shiftLeft_eq',
      BitVec.toNat_shiftLeft, places, Int32.toNat_toBitVec, Int32.toUInt32_ofNat',
      UInt32.toNat_ofNat', Nat.shiftLeft_eq]
    omega
  have exit : HasExited (exitWord code) := hasExited_iff.mpr (by omega)
  have kept := exitCode_of_hasExited exit
  rw [toInt_codeBits, word] at kept
  omega

end Intercept.WaitStatus
