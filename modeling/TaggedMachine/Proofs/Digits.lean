import Mathlib.Data.Nat.Bitwise
import TaggedMachine.LittleEndian

/-!
The bits of digits. Digit `i` of a word carries the eight bits from its position on. As long as
32 bits can count positions, the digits carry all bits one after the other; later digits repeat
the positions of earlier ones. Words are joined bit by bit, so a repeated digit adds nothing.
Main statement: what is written of a word in one width and read in another keeps the bits that
both widths and the digits have room for, however many digits there are.
-/
namespace TaggedMachine.LittleEndian

open Parameters

/-- Digit `i` carries the bit if it stands in the byte that begins at the digit's position. -/
def Carries (i bit : Nat) : Prop := position i = byteBits * (bit / byteBits)

instance (i bit : Nat) : Decidable (Carries i bit) := inferInstanceAs (Decidable (_ = _))

theorem byteBits_dvd_position (i : Nat) : byteBits ∣ position i := by
  refine (Nat.dvd_mod_iff ?_).mpr (Nat.dvd_mul_right byteBits i)
  decide

theorem carries_iff (i bit : Nat) :
    Carries i bit ↔ position i ≤ bit ∧ bit - position i < byteBits := by
  obtain ⟨multiple, hposition⟩ := byteBits_dvd_position i
  simp only [Carries, hposition, byteBits]
  omega

/-- Among the first digits one carries a given bit exactly if there are enough of them. -/
theorem exists_carries_iff {bit : Nat} (hbit : bit < UInt32.size) (count : Nat) :
    (∃ i < count, Carries i bit) ↔ bit < byteBits * count := by
  constructor
  · rintro ⟨i, hi, hcarries⟩
    have hle : position i ≤ byteBits * i := Nat.mod_le _ _
    simp only [Carries, byteBits] at hcarries hle ⊢
    omega
  · intro hcount
    have hstart : byteBits * (bit / byteBits) ≤ bit := Nat.mul_div_le bit byteBits
    refine ⟨bit / byteBits, ?_, position_of_lt (Nat.lt_of_le_of_lt hstart hbit)⟩
    simp only [byteBits] at hcount ⊢
    omega

theorem getLsbD_digit {width : Nat} (word : BitVec width) (i k : Nat) :
    (digit word i).toBitVec.getLsbD k =
      (decide (k < byteBits) && word.getLsbD (position i + k)) := by
  unfold digit
  split
  · have hbits : (word >>> position i).toNat.testBit k = word.getLsbD (position i + k) := by
      rw [BitVec.testBit_toNat, BitVec.getLsbD_ushiftRight]
    rw [← hbits]
    exact BitVec.getLsbD_ofNat 8 _ k
  · rename_i hbeyond
    rw [BitVec.getLsbD_of_ge word _ (by omega), Bool.and_false]
    exact BitVec.getLsbD_zero

theorem getLsbD_single (width i : Nat) (byte : UInt8) (bit : Nat) :
    (single width i byte).getLsbD bit =
      (decide (bit < width ∧ Carries i bit) && byte.toBitVec.getLsbD (bit - position i)) := by
  have hcarries := carries_iff i bit
  rw [Bool.eq_iff_iff, Bool.and_eq_true, decide_eq_true_eq]
  unfold single
  split
  · have hbyte (k : Nat) : byte.toNat.testBit k = byte.toBitVec.getLsbD k := BitVec.testBit_toNat _
    rw [BitVec.getLsbD_shiftLeft, BitVec.getLsbD_ofNat, hbyte]
    simp only [Bool.and_eq_true, Bool.not_eq_true', decide_eq_true_eq, decide_eq_false_iff_not]
    constructor
    · rintro ⟨⟨hwidth, hstart⟩, -, hbit⟩
      have hlow : bit - position i < byteBits := BitVec.lt_of_getLsbD hbit
      exact ⟨⟨hwidth, hcarries.mpr ⟨Nat.le_of_not_lt hstart, hlow⟩⟩, hbit⟩
    · rintro ⟨⟨hwidth, hcarry⟩, hbit⟩
      obtain ⟨hstart, -⟩ := hcarries.mp hcarry
      have hroom : bit - position i < width := Nat.lt_of_le_of_lt (Nat.sub_le _ _) hwidth
      exact ⟨⟨hwidth, Nat.not_lt.mpr hstart⟩, hroom, hbit⟩
  · rename_i hbeyond
    refine iff_of_false (by simp) ?_
    rintro ⟨⟨hwidth, hcarry⟩, -⟩
    obtain ⟨hstart, -⟩ := hcarries.mp hcarry
    exact hbeyond (Nat.lt_of_le_of_lt hstart hwidth)

/-- A digit of a word gives back the bits that it carries. -/
theorem getLsbD_single_digit {source : Nat} (target : Nat) (word : BitVec source) (i bit : Nat) :
    (single target i (digit word i)).getLsbD bit =
      (decide (bit < target ∧ Carries i bit) && word.getLsbD bit) := by
  rw [getLsbD_single, getLsbD_digit]
  by_cases hcarries : Carries i bit
  · obtain ⟨hstart, hlow⟩ := (carries_iff i bit).mp hcarries
    rw [Nat.add_sub_cancel' hstart, decide_eq_true hlow, Bool.true_and]
  · simp only [hcarries, and_false, decide_false, Bool.false_and]

theorem getLsbD_decodeFrom (width start : Nat) (bytes : List UInt8) (bit : Nat) :
    (decodeFrom width start bytes).getLsbD bit = true ↔
      ∃ i byte, bytes[i]? = some byte ∧ (single width (start + i) byte).getLsbD bit = true := by
  induction bytes generalizing start with
  | nil => simp [decodeFrom]
  | cons byte rest ih =>
    rw [decodeFrom, BitVec.getLsbD_or, Bool.or_eq_true, ih]
    constructor
    · rintro (hfirst | ⟨i, later, hlater, hbit⟩)
      · exact ⟨0, byte, rfl, hfirst⟩
      · refine ⟨i + 1, later, hlater, ?_⟩
        rwa [Nat.add_assoc, Nat.add_comm 1] at hbit
    · rintro ⟨i, later, hlater, hbit⟩
      cases i with
      | zero =>
        cases hlater
        exact Or.inl hbit
      | succ i =>
        refine Or.inr ⟨i, later, hlater, ?_⟩
        rwa [Nat.add_assoc, Nat.add_comm 1]

/-- A bit of a word that was written and read again is the bit itself, if both the width has
room for it and a digit carries it. -/
theorem getLsbD_decode_encode {source : Nat} (target : Nat) (word : BitVec source)
    (count bit : Nat) :
    (decode target (encode word count)).getLsbD bit = true ↔
      bit < target ∧ (∃ i < count, Carries i bit) ∧ word.getLsbD bit = true := by
  rw [decode, getLsbD_decodeFrom]
  constructor
  · rintro ⟨i, byte, hbyte, hbit⟩
    obtain ⟨hi, -⟩ := List.getElem?_eq_some_iff.mp hbyte
    rw [length_encode] at hi
    rw [getElem?_encode word count i hi, Option.some.injEq] at hbyte
    rw [← hbyte, Nat.zero_add, getLsbD_single_digit, Bool.and_eq_true, decide_eq_true_eq] at hbit
    obtain ⟨⟨hwidth, hcarries⟩, hword⟩ := hbit
    exact ⟨hwidth, ⟨i, hi, hcarries⟩, hword⟩
  · rintro ⟨hwidth, ⟨i, hi, hcarries⟩, hword⟩
    refine ⟨i, digit word i, getElem?_encode word count i hi, ?_⟩
    rw [Nat.zero_add, getLsbD_single_digit, hword, Bool.and_true]
    exact decide_eq_true ⟨hwidth, hcarries⟩

theorem Width.bits_lt (width : Width) : width.bits < UInt32.size := by
  cases width <;> decide

/-- A word of one width that is written in any number of digits and read in another width has
lost exactly its bits beyond either width and beyond the digits. -/
theorem toNat_decode_encode (source target : Width) (word : BitVec source.bits) (count : Nat) :
    (decode target.bits (encode word count)).toNat =
      word.toNat % 2 ^ min (min source.bits target.bits) (8 * count) := by
  refine Nat.eq_of_testBit_eq fun bit => ?_
  rw [BitVec.testBit_toNat, Nat.testBit_mod_two_pow, BitVec.testBit_toNat, Bool.eq_iff_iff,
    Bool.and_eq_true, decide_eq_true_eq, getLsbD_decode_encode]
  have hcarried (htarget : bit < target.bits) :=
    exists_carries_iff (Nat.lt_trans htarget target.bits_lt) count
  constructor
  · rintro ⟨htarget, hdigit, hword⟩
    have hsource : bit < source.bits := BitVec.lt_of_getLsbD hword
    have hcount := (hcarried htarget).mp hdigit
    exact ⟨Nat.lt_min.mpr ⟨Nat.lt_min.mpr ⟨hsource, htarget⟩, hcount⟩, hword⟩
  · rintro ⟨hmin, hword⟩
    obtain ⟨hwidths, hcount⟩ := Nat.lt_min.mp hmin
    have htarget := (Nat.lt_min.mp hwidths).2
    exact ⟨htarget, (hcarried htarget).mpr hcount, hword⟩

/-- Three digits are fewer than either width has room for. -/
example : decode 64 (encode (0x12345678 : BitVec 32) 3) = 0x345678 := by decide

end TaggedMachine.LittleEndian
