import Mathlib.Algebra.BigOperators.Fin
import Mathlib.Data.Nat.Digits.Lemmas
import Mathlib.Data.Set.Function
import TaggedMachine.Proofs.Digits

/-!
Digits as numbers. As long as 32 bits can count positions, bytes are read as the digits of a
number to base 256, and what is written of the number are these bytes again, as far as the
width has room for them. From the digit 2^29 on the positions of the first digits come again,
and so do the digits. Main statements: reading is positional and writing undoes it on the bytes
that the width has room for; all bytes written of a word are its digits to base 256 exactly if
the digits that come again are zero.
-/
namespace TaggedMachine.LittleEndian

open Parameters

/-- The number with the bytes as its digits to base 256, lowest first. -/
def value (bytes : List UInt8) : Nat := Nat.ofDigits 256 (bytes.map UInt8.toNat)

/-- The number of whole bytes in a word. -/
def Width.bytes (width : Width) : Nat := width.bits / byteBits

theorem Width.bits_eq (width : Width) : width.bits = byteBits * width.bytes := by
  cases width <;> rfl

theorem Width.bytes_le (width : Width) : width.bytes ≤ 16 := by
  cases width <;> decide

theorem Width.two_pow_bits (width : Width) : 2 ^ width.bits = 256 ^ width.bytes := by
  rw [width.bits_eq, pow_mul]
  rfl

/-- Only 2^29 digits have positions of their own. -/
theorem two_pow_position (i : Nat) : 2 ^ position i = 256 ^ (i % 2 ^ 29) := by
  have hposition : position i = byteBits * (i % 2 ^ 29) := by
    simp only [position, byteBits, UInt32.size]
    omega
  rw [hposition, pow_mul]
  rfl

theorem value_cons (byte : UInt8) (rest : List UInt8) :
    value (byte :: rest) = byte.toNat + 256 * value rest := Nat.ofDigits_cons

theorem value_eq_sum (bytes : List UInt8) :
    value bytes = ∑ i : Fin bytes.length, bytes[i].toNat * 256 ^ (i : Nat) := by
  induction bytes with
  | nil => rfl
  | cons byte rest ih =>
    have hsum : ∑ i : Fin (byte :: rest).length, (byte :: rest)[i].toNat * 256 ^ (i : Nat) =
        byte.toNat * 256 ^ 0 + ∑ i : Fin rest.length, rest[i].toNat * 256 ^ ((i : Nat) + 1) :=
      Fin.sum_univ_succ _
    rw [hsum, value_cons, ih, Finset.mul_sum, pow_zero, mul_one]
    refine congrArg (byte.toNat + ·) (Finset.sum_congr rfl fun i _ => ?_)
    ring

theorem lt_of_mem_digits (bytes : List UInt8) : ∀ d ∈ bytes.map UInt8.toNat, d < 256 :=
  List.forall_mem_map.mpr fun byte _ => byte.toNat_lt

theorem value_mod (bytes : List UInt8) (count : Nat) :
    value bytes % 256 ^ count = value (bytes.take count) := by
  rw [value, Nat.ofDigits_mod_pow_eq_ofDigits_take count (by decide) _ (lt_of_mem_digits bytes),
    ← List.map_take, value]

/-- The digits of the number are the bytes, and zero after them. -/
theorem value_div_mod (bytes : List UInt8) (i : Nat) :
    value bytes / 256 ^ i % 256 = (bytes[i]?.getD 0).toNat := by
  rw [value, Nat.ofDigits_div_pow_eq_ofDigits_drop i (by decide) _ (lt_of_mem_digits bytes),
    ← List.map_drop]
  by_cases hi : i < bytes.length
  · rw [List.drop_eq_getElem_cons hi, List.map_cons, Nat.ofDigits_cons,
      Nat.add_mul_mod_self_left, Nat.mod_eq_of_lt (UInt8.toNat_lt _),
      List.getElem?_eq_getElem hi, Option.getD_some]
  · rw [List.drop_eq_nil_of_le (Nat.le_of_not_lt hi),
      List.getElem?_eq_none (Nat.le_of_not_lt hi)]
    rfl

/-- Digit `i` of a word is the digit to base 256 that its position belongs to. -/
theorem toNat_digit {width : Nat} (word : BitVec width) (i : Nat) :
    (digit word i).toNat = word.toNat / 256 ^ (i % 2 ^ 29) % 256 := by
  unfold digit
  split
  · rw [Nat.toUInt8_eq, UInt8.toNat_ofNat', BitVec.toNat_ushiftRight, Nat.shiftRight_eq_div_pow,
      two_pow_position]
  · rename_i hbeyond
    have hword : word.toNat < 2 ^ position i :=
      Nat.lt_of_lt_of_le word.isLt (Nat.pow_le_pow_right (by decide) (Nat.le_of_not_lt hbeyond))
    rw [← two_pow_position, Nat.div_eq_of_lt hword]
    rfl

theorem single_eq_ofNat (width : Nat) {i : Nat} (hi : i < 2 ^ 29) (byte : UInt8) :
    single width i byte = BitVec.ofNat width (256 ^ i * byte.toNat) := by
  have hposition : 2 ^ position i = 256 ^ i := by
    rw [two_pow_position, Nat.mod_eq_of_lt hi]
  apply BitVec.eq_of_toNat_eq
  unfold single
  split
  · rw [BitVec.toNat_shiftLeft, BitVec.toNat_ofNat, BitVec.toNat_ofNat, Nat.shiftLeft_eq,
      Nat.mod_mul_mod, hposition, Nat.mul_comm]
  · rename_i hbeyond
    have hdvd : 2 ^ width ∣ 256 ^ i * byte.toNat := by
      rw [← hposition]
      exact Dvd.dvd.mul_right (pow_dvd_pow 2 (Nat.le_of_not_lt hbeyond)) _
    rw [BitVec.toNat_ofNat, Nat.mod_eq_zero_of_dvd hdvd]
    rfl

/-- Bytes with positions of their own do not overlap, so joining them adds them up. -/
theorem decodeFrom_eq_ofNat (width start : Nat) (bytes : List UInt8)
    (h : start + bytes.length ≤ 2 ^ 29) :
    decodeFrom width start bytes = BitVec.ofNat width (256 ^ start * value bytes) := by
  induction bytes generalizing start with
  | nil => rfl
  | cons byte rest ih =>
    rw [List.length_cons] at h
    have hbyte : 256 ^ start * byte.toNat < 2 ^ (byteBits * (start + 1)) := by
      rw [pow_mul, pow_succ]
      exact Nat.mul_lt_mul_of_pos_left byte.toNat_lt (Nat.pow_pos (by decide))
    have hrest : 256 ^ (start + 1) * value rest = 2 ^ (byteBits * (start + 1)) * value rest := by
      rw [pow_mul]
      rfl
    have hjoin := Nat.two_pow_add_eq_or_of_lt hbyte (value rest)
    rw [← hrest] at hjoin
    rw [decodeFrom, single_eq_ofNat width (by omega), ih (start + 1) (by omega),
      ← BitVec.ofNat_or, Nat.or_comm, ← hjoin, value_cons]
    refine congrArg (BitVec.ofNat width) ?_
    ring

theorem toNat_decode (width : Width) {bytes : List UInt8} (h : bytes.length ≤ 2 ^ 29) :
    (decode width.bits bytes).toNat = value (bytes.take width.bytes) := by
  rw [decode, decodeFrom_eq_ofNat _ _ _ (by rwa [Nat.zero_add]), BitVec.toNat_ofNat,
    width.two_pow_bits, pow_zero, one_mul, value_mod]

theorem digit_decode (width : Width) {bytes : List UInt8} (h : bytes.length ≤ 2 ^ 29) {i : Nat}
    (hi : i < 2 ^ 29) :
    digit (decode width.bits bytes) i = (bytes.take width.bytes)[i]?.getD 0 := by
  apply UInt8.toNat_inj.mp
  rw [toNat_digit, toNat_decode width h, Nat.mod_eq_of_lt hi, value_div_mod]

/-- What is written of a word that was read are its bytes, as far as the width has room. -/
theorem encode_decode (width : Width) {bytes : List UInt8} (h : bytes.length ≤ 2 ^ 29) :
    encode (decode width.bits bytes) bytes.length =
      bytes.mapIdx fun i byte => if 8 * i < width.bits then byte else 0 := by
  refine List.ext_getElem? fun i => ?_
  by_cases hi : i < bytes.length
  · rw [getElem?_encode _ _ _ hi, digit_decode width h (by omega), List.getElem?_mapIdx,
      List.getElem?_eq_getElem hi, Option.map_some, Option.some_inj, List.getElem?_take,
      width.bits_eq]
    by_cases hroom : i < width.bytes
    · rw [if_pos hroom, if_pos (by simp only [byteBits]; omega), List.getElem?_eq_getElem hi]
      rfl
    · rw [if_neg hroom, if_neg (by simp only [byteBits]; omega)]
      rfl
  · have hle := Nat.le_of_not_lt hi
    rw [List.getElem?_eq_none (by rwa [length_encode]),
      List.getElem?_eq_none (by rwa [List.length_mapIdx])]

theorem decode_take (width : Width) {bytes : List UInt8} (h : bytes.length ≤ 2 ^ 29) {kept : Nat}
    (hkept : width.bytes ≤ kept) :
    decode width.bits (bytes.take kept) = decode width.bits bytes := by
  have hlength : (bytes.take kept).length ≤ 2 ^ 29 := Nat.le_trans (List.length_take_le' _ _) h
  apply BitVec.eq_of_toNat_eq
  rw [toNat_decode width hlength, toNat_decode width h, List.take_take, Nat.min_eq_left hkept]

theorem decode_encode (width : Width) (word : BitVec width.bits) {count : Nat}
    (h : 8 * count = width.bits) : decode width.bits (encode word count) = word := by
  refine BitVec.eq_of_getLsbD_eq fun bit hbit => ?_
  have hcarried := (exists_carries_iff (Nat.lt_trans hbit width.bits_lt) count).mpr (h ▸ hbit)
  rw [Bool.eq_iff_iff, getLsbD_decode_encode]
  exact ⟨fun hword => hword.2.2, fun hword => ⟨hbit, hcarried, hword⟩⟩

/-- As many bytes as a word has hold what the word holds. -/
theorem invOn_encode_decode (width : Width) {count : Nat} (h : 8 * count = width.bits) :
    Set.InvOn (fun word : BitVec width.bits => encode word count) (decode width.bits)
      {bytes | bytes.length = count} Set.univ := by
  constructor
  · rintro bytes rfl
    have hshort : bytes.length ≤ 2 ^ 29 := by
      have hbits := width.bits_eq
      have hbytes := width.bytes_le
      simp only [byteBits] at hbits
      omega
    change encode (decode width.bits bytes) bytes.length = bytes
    rw [encode_decode width hshort]
    refine List.ext_getElem List.length_mapIdx fun i hi _ => ?_
    rw [List.length_mapIdx] at hi
    rw [List.getElem_mapIdx, if_pos (by omega)]
  · exact fun word _ => decode_encode width word h

/-- At most 2^29 bytes are read as the number that they are the digits of to base 256, reduced to
the width. What is written of it are the bytes that begin within the width, and zero for the
others, which do not bear on the number. So reading and writing as many bytes as the width holds
are inverse bijections. -/
theorem decode_positional (width : Width) :
    (∀ bytes : List UInt8, bytes.length ≤ 2 ^ 29 →
      (decode width.bits bytes).toNat =
          (∑ i : Fin bytes.length, bytes[i].toNat * 256 ^ (i : Nat)) % 2 ^ width.bits ∧
        encode (decode width.bits bytes) bytes.length =
          bytes.mapIdx (fun i byte => if 8 * i < width.bits then byte else 0) ∧
        (∀ kept, width.bits / 8 ≤ kept →
          decode width.bits (bytes.take kept) = decode width.bits bytes) ∧
        ∀ more, width.bits / 8 ≤ bytes.length → (bytes ++ more).length ≤ 2 ^ 29 →
          decode width.bits (bytes ++ more) = decode width.bits bytes) ∧
    ∀ count, 8 * count = width.bits →
      Set.BijOn (decode width.bits) {bytes | bytes.length = count} Set.univ ∧
        Set.BijOn (fun word : BitVec width.bits => encode word count) Set.univ
          {bytes | bytes.length = count} ∧
        Set.InvOn (fun word : BitVec width.bits => encode word count) (decode width.bits)
          {bytes | bytes.length = count} Set.univ := by
  refine ⟨fun bytes h => ⟨?_, encode_decode width h, fun kept => decode_take width h, ?_⟩, ?_⟩
  · rw [toNat_decode width h, ← value_mod, ← width.two_pow_bits, value_eq_sum]
  · intro more hroom hlength
    have htake := decode_take width hlength hroom
    rw [List.take_left] at htake
    exact htake.symm
  · intro count h
    have hinverse := invOn_encode_decode width h
    have hread : Set.MapsTo (decode width.bits) {bytes | bytes.length = count} Set.univ :=
      Set.mapsTo_univ _ _
    have hwritten : Set.MapsTo (fun word : BitVec width.bits => encode word count) Set.univ
        {bytes | bytes.length = count} := fun word _ => length_encode word count
    exact ⟨hinverse.bijOn hread hwritten, hinverse.symm.bijOn hwritten hread, hinverse⟩

/-- Three bytes are more than the width has room for, two are as many. -/
theorem decode_positional_beyond_width :
    (decode 16 [0x34, 0x12, 0xff]).toNat = 0x1234 ∧
      encode (decode 16 [0x34, 0x12, 0xff]) 3 = [0x34, 0x12, 0] ∧
      decode 16 [0x34, 0x12] = decode 16 [0x34, 0x12, 0xff] ∧
      decode 16 ([0x34, 0x12] ++ [0xff, 0x7f]) = decode 16 [0x34, 0x12] ∧
      encode (decode 16 [0x34, 0x12]) 2 = [0x34, 0x12] := by
  obtain ⟨hbytes, hbijections⟩ := decode_positional .bits16
  obtain ⟨hnumber, hwritten, hkept, -⟩ := hbytes [0x34, 0x12, 0xff] (by decide)
  obtain ⟨-, -, -, hmore⟩ := hbytes [0x34, 0x12] (by decide)
  obtain ⟨-, -, hinverse⟩ := hbijections 2 rfl
  exact ⟨hnumber.trans (by decide), hwritten.trans (by decide), hkept 2 (by decide),
    hmore [0xff, 0x7f] (by decide) (by decide), hinverse.1 rfl⟩

theorem map_toNat_encode {width : Nat} (word : BitVec width) (count : Nat) :
    (encode word count).map UInt8.toNat =
      (List.range count).map fun i => word.toNat / 256 ^ (i % 2 ^ 29) % 256 := by
  rw [encode, List.map_map]
  exact List.map_congr_left fun i _ => toNat_digit word i

/-- A number ends in zeros exactly as far as its lowest digits are zero. -/
theorem pow_dvd_iff (base number count : Nat) :
    base ^ count ∣ number ↔ ∀ i < count, number / base ^ i % base = 0 := by
  induction count with
  | zero => simp
  | succ count ih =>
    rw [Nat.forall_lt_succ_right, ← ih, pow_succ, ← Nat.dvd_iff_mod_eq_zero]
    constructor
    · intro h
      exact ⟨dvd_of_mul_right_dvd h, Nat.dvd_div_of_mul_dvd h⟩
    · rintro ⟨hpow, hdigit⟩
      exact Nat.mul_dvd_of_dvd_div hpow hdigit

/-- No width reaches as far as the digits that come again. -/
theorem div_pow_eq_zero (width : Width) (word : BitVec width.bits) {i : Nat} (hi : 2 ^ 29 ≤ i) :
    word.toNat / 256 ^ i = 0 := by
  have hbytes : width.bytes ≤ i := Nat.le_trans width.bytes_le (Nat.le_trans (by decide) hi)
  have hword : word.toNat < 256 ^ width.bytes := width.two_pow_bits ▸ word.isLt
  exact Nat.div_eq_of_lt (Nat.lt_of_lt_of_le hword (Nat.pow_le_pow_right (by decide) hbytes))

/-- The bytes written of a word are its digits to base 256 from the lowest on, and from the byte
2^29 on these digits again. So they are the digits of the word and zeros after them exactly if
the digits that come again are zero. -/
theorem encode_positional_iff (width : Width) (word : BitVec width.bits) (count : Nat) :
    (encode word count).map UInt8.toNat =
        (List.range count).map (fun i => word.toNat / 256 ^ (i % 2 ^ 29) % 256) ∧
      ((encode word count).map UInt8.toNat =
          (List.range count).map (fun i => word.toNat / 256 ^ i % 256) ↔
        256 ^ (count - 2 ^ 29) ∣ word.toNat) := by
  refine ⟨map_toNat_encode word count, ?_⟩
  rw [map_toNat_encode, List.map_inj_left, pow_dvd_iff]
  constructor
  · intro hsame i hi
    by_cases hfirst : i < 2 ^ 29
    · -- The byte that repeats digit `i` lies beyond the width.
      have hagain := hsame (2 ^ 29 + i) (List.mem_range.mpr (by omega))
      rwa [Nat.add_mod_left, Nat.mod_eq_of_lt hfirst,
        div_pow_eq_zero width word (Nat.le_add_right _ _)] at hagain
    · rw [div_pow_eq_zero width word (Nat.le_of_not_lt hfirst)]
  · intro hzero i hi
    have hcount := List.mem_range.mp hi
    by_cases hfirst : i < 2 ^ 29
    · rw [Nat.mod_eq_of_lt hfirst]
    · have hle := Nat.le_of_not_lt hfirst
      rw [hzero (i % 2 ^ 29) (by omega), div_pow_eq_zero width word hle]

/-- The bytes behind those of the width are zero. -/
example : encode (0x1234 : BitVec 16) 5 = [0x34, 0x12, 0, 0, 0] := by decide

/-- The first byte without a position of its own repeats the lowest digit. -/
theorem encode_repeats_lowest_digit :
    ¬ ∀ (width : Width) (word : BitVec width.bits) (count : Nat), 8 * count < 2 ^ 64 →
      ∀ i < count, ((encode word count)[i]?).map UInt8.toNat =
        some (word.toNat / 256 ^ i % 256) := by
  intro h
  have hdigit := h .bits8 1 (2 ^ 29 + 1) (by decide) (2 ^ 29) (Nat.lt_succ_self _)
  have hbeyond := div_pow_eq_zero .bits8 1 (Nat.le_refl (2 ^ 29))
  rw [getElem?_encode _ _ _ (Nat.lt_succ_self _), Option.map_some, Option.some_inj, hbeyond,
    toNat_digit, Nat.mod_self] at hdigit
  exact absurd hdigit (by decide)

end TaggedMachine.LittleEndian
