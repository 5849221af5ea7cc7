import TaggedMachine.Parameters

/-!
Little-endian coding of words. Digit `i` of a word is the byte at bit `8 * i`, a
position that is kept in 32 bits, as shift amounts are. A digit that begins beyond
the width of the word is written as zero and ignored when it is read; the others
are joined bit by bit, so bytes at the same position merge.
-/
namespace TaggedMachine.LittleEndian

open Parameters

/-- The widths of unsigned numbers. -/
inductive Width
  | bits8 | bits16 | bits32 | bits64 | bits128
deriving DecidableEq

def Width.bits : Width → Nat
  | .bits8 => 8
  | .bits16 => 16
  | .bits32 => 32
  | .bits64 => 64
  | .bits128 => 128

def position (i : Nat) : Nat := byteBits * i % UInt32.size

def digit {width : Nat} (word : BitVec width) (i : Nat) : UInt8 :=
  if position i < width then (word >>> position i).toNat.toUInt8 else 0

/-- The lowest `count` digits of a word, lowest first. -/
def encode {width : Nat} (word : BitVec width) (count : Nat) : List UInt8 :=
  (List.range count).map (digit word)

/-- The word whose digit `i` is `byte` and whose other digits are zero. -/
def single (width i : Nat) (byte : UInt8) : BitVec width :=
  if position i < width then BitVec.ofNat width byte.toNat <<< position i else 0

def decodeFrom (width i : Nat) : List UInt8 → BitVec width
  | [] => 0
  | byte :: rest => single width i byte ||| decodeFrom width (i + 1) rest

/-- The word whose digits from the lowest on are `bytes`. -/
def decode (width : Nat) (bytes : List UInt8) : BitVec width := decodeFrom width 0 bytes

theorem length_encode {width : Nat} (word : BitVec width) (count : Nat) :
    (encode word count).length = count := by
  simp [encode]

theorem getElem?_encode {width : Nat} (word : BitVec width) (count i : Nat) (h : i < count) :
    (encode word count)[i]? = some (digit word i) := by
  simp [encode, h]

theorem position_of_lt {i : Nat} (h : byteBits * i < UInt32.size) : position i = byteBits * i :=
  Nat.mod_eq_of_lt h

@[simp] theorem position_zero : position 0 = 0 := rfl

@[simp] theorem position_one : position 1 = 8 := rfl

/-- The two digits of a 16-bit word are its remainder and quotient by 256. -/
theorem encode_two (word : BitVec 16) :
    encode word 2 = [word.toNat.toUInt8, (word.toNat / 256).toUInt8] := by
  simp [encode, List.range_succ, digit, Nat.shiftRight_eq_div_pow]

theorem toNat_decode_two (low high : UInt8) :
    (decode 16 [low, high]).toNat = low.toNat + 256 * high.toNat := by
  have hlow := low.toNat_lt
  have hhigh := high.toNat_lt
  have hplace : high.toNat * 256 % 65536 = 256 * high.toNat := by omega
  have hdisjoint := Nat.two_pow_add_eq_or_of_lt hlow high.toNat
  rw [show (2 : Nat) ^ 8 = 256 by rfl] at hdisjoint
  simp only [decode, decodeFrom, single, position_zero]
  simp [Nat.shiftLeft_eq]
  rw [hplace, Nat.or_comm]
  omega

end TaggedMachine.LittleEndian
