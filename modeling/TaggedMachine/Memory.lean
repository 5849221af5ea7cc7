import TaggedMachine.Fault
import TaggedMachine.LittleEndian

/-!
The memory of the machine: byte cells at locations from zero on. Every access first
demands the cells it touches and is refused as a whole if one of them is missing, so
a refused write changes nothing. Locations are added up to the last 64-bit number and
no further.
-/
namespace TaggedMachine

structure Memory where
  cells : Array UInt8
  size_le : cells.size ≤ Parameters.memoryLimit

namespace Memory

open Parameters

def ofArray? (cells : Array UInt8) : Option Memory :=
  if h : cells.size ≤ memoryLimit then some ⟨cells, h⟩ else none

def size (memory : Memory) : Nat := memory.cells.size

/-- The content of a cell, zero where there is none. -/
def cell (memory : Memory) (location : Nat) : UInt8 := memory.cells.getD location 0

def read (memory : Memory) (start count : Nat) : List UInt8 :=
  (List.range count).map fun i => memory.cell (start + i)

def setCell (memory : Memory) (location : Nat) (byte : UInt8) : Memory where
  cells := memory.cells.setIfInBounds location byte
  size_le := by
    rw [Array.size_setIfInBounds]
    exact memory.size_le

def write (memory : Memory) (start : Nat) : List UInt8 → Memory
  | [] => memory
  | byte :: rest => (memory.setCell start byte).write (start + 1) rest

def word (memory : Memory) (address : UInt8) : UInt16 :=
  .ofBitVec (LittleEndian.decode 16 (memory.read address.toNat wordBytes))

def setWord (memory : Memory) (address : UInt8) (word : UInt16) : Memory :=
  memory.write address.toNat (LittleEndian.encode word.toBitVec wordBytes)

def shifted (location distance : Nat) : Nat := min (location + distance) lastLocation

/-- Refuses an access of `count` cells at `start` of which a cell is missing. -/
def demand (memory : Memory) (start count : Nat) (overrun : Nat → Overrun) :
    Except Overrun Unit :=
  if shifted start count ≤ memory.size then .ok ()
  else .error (overrun (max start memory.size))

def fetchOpcode (memory : Memory) (pc : Nat) : Except Overrun UInt8 := do
  memory.demand pc 1 .fetch
  return memory.cell pc

/-- The two bytes that follow the opcode. -/
def fetchOperands (memory : Memory) (pc : Nat) : Except Overrun (UInt8 × UInt8) := do
  let start := shifted pc 1
  memory.demand start 2 .fetch
  return (memory.cell start, memory.cell (start + 1))

def loadWord (memory : Memory) (address : UInt8) : Except Overrun UInt16 := do
  memory.demand address.toNat wordBytes .load
  return memory.word address

def demandWord (memory : Memory) (address : UInt8) : Except Overrun Unit :=
  memory.demand address.toNat wordBytes .store

def storeWord (memory : Memory) (address : UInt8) (word : UInt16) : Except Overrun Memory := do
  memory.demandWord address
  return memory.setWord address word

theorem size_setCell (memory : Memory) (location : Nat) (byte : UInt8) :
    (memory.setCell location byte).size = memory.size :=
  Array.size_setIfInBounds

theorem size_write (memory : Memory) (start : Nat) (bytes : List UInt8) :
    (memory.write start bytes).size = memory.size := by
  induction bytes generalizing memory start with
  | nil => rfl
  | cons byte rest ih => rw [write, ih, size_setCell]

theorem size_setWord (memory : Memory) (address : UInt8) (word : UInt16) :
    (memory.setWord address word).size = memory.size :=
  size_write _ _ _

theorem cell_setCell (memory : Memory) (location i : Nat) (byte : UInt8)
    (h : location < memory.size) :
    (memory.setCell location byte).cell i = if i = location then byte else memory.cell i := by
  simp only [cell, setCell, Array.getD_eq_getD_getElem?]
  split
  · subst i
    rw [Array.getElem?_setIfInBounds_self_of_lt h]
    rfl
  · rename_i hne
    rw [Array.getElem?_setIfInBounds_ne (Ne.symm hne)]

/-- The low byte of a stored word is in the addressed cell, the high byte in the next. -/
theorem cell_setWord (memory : Memory) (address : UInt8) (word : UInt16) (i : Nat)
    (h : address.toNat + 1 < memory.size) :
    (memory.setWord address word).cell i =
      if i = address.toNat then word.toNat.toUInt8
      else if i = address.toNat + 1 then (word.toNat / 256).toUInt8
      else memory.cell i := by
  have hlow : address.toNat < memory.size := by omega
  have hhigh : address.toNat + 1 <
      (memory.setCell address.toNat word.toNat.toUInt8).size := by
    rw [size_setCell]
    exact h
  simp only [setWord, wordBytes, LittleEndian.encode_two, UInt16.toNat_toBitVec, write,
    cell_setCell _ _ _ _ hhigh, cell_setCell _ _ _ _ hlow]
  split
  · rw [if_neg (by omega)]
  · rfl

theorem toNat_word (memory : Memory) (address : UInt8) :
    (memory.word address).toNat =
      (memory.cell address.toNat).toNat + 256 * (memory.cell (address.toNat + 1)).toNat :=
  LittleEndian.toNat_decode_two _ _

/-- A word that is stored is there to be loaded. -/
theorem word_setWord (memory : Memory) (address : UInt8) (word : UInt16)
    (h : address.toNat + 1 < memory.size) : (memory.setWord address word).word address = word := by
  have hword := word.toNat_lt
  apply UInt16.toNat_inj.mp
  rw [toNat_word, cell_setWord _ _ _ _ h, cell_setWord _ _ _ _ h, if_pos rfl,
    if_neg (Nat.succ_ne_self _), if_pos rfl, Nat.toUInt8_eq, Nat.toUInt8_eq, UInt8.toNat_ofNat',
    UInt8.toNat_ofNat']
  omega

/-- Stopping at the last location never shows: an access is refused exactly when it
would end beyond the memory. -/
theorem demand_eq_ok_iff (memory : Memory) (start count : Nat) (overrun : Nat → Overrun) :
    memory.demand start count overrun = .ok () ↔ start + count ≤ memory.size := by
  have hsize : memory.size ≤ memoryLimit := memory.size_le
  simp only [memoryLimit, UInt64.size] at hsize
  unfold demand shifted lastLocation UInt64.size
  split <;> simp <;> omega

end Memory

end TaggedMachine
