import TaggedMachine.Program
import TaggedMachine.Run

/-!
The reference programs, each a full memory of twenty cells: the code, an output slot at
0x0e and two input slots at 0x10 and 0x12. The code takes one word from each input slot,
combines them and stores the result in the output slot.
-/
namespace TaggedMachine

structure Sample where
  name : String
  memory : Memory
  expected : UInt16

namespace Sample

open Parameters

def outputAddress : UInt8 := 0x0e

def leftAddress : UInt8 := 0x10

def rightAddress : UInt8 := 0x12

def code (operation : UInt8 → UInt8 → Instruction) : List Instruction :=
  [.load 1 leftAddress, .load 2 rightAddress, operation 1 2, .store 1 outputAddress, .halt]

/-- The last operand of the halt lies in the output slot; it is zero, like the cell that
completes the slot. -/
def image (operation : UInt8 → UInt8 → Instruction) (left right : UInt16) : Memory where
  cells := (Program.encode (code operation) ++ 0 :: LittleEndian.encode left.toBitVec wordBytes
    ++ LittleEndian.encode right.toBitVec wordBytes).toArray
  size_le := by
    simp [Program.length_encode, LittleEndian.length_encode, code, UInt64.size]

def all : List Sample :=
  [⟨"10 + 12", image .add 10 12, 22⟩,
   ⟨"500 + 200", image .add 500 200, 700⟩,
   ⟨"400 - 155", image .sub 400 155, 245⟩]

/-- The word in the output slot. -/
def output (memory : Memory) : UInt16 := memory.word outputAddress

/-- Runs a memory under the default options, for the memory it ends with. -/
def finalMemory (memory : Memory) : Except Fault Memory :=
  let outcome := (Machine.start memory {}).run
  outcome.result.map fun _ => outcome.machine.memory

end Sample

end TaggedMachine
