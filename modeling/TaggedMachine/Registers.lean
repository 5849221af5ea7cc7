import TaggedMachine.Fault
import TaggedMachine.Parameters

/-!
The register file. The program counter is a location; as a register it is read by its
low 16 bits, and a word written to it becomes the location.
-/
namespace TaggedMachine

inductive Register
  | programCounter | first | second
deriving DecidableEq

def Register.ofId? (id : UInt8) : Option Register :=
  match id with
  | 0 => some .programCounter
  | 1 => some .first
  | 2 => some .second
  | _ => none

/-- The register with a given id, refused where there is none. -/
def Register.named (id : UInt8) : Except Overrun Register :=
  match ofId? id with
  | some register => .ok register
  | none => .error (.register id)

structure Registers where
  pc : Nat := 0
  first : UInt16 := 0
  second : UInt16 := 0
deriving DecidableEq

namespace Registers

def get (registers : Registers) : Register → UInt16
  | .programCounter => registers.pc.toUInt16
  | .first => registers.first
  | .second => registers.second

def set (registers : Registers) (register : Register) (word : UInt16) : Registers :=
  match register with
  | .programCounter => { registers with pc := word.toNat }
  | .first => { registers with first := word }
  | .second => { registers with second := word }

/-- Moves the program counter past one instruction. -/
def advance (registers : Registers) : Registers :=
  { registers with pc := registers.pc + Parameters.instructionWidth }

end Registers

end TaggedMachine
