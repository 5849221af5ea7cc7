import TaggedMachine.Hexadecimal
import TaggedMachine.Parameters

/-!
The instruction set. An instruction is three bytes: a tag that names the opcode, then
two operands. A tag outside the table names no opcode. The operands of a halt are
written as zero and carry no meaning when read.
-/
namespace TaggedMachine

inductive Opcode
  | load | store | add | sub | halt
deriving DecidableEq

namespace Opcode

def tag : Opcode → UInt8
  | .load => 0x01
  | .store => 0x02
  | .add => 0x03
  | .sub => 0x04
  | .halt => 0xff

def mnemonic : Opcode → String
  | .load => "LOADW"
  | .store => "STORE"
  | .add => "ADD"
  | .sub => "SUB"
  | .halt => "HALT"

def all : List Opcode := [.load, .store, .add, .sub, .halt]

def tags : List UInt8 := all.map tag

def ofTag? (tag : UInt8) : Option Opcode :=
  match tag with
  | 0x01 => some .load
  | 0x02 => some .store
  | 0x03 => some .add
  | 0x04 => some .sub
  | 0xff => some .halt
  | _ => none

theorem ofTag?_tag (opcode : Opcode) : ofTag? opcode.tag = some opcode := by
  cases opcode <;> rfl

theorem tag_of_ofTag? {tag : UInt8} {opcode : Opcode} (h : ofTag? tag = some opcode) :
    opcode.tag = tag := by
  unfold ofTag? at h
  split at h <;> simp_all <;> subst h <;> rfl

end Opcode

/-- `load` and `store` take a register id and an address, `add` and `sub` two register
ids, of which the first also takes the result. -/
inductive Instruction
  | load (register address : UInt8)
  | store (register address : UInt8)
  | add (left right : UInt8)
  | sub (left right : UInt8)
  | halt
deriving DecidableEq

namespace Instruction

def opcode : Instruction → Opcode
  | .load .. => .load
  | .store .. => .store
  | .add .. => .add
  | .sub .. => .sub
  | .halt => .halt

def operands : Instruction → UInt8 × UInt8
  | .load register address => (register, address)
  | .store register address => (register, address)
  | .add left right => (left, right)
  | .sub left right => (left, right)
  | .halt => (0, 0)

def ofOpcode : Opcode → UInt8 → UInt8 → Instruction
  | .load, register, address => .load register address
  | .store, register, address => .store register address
  | .add, left, right => .add left right
  | .sub, left, right => .sub left right
  | .halt, _, _ => .halt

def encode (instruction : Instruction) : List UInt8 :=
  [instruction.opcode.tag, instruction.operands.1, instruction.operands.2]

def decode? (tag left right : UInt8) : Option Instruction :=
  (Opcode.ofTag? tag).map fun opcode => ofOpcode opcode left right

def registerText (id : UInt8) : String :=
  if id = Parameters.programCounterId then "PC" else "R" ++ id.toNat.repr

def addressText (address : UInt8) : String := Hexadecimal.text address.toNat

def operandsText : Instruction → String
  | .load register address => " " ++ registerText register ++ " " ++ addressText address
  | .store register address => " " ++ registerText register ++ " " ++ addressText address
  | .add left right => " " ++ registerText left ++ " " ++ registerText right
  | .sub left right => " " ++ registerText left ++ " " ++ registerText right
  | .halt => ""

def text (instruction : Instruction) : String :=
  instruction.opcode.mnemonic ++ instruction.operandsText

theorem ofOpcode_opcode_operands (instruction : Instruction) :
    ofOpcode instruction.opcode instruction.operands.1 instruction.operands.2 = instruction := by
  cases instruction <;> rfl

theorem decode?_encode (instruction : Instruction) :
    decode? instruction.opcode.tag instruction.operands.1 instruction.operands.2 =
      some instruction := by
  simp [decode?, Opcode.ofTag?_tag, ofOpcode_opcode_operands]

theorem length_encode (instruction : Instruction) :
    instruction.encode.length = Parameters.instructionWidth := rfl

theorem opcode_ofOpcode (opcode : Opcode) (left right : UInt8) :
    (ofOpcode opcode left right).opcode = opcode := by
  cases opcode <;> rfl

/-- A decoded instruction carries the tag it was decoded from. -/
theorem tag_of_decode? {tag left right : UInt8} {instruction : Instruction}
    (h : decode? tag left right = some instruction) : instruction.opcode.tag = tag := by
  obtain ⟨opcode, hopcode, rfl⟩ := Option.map_eq_some_iff.mp h
  rw [opcode_ofOpcode, Opcode.tag_of_ofTag? hopcode]

theorem tag_eq_halt_iff (instruction : Instruction) :
    instruction.opcode.tag = Opcode.halt.tag ↔ instruction = .halt := by
  cases instruction <;> simp [opcode, Opcode.tag]

end Instruction

end TaggedMachine
