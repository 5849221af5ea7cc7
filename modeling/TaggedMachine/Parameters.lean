/-!
Sizes of the machine. A word is two bytes and an instruction three. Register ids
below `registerCount` name a register: `programCounterId` the program counter, the
others the general registers in order. Locations are 64-bit numbers, and no memory
fills more than half of their range.
-/
namespace TaggedMachine.Parameters

@[simp] def byteBits : Nat := 8

@[simp] def wordBytes : Nat := 2

@[simp] def instructionWidth : Nat := 3

@[simp] def generalRegisterCount : Nat := 2

@[simp] def registerCount : Nat := generalRegisterCount + 1

@[simp] def programCounterId : UInt8 := 0

@[simp] def lastLocation : Nat := UInt64.size - 1

@[simp] def memoryLimit : Nat := UInt64.size / 2 - 1

/-- The memory that the reference programs are written for. -/
@[simp] def referenceMemorySize : Nat := 20

end TaggedMachine.Parameters
