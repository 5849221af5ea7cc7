import TaggedMachine.Hexadecimal

/-!
Why an instruction cannot be executed, and the diagnostic for each cause.
-/
namespace TaggedMachine

/-- Something an instruction asks for and the machine does not have. The location is
the first cell of the attempted access that does not exist. -/
inductive Overrun
  | fetch (location : Nat)
  | load (location : Nat)
  | store (location : Nat)
  | register (id : UInt8)
deriving DecidableEq

inductive Fault
  | outOfBounds (overrun : Overrun)
  | unknownOpcode (opcode : UInt8) (pc : Nat)
  | budgetSpent (budget : Nat)
deriving DecidableEq

def Overrun.text : Overrun → String
  | .fetch location => "fetch at " ++ Hexadecimal.text location
  | .load location => "load at " ++ Hexadecimal.text location
  | .store location => "store at " ++ Hexadecimal.text location
  | .register id => "register " ++ id.toNat.repr

def Fault.text : Fault → String
  | .outOfBounds overrun => "out of bounds " ++ overrun.text
  | .unknownOpcode opcode pc =>
    "unknown opcode " ++ Hexadecimal.text opcode.toNat ++ " at " ++ Hexadecimal.text pc
  | .budgetSpent budget => "no halt within " ++ budget.repr ++ " steps"

end TaggedMachine
