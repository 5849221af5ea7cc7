import TaggedMachine.Memory
import TaggedMachine.Registers

/-!
The state of a machine and the options it runs under. Registers start at zero. The
step count holds the completed steps, the one that halted included.
-/
namespace TaggedMachine

/-- What to do at an instruction whose tag names no opcode. -/
inductive UnknownOpcodes
  | ignore | reject
deriving DecidableEq

structure Options where
  unknownOpcodes : UnknownOpcodes := .ignore
  stepBudget : Option Nat := none
deriving DecidableEq

def Options.rejectUnknownOpcodes (options : Options) : Options :=
  { options with unknownOpcodes := .reject }

def Options.withStepBudget (options : Options) (budget : Nat) : Options :=
  { options with stepBudget := some budget }

inductive Status
  | running | halted
deriving DecidableEq

structure Machine where
  memory : Memory
  registers : Registers := {}
  options : Options := {}
  status : Status := .running
  steps : Nat := 0

namespace Machine

def start (memory : Memory) (options : Options) : Machine where
  memory := memory
  options := options

/-- The budget, once as many steps are completed as it allows. -/
def spentBudget? (machine : Machine) : Option Nat :=
  machine.options.stepBudget.filter fun budget => budget ≤ machine.steps

end Machine

end TaggedMachine
