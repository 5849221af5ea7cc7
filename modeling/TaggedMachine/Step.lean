import TaggedMachine.Event
import TaggedMachine.Machine

/-!
One step of a machine. The checks come in a fixed order: a halted machine stays as it
is, then the budget, the opcode, the operands, the table of opcodes, and last what the
instruction itself needs. An instruction first works out its whole effect from the
state before it, and only a complete effect is applied; a step that fails therefore
leaves the machine as it was. The same step with its checks and changes one after the other, on
the machine in place, is `InPlace.step`.
-/
namespace TaggedMachine

/-- What stands at the program counter. -/
inductive Fetched
  | instruction (instruction : Instruction)
  | unknown (opcode : UInt8)
deriving DecidableEq

/-- What an instruction changes, apart from the program counter moving on. -/
inductive Effect
  | setRegister (register : Register) (word : UInt16)
  | setWord (address : UInt8) (word : UInt16)
  | halt
deriving DecidableEq

/-- The machine after a step or a run, what it reported on the way, and whether it
stopped, failed, or can go on. -/
structure Outcome where
  machine : Machine
  events : List Event
  result : Except Fault Status

namespace Machine

/-- The operands of a halt are not read, so a halt may stand in the last cell. -/
def fetch (machine : Machine) : Except Overrun Fetched := do
  let pc := machine.registers.pc
  let opcode ← machine.memory.fetchOpcode pc
  if opcode = Opcode.halt.tag then
    return .instruction .halt
  else
    let (left, right) ← machine.memory.fetchOperands pc
    match Instruction.decode? opcode left right with
    | some instruction => return .instruction instruction
    | none => return .unknown opcode

/-- Both operands are read before the result is written to the left one. -/
def arithmetic (machine : Machine) (operation : UInt16 → UInt16 → UInt16)
    (left right : UInt8) : Except Overrun Effect := do
  let target ← Register.named left
  let other ← Register.named right
  return .setRegister target
    (operation (machine.registers.get target) (machine.registers.get other))

/-- A load reads its word before it looks for the register; a store looks for the
register first. -/
def effect (machine : Machine) : Instruction → Except Overrun Effect
  | .load register address => do
    let word ← machine.memory.loadWord address
    let target ← Register.named register
    return .setRegister target word
  | .store register address => do
    let source ← Register.named register
    machine.memory.demandWord address
    return .setWord address (machine.registers.get source)
  | .add left right => machine.arithmetic (· + ·) left right
  | .sub left right => machine.arithmetic (· - ·) left right
  | .halt => return .halt

def advance (machine : Machine) : Machine :=
  { machine with registers := machine.registers.advance, steps := machine.steps + 1 }

def apply (machine : Machine) : Effect → Machine
  | .setRegister register word =>
    advance { machine with registers := machine.registers.set register word }
  | .setWord address word =>
    advance { machine with memory := machine.memory.setWord address word }
  | .halt => { machine with status := .halted, steps := machine.steps + 1 }

/-- A failure leaves the machine as it was. -/
def fail (machine : Machine) (events : List Event) (fault : Fault) : Outcome :=
  ⟨machine, events, .error fault⟩

def ignoreUnknown (machine : Machine) (opcode : UInt8) : Outcome :=
  let pc := machine.registers.pc
  ⟨machine.advance, [.ignored pc opcode], .ok .running⟩

def stepUnknown (machine : Machine) (opcode : UInt8) : Outcome :=
  match machine.options.unknownOpcodes with
  | .ignore => machine.ignoreUnknown opcode
  | .reject => machine.fail [] (.unknownOpcode opcode machine.registers.pc)

def complete (machine : Machine) (event : Event) : Effect → Outcome
  | .halt =>
    let pc := machine.registers.pc
    let steps := machine.steps + 1
    ⟨machine.apply .halt, [event, .halted pc steps], .ok .halted⟩
  | effect => ⟨machine.apply effect, [event], .ok .running⟩

/-- Reports an instruction and executes it if its effect can be worked out. -/
def dispatch (machine : Machine) (instruction : Instruction) : Outcome :=
  let event := .dispatched machine.registers.pc instruction
  match machine.effect instruction with
  | .error overrun => machine.fail [event] (.outOfBounds overrun)
  | .ok effect => machine.complete event effect

def step (machine : Machine) : Outcome :=
  match machine.status with
  | .halted => ⟨machine, [], .ok .halted⟩
  | .running =>
    match machine.spentBudget? with
    | some budget => machine.fail [] (.budgetSpent budget)
    | none =>
      match machine.fetch with
      | .error overrun => machine.fail [] (.outOfBounds overrun)
      | .ok (.unknown opcode) => machine.stepUnknown opcode
      | .ok (.instruction instruction) => machine.dispatch instruction

/-- A failing step changes nothing. -/
theorem machine_step_of_error {machine : Machine} {fault : Fault}
    (h : machine.step.result = .error fault) : machine.step.machine = machine := by
  unfold step at h ⊢
  split at h
  · rfl
  · split at h
    · rfl
    · split at h
      · rfl
      · unfold stepUnknown at h ⊢
        split at h
        · simp [ignoreUnknown] at h
        · rfl
      · unfold dispatch at h ⊢
        split at h
        · rfl
        · unfold complete at h
          split at h <;> simp at h

end Machine

end TaggedMachine
