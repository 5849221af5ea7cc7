import TaggedMachine.Proofs.Transition

/-!
The machine with every range guarded. Its locations and its step count are 64-bit numbers,
an index names a cell that exists, and the index of a general register is one less than
its id. Here a step that would leave one of these ranges is trapped at the operation that
does, and nothing else is different. Main statement: no operation leaves its range, except
that a count of as many steps as a 64-bit number holds cannot be raised.
-/
namespace TaggedMachine

open Parameters

/-- The range that an operation would leave: a sum of locations, an index into the memory,
an index of a general register, the step count. -/
inductive Trap
  | location | cell | register | count
deriving DecidableEq

/-- A computation that gives a result, is refused, or is trapped. -/
abbrev Guarded := ExceptT Overrun (Except Trap)

namespace Guarded

def sum (trap : Trap) (left right : Nat) : Except Trap Nat :=
  if left + right ≤ lastLocation then .ok (left + right) else .error trap

/-- The number before an id, trapped where there is none. -/
def predecessor (id : UInt8) : Except Trap Nat :=
  if id.toNat = 0 then .error .register else .ok (id.toNat - 1)

/-- A computation without a trap. -/
def lift {α : Type} (result : Except Overrun α) : Guarded α := ExceptT.mk (.ok result)

def register (id : UInt8) : Guarded Register := do
  if id = programCounterId then
    return .programCounter
  else
    let index ← predecessor id
    match [Register.first, Register.second][index]? with
    | some register => return register
    | none => throw (.register id)

end Guarded

namespace Memory

def guardedCell (memory : Memory) (location : Nat) : Except Trap UInt8 :=
  if location < memory.size then .ok (memory.cell location) else .error .cell

def guardedCells (memory : Memory) (start count : Nat) : Except Trap (List UInt8) :=
  (List.range count).mapM fun i => do
    let location ← Guarded.sum .location start i
    memory.guardedCell location

def guardedRead (memory : Memory) (start count : Nat) (overrun : Nat → Overrun) :
    Guarded (List UInt8) := do
  memory.demand start count overrun
  memory.guardedCells start count

def guardedOpcode (memory : Memory) (pc : Nat) : Guarded UInt8 := do
  let bytes ← memory.guardedRead pc 1 .fetch
  return bytes.getD 0 0

def guardedOperands (memory : Memory) (pc : Nat) : Guarded (UInt8 × UInt8) := do
  let bytes ← memory.guardedRead (shifted pc 1) 2 .fetch
  return (bytes.getD 0 0, bytes.getD 1 0)

def guardedWord (memory : Memory) (address : UInt8) : Guarded UInt16 := do
  let bytes ← memory.guardedRead address.toNat wordBytes .load
  return .ofBitVec (LittleEndian.decode 16 bytes)

def guardedStore (memory : Memory) (address : UInt8) (word : UInt16) : Guarded Memory := do
  memory.demandWord address
  let stop ← Guarded.sum .location address.toNat wordBytes
  if stop ≤ memory.size then
    return memory.setWord address word
  else
    (Except.error Trap.cell : Except Trap Memory)

end Memory

namespace Machine

def guardedGet (machine : Machine) (id : UInt8) : Guarded UInt16 := do
  let register ← Guarded.register id
  return machine.registers.get register

def guardedSet (machine : Machine) (id : UInt8) (word : UInt16) : Guarded Machine := do
  let register ← Guarded.register id
  return { machine with registers := machine.registers.set register word }

def guardedFetch (machine : Machine) : Guarded Fetched := do
  let pc := machine.registers.pc
  let opcode ← machine.memory.guardedOpcode pc
  if opcode = Opcode.halt.tag then
    return .instruction .halt
  else
    let (left, right) ← machine.memory.guardedOperands pc
    match Instruction.decode? opcode left right with
    | some instruction => return .instruction instruction
    | none => return .unknown opcode

def guardedArithmetic (machine : Machine) (operation : UInt16 → UInt16 → UInt16)
    (left right : UInt8) : Guarded Machine := do
  let first ← machine.guardedGet left
  let second ← machine.guardedGet right
  machine.guardedSet left (operation first second)

/-- The machine that an instruction leads to before the program counter moves on. -/
def guardedExecute (machine : Machine) : Instruction → Guarded Machine
  | .load register address => do
    let word ← machine.memory.guardedWord address
    machine.guardedSet register word
  | .store register address => do
    let word ← machine.guardedGet register
    let memory ← machine.memory.guardedStore address word
    return { machine with memory := memory }
  | .add left right => machine.guardedArithmetic (· + ·) left right
  | .sub left right => machine.guardedArithmetic (· - ·) left right
  | .halt => return machine

def guardedAdvance (machine : Machine) : Except Trap Machine := do
  let pc ← Guarded.sum .location machine.registers.pc instructionWidth
  let steps ← Guarded.sum .count machine.steps 1
  return { machine with registers := { machine.registers with pc := pc }, steps := steps }

def guardedUnknown (machine : Machine) (opcode : UInt8) : Except Trap Outcome :=
  match machine.options.unknownOpcodes with
  | .ignore => do
    let advanced ← machine.guardedAdvance
    return ⟨advanced, [.ignored machine.registers.pc opcode], .ok .running⟩
  | .reject => return machine.fail [] (.unknownOpcode opcode machine.registers.pc)

def guardedDispatch (machine : Machine) (instruction : Instruction) : Except Trap Outcome := do
  let pc := machine.registers.pc
  let event := .dispatched pc instruction
  if instruction = .halt then
    let steps ← Guarded.sum .count machine.steps 1
    return ⟨{ machine with status := .halted, steps := steps }, [event, .halted pc steps],
      .ok .halted⟩
  else
    match ← (machine.guardedExecute instruction).run with
    | .error overrun => return machine.fail [event] (.outOfBounds overrun)
    | .ok executed =>
      let advanced ← executed.guardedAdvance
      return ⟨advanced, [event], .ok .running⟩

/-- A step that is trapped where an operation leaves its range. -/
def guardedStep (machine : Machine) : Except Trap Outcome :=
  match machine.status with
  | .halted => return ⟨machine, [], .ok .halted⟩
  | .running =>
    match machine.spentBudget? with
    | some budget => return machine.fail [] (.budgetSpent budget)
    | none => do
      match ← machine.guardedFetch.run with
      | .error overrun => return machine.fail [] (.outOfBounds overrun)
      | .ok (.unknown opcode) => machine.guardedUnknown opcode
      | .ok (.instruction instruction) => machine.guardedDispatch instruction

/-- The machine after its first `n` steps, all of them guarded. -/
def guardedSteps (machine : Machine) : Nat → Except Trap Machine
  | 0 => return machine
  | n + 1 => do
    let before ← machine.guardedSteps n
    let outcome ← before.guardedStep
    return outcome.machine

end Machine

theorem mapM_eq_ok {α β ε : Type} {list : List α} {f : α → Except ε β} {g : α → β}
    (h : ∀ a ∈ list, f a = .ok (g a)) : list.mapM f = .ok (list.map g) := by
  induction list with
  | nil => rfl
  | cons a rest ih =>
    obtain ⟨hfirst, hrest⟩ := List.forall_mem_cons.mp h
    rw [List.mapM_cons, hfirst, ih hrest]
    rfl

namespace Guarded

variable {α β : Type}

theorem lift_bind {result : Except Overrun α} {f : α → Guarded β} {g : α → Except Overrun β}
    (h : ∀ a, result = .ok a → f a = lift (g a)) : lift result >>= f = lift (result >>= g) := by
  cases result with
  | error overrun => rfl
  | ok a => exact h a rfl

theorem sum_eq {trap : Trap} {left right : Nat} (h : left + right ≤ lastLocation) :
    sum trap left right = .ok (left + right) := if_pos h

theorem word_le_lastLocation (address : UInt8) : address.toNat + wordBytes ≤ lastLocation := by
  have haddress := address.toNat_lt
  simp only [wordBytes, lastLocation, UInt64.size]
  omega

theorem register_eq (id : UInt8) : register id = lift (Register.named id) := by
  unfold register
  rw [Register.named_eq]
  by_cases hzero : id = programCounterId
  · subst hzero
    rfl
  · have hid : id.toNat ≠ 0 := fun h => hzero (UInt8.toNat_inj.mp h)
    simp only [if_neg hzero, predecessor, if_neg hid]
    by_cases hlarge : registerCount ≤ id.toNat
    · have hindex : [Register.first, Register.second].length ≤ id.toNat - 1 := by
        simp only [registerCount, generalRegisterCount] at hlarge
        simp only [List.length_cons, List.length_nil]
        omega
      simp only [Instruction.missingRegister?, if_pos hlarge]
      simp only [liftM, monadLift, MonadLift.monadLift, ExceptT.lift, bind, ExceptT.bind,
        ExceptT.mk, ExceptT.bindCont, Functor.map, Except.map, Except.bind,
        List.getElem?_eq_none hindex]
      rfl
    · have hgeneral : id = 1 ∨ id = 2 := by
        simp only [← UInt8.toNat_inj, registerCount, generalRegisterCount] at hlarge ⊢
        simp only [UInt8.reduceToNat]
        omega
      rcases hgeneral with rfl | rfl <;> rfl

end Guarded

namespace Memory

theorem guardedCells_eq (memory : Memory) {start count : Nat}
    (h : start + count ≤ memory.size) :
    memory.guardedCells start count = .ok (memory.read start count) := by
  have hsize := memory.size_le
  refine mapM_eq_ok fun i hi => ?_
  have hi' := List.mem_range.mp hi
  have hlocation : start + i < memory.size := by omega
  have hlast : start + i ≤ lastLocation := by
    simp only [memoryLimit, size, UInt64.size] at hsize hlocation
    simp only [lastLocation, UInt64.size]
    omega
  simp only [Guarded.sum_eq hlast, bind, Except.bind, guardedCell, if_pos hlocation]

/-- What the check has let through is read without leaving the memory. -/
theorem guardedRead_eq (memory : Memory) (start count : Nat) (overrun : Nat → Overrun) :
    memory.guardedRead start count overrun =
      Guarded.lift (do memory.demand start count overrun; return memory.read start count) := by
  refine Guarded.lift_bind fun _ hdemand => ?_
  have hfits := (memory.demand_eq_ok_iff start count overrun).mp hdemand
  rw [guardedCells_eq memory hfits]
  rfl

theorem guardedOpcode_eq (memory : Memory) (pc : Nat) :
    memory.guardedOpcode pc = Guarded.lift (memory.fetchOpcode pc) := by
  unfold guardedOpcode fetchOpcode
  rw [guardedRead_eq]
  cases memory.demand pc 1 .fetch <;> rfl

theorem guardedOperands_eq (memory : Memory) (pc : Nat) :
    memory.guardedOperands pc = Guarded.lift (memory.fetchOperands pc) := by
  simp only [guardedOperands, fetchOperands, guardedRead_eq]
  cases memory.demand (shifted pc 1) 2 .fetch <;> rfl

theorem guardedWord_eq (memory : Memory) (address : UInt8) :
    memory.guardedWord address = Guarded.lift (memory.loadWord address) := by
  unfold guardedWord loadWord
  rw [guardedRead_eq]
  cases memory.demand address.toNat wordBytes .load <;> rfl

theorem guardedStore_eq (memory : Memory) (address : UInt8) (word : UInt16) :
    memory.guardedStore address word = Guarded.lift (memory.storeWord address word) := by
  refine Guarded.lift_bind fun _ hdemand => ?_
  have hfits := (memory.demand_eq_ok_iff _ _ _).mp hdemand
  rw [Guarded.sum_eq (Guarded.word_le_lastLocation address)]
  exact if_pos hfits

end Memory

namespace Machine

theorem guardedFetch_eq (machine : Machine) :
    machine.guardedFetch = Guarded.lift machine.fetch := by
  simp only [guardedFetch, fetch, Memory.guardedOpcode_eq]
  refine Guarded.lift_bind fun opcode _ => ?_
  split
  · rfl
  · rw [Memory.guardedOperands_eq]
    refine Guarded.lift_bind fun operands _ => ?_
    cases Instruction.decode? opcode operands.1 operands.2 <;> rfl

/-- The machine that an effect leads to before the program counter moves on. -/
def altered (machine : Machine) : Effect → Machine
  | .setRegister register word =>
    { machine with registers := machine.registers.set register word }
  | .setWord address word => { machine with memory := machine.memory.setWord address word }
  | .halt => machine

theorem guardedArithmetic_eq (machine : Machine) (operation : UInt16 → UInt16 → UInt16)
    (left right : UInt8) :
    machine.guardedArithmetic operation left right =
      Guarded.lift ((machine.arithmetic operation left right).map machine.altered) := by
  simp only [guardedArithmetic, arithmetic, guardedGet, guardedSet, Guarded.register_eq]
  cases hleft : Register.named left with
  | error overrun => rfl
  | ok target => cases Register.named right <;> rfl

theorem guardedExecute_eq (machine : Machine) (instruction : Instruction) :
    machine.guardedExecute instruction =
      Guarded.lift ((machine.effect instruction).map machine.altered) := by
  cases instruction with
  | load register address =>
    simp only [guardedExecute, effect, guardedSet, Memory.guardedWord_eq, Guarded.register_eq]
    cases machine.memory.loadWord address with
    | error overrun => rfl
    | ok word => cases Register.named register <;> rfl
  | store register address =>
    simp only [guardedExecute, effect, guardedGet, Memory.guardedStore_eq, Guarded.register_eq,
      Memory.storeWord]
    cases Register.named register with
    | error overrun => rfl
    | ok source => cases machine.memory.demandWord address <;> rfl
  | add left right => exact machine.guardedArithmetic_eq _ left right
  | sub left right => exact machine.guardedArithmetic_eq _ left right
  | halt => rfl

theorem guardedAdvance_eq {machine : Machine}
    (h : machine.registers.pc + instructionWidth ≤ lastLocation) :
    machine.guardedAdvance = do
      let steps ← Guarded.sum .count machine.steps 1
      return { machine with registers := machine.registers.advance, steps := steps } := by
  unfold guardedAdvance
  rw [Guarded.sum_eq h]
  rfl

/-- The guarded computation has the outcome, or cannot raise the step count. -/
def Guards (machine : Machine) (guarded : Except Trap Outcome) (outcome : Outcome) : Prop :=
  guarded = .ok outcome ∨ guarded = .error .count ∧ lastLocation ≤ machine.steps

variable {machine : Machine} {instruction : Instruction}

theorem guards_count (machine : Machine) (outcome : Nat → Outcome) :
    machine.Guards (do let steps ← Guarded.sum .count machine.steps 1; return outcome steps)
      (outcome (machine.steps + 1)) := by
  unfold Guarded.sum
  by_cases hsteps : machine.steps + 1 ≤ lastLocation
  · rw [if_pos hsteps]
    exact Or.inl rfl
  · rw [if_neg hsteps]
    exact Or.inr ⟨rfl, Nat.le_of_not_lt hsteps⟩

/-- The program counter has room to move past an instruction that stands in memory. -/
theorem room_of_fetch {fetched : Fetched} (h : machine.fetch = .ok fetched)
    (hne : fetched ≠ .instruction .halt) :
    machine.registers.pc + instructionWidth ≤ lastLocation := by
  have hsize := machine.memory.size_le
  have hpc := lt_size_of_fetch h hne
  simp only [memoryLimit, Memory.size, UInt64.size] at hsize hpc
  simp only [instructionWidth, lastLocation, UInt64.size]
  omega

/-- It has room as well after a word has been written to it. -/
theorem room_altered (h : machine.registers.pc + instructionWidth ≤ lastLocation)
    (effect : Effect) :
    (machine.altered effect).registers.pc + instructionWidth ≤ lastLocation := by
  cases effect with
  | setWord => exact h
  | halt => exact h
  | setRegister register word =>
    cases register with
    | programCounter =>
      have hword := word.toNat_lt
      simp only [altered, Registers.set, instructionWidth, lastLocation, UInt64.size]
      omega
    | first => exact h
    | second => exact h

theorem steps_altered (machine : Machine) (effect : Effect) :
    (machine.altered effect).steps = machine.steps := by
  cases effect <;> rfl

theorem ne_halt_of_effect {effect : Effect} (h : machine.effect instruction = .ok effect)
    (hne : instruction ≠ .halt) : effect ≠ .halt := by
  rintro rfl
  rw [effect_eq] at h
  cases hoverrun : instruction.overrun? machine.memory.size with
  | some overrun => simp [hoverrun] at h
  | none =>
    simp only [hoverrun, Except.ok.injEq] at h
    cases instruction with
    | halt => contradiction
    | _ => simp [intended] at h

theorem guards_unknown {opcode : UInt8} (h : machine.fetch = .ok (.unknown opcode)) :
    machine.Guards (machine.guardedUnknown opcode) (machine.stepUnknown opcode) := by
  unfold guardedUnknown stepUnknown
  cases machine.options.unknownOpcodes with
  | reject => exact Or.inl rfl
  | ignore =>
    have hroom := room_of_fetch h (by simp)
    simp only [guardedAdvance_eq hroom, bind_assoc, pure_bind]
    exact machine.guards_count _

theorem guards_dispatch (h : machine.fetch = .ok (.instruction instruction)) :
    machine.Guards (machine.guardedDispatch instruction) (machine.dispatch instruction) := by
  unfold guardedDispatch
  by_cases hhalt : instruction = .halt
  · subst hhalt
    exact machine.guards_count _
  · have hroom := room_of_fetch h (by simpa using hhalt)
    simp only [if_neg hhalt, guardedExecute_eq, dispatch]
    cases heffect : machine.effect instruction with
    | error overrun => exact Or.inl rfl
    | ok effect =>
      have hne := ne_halt_of_effect heffect hhalt
      change machine.Guards
        (do
          let advanced ← (machine.altered effect).guardedAdvance
          return ⟨advanced, [.dispatched machine.registers.pc instruction], .ok .running⟩) _
      rw [guardedAdvance_eq (room_altered hroom effect), steps_altered]
      simp only [bind_assoc, pure_bind]
      cases effect with
      | setRegister register word => exact machine.guards_count _
      | setWord address word => exact machine.guards_count _
      | halt => contradiction

/-- A guarded step does the same as a step, unless it would count more steps than a 64-bit
number holds. -/
theorem guards_step (machine : Machine) :
    machine.guardedStep = .ok machine.step ∨
      machine.guardedStep = .error .count ∧ machine.Active ∧ lastLocation ≤ machine.steps := by
  by_cases hactive : machine.Active
  · have hguards : machine.Guards machine.guardedStep machine.step := by
      rw [step_of_active hactive]
      simp only [guardedStep, hactive.1, hactive.2, guardedFetch_eq]
      cases hfetch : machine.fetch with
      | error overrun => exact Or.inl rfl
      | ok fetched =>
        cases fetched with
        | unknown opcode => exact guards_unknown hfetch
        | instruction instruction => exact guards_dispatch hfetch
    rcases hguards with hok | ⟨htrap, hsteps⟩
    · exact Or.inl hok
    · exact Or.inr ⟨htrap, hactive, hsteps⟩
  · left
    unfold guardedStep step
    cases hstatus : machine.status with
    | halted => rfl
    | running =>
      cases hbudget : machine.spentBudget? with
      | some budget => rfl
      | none => exact absurd ⟨hstatus, hbudget⟩ hactive

end Machine

end TaggedMachine
