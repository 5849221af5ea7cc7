import TaggedMachine.Proofs.Demand
import TaggedMachine.Run

/-!
The machine worked on in place. Each operation changes the machine at hand where it stands
between the checks: a load writes its register once the cells and then the register have been
looked for, a store puts one byte after the other into its cells, the program counter moves on
before the step is counted. An operation that fails ends the step, and nothing takes back what
was changed or reported before it. Main statement: worked on in place, a machine gives the
results, goes through the changes and makes the reports that its steps, runs and calls are
defined by.
-/
namespace TaggedMachine

open Instruction Parameters

/-- A machine that is worked on, and what has been reported so far. -/
structure Work where
  machine : Machine
  reported : List Event

abbrev InPlace := ExceptT Fault (StateM Work)

namespace InPlace

/-- What an operation gives, or why it fails, and the work it leaves either way. -/
def perform {α : Type} (operation : InPlace α) (work : Work) : Except Fault α × Work :=
  (operation.run.run work).run

def current : InPlace Machine := return (← get).machine

def change (f : Machine → Machine) : InPlace Unit :=
  modify fun work => { work with machine := f work.machine }

def report (event : Event) : InPlace Unit :=
  modify fun work => { work with reported := work.reported ++ [event] }

def demand {α : Type} : Except Overrun α → InPlace α
  | .ok value => return value
  | .error overrun => throw (.outOfBounds overrun)

def readRegister (id : UInt8) : InPlace UInt16 := do
  let machine ← current
  let register ← demand (Register.named id)
  return machine.registers.get register

def writeRegister (id : UInt8) (word : UInt16) : InPlace Unit := do
  let register ← demand (Register.named id)
  change fun machine => { machine with registers := machine.registers.set register word }

def loadWord (address : UInt8) : InPlace UInt16 := do
  let machine ← current
  demand (machine.memory.loadWord address)

def writeCells (start : Nat) : List UInt8 → InPlace Unit
  | [] => return
  | byte :: rest => do
    change fun machine => { machine with memory := machine.memory.setCell start byte }
    writeCells (start + 1) rest

def storeWord (address : UInt8) (word : UInt16) : InPlace Unit := do
  let machine ← current
  demand (machine.memory.demandWord address)
  writeCells address.toNat (LittleEndian.encode word.toBitVec wordBytes)

def advance : InPlace Status := do
  change fun machine => { machine with registers := machine.registers.advance }
  change fun machine => { machine with steps := machine.steps + 1 }
  return .running

def arithmetic (operation : UInt16 → UInt16 → UInt16) (left right : UInt8) :
    InPlace Status := do
  let first ← readRegister left
  let second ← readRegister right
  writeRegister left (operation first second)
  advance

def execute : Instruction → InPlace Status
  | .load register address => do
    let word ← loadWord address
    writeRegister register word
    advance
  | .store register address => do
    let word ← readRegister register
    storeWord address word
    advance
  | .add left right => arithmetic (· + ·) left right
  | .sub left right => arithmetic (· - ·) left right
  | .halt => do
    change fun machine => { machine with steps := machine.steps + 1 }
    change fun machine => { machine with status := .halted }
    let halted ← current
    report (.halted halted.registers.pc halted.steps)
    return .halted

/-- The instruction at a location, none where an unknown opcode is ignored. -/
def decode (pc : Nat) : InPlace (Option Instruction) := do
  let machine ← current
  let opcode ← demand (machine.memory.fetchOpcode pc)
  if opcode = Opcode.halt.tag then
    return some .halt
  else
    let (left, right) ← demand (machine.memory.fetchOperands pc)
    match Instruction.decode? opcode left right with
    | some instruction => return some instruction
    | none =>
      match machine.options.unknownOpcodes with
      | .ignore =>
        report (.ignored pc opcode)
        return none
      | .reject => throw (.unknownOpcode opcode pc)

def step : InPlace Status := do
  let machine ← current
  match machine.status with
  | .halted => return .halted
  | .running =>
    match machine.spentBudget? with
    | some budget => throw (.budgetSpent budget)
    | none =>
      let pc := machine.registers.pc
      match ← decode pc with
      | none => advance
      | some instruction =>
        report (.dispatched pc instruction)
        execute instruction

/-- Steps until one of them halts or fails, at most `limit` times. -/
def run : Nat → InPlace Status
  | 0 => return (← current).status
  | limit + 1 => do
    match ← step with
    | .running => run limit
    | .halted => return .halted

def call : Call → InPlace Status
  | .step => step
  | .run => do run (Machine.runLimit (← current).options)

/-- The results of calls made one after the other. A failed call does not end the session. -/
def session : List Call → StateM Work (List (Except Fault Status))
  | [] => return []
  | first :: rest => do
    let result ← ExceptT.run (call first)
    let later ← session rest
    return result :: later

/-- The results of calls, and the work they leave. -/
def performAll (calls : List Call) (work : Work) : List (Except Fault Status) × Work :=
  ((session calls).run work).run

section

variable {α β : Type} (machine : Machine) (reported : List Event)

@[simp] theorem perform_pure (value : α) (work : Work) :
    perform (pure value) work = (.ok value, work) := rfl

@[simp] theorem perform_throw (fault : Fault) (work : Work) :
    perform (throw fault : InPlace α) work = (.error fault, work) := rfl

/-- What follows a failure is not done, and the work stays as the failure has left it. -/
@[simp] theorem perform_bind (operation : InPlace α) (next : α → InPlace β) (work : Work) :
    perform (operation >>= next) work =
      match perform operation work with
      | (.ok value, left) => perform (next value) left
      | (.error fault, left) => (.error fault, left) := by
  change StateT.run (ExceptT.run operation >>= ExceptT.bindCont next) work = _
  rw [StateT.run_bind]
  rcases hperform : perform operation work with ⟨result | value, left⟩
  all_goals
    have hrun : StateT.run (ExceptT.run operation) work = _ := hperform
    rw [hrun]
    rfl

@[simp] theorem perform_map (f : α → β) (operation : InPlace α) (work : Work) :
    perform (f <$> operation) work =
      ((perform operation work).1.map f, (perform operation work).2) := by
  rw [map_eq_pure_bind, perform_bind]
  rcases perform operation work with ⟨fault | value, left⟩ <;> rfl

@[simp] theorem perform_current : perform current ⟨machine, reported⟩ =
    (.ok machine, ⟨machine, reported⟩) := rfl

@[simp] theorem perform_change (f : Machine → Machine) :
    perform (change f) ⟨machine, reported⟩ = (.ok (), ⟨f machine, reported⟩) := rfl

@[simp] theorem perform_report (event : Event) :
    perform (report event) ⟨machine, reported⟩ = (.ok (), ⟨machine, reported ++ [event]⟩) := rfl

@[simp] theorem perform_demand_ok (value : α) (work : Work) :
    perform (demand (.ok value)) work = (.ok value, work) := rfl

@[simp] theorem perform_demand_error (overrun : Overrun) (work : Work) :
    perform (demand (.error overrun : Except Overrun α)) work =
      (.error (.outOfBounds overrun), work) := rfl

theorem perform_writeCells (start : Nat) (bytes : List UInt8) :
    perform (writeCells start bytes) ⟨machine, reported⟩ =
      (.ok (), ⟨{ machine with memory := machine.memory.write start bytes }, reported⟩) := by
  induction bytes generalizing machine start with
  | nil => rfl
  | cons byte rest ih =>
    rw [writeCells, perform_bind, perform_change]
    exact ih _ _

theorem perform_readRegister (id : UInt8) :
    perform (readRegister id) ⟨machine, reported⟩ =
      (match missingRegister? id with
        | some overrun => .error (.outOfBounds overrun)
        | none => .ok (machine.registers.get (.ofId id)), ⟨machine, reported⟩) := by
  simp only [readRegister, perform_bind, perform_current, Register.named_eq]
  cases missingRegister? id <;> rfl

theorem perform_writeRegister (id : UInt8) (word : UInt16) :
    perform (writeRegister id word) ⟨machine, reported⟩ =
      match missingRegister? id with
      | some overrun => (.error (.outOfBounds overrun), ⟨machine, reported⟩)
      | none => (.ok (), ⟨{ machine with
          registers := machine.registers.set (.ofId id) word }, reported⟩) := by
  simp only [writeRegister, perform_bind, Register.named_eq]
  cases missingRegister? id <;> rfl

theorem perform_loadWord (address : UInt8) :
    perform (loadWord address) ⟨machine, reported⟩ =
      (match missingWord? machine.memory.size address .load with
        | some overrun => .error (.outOfBounds overrun)
        | none => .ok (machine.memory.word address), ⟨machine, reported⟩) := by
  simp only [loadWord, perform_bind, perform_current, Memory.loadWord, Memory.demand_word]
  cases missingWord? machine.memory.size address .load <;> rfl

/-- No cell is written unless both exist. -/
theorem perform_storeWord (address : UInt8) (word : UInt16) :
    perform (storeWord address word) ⟨machine, reported⟩ =
      match missingWord? machine.memory.size address .store with
      | some overrun => (.error (.outOfBounds overrun), ⟨machine, reported⟩)
      | none => (.ok (), ⟨{ machine with
          memory := machine.memory.setWord address word }, reported⟩) := by
  simp only [storeWord, perform_bind, perform_current, Memory.demandWord, Memory.demand_word]
  cases missingWord? machine.memory.size address .store with
  | some overrun => rfl
  | none => exact perform_writeCells machine reported _ _

theorem perform_advance :
    perform advance ⟨machine, reported⟩ = (.ok .running, ⟨machine.advance, reported⟩) := rfl

/-- Both registers are there before one of them is written. -/
theorem perform_arithmetic (operation : UInt16 → UInt16 → UInt16) (left right : UInt8) :
    perform (arithmetic operation left right) ⟨machine, reported⟩ =
      match (missingRegister? left).or (missingRegister? right) with
      | some overrun => (.error (.outOfBounds overrun), ⟨machine, reported⟩)
      | none => (.ok .running, ⟨machine.apply (.setRegister (.ofId left) (operation
          (machine.registers.get (.ofId left)) (machine.registers.get (.ofId right)))),
          reported⟩) := by
  cases hleft : missingRegister? left with
  | some overrun => simp [arithmetic, perform_readRegister, hleft]
  | none =>
    cases hright : missingRegister? right with
    | some overrun => simp [arithmetic, perform_readRegister, hleft, hright]
    | none =>
      simp [arithmetic, perform_readRegister, perform_writeRegister, perform_advance, hleft,
        hright, Machine.apply]

/-- The result of an outcome, and the work it leaves where there were reports before. -/
def resulting (outcome : Outcome) : Except Fault Status × Work :=
  (outcome.result, ⟨outcome.machine, reported ++ outcome.events⟩)

/-- Whatever the order of its checks and changes is, an instruction that is refused leaves the
machine unchanged. -/
theorem perform_execute (instruction : Instruction) :
    perform (execute instruction)
        ⟨machine, reported ++ [.dispatched machine.registers.pc instruction]⟩ =
      resulting reported (machine.dispatch instruction) := by
  rw [Machine.dispatch, Machine.effect_eq]
  cases instruction with
  | load register address =>
    cases hword : missingWord? machine.memory.size address .load with
    | some overrun => simp [execute, perform_loadWord, overrun?, hword, resulting, Machine.fail]
    | none =>
      cases hregister : missingRegister? register <;>
        simp [execute, perform_loadWord, perform_writeRegister, perform_advance, overrun?, hword,
          hregister, resulting, Machine.fail, Machine.intended, Machine.complete, Machine.apply]
  | store register address =>
    cases hregister : missingRegister? register with
    | some overrun =>
      simp [execute, perform_readRegister, overrun?, hregister, resulting, Machine.fail]
    | none =>
      cases hword : missingWord? machine.memory.size address .store <;>
        simp [execute, perform_readRegister, perform_storeWord, perform_advance, overrun?, hword,
          hregister, resulting, Machine.fail, Machine.intended, Machine.complete, Machine.apply]
  | add left right =>
    rw [execute, perform_arithmetic, overrun?]
    cases (missingRegister? left).or (missingRegister? right) <;> rfl
  | sub left right =>
    rw [execute, perform_arithmetic, overrun?]
    cases (missingRegister? left).or (missingRegister? right) <;> rfl
  | halt =>
    simp [execute, overrun?, resulting, Machine.intended, Machine.complete, Machine.apply,
      Except.map]

theorem perform_decode :
    perform (decode machine.registers.pc) ⟨machine, reported⟩ =
      match machine.fetch with
      | .error overrun => (.error (.outOfBounds overrun), ⟨machine, reported⟩)
      | .ok (.instruction instruction) => (.ok (some instruction), ⟨machine, reported⟩)
      | .ok (.unknown opcode) =>
        match machine.options.unknownOpcodes with
        | .ignore =>
          (.ok none, ⟨machine, reported ++ [.ignored machine.registers.pc opcode]⟩)
        | .reject =>
          (.error (.unknownOpcode opcode machine.registers.pc), ⟨machine, reported⟩) := by
  simp only [decode, perform_bind, perform_current, Machine.fetch_eq, Memory.fetchOpcode_eq]
  by_cases hpc : machine.memory.size ≤ machine.registers.pc
  · simp only [if_pos hpc, perform_demand_error]
  · simp only [if_neg hpc, perform_demand_ok]
    by_cases htag : machine.memory.cell machine.registers.pc = Opcode.halt.tag
    · simp only [if_pos htag, perform_pure]
    · simp only [if_neg htag, perform_bind,
        Memory.fetchOperands_eq machine.memory (Nat.lt_of_not_le hpc)]
      by_cases hshort : machine.memory.size ≤ machine.registers.pc + 2
      · simp only [if_pos hshort, perform_demand_error]
      · simp only [if_neg hshort, perform_demand_ok]
        cases decode? (machine.memory.cell machine.registers.pc)
            (machine.memory.cell (machine.registers.pc + 1))
            (machine.memory.cell (machine.registers.pc + 2)) with
        | some instruction => rfl
        | none => cases machine.options.unknownOpcodes <;> rfl

/-- A step in place ends as the step is defined to. -/
theorem perform_step :
    perform step ⟨machine, reported⟩ = resulting reported machine.step := by
  simp only [step, Machine.step, perform_bind, perform_current]
  cases machine.status with
  | halted => simp [resulting]
  | running =>
    cases machine.spentBudget? with
    | some budget => simp [resulting, Machine.fail]
    | none =>
      simp only [perform_bind, perform_decode]
      cases machine.fetch with
      | error overrun => simp [resulting, Machine.fail]
      | ok fetched =>
        cases fetched with
        | unknown opcode =>
          cases hpolicy : machine.options.unknownOpcodes <;>
            simp [resulting, hpolicy, perform_advance, Machine.stepUnknown,
              Machine.ignoreUnknown, Machine.fail]
        | instruction instruction =>
          simp only [perform_bind, perform_report]
          exact perform_execute machine reported instruction

/-- So does a run. -/
theorem perform_run (limit : Nat) :
    perform (run limit) ⟨machine, reported⟩ = resulting reported (machine.runFor limit) := by
  induction limit generalizing machine reported with
  | zero => simp [run, resulting, Machine.runFor, Machine.runFrom, Except.map]
  | succ limit ih =>
    rw [run, perform_bind, perform_step, Machine.runFor_succ]
    cases hresult : machine.step.result with
    | error fault => simp [resulting, hresult]
    | ok status =>
      cases status with
      | running => simp [resulting, hresult, ih, Outcome.after]
      | halted => simp [resulting, hresult]

theorem perform_call (call : Call) :
    perform (InPlace.call call) ⟨machine, reported⟩ = resulting reported (machine.call call) := by
  cases call with
  | step => exact perform_step machine reported
  | run =>
    rw [InPlace.call, perform_bind, perform_current]
    exact perform_run machine reported _

/-- What is changed in place stays for the calls after it. -/
theorem performAll_eq (calls : List Call) :
    performAll calls ⟨machine, reported⟩ = ((machine.session calls).map Outcome.result,
      ⟨machine.afterCalls calls,
        reported ++ (machine.session calls).flatMap Outcome.events⟩) := by
  induction calls generalizing machine reported with
  | nil => simp [performAll, session, Machine.session, Machine.afterCalls]
  | cons call rest ih =>
    have hrest := ih (machine.call call).machine (reported ++ (machine.call call).events)
    calc
      performAll (call :: rest) ⟨machine, reported⟩ =
          let first := perform (InPlace.call call) ⟨machine, reported⟩
          let later := performAll rest first.2
          (first.1 :: later.1, later.2) := rfl
      _ = _ := by
        simp only [perform_call, resulting, hrest, Machine.session, Machine.afterCalls,
          List.map_cons, List.flatMap_cons, List.foldl_cons, List.append_assoc]

end

end InPlace

end TaggedMachine
