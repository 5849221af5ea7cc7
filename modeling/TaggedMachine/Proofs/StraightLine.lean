import TaggedMachine.Proofs.Code
import TaggedMachine.Proofs.Execution

/-!
Straight-line code runs as it reads. `Contents.execute` says what an instruction that
does not jump does to the memory and the general registers, without a machine: words
are two bytes, low byte first, registers wrap at sixteen bits, and register 0 reads as
the location of the instruction. A program without jumps, whose stores leave alone what
is still to be executed, runs through its instructions in order, up to its halt or to
the first of them that asks for something the machine does not have.
-/
namespace TaggedMachine

open Parameters

/-- What an instruction that does not jump works on. -/
structure Contents where
  memory : Memory
  first : UInt16
  second : UInt16

namespace Contents

/-- What a register reads as, for an instruction at `pc`. -/
def operand (contents : Contents) (pc : Nat) (id : UInt8) : UInt16 :=
  if id = 0 then pc.toUInt16 else if id = 1 then contents.first else contents.second

def assign (contents : Contents) (id : UInt8) (word : UInt16) : Contents :=
  if id = 1 then { contents with first := word } else { contents with second := word }

def load (contents : Contents) (address : UInt8) : UInt16 :=
  (contents.memory.cell address.toNat).toUInt16 +
    256 * (contents.memory.cell (address.toNat + 1)).toUInt16

def store (contents : Contents) (address : UInt8) (word : UInt16) : Contents :=
  let memory := contents.memory.withBytes address.toNat word.toUInt8 (word / 256).toUInt8
  { contents with memory := memory }

def execute (contents : Contents) (pc : Nat) : Instruction → Contents
  | .load register address => contents.assign register (contents.load address)
  | .store register address => contents.store address (contents.operand pc register)
  | .add left right =>
    contents.assign left (contents.operand pc left + contents.operand pc right)
  | .sub left right =>
    contents.assign left (contents.operand pc left - contents.operand pc right)
  | .halt => contents

/-- Executes one instruction after the other, the first of them at `pc`. -/
def executeFrom (pc : Nat) (contents : Contents) : List Instruction → Contents
  | [] => contents
  | instruction :: rest =>
    executeFrom (pc + instructionWidth) (contents.execute pc instruction) rest

end Contents

/-- The reports of instructions dispatched one after the other, the first at `pc`. -/
def dispatchesFrom (pc : Nat) : List Instruction → List Event
  | [] => []
  | instruction :: rest =>
    .dispatched pc instruction :: dispatchesFrom (pc + instructionWidth) rest

theorem location_succ (pc count : Nat) :
    pc + instructionWidth * (count + 1) = pc + instructionWidth + instructionWidth * count := by
  rw [Nat.mul_succ, Nat.add_assoc, Nat.add_comm instructionWidth]

theorem Contents.executeFrom_append (contents : Contents) (pc : Nat)
    (first second : List Instruction) :
    contents.executeFrom pc (first ++ second) =
      (contents.executeFrom pc first).executeFrom (pc + instructionWidth * first.length)
        second := by
  induction first generalizing contents pc with
  | nil => rfl
  | cons instruction first ih =>
    rw [List.cons_append, executeFrom, ih, executeFrom, List.length_cons, location_succ]

theorem dispatchesFrom_append (pc : Nat) (first second : List Instruction) :
    dispatchesFrom pc (first ++ second) =
      dispatchesFrom pc first ++
        dispatchesFrom (pc + instructionWidth * first.length) second := by
  induction first generalizing pc with
  | nil => rfl
  | cons instruction first ih =>
    rw [List.cons_append, dispatchesFrom, ih, dispatchesFrom, List.length_cons,
      location_succ, List.cons_append]

theorem Instruction.fits_or_exists_overrun (size : Nat) (program : List Instruction) :
    (∀ instruction ∈ program, instruction.Fits size) ∨
      ∃ done instruction rest overrun, program = done ++ instruction :: rest ∧
        (∀ earlier ∈ done, earlier.Fits size) ∧ instruction.overrun? size = some overrun := by
  induction program with
  | nil => exact Or.inl fun instruction hmem => absurd hmem List.not_mem_nil
  | cons instruction program ih =>
    cases hoverrun : instruction.overrun? size with
    | some overrun =>
      refine Or.inr ⟨[], instruction, program, overrun, rfl, ?_, hoverrun⟩
      exact fun earlier hmem => absurd hmem List.not_mem_nil
    | none =>
      have hfits := (instruction.overrun?_eq_none_iff size).mp hoverrun
      rcases ih with hall | ⟨done, bad, rest, overrun, rfl, hdone, hbad⟩
      · exact Or.inl (List.forall_mem_cons.mpr ⟨hfits, hall⟩)
      · exact Or.inr ⟨instruction :: done, bad, rest, overrun, rfl,
          List.forall_mem_cons.mpr ⟨hfits, hdone⟩, hbad⟩

namespace Contents

theorem memory_assign (contents : Contents) (id : UInt8) (word : UInt16) :
    (contents.assign id word).memory = contents.memory := by
  unfold assign
  split <;> rfl

theorem size_store (contents : Contents) (address : UInt8) (word : UInt16) :
    (contents.store address word).memory.size = contents.memory.size :=
  Memory.size_withBytes ..

theorem cell_store (contents : Contents) {address : UInt8} (word : UInt16) {location : Nat}
    (hlow : location ≠ address.toNat) (hhigh : location ≠ address.toNat + 1) :
    (contents.store address word).memory.cell location = contents.memory.cell location :=
  Memory.cell_withBytes_of_ne _ _ _ hlow hhigh

theorem size_execute (contents : Contents) (pc : Nat) (instruction : Instruction) :
    (contents.execute pc instruction).memory.size = contents.memory.size := by
  cases instruction with
  | store register address => exact contents.size_store address _
  | halt => rfl
  | _ => rw [execute, memory_assign]

/-- A store that keeps the code after it leaves that code in memory, and so does every
instruction that is not a store. -/
theorem holds_execute {contents : Contents} {pc : Nat} {instruction : Instruction}
    {rest : List Instruction} (hholds : contents.memory.Holds pc (instruction :: rest))
    (hrest : rest ≠ []) (hkeeps : Program.KeepsCode pc (instruction :: rest)) :
    (contents.execute pc instruction).memory.Holds (pc + instructionWidth) rest := by
  cases hholds with
  | halt => contradiction
  | cons hne hpc hdecode hafter =>
    refine hafter.congr (contents.size_execute pc instruction) ?_
    intro location hlow hhigh
    cases instruction with
    | store register address =>
      have hlength := List.length_pos_iff.mpr hrest
      have hmiss := hkeeps 0 register address rfl location
      simp only [List.length_cons, instructionWidth] at hlow hhigh hmiss
      exact contents.cell_store _ (by omega) (by omega)
    | halt => rfl
    | _ => rw [execute, memory_assign]

end Contents

namespace Machine

def contents (machine : Machine) : Contents where
  memory := machine.memory
  first := machine.registers.first
  second := machine.registers.second

theorem load_contents (machine : Machine) (address : UInt8) :
    machine.contents.load address = machine.memory.word address := by
  apply UInt16.toNat_inj.mp
  have hlow := (machine.memory.cell address.toNat).toNat_lt
  have hhigh := (machine.memory.cell (address.toNat + 1)).toNat_lt
  rw [Memory.toNat_word]
  simp only [Contents.load, contents, UInt16.toNat_add, UInt16.toNat_mul,
    UInt8.toNat_toUInt16, UInt16.reduceToNat]
  omega

theorem store_contents (machine : Machine) (address : UInt8) (word : UInt16) :
    machine.contents.store address word =
      { machine.contents with memory := machine.memory.setWord address word } := by
  rw [Memory.setWord_eq, Contents.store, Memory.highByte_eq]
  rfl

/-- Ids below three name the registers that the reference reads. -/
theorem get_ofId (machine : Machine) {id : UInt8} (h : id.toNat < registerCount) :
    machine.registers.get (.ofId id) = machine.contents.operand machine.registers.pc id := by
  by_cases hid : id = programCounterId
  · subst hid
    rfl
  · rcases Register.general_id_cases h hid with rfl | rfl <;> rfl

/-- The machine further on, with the contents that it has there. -/
def movedTo (machine : Machine) (pc : Nat) (contents : Contents) (steps : Nat) : Machine where
  memory := contents.memory
  registers := { pc := pc, first := contents.first, second := contents.second }
  options := machine.options
  status := machine.status
  steps := steps

theorem apply_setRegister (machine : Machine) {id : UInt8} (h : id.toNat < registerCount)
    (hne : id ≠ programCounterId) (word : UInt16) :
    machine.apply (.setRegister (.ofId id) word) =
      machine.movedTo (machine.registers.pc + instructionWidth)
        (machine.contents.assign id word) (machine.steps + 1) := by
  rcases Register.general_id_cases h hne with rfl | rfl <;> rfl

theorem apply_setWord (machine : Machine) (address : UInt8) (word : UInt16) :
    machine.apply (.setWord address word) =
      machine.movedTo (machine.registers.pc + instructionWidth)
        (machine.contents.store address word) (machine.steps + 1) := by
  rw [store_contents]
  rfl

/-- One instruction of straight-line code does what the reference says. -/
theorem step_of_fits {machine : Machine} {instruction : Instruction} (hactive : machine.Active)
    (hfetch : machine.fetch = .ok (.instruction instruction)) (hne : instruction ≠ .halt)
    (hjumps : ¬ instruction.Jumps) (hfits : instruction.Fits machine.memory.size) :
    machine.step =
      ⟨machine.movedTo (machine.registers.pc + instructionWidth)
          (machine.contents.execute machine.registers.pc instruction) (machine.steps + 1),
        [.dispatched machine.registers.pc instruction], .ok .running⟩ := by
  cases instruction with
  | load register address =>
    rw [(Transition.sets _ _ _ hactive hfetch hfits rfl).step_eq,
      machine.apply_setRegister hfits.1 hjumps, Contents.execute, load_contents]
  | store register address =>
    rw [(Transition.stores register address hactive hfetch hfits).step_eq,
      machine.apply_setWord, Contents.execute, machine.get_ofId hfits.1]
  | add left right =>
    rw [(Transition.sets _ _ _ hactive hfetch hfits rfl).step_eq,
      machine.apply_setRegister hfits.1 hjumps, Contents.execute,
      machine.get_ofId hfits.1, machine.get_ofId hfits.2]
  | sub left right =>
    rw [(Transition.sets _ _ _ hactive hfetch hfits rfl).step_eq,
      machine.apply_setRegister hfits.1 hjumps, Contents.execute,
      machine.get_ofId hfits.1, machine.get_ofId hfits.2]
  | halt => contradiction

/-- The step budget, where there is one, allows another `n` steps. -/
def HasRoom (machine : Machine) (n : Nat) : Prop :=
  ∀ budget, machine.options.stepBudget = some budget → machine.steps + n ≤ budget

theorem active_of_hasRoom {machine : Machine} {n : Nat} (hrunning : machine.status = .running)
    (hroom : machine.HasRoom n) (hn : 0 < n) : machine.Active := by
  refine ⟨hrunning, machine.spentBudget?_eq_none_iff.mpr ?_⟩
  intro budget hbudget
  have hsteps := hroom budget hbudget
  omega

/-- A running machine stands before a straight-line program that keeps its own code. -/
structure Straight (machine : Machine) (program : List Instruction) : Prop where
  running : machine.status = .running
  room : machine.HasRoom program.length
  holds : machine.memory.Holds machine.registers.pc program
  noJumps : ∀ instruction ∈ program, ¬ instruction.Jumps
  keeps : Program.KeepsCode machine.registers.pc program

namespace Straight

variable {machine : Machine} {instruction : Instruction} {rest : List Instruction}

theorem active (h : machine.Straight (instruction :: rest)) : machine.Active :=
  active_of_hasRoom h.running h.room (Nat.succ_pos _)

/-- A step takes the machine before the other instructions. -/
theorem step_tail (h : machine.Straight (instruction :: rest)) (hrest : rest ≠ [])
    (hfits : instruction.Fits machine.memory.size) :
    machine.step =
        ⟨machine.movedTo (machine.registers.pc + instructionWidth)
            (machine.contents.execute machine.registers.pc instruction) (machine.steps + 1),
          [.dispatched machine.registers.pc instruction], .ok .running⟩ ∧
      machine.step.machine.Straight rest := by
  have hne : instruction ≠ .halt := by
    rcases h.holds with _ | hne
    · contradiction
    · exact hne
  have hstep := step_of_fits h.active (fetch_of_holds h.holds) hne
    (h.noJumps instruction List.mem_cons_self) hfits
  refine ⟨hstep, ?_⟩
  rw [hstep]
  constructor
  · exact h.running
  · intro budget hbudget
    have hroom := h.room budget hbudget
    simp only [List.length_cons, movedTo] at hroom ⊢
    omega
  · have hholds : machine.contents.memory.Holds machine.registers.pc (instruction :: rest) :=
      h.holds
    exact Contents.holds_execute hholds hrest h.keeps
  · exact fun other hmem => h.noJumps other (List.mem_cons_of_mem _ hmem)
  · exact h.keeps.tail hrest

/-- As long as the instructions fit, they are executed one after the other. -/
theorem afterSteps_append {done : List Instruction} (h : machine.Straight (done ++ rest))
    (hrest : rest ≠ []) (hfits : ∀ instruction ∈ done, instruction.Fits machine.memory.size) :
    machine.GoesOn done.length ∧
      machine.reported done.length = dispatchesFrom machine.registers.pc done ∧
      machine.afterSteps done.length =
        machine.movedTo (machine.registers.pc + instructionWidth * done.length)
          (machine.contents.executeFrom machine.registers.pc done)
          (machine.steps + done.length) ∧
      (machine.afterSteps done.length).Straight rest := by
  induction done generalizing machine with
  | nil => exact ⟨machine.goesOn_zero, rfl, rfl, h⟩
  | cons instruction done ih =>
    obtain ⟨hstep, hnext⟩ := h.step_tail (List.append_ne_nil_of_right_ne_nil _ hrest)
      (hfits instruction List.mem_cons_self)
    have hfits' : ∀ other ∈ done, other.Fits machine.step.machine.memory.size := by
      intro other hmem
      rw [machine.transition_step.size_eq]
      exact hfits other (List.mem_cons_of_mem _ hmem)
    obtain ⟨hgo, hreported, hafter, hstraight⟩ := ih hnext hfits'
    have hresult : machine.step.result = .ok .running := by rw [hstep]
    refine ⟨(machine.goesOn_succ_iff_next _).mpr ⟨hresult, hgo⟩, ?_, ?_, hstraight⟩
    · rw [List.length_cons, reported_succ_next, hreported, hstep]
      rfl
    · have hsteps : machine.steps + (done.length + 1) = machine.steps + 1 + done.length := by
        omega
      rw [List.length_cons, afterSteps_succ_next, hafter, hstep, location_succ, hsteps]
      rfl

/-- Straight-line code is short enough for a run to reach its end. -/
theorem length_lt_runLimit {program : List Instruction} (h : machine.Straight program) :
    program.length < runLimit machine.options := by
  unfold runLimit
  cases hbudget : machine.options.stepBudget with
  | some budget =>
    have hroom := h.room budget hbudget
    simp only [Option.getD_some]
    omega
  | none =>
    have hsize := machine.memory.size_le
    have hend := h.holds.end_lt
    simp only [memoryLimit, UInt64.size] at hsize
    simp only [instructionWidth, Memory.size] at hend
    simp only [Option.getD_none, lastLocation, UInt64.size]
    omega

/-- A program whose instructions all fit runs up to its halt. -/
theorem run_of_fits {program : List Instruction} (h : machine.Straight program)
    (hfits : ∀ instruction ∈ program, instruction.Fits machine.memory.size) :
    machine.run =
      let last := machine.registers.pc + instructionWidth * (program.length - 1)
      let steps := machine.steps + program.length
      ⟨{ machine.movedTo last (machine.contents.executeFrom machine.registers.pc program) steps
          with status := .halted },
        dispatchesFrom machine.registers.pc program ++ [.halted last steps], .ok .halted⟩ := by
  obtain ⟨done, rfl⟩ := h.holds.exists_eq_concat
  have hrest : [Instruction.halt] ≠ [] := List.cons_ne_nil _ _
  obtain ⟨hgo, hreported, hafter, hend⟩ := h.afterSteps_append hrest
    fun instruction hmem => hfits instruction (List.mem_append_left _ hmem)
  have hstep := (Transition.halts hend.active (fetch_of_holds hend.holds)).step_eq
  have hlength : (done ++ [Instruction.halt]).length = done.length + 1 := List.length_append
  have hlimit := h.length_lt_runLimit
  rw [hlength] at hlimit
  have hrun := runFor_of_stop hgo (by simp [hstep]) (Nat.lt_of_succ_lt hlimit)
  rw [run, hrun, hstep, hreported, hafter, Contents.executeFrom_append, dispatchesFrom_append]
  simp only [hlength, Nat.add_sub_cancel, List.append_assoc]
  rfl

/-- The first instruction that asks for too much is still reported, and the run fails
there. -/
theorem run_of_overrun {done : List Instruction} {overrun : Overrun}
    (h : machine.Straight (done ++ instruction :: rest))
    (hfits : ∀ instruction ∈ done, instruction.Fits machine.memory.size)
    (hoverrun : instruction.overrun? machine.memory.size = some overrun) :
    machine.run =
      ⟨machine.movedTo (machine.registers.pc + instructionWidth * done.length)
          (machine.contents.executeFrom machine.registers.pc done)
          (machine.steps + done.length),
        dispatchesFrom machine.registers.pc (done ++ [instruction]),
        .error (.outOfBounds overrun)⟩ := by
  obtain ⟨hgo, hreported, hafter, hend⟩ := h.afterSteps_append (List.cons_ne_nil _ _) hfits
  rw [← machine.size_afterSteps done.length] at hoverrun
  have hstep := (Transition.effectFails instruction overrun hend.active
    (fetch_of_holds hend.holds) hoverrun).step_eq
  have hlimit := h.length_lt_runLimit
  rw [List.length_append] at hlimit
  have hrun := runFor_of_stop hgo (by simp [hstep, fail])
    (Nat.lt_of_le_of_lt (Nat.le_add_right _ _) hlimit)
  rw [run, hrun, hstep, hreported, hafter, dispatchesFrom_append]
  rfl

end Straight

/-- A program that the cells at the program counter decode to, without jumps and without
stores into what it has still to execute, runs in order: either up to its halt, as the
reference executes it, or up to the first of its instructions that asks for something
that is missing. -/
theorem run_of_decoded (machine : Machine) (program : List Instruction)
    (hrunning : machine.status = .running)
    (hdecode : Program.decode? (machine.memory.cells.toList.drop machine.registers.pc) =
      some program)
    (hroom : machine.HasRoom program.length)
    (hjumps : ∀ instruction ∈ program, ¬ instruction.Jumps)
    (hkeeps : Program.KeepsCode machine.registers.pc program) :
    ((∀ instruction ∈ program, instruction.Fits machine.memory.size) ∧
      let last := machine.registers.pc + instructionWidth * (program.length - 1)
      let steps := machine.steps + program.length
      let contents := machine.contents.executeFrom machine.registers.pc program
      machine.run =
        ⟨{ machine.movedTo last contents steps with status := .halted },
          dispatchesFrom machine.registers.pc program ++ [.halted last steps], .ok .halted⟩) ∨
    ∃ done instruction rest overrun, program = done ++ instruction :: rest ∧
      (∀ earlier ∈ done, earlier.Fits machine.memory.size) ∧
      instruction.overrun? machine.memory.size = some overrun ∧
      let last := machine.registers.pc + instructionWidth * done.length
      let contents := machine.contents.executeFrom machine.registers.pc done
      machine.run =
        ⟨machine.movedTo last contents (machine.steps + done.length),
          dispatchesFrom machine.registers.pc (done ++ [instruction]),
          .error (.outOfBounds overrun)⟩ := by
  have hholds := (machine.memory.decode?_drop_eq_some_iff _ program).mp hdecode
  have hstraight : machine.Straight program := ⟨hrunning, hroom, hholds, hjumps, hkeeps⟩
  rcases Instruction.fits_or_exists_overrun machine.memory.size program with
    hfits | ⟨done, instruction, rest, overrun, rfl, hfits, hoverrun⟩
  · exact Or.inl ⟨hfits, hstraight.run_of_fits hfits⟩
  · exact Or.inr ⟨done, instruction, rest, overrun, rfl, hfits, hoverrun,
      hstraight.run_of_overrun hfits hoverrun⟩

/-- The second instruction stores over the first, and the third loads what it stored. -/
theorem run_of_decoded_over_itself :
    let machine := start ⟨#[0x03, 1, 0, 0x02, 0, 0, 0x01, 2, 0, 0xff], by decide⟩
      { stepBudget := some 4 }
    let program := [.add 1 0, .store 0 0, .load 2 0, .halt]
    Program.decode? (machine.memory.cells.toList.drop machine.registers.pc) = some program ∧
      machine.HasRoom program.length ∧ (∀ instruction ∈ program, ¬ instruction.Jumps) ∧
      Program.KeepsCode machine.registers.pc program ∧
      machine.run =
        ⟨{ machine.movedTo 9 (machine.contents.executeFrom 0 program) 4 with status := .halted },
          dispatchesFrom 0 program ++ [.halted 9 4], .ok .halted⟩ := by
  intro machine program
  have hdecode : Program.decode? (machine.memory.cells.toList.drop machine.registers.pc) =
      some program := by decide
  have hroom : machine.HasRoom program.length := by
    intro budget hbudget
    cases hbudget
    decide
  have hjumps : ∀ instruction ∈ program, ¬ instruction.Jumps := by decide
  have hkeeps : Program.KeepsCode machine.registers.pc program := by
    intro i register address hstore location hlocation
    rcases i with _ | _ | _ | _ | i <;> cases hstore
    rcases hlocation with rfl | rfl <;> decide
  refine ⟨hdecode, hroom, hjumps, hkeeps, ?_⟩
  rcases run_of_decoded machine program rfl hdecode hroom hjumps hkeeps with
    ⟨-, hrun⟩ | ⟨done, instruction, rest, overrun, hprogram, -, hoverrun, -⟩
  · exact hrun
  · have hnone : ∀ other ∈ program, other.overrun? machine.memory.size = none := by decide
    have hmem : instruction ∈ program := by simp [hprogram]
    rw [hnone instruction hmem] at hoverrun
    contradiction

end Machine

end TaggedMachine
