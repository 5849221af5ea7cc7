import TaggedMachine.Proofs.Forward
import TaggedMachine.Proofs.LastStore

/-!
Reading a program off its execution. Where unknown opcodes are rejected, every step that goes on
dispatches one instruction, decoded from the three cells at the program counter. If none of them
jumps and none stores over an instruction that is still to come, then the cells from which an
instruction is fetched hold at the start what they hold when it is fetched. The instructions
dispatched up to a halt are therefore the program that stands in memory at the start.
-/
namespace TaggedMachine.Machine

open Parameters

variable {machine : Machine} {n : Nat}

/-- Where unknown opcodes are rejected, a step that goes on dispatches an instruction that stands
before the rest of any program standing behind it. -/
theorem dispatches_of_running (hreject : machine.options.unknownOpcodes = .reject)
    (h : machine.step.result = .ok .running) :
    ∃ instruction, dispatches machine.step.events = [instruction] ∧
      ∀ rest, machine.memory.Holds (machine.registers.pc + instructionWidth) rest →
        machine.memory.Holds machine.registers.pc (instruction :: rest) := by
  have htransition := machine.transition_step
  generalize machine.step = outcome at htransition h ⊢
  cases htransition with
  | ignores opcode hactive hfetch hpolicy => simp [hreject] at hpolicy
  | sets instruction register word hactive hfetch hfits hset =>
    exact ⟨instruction, rfl, fun _ => holds_cons_of_fetch hfetch (ne_halt_of_intended hset)⟩
  | stores id address hactive hfetch =>
    exact ⟨_, rfl, fun _ => holds_cons_of_fetch hfetch (by simp)⟩
  | rests => simp at h
  | halts => simp at h
  | _ => simp [fail] at h

/-- The instruction that a step dispatches stores over nothing that a program keeping its code
has still to execute. -/
theorem cell_step_of_keepsCode {instruction : Instruction} {rest : List Instruction}
    {location : Nat} (hdispatches : dispatches machine.step.events = [instruction])
    (hkeeps : Program.KeepsCode machine.registers.pc (instruction :: rest))
    (hlow : machine.registers.pc + instructionWidth ≤ location)
    (hhigh : location ≤ machine.registers.pc + instructionWidth * rest.length) :
    machine.step.machine.memory.cell location = machine.memory.cell location := by
  rw [cell_step]
  cases hcovering : machine.stored?.filter fun stored => stored.Covers location with
  | none => rfl
  | some stored =>
    obtain ⟨hstored, hcovers⟩ := Option.filter_eq_some_iff.mp hcovering
    obtain ⟨pc, register, hevents⟩ := events_of_stored? hstored
    rw [hevents] at hdispatches
    cases hdispatches
    have hmiss := hkeeps 0 register stored.address rfl location (of_decide_eq_true hcovers)
    simp only [List.length_cons, Nat.add_sub_cancel, Nat.zero_add, Nat.mul_one] at hmiss
    omega

namespace GoesOn

theorem length_dispatches (h : machine.GoesOn n)
    (hreject : machine.options.unknownOpcodes = .reject) :
    (dispatches (machine.reported n)).length = n := by
  induction n with
  | zero => rfl
  | succ n ih =>
    obtain ⟨hgo, hstep⟩ := (machine.goesOn_succ_iff n).mp h
    have hpolicy : (machine.afterSteps n).options.unknownOpcodes = .reject := by
      rw [options_afterSteps, hreject]
    obtain ⟨instruction, hdispatches, -⟩ := dispatches_of_running hpolicy hstep
    rw [reported_succ, dispatches_append, List.length_append, ih hgo, hdispatches,
      List.length_singleton]

theorem dispatches_of_halted (h : machine.GoesOn n) (hrunning : machine.status = .running)
    (hhalted : (machine.afterSteps n).step.result = .ok .halted) :
    dispatches (machine.reported (n + 1)) = dispatches (machine.reported n) ++ [.halt] := by
  obtain ⟨hstep, -⟩ := step_of_halted (h.status_eq hrunning) hhalted
  rw [reported_succ, dispatches_append, hstep]
  rfl

/-- The instructions dispatched up to a halt stand in the memory that they started from. -/
theorem holds_dispatches (h : machine.GoesOn n) (hrunning : machine.status = .running)
    (hreject : machine.options.unknownOpcodes = .reject)
    (hhalted : (machine.afterSteps n).step.result = .ok .halted)
    (hjumps : ∀ instruction ∈ dispatches (machine.reported (n + 1)), ¬ instruction.Jumps)
    (hkeeps : Program.KeepsCode machine.registers.pc (dispatches (machine.reported (n + 1)))) :
    machine.memory.Holds machine.registers.pc (dispatches (machine.reported (n + 1))) := by
  induction n generalizing machine with
  | zero =>
    obtain ⟨-, -, hencodes⟩ := step_of_halted hrunning hhalted
    obtain ⟨hpc, htag⟩ := (if_pos rfl).mp hencodes
    rw [h.dispatches_of_halted hrunning hhalted]
    exact .halt hpc htag
  | succ n ih =>
    obtain ⟨hstep, hnext⟩ := (machine.goesOn_succ_iff_next n).mp h
    obtain ⟨instruction, hdispatches, hholds⟩ := dispatches_of_running hreject hstep
    have hsplit : dispatches (machine.reported (n + 1 + 1)) =
        instruction :: dispatches (machine.step.machine.reported (n + 1)) := by
      rw [reported_succ_next, dispatches_append, hdispatches]
      rfl
    rw [hsplit] at hjumps hkeeps ⊢
    obtain ⟨hfirst, hothers⟩ := List.forall_mem_cons.mp hjumps
    have hstatus := (machine.transition_step.of_running hstep).2.1
    have hrest := hnext.dispatches_of_halted hstatus hhalted
    have hne : dispatches (machine.step.machine.reported (n + 1)) ≠ [] := by
      rw [hrest]
      exact List.concat_ne_nil _ _
    have hpc : machine.step.machine.registers.pc = machine.registers.pc + instructionWidth := by
      refine (pc_step_of_not_jumps hstep fun other hmem => ?_).1
      rw [hdispatches, List.mem_singleton] at hmem
      rwa [hmem]
    have htail := ih hnext hstatus (machine.transition_step.options_eq ▸ hreject) hhalted hothers
      (hpc ▸ hkeeps.tail hne)
    rw [hpc] at htail
    refine hholds _ (htail.congr machine.transition_step.size_eq.symm ?_)
    intro location hlow hhigh
    refine (cell_step_of_keepsCode hdispatches hkeeps hlow ?_).symm
    have hlength := List.length_pos_iff.mpr hne
    simp only [instructionWidth] at hhigh ⊢
    omega

end GoesOn

/-- Where a run that rejects unknown opcodes halts without having jumped, and without having
stored over what it had still to execute, the instructions that it dispatched are the program
to which the memory decodes that it started from, and each of them was one step. -/
theorem decoded_of_rejecting_run (memory : Memory) (budget : Option Nat) :
    let fresh := start memory { unknownOpcodes := .reject, stepBudget := budget }
    let program := dispatches fresh.run.events
    fresh.run.result = .ok .halted → (∀ instruction ∈ program, ¬ instruction.Jumps) →
      Program.KeepsCode 0 program →
      Program.decode? memory.cells.toList = some program ∧
        program.length = fresh.run.machine.steps := by
  intro fresh program hhalted hjumps hkeeps
  have hreturns : fresh.run.result ≠ .ok .running := ne_of_eq_of_ne hhalted nofun
  obtain ⟨k, hgo, hresult, hlast, hevents⟩ := exists_stop_of_run hreturns
  have hprogram : program = dispatches (fresh.reported (k + 1)) := congrArg dispatches hevents
  rw [hresult] at hhalted
  rw [hprogram] at hjumps hkeeps ⊢
  constructor
  · have hholds := hgo.holds_dispatches rfl rfl hhalted hjumps hkeeps
    exact (memory.decode?_drop_eq_some_iff 0 _).mpr hholds
  · have hsteps := ((fresh.afterSteps k).transition_step.of_halted (hgo.status_eq rfl) hhalted).2
    rw [hlast, afterSteps_succ, hsteps, hgo.steps_eq, hgo.dispatches_of_halted rfl hhalted,
      List.length_append, hgo.length_dispatches rfl, List.length_singleton]
    exact congrArg (· + 1) (Nat.zero_add k).symm

/-- The second instruction stores over the first, and of the halt there is only the opcode. -/
theorem decoded_of_rejecting_run_over_itself :
    let memory : Memory := ⟨#[0x03, 1, 0, 0x02, 1, 0, 0xff], by decide⟩
    let program := [.add 1 0, .store 1 0, .halt]
    dispatches (start memory { unknownOpcodes := .reject, stepBudget := some 3 }).run.events =
        program ∧
      (start memory { unknownOpcodes := .reject, stepBudget := some 3 }).run.result =
        .ok .halted ∧
      (∀ instruction ∈ program, ¬ instruction.Jumps) ∧ Program.KeepsCode 0 program ∧
      Program.decode? memory.cells.toList = some program ∧
      program.length =
        (start memory { unknownOpcodes := .reject, stepBudget := some 3 }).run.machine.steps := by
  intro memory program
  have hprogram : dispatches
      (start memory { unknownOpcodes := .reject, stepBudget := some 3 }).run.events =
        program := by cbv
  have hhalted : (start memory { unknownOpcodes := .reject, stepBudget := some 3 }).run.result =
      .ok .halted := by cbv
  have hjumps : ∀ instruction ∈ program, ¬ instruction.Jumps := by decide
  have hkeeps : Program.KeepsCode 0 program := by
    intro i register address hstore location hlocation
    rcases i with _ | _ | _ | i <;> cases hstore
    rcases hlocation with rfl | rfl <;> decide
  have hdecoded := decoded_of_rejecting_run memory (some 3) hhalted
  rw [hprogram] at hdecoded
  exact ⟨hprogram, hhalted, hjumps, hkeeps, hdecoded hjumps hkeeps⟩

end TaggedMachine.Machine
