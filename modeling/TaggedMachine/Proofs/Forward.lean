import TaggedMachine.Proofs.Reports

/-!
Forward execution. As long as no instruction writes the program counter, every step that goes
on moves it past three cells that exist, whatever the program has stored over its own code and
whichever opcodes were ignored. The cells ahead become fewer with every step, so such an
execution ends, within one step more than the memory holds instructions, and where it halts the
program counter tells how many steps it took.
-/
namespace TaggedMachine

open Parameters

/-- The instruction whose dispatch an event reports. -/
def Event.instruction? : Event → Option Instruction
  | .dispatched _ instruction => some instruction
  | .ignored .. => none
  | .halted .. => none

/-- The instructions that a log reports as dispatched, in order. -/
def dispatches (events : List Event) : List Instruction := events.filterMap Event.instruction?

theorem dispatches_append (events events' : List Event) :
    dispatches (events ++ events') = dispatches events ++ dispatches events' :=
  List.filterMap_append

/-- A register that exists and is not named by the id of the program counter is another
register. -/
theorem Register.ofId_ne_programCounter {id : UInt8} (h : id.toNat < registerCount)
    (hne : id ≠ programCounterId) : ofId id ≠ .programCounter := by
  rcases general_id_cases h hne with rfl | rfl <;> exact nofun

namespace Machine

variable {machine : Machine} {n : Nat}

theorem register_ne_programCounter {instruction : Instruction} {register : Register}
    {word : UInt16} (hfits : instruction.Fits machine.memory.size)
    (hset : machine.intended instruction = .setRegister register word)
    (hjumps : ¬ instruction.Jumps) : register ≠ .programCounter := by
  cases instruction with
  | store => contradiction
  | halt => contradiction
  | _ =>
    cases hset
    exact Register.ofId_ne_programCounter hfits.1 hjumps

/-- A step that goes on without a jump moves past the three cells of its instruction. -/
theorem pc_step_of_not_jumps (h : machine.step.result = .ok .running)
    (hjumps : ∀ instruction ∈ dispatches machine.step.events, ¬ instruction.Jumps) :
    machine.step.machine.registers.pc = machine.registers.pc + instructionWidth ∧
      machine.registers.pc + instructionWidth ≤ machine.memory.size := by
  have htransition := machine.transition_step
  generalize machine.step = outcome at htransition h hjumps ⊢
  cases htransition with
  | ignores opcode hactive hfetch => exact ⟨rfl, lt_size_of_fetch hfetch (by simp)⟩
  | sets instruction register word hactive hfetch hfits hset =>
    have hregister := register_ne_programCounter hfits hset (hjumps _ List.mem_cons_self)
    have hne := ne_halt_of_intended hset
    refine ⟨?_, lt_size_of_fetch hfetch (by simpa using hne)⟩
    cases register with
    | programCounter => contradiction
    | first => rfl
    | second => rfl
  | stores id address hactive hfetch => exact ⟨rfl, lt_size_of_fetch hfetch (by simp)⟩
  | rests => simp at h
  | halts => simp at h
  | _ => simp [fail] at h

/-- After `n` steps without a jump the program counter is `n` instructions further on, and has
not left the memory behind. -/
theorem GoesOn.pc_eq (h : machine.GoesOn n)
    (hjumps : ∀ instruction ∈ dispatches (machine.reported n), ¬ instruction.Jumps)
    (hpc : machine.registers.pc ≤ machine.memory.size) :
    (machine.afterSteps n).registers.pc = machine.registers.pc + instructionWidth * n ∧
      machine.registers.pc + instructionWidth * n ≤ machine.memory.size := by
  induction n with
  | zero => exact ⟨rfl, hpc⟩
  | succ n ih =>
    obtain ⟨hgo, hstep⟩ := (machine.goesOn_succ_iff n).mp h
    rw [reported_succ, dispatches_append, List.forall_mem_append] at hjumps
    obtain ⟨hbefore, -⟩ := ih hgo hjumps.1
    obtain ⟨hmoved, hroom⟩ := pc_step_of_not_jumps hstep hjumps.2
    rw [size_afterSteps] at hroom
    rw [afterSteps_succ, hmoved, Nat.mul_succ]
    omega

/-- Without a budget a run may take more steps than there are instructions' worth of cells. -/
theorem size_lt_runLimit (memory : Memory) (policy : UnknownOpcodes) :
    memory.size / 3 + 1 < runLimit { unknownOpcodes := policy } := by
  have hsize := memory.size_le
  simp only [memoryLimit, UInt64.size] at hsize
  simp only [Memory.size, runLimit, Option.getD_none, lastLocation, UInt64.size]
  omega

/-- Without a write to the program counter a fresh machine stands three times as many cells on
as it has taken steps. Its execution ends within one step more than there are instructions'
worth of cells, and where it halts the program counter gives the number of its steps. -/
theorem execution_without_jumps_ends (memory : Memory) (policy : UnknownOpcodes) :
    let fresh := start memory { unknownOpcodes := policy }
    (∀ n, fresh.GoesOn n →
      (∀ instruction ∈ dispatches (fresh.reported n), ¬ instruction.Jumps) →
      (fresh.afterSteps n).registers.pc = 3 * n ∧ 3 * n ≤ memory.size) ∧
    ((∀ n, fresh.GoesOn n →
        ∀ instruction ∈ dispatches (fresh.reported n), ¬ instruction.Jumps) →
      fresh.run.result ≠ .ok .running ∧ fresh.run = fresh.runFor (memory.size / 3 + 1) ∧
        (fresh.run.result = .ok .halted →
          fresh.run.machine.steps = fresh.run.machine.registers.pc / 3 + 1)) := by
  intro fresh
  have hpc : ∀ n, fresh.GoesOn n →
      (∀ instruction ∈ dispatches (fresh.reported n), ¬ instruction.Jumps) →
      (fresh.afterSteps n).registers.pc = 3 * n ∧ 3 * n ≤ memory.size := by
    intro n hgo hjumps
    have hforward := hgo.pc_eq hjumps (Nat.zero_le _)
    rwa [show fresh.registers.pc = 0 from rfl, Nat.zero_add] at hforward
  refine ⟨hpc, fun hjumps => ?_⟩
  obtain ⟨k, hk, hgo, hstop⟩ : ∃ k < memory.size / 3 + 1, fresh.GoesOn k ∧
      (fresh.afterSteps k).step.result ≠ .ok .running := by
    rcases fresh.goesOn_or_stops (memory.size / 3 + 1) with hgo | hstops
    · have hroom := (hpc _ hgo (hjumps _ hgo)).2
      omega
    · exact hstops
  have hrun : fresh.run = (fresh.afterSteps k).step.after (fresh.reported k) :=
    runFor_of_stop hgo hstop (Nat.lt_trans hk (size_lt_runLimit memory policy))
  refine ⟨?_, hrun.trans (runFor_of_stop hgo hstop hk).symm, fun hhalted => ?_⟩
  · rw [hrun]
    exact hstop
  · rw [hrun] at hhalted
    obtain ⟨hhalts, -⟩ := step_of_halted (hgo.status_eq rfl) hhalted
    have hsteps := hgo.steps_eq
    have hlast := (hpc k hgo (hjumps k hgo)).1
    rw [hrun, hhalts]
    change (fresh.afterSteps k).steps + 1 = (fresh.afterSteps k).registers.pc / 3 + 1
    rw [hsteps, hlast, Nat.mul_div_cancel_left k (by decide)]
    exact congrArg (· + 1) (Nat.zero_add k)

/-- The first instruction stores over the second, which would jump; what stands there instead is
ignored. -/
theorem execution_without_jumps_ends_over_itself :
    let memory : Memory := ⟨#[0x02, 0, 3, 0x01, 0, 0, 0xff], by decide⟩
    ((start memory { unknownOpcodes := .ignore }).GoesOn 2 ∧
      (∀ instruction ∈ dispatches ((start memory { unknownOpcodes := .ignore }).reported 2),
        ¬ instruction.Jumps) ∧
      ((start memory { unknownOpcodes := .ignore }).afterSteps 2).registers.pc = 3 * 2 ∧
      3 * 2 ≤ memory.size) ∧
    (∀ n, (start memory { unknownOpcodes := .ignore }).GoesOn n →
      ∀ instruction ∈ dispatches ((start memory { unknownOpcodes := .ignore }).reported n),
        ¬ instruction.Jumps) ∧
    (start memory { unknownOpcodes := .ignore }).run.result = .ok .halted ∧
      (start memory { unknownOpcodes := .ignore }).run =
        (start memory { unknownOpcodes := .ignore }).runFor (memory.size / 3 + 1) ∧
      (start memory { unknownOpcodes := .ignore }).run.machine.steps =
        (start memory { unknownOpcodes := .ignore }).run.machine.registers.pc / 3 + 1 := by
  intro memory
  have hgo : (start memory { unknownOpcodes := .ignore }).GoesOn 2 := by
    refine (goesOn_succ_iff_next _ 1).mpr ⟨by cbv, (goesOn_succ_iff_next _ 0).mpr ⟨by cbv, ?_⟩⟩
    exact goesOn_zero _
  have hdispatches : dispatches ((start memory { unknownOpcodes := .ignore }).reported 2) =
      [.store 0 3] := by cbv
  have hlast : ((start memory { unknownOpcodes := .ignore }).afterSteps 2).step.result =
      .ok .halted := by cbv
  have hhalts : (start memory { unknownOpcodes := .ignore }).run.result = .ok .halted := by cbv
  have hjumps : ∀ n, (start memory { unknownOpcodes := .ignore }).GoesOn n →
      ∀ instruction ∈ dispatches ((start memory { unknownOpcodes := .ignore }).reported n),
        ¬ instruction.Jumps := by
    intro n hgo' instruction hmem
    have hn : n ≤ 2 := by
      by_contra hlonger
      cases hlast.symm.trans (hgo' 2 (by omega))
    obtain ⟨rest, hrest⟩ := Nat.exists_eq_add_of_le hn
    have hmem' : instruction ∈
        dispatches ((start memory { unknownOpcodes := .ignore }).reported 2) := by
      rw [hrest, reported_add, dispatches_append]
      exact List.mem_append_left _ hmem
    rw [hdispatches, List.mem_singleton] at hmem'
    rw [hmem']
    exact id
  have hends := execution_without_jumps_ends memory .ignore
  obtain ⟨-, hrun, hsteps⟩ := hends.2 hjumps
  exact ⟨⟨hgo, hjumps 2 hgo, hends.1 2 hgo (hjumps 2 hgo)⟩, hjumps, hhalts, hrun, hsteps hhalts⟩

end Machine

end TaggedMachine
