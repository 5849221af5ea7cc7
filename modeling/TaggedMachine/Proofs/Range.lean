import TaggedMachine.Proofs.Guarded
import TaggedMachine.Proofs.Session

/-!
The range of a machine. The program counter moves past an instruction that stands in
memory, or past a 16-bit word that has been written to it: it stays within the memory or
at most two locations above the largest word, and after the first step it never comes
back below three. A machine halts at the opcode of a halt, and a budget bounds its steps.
Main statement: this holds wherever calls lead, and the next step from there leaves no
range either.
-/
namespace TaggedMachine.Machine

open Parameters

/-- The completed steps that did not halt. -/
def advances (machine : Machine) : Nat :=
  match machine.status with
  | .running => machine.steps
  | .halted => machine.steps - 1

structure InRange (machine : Machine) : Prop where
  pc_le : machine.registers.pc ≤ max machine.memory.size (UInt16.size + 2)
  three_le_pc : 0 < machine.advances → 3 ≤ machine.registers.pc
  halted : machine.status = .halted → machine.registers.pc < machine.memory.size ∧
    machine.memory.cell machine.registers.pc = Opcode.halt.tag ∧ 1 ≤ machine.steps
  budget : ∀ budget, machine.options.stepBudget = some budget → machine.steps ≤ budget

variable {machine : Machine}

theorem inRange_start (memory : Memory) (options : Options) : (start memory options).InRange where
  pc_le := Nat.zero_le _
  three_le_pc := fun h => absurd h (Nat.lt_irrefl 0)
  halted := fun h => by contradiction
  budget := fun _ _ => Nat.zero_le _

theorem steps_lt_of_active (h : machine.Active) {budget : Nat}
    (hbudget : machine.options.stepBudget = some budget) : machine.steps < budget :=
  machine.spentBudget?_eq_none_iff.mp h.2 budget hbudget

/-- A step that goes on leads past three cells of the memory, or past three locations from
a word. -/
theorem pc_step_of_running (h : machine.step.result = .ok .running) :
    3 ≤ machine.step.machine.registers.pc ∧
      machine.step.machine.registers.pc ≤ max machine.memory.size (UInt16.size + 2) := by
  have htransition := machine.transition_step
  generalize machine.step = outcome at htransition h ⊢
  cases htransition with
  | ignores opcode hactive hfetch =>
    have hpc := lt_size_of_fetch hfetch (by simp)
    simp only [ignoreUnknown, advance, Registers.advance, instructionWidth]
    omega
  | sets instruction register word hactive hfetch hfits hset =>
    have hne := ne_halt_of_intended hset
    have hpc := lt_size_of_fetch hfetch (by simpa using hne)
    have hword := word.toNat_lt
    simp only [apply, advance, Registers.advance, Registers.set, instructionWidth, UInt16.size]
    cases register with
    | programCounter => dsimp only; omega
    | first => dsimp only; omega
    | second => dsimp only; omega
  | stores id address hactive hfetch hfits =>
    have hpc := lt_size_of_fetch hfetch (by simp)
    simp only [apply, advance, Registers.advance, instructionWidth]
    omega
  | rests => simp at h
  | halts => simp at h
  | _ => simp [fail] at h

theorem inRange_of_running (h : machine.step.result = .ok .running) :
    machine.step.machine.InRange := by
  have htransition := machine.transition_step
  obtain ⟨hactive, hrunning, hsteps⟩ := htransition.of_running h
  obtain ⟨hlow, hhigh⟩ := pc_step_of_running h
  constructor
  · rwa [htransition.size_eq]
  · exact fun _ => hlow
  · rw [hrunning]
    exact fun hhalted => by contradiction
  · intro budget hbudget
    rw [htransition.options_eq] at hbudget
    rw [hsteps]
    exact steps_lt_of_active hactive hbudget

/-- A halt changes neither the program counter nor the cell it stands at. -/
theorem InRange.step_of_halted (h : machine.InRange) (hresult : machine.step.result = .ok .halted) :
    machine.step.machine.InRange := by
  have htransition := machine.transition_step
  generalize machine.step = outcome at htransition hresult ⊢
  cases htransition with
  | rests hhalted => exact h
  | halts hactive hfetch =>
    cases (machine.fetch_eq_ok_iff _).mp hfetch with
    | instruction hpc htag hdecode =>
      exact absurd (Instruction.tag_of_decode? hdecode).symm htag
    | halt hpc htag =>
      constructor
      · exact h.pc_le
      · intro hadvances
        refine h.three_le_pc ?_
        simpa only [advances, hactive.1, apply, Nat.add_sub_cancel] using hadvances
      · exact fun _ => ⟨hpc, htag, Nat.le_add_left 1 machine.steps⟩
      · exact fun budget hbudget => steps_lt_of_active hactive hbudget
  | ignores => simp [ignoreUnknown] at hresult
  | sets => simp at hresult
  | stores => simp at hresult
  | _ => simp [fail] at hresult

theorem InRange.step (h : machine.InRange) : machine.step.machine.InRange := by
  cases hresult : machine.step.result with
  | error fault =>
    rw [machine_step_of_error hresult]
    exact h
  | ok status =>
    cases status with
    | running => exact inRange_of_running hresult
    | halted => exact h.step_of_halted hresult

theorem InRange.afterSteps (h : machine.InRange) (n : Nat) : (machine.afterSteps n).InRange := by
  induction n with
  | zero => exact h
  | succ n ih =>
    rw [afterSteps_succ]
    exact ih.step

theorem InRange.afterCalls (h : machine.InRange) (calls : List Call) :
    (machine.afterCalls calls).InRange := by
  rw [afterCalls_eq_afterSteps]
  exact h.afterSteps _

/-- After steps that went on, a machine that started at location zero is elsewhere. -/
theorem eq_zero_of_pc_eq_zero (h : machine.InRange) {n : Nat}
    (hrunning : machine.status = .running) (hgo : machine.GoesOn n)
    (hpc : (machine.afterSteps n).registers.pc = 0) : n = 0 := by
  by_contra hne
  have hlow := (h.afterSteps n).three_le_pc
  simp only [advances, hgo.status_eq hrunning, hgo.steps_eq] at hlow
  omega

theorem steps_step_le (machine : Machine) : machine.step.machine.steps ≤ machine.steps + 1 := by
  cases hresult : machine.step.result with
  | error fault =>
    rw [machine_step_of_error hresult]
    exact Nat.le_succ _
  | ok status =>
    have htransition := machine.transition_step
    cases status with
    | running => exact Nat.le_of_eq (htransition.of_running hresult).2.2
    | halted =>
      cases hstatus : machine.status with
      | running => exact Nat.le_of_eq (htransition.of_halted hstatus hresult).2
      | halted =>
        rw [(Transition.rests hstatus).step_eq]
        exact Nat.le_succ _

theorem steps_afterSteps_le (machine : Machine) (n : Nat) :
    (machine.afterSteps n).steps ≤ machine.steps + n := by
  induction n with
  | zero => exact Nat.le_refl _
  | succ n ih =>
    rw [afterSteps_succ]
    exact Nat.le_trans (steps_step_le _) (Nat.succ_le_succ ih)

/-- As many steps as a 64-bit number can count are taken without leaving any range. -/
theorem guardedSteps_eq (machine : Machine) {n : Nat} (h : machine.steps + n ≤ lastLocation) :
    machine.guardedSteps n = .ok (machine.afterSteps n) := by
  induction n with
  | zero => rfl
  | succ n ih =>
    have hsteps := machine.steps_afterSteps_le n
    have hstep : (machine.afterSteps n).guardedStep = .ok (machine.afterSteps n).step := by
      refine (guards_step _).resolve_right ?_
      rintro ⟨-, -, hlast⟩
      omega
    rw [guardedSteps, ih (Nat.le_of_succ_le h)]
    simp only [bind, Except.bind, hstep, afterSteps_succ]
    rfl

/-- Wherever calls lead a fresh machine, its program counter, its halt and its step count
are in their ranges, the instruction at location zero being executed first or not at all.
The next step from there leaves no range, except that without a budget it cannot count
beyond the last 64-bit number; so no execution of fewer than 2^64 steps leaves a range. -/
theorem calls_stay_in_range (memory : Memory) (options : Options) (calls : List Call)
    (hbudget : ∀ budget, options.stepBudget = some budget → budget ≤ lastLocation) :
    let fresh := start memory options
    let machine := fresh.afterCalls calls
    machine.registers.pc ≤ max memory.size 65538 ∧
    (0 < machine.advances → 3 ≤ machine.registers.pc) ∧
    (∀ n, fresh.GoesOn n → (fresh.afterSteps n).registers.pc = 0 → n = 0) ∧
    (machine.status = .halted → machine.registers.pc < memory.size ∧
      machine.memory.cell machine.registers.pc = 0xff ∧ 1 ≤ machine.steps) ∧
    (∀ budget, options.stepBudget = some budget → machine.steps ≤ budget) ∧
    (machine.guardedStep = .ok machine.step ∨
      machine.guardedStep = .error .count ∧ options.stepBudget = none ∧
        lastLocation ≤ machine.steps) ∧
    ∀ n < UInt64.size, fresh.guardedSteps n = .ok (fresh.afterSteps n) := by
  intro fresh machine
  have hfresh : fresh.InRange := inRange_start memory options
  have hrange : machine.InRange := hfresh.afterCalls calls
  have hoptions : machine.options = options := fresh.options_afterCalls calls
  have hsize : machine.memory.size = memory.size := fresh.size_afterCalls calls
  refine ⟨?_, hrange.three_le_pc, ?_, ?_, ?_, ?_, ?_⟩
  · rw [← hsize]
    exact hrange.pc_le
  · exact fun n => eq_zero_of_pc_eq_zero hfresh rfl
  · rw [← hsize]
    exact hrange.halted
  · rw [← hoptions]
    exact hrange.budget
  · refine (guards_step machine).imp_right ?_
    rintro ⟨htrap, hactive, hlast⟩
    refine ⟨htrap, ?_, hlast⟩
    cases hspent : options.stepBudget with
    | none => rfl
    | some budget =>
      have hsteps := steps_lt_of_active hactive (hoptions ▸ hspent)
      have hlimit := hbudget budget hspent
      omega
  · intro n hn
    refine guardedSteps_eq fresh ?_
    have hsteps : fresh.steps = 0 := rfl
    simp only [UInt64.size] at hn
    simp only [hsteps, lastLocation, UInt64.size]
    omega

/-- The largest word is loaded into the program counter, which comes to stand at the bound;
the run after it asks for an instruction there and is refused. -/
theorem calls_stay_in_range_at_largest_word :
    let memory : Memory := ⟨#[0x01, 0, 3, 0xff, 0xff], by decide⟩
    let options : Options := { stepBudget := some 2 }
    let machine := (start memory options).afterCalls [.step, .run]
    (∀ budget, options.stepBudget = some budget → budget ≤ lastLocation) ∧
      machine.registers.pc = 65538 ∧ machine.registers.pc ≤ max memory.size 65538 ∧
      machine.guardedStep = .ok machine.step ∧
      (start memory options).guardedSteps 2 = .ok ((start memory options).afterSteps 2) := by
  intro memory options machine
  have hbudget : ∀ budget, options.stepBudget = some budget → budget ≤ lastLocation := by
    intro budget hspent
    cases hspent
    decide
  have hpc : machine.registers.pc = 65538 := by decide
  obtain ⟨hhigh, -, -, -, -, hguarded, hsteps⟩ :=
    calls_stay_in_range memory options [.step, .run] hbudget
  refine ⟨hbudget, hpc, hhigh, hguarded.resolve_right ?_, hsteps 2 (by decide)⟩
  rintro ⟨-, hnone, -⟩
  cases hnone

end TaggedMachine.Machine
