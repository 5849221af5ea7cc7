import TaggedMachine.Proofs.Demand

/-!
What one step can do, case by case, with the checks that lead to each case. Facts about
a single step are read off these cases, so nothing else unfolds the step itself. A step
that fails or rests changes nothing; every other one completes a step, keeps the options
and the size of the memory, and changes cells only by a store.
-/
namespace TaggedMachine.Machine

/-- Neither halted nor out of budget: the machine looks at its memory next. -/
def Active (machine : Machine) : Prop :=
  machine.status = .running ∧ machine.spentBudget? = none

theorem spentBudget?_eq_none_iff (machine : Machine) :
    machine.spentBudget? = none ↔
      ∀ budget, machine.options.stepBudget = some budget → machine.steps < budget := by
  simp only [spentBudget?, Option.filter_eq_none_iff, decide_eq_true_eq, Nat.not_le]

inductive Transition (machine : Machine) : Outcome → Prop
  | rests (h : machine.status = .halted) : Transition machine ⟨machine, [], .ok .halted⟩
  | budgetSpent (budget : Nat) (hrunning : machine.status = .running)
      (hbudget : machine.spentBudget? = some budget) :
      Transition machine (machine.fail [] (.budgetSpent budget))
  | fetchFails (overrun : Overrun) (hactive : machine.Active)
      (hfetch : machine.fetch = .error overrun) :
      Transition machine (machine.fail [] (.outOfBounds overrun))
  | ignores (opcode : UInt8) (hactive : machine.Active)
      (hfetch : machine.fetch = .ok (.unknown opcode))
      (hpolicy : machine.options.unknownOpcodes = .ignore) :
      Transition machine (machine.ignoreUnknown opcode)
  | rejects (opcode : UInt8) (hactive : machine.Active)
      (hfetch : machine.fetch = .ok (.unknown opcode))
      (hpolicy : machine.options.unknownOpcodes = .reject) :
      Transition machine (machine.fail [] (.unknownOpcode opcode machine.registers.pc))
  | effectFails (instruction : Instruction) (overrun : Overrun) (hactive : machine.Active)
      (hfetch : machine.fetch = .ok (.instruction instruction))
      (hoverrun : instruction.overrun? machine.memory.size = some overrun) :
      Transition machine
        (machine.fail [.dispatched machine.registers.pc instruction] (.outOfBounds overrun))
  | sets (instruction : Instruction) (register : Register) (word : UInt16)
      (hactive : machine.Active)
      (hfetch : machine.fetch = .ok (.instruction instruction))
      (hfits : instruction.Fits machine.memory.size)
      (hset : machine.intended instruction = .setRegister register word) :
      Transition machine ⟨machine.apply (.setRegister register word),
        [.dispatched machine.registers.pc instruction], .ok .running⟩
  | stores (id address : UInt8) (hactive : machine.Active)
      (hfetch : machine.fetch = .ok (.instruction (.store id address)))
      (hfits : (Instruction.store id address).Fits machine.memory.size) :
      Transition machine
        ⟨machine.apply (.setWord address (machine.registers.get (.ofId id))),
          [.dispatched machine.registers.pc (.store id address)], .ok .running⟩
  | halts (hactive : machine.Active) (hfetch : machine.fetch = .ok (.instruction .halt)) :
      Transition machine ⟨machine.apply .halt,
        [.dispatched machine.registers.pc .halt,
          .halted machine.registers.pc (machine.steps + 1)], .ok .halted⟩

theorem step_of_active {machine : Machine} (h : machine.Active) :
    machine.step = match machine.fetch with
      | .error overrun => machine.fail [] (.outOfBounds overrun)
      | .ok (.unknown opcode) => machine.stepUnknown opcode
      | .ok (.instruction instruction) => machine.dispatch instruction := by
  rcases hfetch : machine.fetch with _ | _ | _ <;> simp only [step, h.1, h.2, hfetch]

theorem transition_dispatch {machine : Machine} {instruction : Instruction}
    (hactive : machine.Active) (hfetch : machine.fetch = .ok (.instruction instruction)) :
    machine.Transition (machine.dispatch instruction) := by
  unfold dispatch
  rw [effect_eq]
  cases hoverrun : instruction.overrun? machine.memory.size with
  | some overrun => exact .effectFails instruction overrun hactive hfetch hoverrun
  | none =>
    have hfits := (instruction.overrun?_eq_none_iff _).mp hoverrun
    cases instruction with
    | load register address =>
      exact .sets (.load register address) _ _ hactive hfetch hfits rfl
    | store register address => exact .stores register address hactive hfetch hfits
    | add left right => exact .sets (.add left right) _ _ hactive hfetch hfits rfl
    | sub left right => exact .sets (.sub left right) _ _ hactive hfetch hfits rfl
    | halt => exact .halts hactive hfetch

theorem transition_step (machine : Machine) : machine.Transition machine.step := by
  cases hstatus : machine.status with
  | halted =>
    have hstep : machine.step = ⟨machine, [], .ok .halted⟩ := by simp only [step, hstatus]
    rw [hstep]
    exact .rests hstatus
  | running =>
    cases hbudget : machine.spentBudget? with
    | some budget =>
      have hstep : machine.step = machine.fail [] (.budgetSpent budget) := by
        simp only [step, hstatus, hbudget]
      rw [hstep]
      exact .budgetSpent budget hstatus hbudget
    | none =>
      have hactive : machine.Active := ⟨hstatus, hbudget⟩
      rw [step_of_active hactive]
      cases hfetch : machine.fetch with
      | error overrun => exact .fetchFails overrun hactive hfetch
      | ok fetched =>
        cases fetched with
        | instruction instruction => exact transition_dispatch hactive hfetch
        | unknown opcode =>
          cases hpolicy : machine.options.unknownOpcodes with
          | ignore =>
            simpa only [stepUnknown, hpolicy] using .ignores opcode hactive hfetch hpolicy
          | reject =>
            simpa only [stepUnknown, hpolicy] using .rejects opcode hactive hfetch hpolicy

/-- The cases exclude each other: each one determines the step. -/
theorem Transition.step_eq {machine : Machine} {outcome : Outcome}
    (h : machine.Transition outcome) : machine.step = outcome := by
  cases h with
  | rests h => simp only [step, h]
  | budgetSpent budget hrunning hbudget => simp only [step, hrunning, hbudget]
  | fetchFails overrun hactive hfetch => rw [step_of_active hactive, hfetch]
  | ignores opcode hactive hfetch hpolicy =>
    rw [step_of_active hactive, hfetch]
    simp only [stepUnknown, hpolicy]
  | rejects opcode hactive hfetch hpolicy =>
    rw [step_of_active hactive, hfetch]
    simp only [stepUnknown, hpolicy]
  | effectFails instruction overrun hactive hfetch hoverrun =>
    rw [step_of_active hactive, hfetch]
    simp only [dispatch, effect_eq, hoverrun]
  | sets instruction register word hactive hfetch hfits hset =>
    rw [step_of_active hactive, hfetch]
    simp only [dispatch, effect_of_fits machine hfits, hset, complete]
  | stores id address hactive hfetch hfits =>
    rw [step_of_active hactive, hfetch]
    simp only [dispatch, effect_of_fits machine hfits, intended, complete]
  | halts hactive hfetch =>
    rw [step_of_active hactive, hfetch]
    rfl

namespace Transition

variable {machine : Machine} {outcome : Outcome}

theorem options_eq (h : machine.Transition outcome) :
    outcome.machine.options = machine.options := by
  cases h <;> rfl

theorem size_eq (h : machine.Transition outcome) :
    outcome.machine.memory.size = machine.memory.size := by
  cases h with
  | stores id address => exact Memory.size_setWord _ _ _
  | _ => rfl

/-- A step after which the machine runs on has found it active, and is counted. -/
theorem of_running (h : machine.Transition outcome) (hresult : outcome.result = .ok .running) :
    machine.Active ∧ outcome.machine.status = .running ∧
      outcome.machine.steps = machine.steps + 1 := by
  cases h with
  | ignores opcode hactive => exact ⟨hactive, hactive.1, rfl⟩
  | sets instruction register word hactive => exact ⟨hactive, hactive.1, rfl⟩
  | stores id address hactive => exact ⟨hactive, hactive.1, rfl⟩
  | rests => simp at hresult
  | halts => simp at hresult
  | _ => simp [fail] at hresult

/-- A step that halts a running machine has fetched a halt. -/
theorem fetch_of_halted (h : machine.Transition outcome) (hrunning : machine.status = .running)
    (hresult : outcome.result = .ok .halted) :
    machine.Active ∧ machine.fetch = .ok (.instruction .halt) := by
  cases h with
  | halts hactive hfetch => exact ⟨hactive, hfetch⟩
  | rests h => simp [hrunning] at h
  | sets => simp at hresult
  | stores => simp at hresult
  | ignores => simp [ignoreUnknown] at hresult
  | _ => simp [fail] at hresult

theorem of_halted (h : machine.Transition outcome) (hrunning : machine.status = .running)
    (hresult : outcome.result = .ok .halted) :
    outcome.machine.status = .halted ∧ outcome.machine.steps = machine.steps + 1 := by
  obtain ⟨hactive, hfetch⟩ := h.fetch_of_halted hrunning hresult
  have hstep := (Transition.halts hactive hfetch).step_eq
  rw [← h.step_eq, hstep]
  exact ⟨rfl, rfl⟩

end Transition

end TaggedMachine.Machine
