import TaggedMachine.Proofs.Code
import TaggedMachine.Proofs.UnknownOpcodes

/-!
What a run reports. A step that goes on reports one instruction: the one it dispatches, whose
bytes stand at the program counter, or the one whose opcode is unknown and ignored. A step
that halts dispatches the halt and then reports that the machine has halted. A step that
fails reports an instruction only if it failed in executing it. The instructions that a run
reports are therefore as many as its completed steps, and one more if the last of them was
dispatched and failed.
-/
namespace TaggedMachine

open Parameters

/-- The report of an instruction, dispatched or ignored. -/
def Event.isInstruction : Event → Bool
  | .dispatched .. => true
  | .ignored .. => true
  | .halted .. => false

def instructionReports (events : List Event) : List Event := events.filter Event.isInstruction

/-- The bytes of an instruction stand in memory at `pc`; of a halt, its tag. -/
def Memory.Encodes (memory : Memory) (pc : Nat) (instruction : Instruction) : Prop :=
  if instruction = .halt then pc < memory.size ∧ memory.cell pc = Opcode.halt.tag
  else pc + 2 < memory.size ∧ memory.read pc instructionWidth = instruction.encode

/-- The report of an instruction is true of the machine that comes to it. -/
def Machine.Describes (machine : Machine) : Event → Prop
  | .dispatched pc instruction =>
    pc = machine.registers.pc ∧ machine.memory.Encodes pc instruction
  | .ignored pc opcode =>
    pc = machine.registers.pc ∧ machine.options.unknownOpcodes = .ignore ∧
      pc < machine.memory.size ∧ opcode = machine.memory.cell pc ∧ opcode ∉ Opcode.tags
  | .halted .. => False

/-- The failure of an instruction that has been dispatched. -/
def Fault.AfterDispatch : Fault → Prop
  | .outOfBounds (.fetch _) => False
  | .outOfBounds _ => True
  | .unknownOpcode .. => False
  | .budgetSpent _ => False

namespace Instruction

theorem afterDispatch_of_missingRegister? {id : UInt8} {overrun : Overrun}
    (h : missingRegister? id = some overrun) : (Fault.outOfBounds overrun).AfterDispatch := by
  unfold missingRegister? at h
  split at h <;> cases h
  trivial

theorem afterDispatch_of_missingWord? {size : Nat} {address : UInt8} {access : Nat → Overrun}
    {overrun : Overrun} (h : missingWord? size address access = some overrun)
    (haccess : ∀ location, (Fault.outOfBounds (access location)).AfterDispatch) :
    (Fault.outOfBounds overrun).AfterDispatch := by
  unfold missingWord? at h
  split at h <;> cases h
  exact haccess _

theorem afterDispatch_of_overrun? {size : Nat} {instruction : Instruction} {overrun : Overrun}
    (h : instruction.overrun? size = some overrun) :
    (Fault.outOfBounds overrun).AfterDispatch := by
  cases instruction with
  | load register address =>
    rcases Option.or_eq_some_iff.mp h with hword | ⟨-, hregister⟩
    · exact afterDispatch_of_missingWord? hword fun _ => trivial
    · exact afterDispatch_of_missingRegister? hregister
  | store register address =>
    rcases Option.or_eq_some_iff.mp h with hregister | ⟨-, hword⟩
    · exact afterDispatch_of_missingRegister? hregister
    · exact afterDispatch_of_missingWord? hword fun _ => trivial
  | add left right =>
    rcases Option.or_eq_some_iff.mp h with hleft | ⟨-, hright⟩
    · exact afterDispatch_of_missingRegister? hleft
    · exact afterDispatch_of_missingRegister? hright
  | sub left right =>
    rcases Option.or_eq_some_iff.mp h with hleft | ⟨-, hright⟩
    · exact afterDispatch_of_missingRegister? hleft
    · exact afterDispatch_of_missingRegister? hright
  | halt => contradiction

end Instruction

namespace Machine

variable {machine : Machine} {fault : Fault} {event : Event} {n : Nat}

theorem encodes_of_fetch {instruction : Instruction}
    (h : machine.fetch = .ok (.instruction instruction)) :
    machine.memory.Encodes machine.registers.pc instruction := by
  unfold Memory.Encodes
  cases (machine.fetch_eq_ok_iff _).mp h with
  | halt hpc htag =>
    rw [if_pos rfl]
    exact ⟨hpc, htag⟩
  | instruction hpc htag hdecode =>
    have hne := Instruction.ne_halt_of_decode? hdecode htag
    rw [if_neg hne]
    exact ⟨hpc, (Instruction.encode_of_decode? hdecode hne).symm⟩

theorem not_afterDispatch_of_fetch {overrun : Overrun} (h : machine.fetch = .error overrun) :
    ¬ (Fault.outOfBounds overrun).AfterDispatch := by
  rw [fetch_eq] at h
  dsimp only at h
  split at h
  · cases h
    exact id
  · split at h
    · contradiction
    · split at h
      · cases h
        exact id
      · split at h <;> contradiction

theorem isInstruction_of_describes (h : machine.Describes event) : event.isInstruction = true := by
  cases event with
  | halted => exact h.elim
  | _ => rfl

/-- A step that goes on reports the instruction it comes to, and nothing else. -/
theorem events_of_running (h : machine.step.result = .ok .running) :
    ∃ event, machine.step.events = [event] ∧ machine.Describes event := by
  have htransition := machine.transition_step
  generalize machine.step = outcome at htransition h ⊢
  cases htransition with
  | ignores opcode hactive hfetch hpolicy =>
    obtain ⟨hcell, htags, hpc⟩ := cells_of_unknown hfetch
    exact ⟨_, rfl, rfl, hpolicy, by omega, hcell, htags⟩
  | sets instruction register word hactive hfetch => exact ⟨_, rfl, rfl, encodes_of_fetch hfetch⟩
  | stores id address hactive hfetch => exact ⟨_, rfl, rfl, encodes_of_fetch hfetch⟩
  | rests => simp at h
  | halts => simp at h
  | _ => simp [fail] at h

/-- A step that halts dispatches a halt, counts it and reports it. -/
theorem step_of_halted (hrunning : machine.status = .running)
    (h : machine.step.result = .ok .halted) :
    machine.step = ⟨machine.apply .halt,
        [.dispatched machine.registers.pc .halt,
          .halted machine.registers.pc (machine.steps + 1)], .ok .halted⟩ ∧
      machine.Describes (.dispatched machine.registers.pc .halt) := by
  obtain ⟨hactive, hfetch⟩ := machine.transition_step.fetch_of_halted hrunning h
  exact ⟨(Transition.halts hactive hfetch).step_eq, rfl, encodes_of_fetch hfetch⟩

/-- A step that fails in executing an instruction has reported it; any other failure comes
before an instruction is known. -/
theorem events_of_error (h : machine.step.result = .error fault) :
    (¬ fault.AfterDispatch ∧ machine.step.events = []) ∨
      fault.AfterDispatch ∧ ∃ instruction overrun, fault = .outOfBounds overrun ∧
        machine.effect instruction = .error overrun ∧
        machine.step.events = [.dispatched machine.registers.pc instruction] ∧
        machine.Describes (.dispatched machine.registers.pc instruction) := by
  have htransition := machine.transition_step
  generalize machine.step = outcome at htransition h ⊢
  cases htransition with
  | budgetSpent budget =>
    cases h
    exact Or.inl ⟨id, rfl⟩
  | fetchFails overrun hactive hfetch =>
    cases h
    exact Or.inl ⟨not_afterDispatch_of_fetch hfetch, rfl⟩
  | rejects =>
    cases h
    exact Or.inl ⟨id, rfl⟩
  | effectFails instruction overrun hactive hfetch hoverrun =>
    cases h
    have heffect : machine.effect instruction = .error overrun := by rw [effect_eq, hoverrun]
    exact Or.inr ⟨Instruction.afterDispatch_of_overrun? hoverrun, instruction, overrun, rfl,
      heffect, rfl, rfl, encodes_of_fetch hfetch⟩
  | ignores => simp [ignoreUnknown] at h
  | _ => simp at h

/-- No step reports more than the one instruction that it comes to. -/
theorem instructionReports_step (machine : Machine) :
    instructionReports machine.step.events = [] ∨
      ∃ event, instructionReports machine.step.events = [event] ∧ machine.Describes event := by
  cases hresult : machine.step.result with
  | error fault =>
    rcases events_of_error hresult with
      ⟨-, hevents⟩ | ⟨-, instruction, overrun, -, -, hevents, hdescribes⟩
    · exact Or.inl (by rw [hevents]; rfl)
    · exact Or.inr ⟨_, by rw [hevents]; rfl, hdescribes⟩
  | ok status =>
    cases status with
    | running =>
      obtain ⟨event, hevents, hdescribes⟩ := events_of_running hresult
      refine Or.inr ⟨event, ?_, hdescribes⟩
      rw [hevents, instructionReports,
        List.filter_cons_of_pos (isInstruction_of_describes hdescribes), List.filter_nil]
    | halted =>
      cases hstatus : machine.status with
      | halted => exact Or.inl (by rw [(Transition.rests hstatus).step_eq]; rfl)
      | running =>
        obtain ⟨hstep, hdescribes⟩ := step_of_halted hstatus hresult
        exact Or.inr ⟨_, by rw [hstep]; rfl, hdescribes⟩

theorem describes_of_getElem?_step {i : Nat}
    (h : (instructionReports machine.step.events)[i]? = some event) :
    i = 0 ∧ instructionReports machine.step.events = [event] ∧ machine.Describes event := by
  rcases machine.instructionReports_step with hnil | ⟨event', hevents, hdescribes⟩
  · simp [hnil] at h
  · rw [hevents, List.getElem?_singleton] at h
    split at h <;> cases h
    exact ⟨‹i = 0›, hevents, hdescribes⟩

namespace GoesOn

theorem length_reported (h : machine.GoesOn n) : (machine.reported n).length = n := by
  induction n with
  | zero => rfl
  | succ n ih =>
    obtain ⟨hgo, hstep⟩ := (machine.goesOn_succ_iff n).mp h
    obtain ⟨event, hevents, -⟩ := events_of_running hstep
    rw [reported_succ, List.length_append, ih hgo, hevents, List.length_singleton]

theorem instructionReports_reported (h : machine.GoesOn n) :
    instructionReports (machine.reported n) = machine.reported n := by
  refine List.filter_eq_self.mpr fun event hmem => ?_
  obtain ⟨i, hi, hevent⟩ := List.mem_flatMap.mp hmem
  obtain ⟨event', hevents, hdescribes⟩ := events_of_running (h i (List.mem_range.mp hi))
  rw [hevents, List.mem_singleton] at hevent
  rw [hevent]
  exact isInstruction_of_describes hdescribes

theorem instructionReports_succ (h : machine.GoesOn n) :
    instructionReports (machine.reported (n + 1)) =
      machine.reported n ++ instructionReports (machine.afterSteps n).step.events := by
  rw [reported_succ, instructionReports, List.filter_append]
  exact congrArg (· ++ _) h.instructionReports_reported

/-- As long as the steps go on, the place of a report in the log is the number of the step that
made it, and the report is true of the machine before that step. -/
theorem describes_of_getElem? (h : machine.GoesOn n) {i : Nat}
    (hevent : (instructionReports (machine.reported (n + 1)))[i]? = some event) :
    instructionReports (machine.afterSteps i).step.events = [event] ∧
      (machine.afterSteps i).Describes event := by
  induction n with
  | zero =>
    rw [h.instructionReports_succ] at hevent
    obtain ⟨rfl, hdescribes⟩ := describes_of_getElem?_step hevent
    exact hdescribes
  | succ n ih =>
    rw [h.instructionReports_succ] at hevent
    by_cases hi : i < n + 1
    · rw [List.getElem?_append_left (by rwa [h.length_reported]),
        ← h.instructionReports_reported] at hevent
      exact ih ((machine.goesOn_succ_iff n).mp h).1 hevent
    · rw [List.getElem?_append_right (by rw [h.length_reported]; omega),
        h.length_reported] at hevent
      obtain ⟨hlast, hdescribes⟩ := describes_of_getElem?_step hevent
      obtain rfl : i = n + 1 := by omega
      exact hdescribes

/-- The log of an execution that ends with a halt. -/
theorem log_of_halted (h : machine.GoesOn n) (hrunning : machine.status = .running)
    (hhalted : (machine.afterSteps n).step.result = .ok .halted) :
    let last := machine.afterSteps (n + 1)
    let log := instructionReports (machine.reported (n + 1))
    machine.steps + log.length = last.steps ∧
      log.getLast? = some (.dispatched last.registers.pc .halt) ∧
      machine.reported (n + 1) = log ++ [.halted last.registers.pc last.steps] := by
  intro last log
  obtain ⟨hstep, -⟩ := step_of_halted (h.status_eq hrunning) hhalted
  have hlast : last = (machine.afterSteps n).apply .halt := by
    rw [show last = _ from machine.afterSteps_succ n, hstep]
  have hlog : log =
      machine.reported n ++ [.dispatched (machine.afterSteps n).registers.pc .halt] := by
    rw [show log = _ from h.instructionReports_succ, hstep]
    rfl
  rw [hlast, hlog, reported_succ, hstep]
  refine ⟨?_, List.getLast?_concat, List.append_cons ..⟩
  rw [List.length_append, h.length_reported, List.length_singleton, apply, h.steps_eq,
    Nat.add_assoc]

/-- The log of an execution that ends with a failure, before or after a dispatch. -/
theorem log_of_error (h : machine.GoesOn n)
    (hfails : (machine.afterSteps n).step.result = .error fault) :
    let last := machine.afterSteps (n + 1)
    let log := instructionReports (machine.reported (n + 1))
    machine.reported (n + 1) = log ∧
      (¬ fault.AfterDispatch → machine.steps + log.length = last.steps) ∧
      (fault.AfterDispatch → machine.steps + log.length = last.steps + 1 ∧
        ∃ instruction overrun, fault = .outOfBounds overrun ∧
          last.effect instruction = .error overrun ∧
          log.getLast? = some (.dispatched last.registers.pc instruction)) := by
  intro last log
  have hlast : last = machine.afterSteps n :=
    (machine.afterSteps_succ n).trans (machine_step_of_error hfails)
  rw [hlast, show log = _ from h.instructionReports_succ, reported_succ, h.steps_eq]
  rcases events_of_error hfails with
    ⟨hbefore, hnil⟩ | ⟨hafter, instruction, overrun, hfault, heffect, hdispatched, -⟩
  · rw [hnil, instructionReports, List.filter_nil, List.append_nil, h.length_reported]
    exact ⟨rfl, fun _ => rfl, fun hafter => absurd hafter hbefore⟩
  · have hreport : instructionReports (machine.afterSteps n).step.events =
        [.dispatched (machine.afterSteps n).registers.pc instruction] := by
      rw [hdispatched]
      rfl
    rw [hreport, hdispatched, List.length_append, h.length_reported, List.length_singleton]
    exact ⟨rfl, fun hbefore => absurd hafter hbefore, fun _ =>
      ⟨rfl, instruction, overrun, hfault, heffect, List.getLast?_concat⟩⟩

end GoesOn

/-- The instructions that a returning run reports stand in its log in order, one for each step:
the one at place `i` is reported by the step after the first `i`, as that step comes to it.
There are as many as completed steps, the last being the halt, which is followed by the
report of having halted; or, where the run fails, as many as completed steps, and one more
for an instruction that failed after its dispatch. -/
theorem log_accounts_for_steps (memory : Memory) (options : Options)
    (hreturns : (start memory options).run.result ≠ .ok .running) :
    let fresh := start memory options
    let last := fresh.run.machine
    let log := instructionReports fresh.run.events
    (∀ i event, log[i]? = some event →
      instructionReports (fresh.afterSteps i).step.events = [event] ∧
        (fresh.afterSteps i).Describes event) ∧
    (fresh.run.result = .ok .halted →
      log.length = last.steps ∧
        log.getLast? = some (.dispatched last.registers.pc .halt) ∧
        fresh.run.events = log ++ [.halted last.registers.pc last.steps]) ∧
    ∀ fault, fresh.run.result = .error fault →
      fresh.run.events = log ∧
      (¬ fault.AfterDispatch → log.length = last.steps) ∧
      (fault.AfterDispatch → log.length = last.steps + 1 ∧
        ∃ instruction overrun, fault = .outOfBounds overrun ∧
          last.effect instruction = .error overrun ∧
          log.getLast? = some (.dispatched last.registers.pc instruction)) := by
  intro fresh last log
  obtain ⟨k, hgo, hresult, hlast, hevents⟩ := exists_stop_of_run hreturns
  rw [show last = _ from hlast, show log = _ from congrArg instructionReports hevents, hevents,
    hresult]
  -- a fresh machine has taken no steps, so the counts of both lemmas lose their first summand
  refine ⟨fun i event => hgo.describes_of_getElem?, fun hhalted => ?_, fun fault hfails => ?_⟩
  · obtain ⟨hlength, hdispatched, hhalt⟩ := hgo.log_of_halted rfl hhalted
    exact ⟨(Nat.zero_add _).symm.trans hlength, hdispatched, hhalt⟩
  · obtain ⟨hlog, hbefore, hafter⟩ := hgo.log_of_error hfails
    refine ⟨hlog, fun h => (Nat.zero_add _).symm.trans (hbefore h), fun h => ?_⟩
    obtain ⟨hlength, hdispatched⟩ := hafter h
    exact ⟨(Nat.zero_add _).symm.trans hlength, hdispatched⟩

/-- One run ignores an unknown opcode and halts, one dispatches an instruction that names a
register which does not exist, and one finds no further instruction. -/
theorem log_accounts_for_steps_of_three_runs :
    let ignoring : Memory := ⟨#[0x09, 0, 0, 0xff], by decide⟩
    let executing : Memory := ⟨#[0x03, 1, 2, 0x01, 3, 0], by decide⟩
    let fetching : Memory := ⟨#[0x03, 1, 2], by decide⟩
    ((start ignoring {}).run.result = .ok .halted ∧
      (start ignoring {}).Describes (.ignored 0 9) ∧
      (instructionReports (start ignoring {}).run.events).length =
        (start ignoring {}).run.machine.steps) ∧
    ((start executing {}).run.result = .error (.outOfBounds (.register 3)) ∧
      (instructionReports (start executing {}).run.events).length =
        (start executing {}).run.machine.steps + 1) ∧
    (start fetching {}).run.result = .error (.outOfBounds (.fetch 3)) ∧
      (instructionReports (start fetching {}).run.events).length =
        (start fetching {}).run.machine.steps := by
  intro ignoring executing fetching
  have hhalts : (start ignoring {}).run.result = .ok .halted := by cbv
  have hfails : (start executing {}).run.result = .error (.outOfBounds (.register 3)) := by cbv
  have hends : (start fetching {}).run.result = .error (.outOfBounds (.fetch 3)) := by cbv
  have hevent : (instructionReports (start ignoring {}).run.events)[0]? =
      some (.ignored 0 9) := by cbv
  obtain ⟨hreports, hcounted, -⟩ := log_accounts_for_steps ignoring {} (by simp [hhalts])
  obtain ⟨-, -, hfailing⟩ := log_accounts_for_steps executing {} (by simp [hfails])
  obtain ⟨-, -, hending⟩ := log_accounts_for_steps fetching {} (by simp [hends])
  exact ⟨⟨hhalts, (hreports 0 _ hevent).2, (hcounted hhalts).1⟩,
    ⟨hfails, ((hfailing _ hfails).2.2 trivial).1⟩, hends, (hending _ hends).2.1 id⟩

end Machine

end TaggedMachine
