import TaggedMachine.Proofs.Execution

/-!
Unknown opcodes are all that the policy for them bears on. A machine that rejects them
and the same machine ignoring them take the same steps and report the same until the
first meets an unknown opcode. There it stops, while the other reports that it ignores
the instruction and moves past it. An instruction that is cut off by the end of memory is
not fetched, whatever its opcode, so both fail at it alike.
-/
namespace TaggedMachine

open Parameters

/-- The failure of a machine that rejects an unknown opcode. -/
def Outcome.Rejects (outcome : Outcome) : Prop :=
  ∃ opcode pc, outcome.result = .error (.unknownOpcode opcode pc)

namespace Machine

/-- The same machine, from now on ignoring unknown opcodes. -/
def ignoring (machine : Machine) : Machine :=
  { machine with options := { machine.options with unknownOpcodes := .ignore } }

end Machine

/-- The same outcome of a machine that ignores unknown opcodes. -/
def Outcome.ignoring (outcome : Outcome) : Outcome :=
  { outcome with machine := outcome.machine.ignoring }

theorem Opcode.not_mem_tags_of_ofTag? {tag : UInt8} (h : ofTag? tag = none) : tag ∉ tags := by
  intro hmem
  obtain ⟨opcode, -, rfl⟩ := List.mem_map.mp hmem
  rw [ofTag?_tag] at h
  contradiction

namespace Machine

variable {machine : Machine} {opcode : UInt8}

/-- An unknown opcode is found where all three cells of an instruction exist and the first
holds no tag of the table. -/
theorem cells_of_unknown (h : machine.fetch = .ok (.unknown opcode)) :
    opcode = machine.memory.cell machine.registers.pc ∧ opcode ∉ Opcode.tags ∧
      machine.registers.pc + 2 < machine.memory.size := by
  cases (machine.fetch_eq_ok_iff _).mp h with
  | unknown hpc htag hdecode =>
    have hunknown := Option.map_eq_none_iff.mp hdecode
    exact ⟨rfl, Opcode.not_mem_tags_of_ofTag? hunknown, hpc⟩

/-- A rejection comes from an active machine that has fetched the unknown opcode at its
program counter. -/
theorem fetch_of_rejects {pc : Nat} (h : machine.step.result = .error (.unknownOpcode opcode pc)) :
    machine.Active ∧ machine.fetch = .ok (.unknown opcode) ∧ pc = machine.registers.pc := by
  have htransition := machine.transition_step
  generalize machine.step = outcome at htransition h
  cases htransition with
  | rejects opcode' hactive hfetch hpolicy =>
    simp only [fail, Except.error.injEq, Fault.unknownOpcode.injEq] at h
    obtain ⟨rfl, rfl⟩ := h
    exact ⟨hactive, hfetch, rfl⟩
  | budgetSpent => simp [fail] at h
  | fetchFails => simp [fail] at h
  | effectFails => simp [fail] at h
  | ignores => simp [ignoreUnknown] at h
  | _ => simp at h

/-- A step that does not reject an opcode does not depend on the policy. -/
theorem step_ignoring (hpolicy : machine.options.unknownOpcodes = .reject)
    (h : ¬ machine.step.Rejects) : machine.ignoring.step = machine.step.ignoring := by
  have htransition := machine.transition_step
  apply Transition.step_eq
  generalize machine.step = outcome at htransition h
  cases htransition with
  | rests hhalted => exact .rests hhalted
  | budgetSpent budget hrunning hbudget => exact .budgetSpent budget hrunning hbudget
  | fetchFails overrun hactive hfetch => exact .fetchFails overrun hactive hfetch
  | ignores opcode hactive hfetch hignore =>
    rw [hpolicy] at hignore
    contradiction
  | rejects opcode hactive hfetch hreject => exact absurd ⟨opcode, _, rfl⟩ h
  | effectFails instruction overrun hactive hfetch hoverrun =>
    exact .effectFails instruction overrun hactive hfetch hoverrun
  | sets instruction register word hactive hfetch hfits hset =>
    refine .sets instruction register word hactive hfetch hfits ?_
    rw [← hset]
    cases instruction <;> rfl
  | stores id address hactive hfetch hfits => exact .stores id address hactive hfetch hfits
  | halts hactive hfetch => exact .halts hactive hfetch

theorem not_mem_events_of_reject (hpolicy : machine.options.unknownOpcodes = .reject)
    (pc : Nat) (opcode : UInt8) : Event.ignored pc opcode ∉ machine.step.events := by
  have htransition := machine.transition_step
  generalize machine.step = outcome at htransition
  cases htransition with
  | ignores opcode hactive hfetch hignore =>
    rw [hpolicy] at hignore
    contradiction
  | _ => simp [fail]

/-- Where the one machine rejects, the other moves past the instruction and says so. -/
theorem step_ignoring_of_rejects {pc : Nat}
    (h : machine.step.result = .error (.unknownOpcode opcode pc)) :
    machine.ignoring.step =
      ⟨machine.ignoring.advance, [.ignored machine.registers.pc opcode], .ok .running⟩ := by
  obtain ⟨hactive, hfetch, -⟩ := fetch_of_rejects h
  have hignores : machine.ignoring.Transition (machine.ignoring.ignoreUnknown opcode) :=
    .ignores opcode hactive hfetch rfl
  exact hignores.step_eq

theorem unknownOpcodes_afterSteps (hpolicy : machine.options.unknownOpcodes = .reject) (n : Nat) :
    (machine.afterSteps n).options.unknownOpcodes = .reject := by
  rw [options_afterSteps, hpolicy]

theorem step_ignoring_of_not_rejects {n : Nat}
    (hpolicy : machine.options.unknownOpcodes = .reject)
    (h : ∀ i < n, ¬ (machine.afterSteps i).step.Rejects) :
    ∀ i < n, (machine.afterSteps i).ignoring.step = (machine.afterSteps i).step.ignoring :=
  fun i hi => step_ignoring (unknownOpcodes_afterSteps hpolicy i) (h i hi)

/-- As long as nothing is rejected, both machines take the same steps. -/
theorem afterSteps_ignoring {n : Nat} (hpolicy : machine.options.unknownOpcodes = .reject)
    (h : ∀ i < n, ¬ (machine.afterSteps i).step.Rejects) :
    machine.ignoring.afterSteps n = (machine.afterSteps n).ignoring :=
  afterSteps_of_commutes (step_ignoring_of_not_rejects hpolicy h)

theorem step_afterSteps_ignoring {n : Nat} (hpolicy : machine.options.unknownOpcodes = .reject)
    (h : ∀ i < n, ¬ (machine.afterSteps i).step.Rejects) :
    ∀ i < n, (machine.ignoring.afterSteps i).step = (machine.afterSteps i).step.ignoring :=
  step_afterSteps_of_commutes (step_ignoring_of_not_rejects hpolicy h)

theorem not_mem_reported_of_reject (hpolicy : machine.options.unknownOpcodes = .reject)
    (n pc : Nat) (opcode : UInt8) : Event.ignored pc opcode ∉ machine.reported n := by
  intro hmem
  obtain ⟨i, -, hevent⟩ := List.mem_flatMap.mp hmem
  exact not_mem_events_of_reject (unknownOpcodes_afterSteps hpolicy i) pc opcode hevent

theorem reported_ignoring {n : Nat} (hpolicy : machine.options.unknownOpcodes = .reject)
    (h : ∀ i < n, ¬ (machine.afterSteps i).step.Rejects) :
    machine.ignoring.reported n = machine.reported n :=
  reported_of_commutes (step_ignoring_of_not_rejects hpolicy h)

theorem GoesOn.not_rejects {n : Nat} (h : machine.GoesOn n) :
    ∀ i < n, ¬ (machine.afterSteps i).step.Rejects := by
  rintro i hi ⟨opcode, pc, hrejects⟩
  exact h.ne_error hi _ hrejects

/-- A machine that rejects unknown opcodes and one that ignores them do the same as long as
nothing is rejected. Where the first stops, at an opcode outside the table with both of its
operands in memory, the other goes on behind that instruction: it reports it and changes
nothing but its program counter and its step count. -/
theorem policies_part_at_unknown_opcode (memory : Memory) (budget : Option Nat) :
    let strict := start memory { unknownOpcodes := .reject, stepBudget := budget }
    let lenient := start memory { unknownOpcodes := .ignore, stepBudget := budget }
    (∀ n, (∀ i < n, ¬ (strict.afterSteps i).step.Rejects) →
      (∀ i < n, (lenient.afterSteps i).step = (strict.afterSteps i).step.ignoring) ∧
      (∀ i ≤ n, lenient.afterSteps i = (strict.afterSteps i).ignoring) ∧
      lenient.reported n = strict.reported n ∧
      ∀ pc opcode, Event.ignored pc opcode ∉ lenient.reported n) ∧
    ∀ k opcode pc, strict.GoesOn k →
      (strict.afterSteps k).step.result = .error (.unknownOpcode opcode pc) →
      let before := strict.afterSteps k
      pc = before.registers.pc ∧ opcode = before.memory.cell pc ∧
        opcode ∉ [0x01, 0x02, 0x03, 0x04, 0xff] ∧ pc + 2 < before.memory.size ∧
        before.steps = k ∧ lenient.afterSteps k = before.ignoring ∧
        (lenient.afterSteps k).step =
          ⟨{ before.ignoring with
              registers := { before.registers with pc := pc + 3 }, steps := k + 1 },
            [.ignored pc opcode], .ok .running⟩ := by
  intro strict lenient
  have hpolicy : strict.options.unknownOpcodes = .reject := rfl
  refine ⟨fun n hagree => ⟨step_afterSteps_ignoring hpolicy hagree, ?_, ?_, ?_⟩, ?_⟩
  · exact fun i hi => afterSteps_ignoring hpolicy fun j hj => hagree j (Nat.lt_of_lt_of_le hj hi)
  · exact reported_ignoring hpolicy hagree
  · intro pc opcode
    have hsame : lenient.reported n = strict.reported n := reported_ignoring hpolicy hagree
    rw [hsame]
    exact not_mem_reported_of_reject hpolicy n pc opcode
  · intro k opcode pc hgo hrejects before
    obtain ⟨-, hfetch, rfl⟩ := fetch_of_rejects hrejects
    obtain ⟨hopcode, htags, hsize⟩ := cells_of_unknown hfetch
    have hsame : lenient.afterSteps k = before.ignoring :=
      afterSteps_ignoring hpolicy hgo.not_rejects
    have hsteps : (strict.afterSteps k).steps = k := hgo.steps_eq.trans (Nat.zero_add k)
    refine ⟨rfl, hopcode, htags, hsize, hsteps, hsame, ?_⟩
    rw [hsame, step_ignoring_of_rejects hrejects]
    simp only [before, advance, Registers.advance, ignoring, hsteps, instructionWidth]

/-- An addition, an unknown opcode and a halt: the machines do one step alike, then one of
them stops. -/
theorem policies_part_at_unknown_opcode_after_add :
    let memory : Memory := ⟨#[0x03, 0, 1, 0x09, 2, 7, 0xff], by decide⟩
    let strict := start memory { unknownOpcodes := .reject, stepBudget := some 8 }
    let lenient := start memory { unknownOpcodes := .ignore, stepBudget := some 8 }
    ((∀ i < 1, ¬ (strict.afterSteps i).step.Rejects) ∧
      lenient.reported 1 = strict.reported 1) ∧
    strict.GoesOn 1 ∧ (strict.afterSteps 1).step.result = .error (.unknownOpcode 0x09 3) ∧
      (lenient.afterSteps 1).step.result = .ok .running := by
  intro memory strict lenient
  have hstep : strict.step.result = .ok .running := by cbv
  have hgo : strict.GoesOn 1 := (strict.goesOn_succ_iff 0).mpr ⟨strict.goesOn_zero, hstep⟩
  have hrejects : (strict.afterSteps 1).step.result = .error (.unknownOpcode 0x09 3) := by cbv
  have hparts := policies_part_at_unknown_opcode memory (some 8)
  obtain ⟨-, -, -, -, -, -, hlenient⟩ := hparts.2 1 0x09 3 hgo hrejects
  exact ⟨⟨hgo.not_rejects, (hparts.1 1 hgo.not_rejects).2.2.1⟩, hgo, hrejects,
    congrArg Outcome.result hlenient⟩

end Machine

end TaggedMachine
