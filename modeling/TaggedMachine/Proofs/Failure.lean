import TaggedMachine.Proofs.Execution
import TaggedMachine.Proofs.InPlace

/-!
A failure changes nothing, and it is final. Worked on in place, no machine is changed before
the last check of a step, so a failing step leaves it as it was, and the next one meets the same
checks in the same state: whatever calls follow, each of them fails alike. A run that fails
leaves the machine that its last successful step led to.
-/
namespace TaggedMachine

namespace Machine

variable {machine : Machine} {fault : Fault}

/-- Every sequence of calls fails call by call with `fault` and leaves the machine as it
is. -/
def Stuck (machine : Machine) (fault : Fault) : Prop :=
  ∀ calls, machine.session calls =
    calls.map fun _ => ⟨machine, machine.step.events, .error fault⟩

theorem step_of_error (h : machine.step.result = .error fault) :
    machine.step = ⟨machine, machine.step.events, .error fault⟩ := by
  calc
    machine.step = ⟨machine.step.machine, machine.step.events, machine.step.result⟩ := rfl
    _ = ⟨machine, machine.step.events, .error fault⟩ := by rw [machine_step_of_error h, h]

/-- A run takes at least one step, so it meets a failure that is due at once. -/
theorem run_of_error (h : machine.step.result = .error fault) : machine.run = machine.step :=
  runFor_succ_of_stop (ne_of_eq_of_ne h nofun) _

theorem call_of_error (h : machine.step.result = .error fault) (call : Call) :
    machine.call call = ⟨machine, machine.step.events, .error fault⟩ := by
  cases call with
  | step => exact step_of_error h
  | run => exact (run_of_error h).trans (step_of_error h)

theorem stuck_of_error (h : machine.step.result = .error fault) : machine.Stuck fault := by
  intro calls
  induction calls with
  | nil => rfl
  | cons call rest ih =>
    simp only [session, call_of_error h call, List.map_cons, ih]

/-- Worked on in place, the machine stays as it is whatever calls are made, and each of them
fails with `fault`. -/
def StuckInPlace (machine : Machine) (fault : Fault) : Prop :=
  ∀ calls reported,
    (InPlace.performAll calls ⟨machine, reported⟩).1 = calls.map (fun _ => .error fault) ∧
      (InPlace.performAll calls ⟨machine, reported⟩).2.machine = machine

theorem Stuck.afterCalls_eq (h : machine.Stuck fault) (calls : List Call) :
    machine.afterCalls calls = machine := by
  have hcall : ∀ call, (machine.call call).machine = machine := fun call =>
    congrArg Outcome.machine (List.singleton_inj.mp (h [call]))
  induction calls with
  | nil => rfl
  | cons call rest ih => rwa [afterCalls, List.foldl_cons, hcall]

theorem Stuck.inPlace (h : machine.Stuck fault) : machine.StuckInPlace fault := by
  intro calls reported
  rw [InPlace.performAll_eq, h calls, h.afterCalls_eq, List.map_map]
  exact ⟨rfl, rfl⟩

end Machine

namespace InPlace

variable {work left : Work} {fault : Fault}

/-- So many steps in place, each of which leaves the machine running, lead from one work to
another. -/
inductive Leads : Nat → Work → Work → Prop
  | refl (work : Work) : Leads 0 work work
  | step {n : Nat} {work next last : Work} (hstep : perform step work = (.ok .running, next))
      (hrest : Leads n next last) : Leads (n + 1) work last

/-- A step that fails has reported something at most. -/
theorem stuck_of_step_error (h : perform step work = (.error fault, left)) :
    left.machine = work.machine ∧ work.machine.StuckInPlace fault := by
  rw [perform_step, resulting, Prod.mk.injEq] at h
  obtain ⟨hresult, rfl⟩ := h
  exact ⟨Machine.machine_step_of_error hresult, (Machine.stuck_of_error hresult).inPlace⟩

/-- A run that fails has done steps up to one that fails. -/
theorem leads_of_run_error {limit : Nat} (h : perform (run limit) work = (.error fault, left)) :
    ∃ n last, Leads n work last ∧ perform step last = (.error fault, left) := by
  induction limit generalizing work with
  | zero => cases congrArg Prod.fst h
  | succ limit ih =>
    rw [run, perform_bind] at h
    rcases hstep : perform step work with ⟨other | _ | _, next⟩ <;> rw [hstep] at h
    · cases h
      exact ⟨0, work, .refl work, hstep⟩
    · obtain ⟨n, last, hleads, hfails⟩ := ih h
      exact ⟨n + 1, last, .step hstep hleads, hfails⟩
    · cases congrArg Prod.fst h

/-- Whatever state a machine is in and whatever has been reported, a step in place that fails
leaves the machine exactly as it was, and every sequence of calls after it fails with that fault
call by call and changes nothing. A run that fails leaves the machine, stuck like this, where
the last of its steps did that did not fail. -/
theorem failure_changes_nothing (work : Work) :
    (∀ fault left, perform step work = (.error fault, left) →
      left.machine = work.machine ∧ left.machine.StuckInPlace fault) ∧
    (∀ fault left, perform (call .run) work = (.error fault, left) →
      ∃ n last, Leads n work last ∧ perform step last = (.error fault, left) ∧
        left.machine = last.machine ∧ left.machine.StuckInPlace fault) := by
  have hfailing : ∀ {work left : Work} {fault : Fault}, perform step work = (.error fault, left) →
      left.machine = work.machine ∧ left.machine.StuckInPlace fault := by
    intro work left fault h
    obtain ⟨hmachine, hstuck⟩ := stuck_of_step_error h
    exact ⟨hmachine, hmachine ▸ hstuck⟩
  constructor
  · intro fault left h
    exact hfailing h
  · intro fault left h
    rw [call, perform_bind] at h
    obtain ⟨n, last, hleads, hfails⟩ := leads_of_run_error h
    exact ⟨n, last, hleads, hfails, hfailing hfails⟩

/-- An addition succeeds, then a load names a register that does not exist. -/
theorem failure_changes_nothing_at_missing_register :
    let machine := Machine.start ⟨#[0x03, 1, 2, 0x01, 3, 0], by decide⟩ { stepBudget := some 5 }
    let failing := machine.step.machine
    let fault := Fault.outOfBounds (.register 3)
    (∃ left, perform step ⟨failing, []⟩ = (.error fault, left) ∧
      left.machine = failing ∧ left.machine.StuckInPlace fault) ∧
    ∃ left, perform (call .run) ⟨machine, []⟩ = (.error fault, left) ∧
      ∃ n last, Leads n ⟨machine, []⟩ last ∧ perform step last = (.error fault, left) ∧
        left.machine = last.machine ∧ left.machine.StuckInPlace fault := by
  intro machine failing fault
  have hfails : failing.step.result = .error fault := by cbv
  have hends : machine.run.result = .error fault := by cbv
  have hstep : perform step ⟨failing, []⟩ =
      (.error fault, ⟨failing.step.machine, [] ++ failing.step.events⟩) := by
    rw [perform_step, resulting, hfails]
  have hrun : perform (call .run) ⟨machine, []⟩ =
      (.error fault, ⟨machine.run.machine, [] ++ machine.run.events⟩) := by
    rw [perform_call, resulting, Machine.call, hends]
  exact ⟨⟨_, hstep, (failure_changes_nothing _).1 fault _ hstep⟩,
    _, hrun, (failure_changes_nothing _).2 fault _ hrun⟩

end InPlace

end TaggedMachine
