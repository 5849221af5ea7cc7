import TaggedMachine.Proofs.Failure

/-!
Sessions. However a machine is driven, by single steps, by runs, or by both in turn, it
goes through the same execution: a call that stops ends with the outcome of that
execution, whatever calls came before it, and the calls after it find a machine that
rests or fails alike for good. Two sessions that end with a run which returns therefore
end in the same state with the same result, and up to the first failure they report the
same.
-/
namespace TaggedMachine

/-- What calls report, up to and including the first one that fails. -/
def reportedUntilFailure : List Outcome → List Event
  | [] => []
  | outcome :: rest =>
    match outcome.result with
    | .error _ => outcome.events
    | .ok _ => outcome.events ++ reportedUntilFailure rest

theorem reportedUntilFailure_eq_nil {outcomes : List Outcome}
    (h : ∀ outcome ∈ outcomes, outcome.events = []) : reportedUntilFailure outcomes = [] := by
  induction outcomes with
  | nil => rfl
  | cons outcome rest ih =>
    obtain ⟨hfirst, hrest⟩ := List.forall_mem_cons.mp h
    unfold reportedUntilFailure
    split
    · exact hfirst
    · rw [hfirst, ih hrest, List.append_nil]

namespace Machine

/-- The number of steps that a call takes. -/
def stepsOfCall (machine : Machine) : Call → Nat
  | .step => 1
  | .run => machine.stepsWithin (runLimit machine.options)

/-- The number of steps that calls made one after the other take. -/
def stepsOfCalls (machine : Machine) : List Call → Nat
  | [] => 0
  | call :: rest => machine.stepsOfCall call + (machine.call call).machine.stepsOfCalls rest

/-- No run of the session is given up while the machine is still running. -/
def Returns (machine : Machine) (calls : List Call) : Prop :=
  ∀ entry ∈ calls.zip (machine.session calls), entry.1 = .run → entry.2.result ≠ .ok .running

variable {machine : Machine} {outcome : Outcome}

theorem returns_cons_iff (machine : Machine) (call : Call) (rest : List Call) :
    machine.Returns (call :: rest) ↔
      (call = .run → machine.run.result ≠ .ok .running) ∧
        (machine.call call).machine.Returns rest := by
  rw [Returns, session, List.zip_cons_cons, List.forall_mem_cons]
  refine and_congr_left fun _ => ?_
  constructor
  · rintro h rfl
    exact h rfl
  · rintro h rfl
    exact h rfl

theorem session_ne_nil (machine : Machine) {calls : List Call} (h : calls ≠ []) :
    machine.session calls ≠ [] := by
  cases calls with
  | nil => contradiction
  | cons call rest => exact List.cons_ne_nil _ _

theorem call_stepsOfCall (machine : Machine) (call : Call) :
    (machine.call call).machine = machine.afterSteps (machine.stepsOfCall call) ∧
      (machine.call call).events = machine.reported (machine.stepsOfCall call) := by
  cases call with
  | step => exact ⟨rfl, (List.append_nil _).symm⟩
  | run => exact machine.runFor_stepsWithin _

/-- Calls lead to the machine that their steps lead to. -/
theorem afterCalls_eq_afterSteps (machine : Machine) (calls : List Call) :
    machine.afterCalls calls = machine.afterSteps (machine.stepsOfCalls calls) := by
  induction calls generalizing machine with
  | nil => rfl
  | cons call rest ih =>
    rw [stepsOfCalls, afterSteps_add, ← (machine.call_stepsOfCall call).1, ← ih]
    rfl

/-- What calls report is what their steps report. -/
theorem events_session (machine : Machine) (calls : List Call) :
    (machine.session calls).flatMap Outcome.events =
      machine.reported (machine.stepsOfCalls calls) := by
  induction calls generalizing machine with
  | nil => rfl
  | cons call rest ih =>
    rw [session, List.flatMap_cons, ih, stepsOfCalls, reported_add,
      (machine.call_stepsOfCall call).1, (machine.call_stepsOfCall call).2]

theorem options_afterCalls (machine : Machine) (calls : List Call) :
    (machine.afterCalls calls).options = machine.options := by
  rw [afterCalls_eq_afterSteps, options_afterSteps]

theorem size_afterCalls (machine : Machine) (calls : List Call) :
    (machine.afterCalls calls).memory.size = machine.memory.size := by
  rw [afterCalls_eq_afterSteps, size_afterSteps]

/-- The first call that stops ends as the execution does. -/
theorem ends_call (call : Call) (h : (machine.call call).result ≠ .ok .running) :
    machine.Ends (machine.call call) := by
  cases call with
  | step =>
    refine ⟨1, ?_, h⟩
    rw [runFor_succ]
    split
    · contradiction
    · rfl
  | run => exact ⟨_, rfl, h⟩

theorem Ends.of_step (h : machine.step.machine.Ends outcome)
    (hstep : machine.step.result = .ok .running) :
    machine.Ends (outcome.after machine.step.events) := by
  obtain ⟨limit, rfl, hresult⟩ := h
  exact ⟨limit + 1, by rw [runFor_succ, hstep], hresult⟩

theorem call_of_halted (h : machine.status = .halted) (call : Call) :
    machine.call call = ⟨machine, [], .ok .halted⟩ := by
  have hstep : machine.step = ⟨machine, [], .ok .halted⟩ := (Transition.rests h).step_eq
  cases call with
  | step => exact hstep
  | run => exact (runFor_succ_of_stop (by simp [hstep]) _).trans hstep

theorem session_of_halted (h : machine.status = .halted) (calls : List Call) :
    machine.session calls = calls.map fun _ => ⟨machine, [], .ok .halted⟩ := by
  induction calls with
  | nil => rfl
  | cons call rest ih => simp only [session, call_of_halted h call, List.map_cons, ih]

/-- A machine at the end of its execution has halted, or is stuck with the fault that ended
it. -/
theorem Ends.halted_or_stuck (h : machine.Ends outcome) :
    (outcome.result = .ok .halted ∧ outcome.machine.status = .halted) ∨
      ∃ fault, outcome.result = .error fault ∧ outcome.machine.Stuck fault := by
  obtain ⟨k, hgo, hstop, rfl⟩ := (machine.ends_iff outcome).mp h
  simp only [Outcome.after]
  cases hresult : (machine.afterSteps k).step.result with
  | error fault =>
    refine Or.inr ⟨fault, rfl, ?_⟩
    rw [machine_step_of_error hresult]
    exact stuck_of_error hresult
  | ok status =>
    cases status with
    | running => contradiction
    | halted =>
      refine Or.inl ⟨rfl, ?_⟩
      cases hstatus : (machine.afterSteps k).status with
      | halted => rw [(Transition.rests hstatus).step_eq, hstatus]
      | running => exact ((transition_step _).of_halted hstatus hresult).1

/-- Calls after the end change nothing and give the result of the end again; they report
nothing unless that was a failure. -/
theorem Ends.session_after (h : machine.Ends outcome) (calls : List Call) :
    ∀ later ∈ outcome.machine.session calls,
      later.machine = outcome.machine ∧ later.result = outcome.result ∧
        (outcome.result = .ok .halted → later.events = []) := by
  intro later hmem
  rcases h.halted_or_stuck with ⟨hresult, hhalted⟩ | ⟨fault, hresult, hstuck⟩
  · rw [session_of_halted hhalted, List.mem_map] at hmem
    obtain ⟨call, -, rfl⟩ := hmem
    exact ⟨rfl, hresult.symm, fun _ => rfl⟩
  · rw [hstuck calls, List.mem_map] at hmem
    obtain ⟨call, -, rfl⟩ := hmem
    refine ⟨rfl, hresult.symm, fun hok => ?_⟩
    rw [hresult] at hok
    contradiction

/-- The outcome of the whole session, up to what the last call itself reports. -/
def Concludes (machine : Machine) (calls : List Call) (outcome : Outcome) : Prop :=
  reportedUntilFailure (machine.session calls) = outcome.events ∧
    ∃ last, (machine.session calls).getLast? = some last ∧
      last.machine = outcome.machine ∧ last.result = outcome.result

/-- Once a call has stopped, the calls after it leave the conclusion as it is. -/
theorem concludes_cons_of_stop {call : Call} (h : (machine.call call).result ≠ .ok .running)
    (rest : List Call) : machine.Concludes (call :: rest) (machine.call call) := by
  have hends := ends_call call h
  have hlater := hends.session_after rest
  constructor
  · rw [session, reportedUntilFailure]
    split
    · rfl
    · rename_i status hresult
      have hhalted : (machine.call call).result = .ok .halted := by
        cases status with
        | running => contradiction
        | halted => exact hresult
      rw [reportedUntilFailure_eq_nil fun later hmem => (hlater later hmem).2.2 hhalted,
        List.append_nil]
  · rw [session, List.getLast?_cons]
    refine ⟨_, rfl, ?_⟩
    cases hlast : ((machine.call call).machine.session rest).getLast? with
    | none => exact ⟨rfl, rfl⟩
    | some last =>
      obtain ⟨hmachine, hresult, -⟩ := hlater last (List.mem_of_getLast? hlast)
      exact ⟨hmachine, hresult⟩

theorem Concludes.cons_of_running {rest : List Call} (hrest : rest ≠ [])
    (hstep : machine.step.result = .ok .running)
    (h : machine.step.machine.Concludes rest outcome) :
    machine.Concludes (.step :: rest) (outcome.after machine.step.events) := by
  obtain ⟨hreported, last, hlast, hend⟩ := h
  constructor
  · simp only [session, call, reportedUntilFailure, hstep, hreported, Outcome.after]
  · refine ⟨last, ?_, hend⟩
    rw [session, List.getLast?_cons_of_ne_nil (session_ne_nil _ hrest)]
    exact hlast

/-- A session that ends with a run, all of whose runs return, concludes as the execution
ends. -/
theorem concludes_of_returns (calls : List Call) (h : machine.Returns (calls ++ [.run])) :
    ∃ outcome, machine.Ends outcome ∧ machine.Concludes (calls ++ [.run]) outcome := by
  induction calls generalizing machine with
  | nil =>
    have hrun : (machine.call .run).result ≠ .ok .running :=
      ((returns_cons_iff machine .run []).mp h).1 rfl
    exact ⟨machine.call .run, ends_call .run hrun, concludes_cons_of_stop hrun []⟩
  | cons call rest ih =>
    rw [List.cons_append] at h ⊢
    obtain ⟨hrun, hrest⟩ := (returns_cons_iff machine call (rest ++ [.run])).mp h
    by_cases hresult : (machine.call call).result = .ok .running
    · cases call with
      | run => exact absurd hresult (hrun rfl)
      | step =>
        obtain ⟨outcome, hends, hconcludes⟩ := ih hrest
        have hne : rest ++ [Call.run] ≠ [] := List.concat_ne_nil _ _
        exact ⟨_, hends.of_step hresult, hconcludes.cons_of_running hne hresult⟩
    · exact ⟨machine.call call, ends_call call hresult, concludes_cons_of_stop hresult _⟩

theorem run_of_ends (h : machine.Ends outcome) : outcome.machine.run.result = outcome.result :=
  (h.session_after [.run] _ (List.mem_singleton.mpr rfl)).2.1

theorem run_step_returns (h : machine.run.result ≠ .ok .running) :
    machine.step.machine.run.result ≠ .ok .running := by
  by_cases hstep : machine.step.result = .ok .running
  · have hlimit : runLimit machine.step.machine.options = runLimit machine.options := by
      rw [machine.transition_step.options_eq]
    rcases machine.step.machine.goesOn_or_stops (runLimit machine.options) with
      hgo | ⟨k, hk, hgo, hstop⟩
    · -- then the machine would go on for one step more than a run takes
      have hgo' := (machine.goesOn_succ_iff_next _).mpr ⟨hstep, hgo⟩
      obtain ⟨hbefore, hlast⟩ := (machine.goesOn_succ_iff _).mp hgo'
      have hrunning := ((transition_step _).of_running hlast).1.1
      exact absurd (by rw [run, runFor_of_goesOn hbefore, hrunning]) h
    · rw [run, hlimit, runFor_of_stop hgo hstop hk]
      exact hstop
  · have hends : machine.Ends machine.step := ends_call .step hstep
    rw [run_of_ends hends]
    exact hstep

/-- A machine whose run returns is driven by calls that return, whichever they are. -/
theorem returns_of_run (h : machine.run.result ≠ .ok .running) (calls : List Call) :
    machine.Returns calls := by
  induction calls generalizing machine with
  | nil => exact fun entry hmem => absurd hmem List.not_mem_nil
  | cons call rest ih =>
    refine (returns_cons_iff machine call rest).mpr ⟨fun _ => h, ih ?_⟩
    cases call with
    | step => exact run_step_returns h
    | run =>
      have hends : machine.Ends machine.run := ends_call .run h
      rw [call, run_of_ends hends]
      exact h

/-- Any two sessions that end with a run, and whose runs all return, conclude alike, as the
execution ends. One of them is the run alone: calls before it, such as a number of steps,
make no difference. Calls on a halted machine neither fail nor report nor change
anything. -/
theorem sessions_conclude_alike (machine : Machine) :
    (∀ first second, machine.Returns (first ++ [.run]) → machine.Returns (second ++ [.run]) →
      ∃ outcome, machine.Ends outcome ∧ machine.Concludes (first ++ [.run]) outcome ∧
        machine.Concludes (second ++ [.run]) outcome) ∧
    (machine.run.result ≠ .ok .running →
      ∀ calls, machine.Concludes (calls ++ [.run]) machine.run) ∧
    (machine.status = .halted →
      ∀ calls, machine.session calls = calls.map fun _ => ⟨machine, [], .ok .halted⟩) := by
  refine ⟨?_, ?_, session_of_halted⟩
  · intro first second hfirst hsecond
    obtain ⟨outcome, hends, hconcludes⟩ := concludes_of_returns first hfirst
    obtain ⟨outcome', hends', hconcludes'⟩ := concludes_of_returns second hsecond
    obtain rfl := hends.unique hends'
    exact ⟨outcome, hends, hconcludes, hconcludes'⟩
  · intro hrun calls
    obtain ⟨outcome, hends, hconcludes⟩ := concludes_of_returns _ (returns_of_run hrun _)
    have hrun' : machine.Ends machine.run := ends_call .run hrun
    rwa [hends.unique hrun'] at hconcludes

/-- The third instruction names a register that does not exist. One session meets it in a
run and is refused it twice more, the other only runs; and a halted machine stays as it
is. -/
theorem sessions_conclude_alike_at_missing_register :
    let machine := start ⟨#[0x03, 1, 2, 0x09, 0, 0, 0x01, 3, 0], by decide⟩ {}
    let calls := [Call.step, .run, .step]
    let halted := (start ⟨#[0xff], by decide⟩ {}).step.machine
    (machine.run.result ≠ .ok .running ∧ machine.Concludes (calls ++ [.run]) machine.run) ∧
    (machine.Returns (calls ++ [.run]) ∧ machine.Returns ([] ++ [.run]) ∧
      ∃ outcome, machine.Ends outcome ∧ machine.Concludes (calls ++ [.run]) outcome ∧
        machine.Concludes ([] ++ [.run]) outcome) ∧
    halted.status = .halted ∧ halted.session [.step, .run] =
      [⟨halted, [], .ok .halted⟩, ⟨halted, [], .ok .halted⟩] := by
  intro machine calls halted
  have hfails : machine.run.result = .error (.outOfBounds (.register 3)) := by cbv
  have hrun : machine.run.result ≠ .ok .running := by simp [hfails]
  have hcalls : machine.Returns (calls ++ [.run]) := returns_of_run hrun _
  have halone : machine.Returns ([] ++ [.run]) := returns_of_run hrun _
  have hhalted : halted.status = .halted := by cbv
  exact ⟨⟨hrun, (sessions_conclude_alike machine).2.1 hrun calls⟩,
    ⟨hcalls, halone, (sessions_conclude_alike machine).1 calls [] hcalls halone⟩,
    hhalted, (sessions_conclude_alike halted).2.2 hhalted [.step, .run]⟩

end Machine

end TaggedMachine
