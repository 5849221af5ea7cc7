import TaggedMachine.Proofs.Execution

/-!
A step budget only truncates. Until the budget is spent, a machine under a budget and
the same machine without one take the same steps; the check for the budget comes first,
so it also hides a failure that is due once the budget is spent. A run under a budget
therefore is the run without one where that ends in time, and otherwise stops with the
budget spent, after exactly as many steps as the budget allows.
-/
namespace TaggedMachine

/-- A halt is among the steps that the budget pays for; a failure is not counted, but
it is found only by a step that the budget still allows. -/
def Outcome.Within (outcome : Outcome) (budget : Nat) : Prop :=
  match outcome.result with
  | .ok _ => outcome.machine.steps ≤ budget
  | .error _ => outcome.machine.steps < budget

namespace Machine

/-- The same machine, from now on under a budget. -/
def limited (machine : Machine) (budget : Nat) : Machine :=
  { machine with options := machine.options.withStepBudget budget }

end Machine

/-- The same outcome of a machine under a budget. -/
def Outcome.limited (outcome : Outcome) (budget : Nat) : Outcome :=
  { outcome with machine := outcome.machine.limited budget }

namespace Machine

variable {machine : Machine} {budget : Nat}

theorem spentBudget?_of_unlimited (h : machine.options.stepBudget = none) :
    machine.spentBudget? = none := by
  simp [spentBudget?, h]

theorem spentBudget?_limited_of_lt (h : machine.steps < budget) :
    (machine.limited budget).spentBudget? = none := by
  simp [spentBudget?, limited, Options.withStepBudget, Nat.not_le.mpr h]

theorem spentBudget?_limited_of_le (h : budget ≤ machine.steps) :
    (machine.limited budget).spentBudget? = some budget := by
  simp [spentBudget?, limited, Options.withStepBudget, h]

/-- A step that the budget allows does not look at it. -/
theorem step_limited (h : machine.steps < budget) (hfree : machine.options.stepBudget = none) :
    (machine.limited budget).step = machine.step.limited budget := by
  have hroom := spentBudget?_limited_of_lt h
  have htransition := machine.transition_step
  apply Transition.step_eq
  generalize machine.step = outcome at htransition
  cases htransition with
  | rests hhalted => exact .rests hhalted
  | budgetSpent spent hrunning hspent =>
    rw [spentBudget?_of_unlimited hfree] at hspent
    contradiction
  | fetchFails overrun hactive hfetch => exact .fetchFails overrun ⟨hactive.1, hroom⟩ hfetch
  | ignores opcode hactive hfetch hpolicy =>
    exact .ignores opcode ⟨hactive.1, hroom⟩ hfetch hpolicy
  | rejects opcode hactive hfetch hpolicy =>
    exact .rejects opcode ⟨hactive.1, hroom⟩ hfetch hpolicy
  | effectFails instruction overrun hactive hfetch hoverrun =>
    exact .effectFails instruction overrun ⟨hactive.1, hroom⟩ hfetch hoverrun
  | sets instruction register word hactive hfetch hfits hset =>
    refine .sets instruction register word ⟨hactive.1, hroom⟩ hfetch hfits ?_
    rw [← hset]
    cases instruction <;> rfl
  | stores id address hactive hfetch hfits =>
    exact .stores id address ⟨hactive.1, hroom⟩ hfetch hfits
  | halts hactive hfetch => exact .halts ⟨hactive.1, hroom⟩ hfetch

theorem step_limited_of_spent (h : budget ≤ machine.steps)
    (hrunning : machine.status = .running) :
    (machine.limited budget).step = (machine.limited budget).fail [] (.budgetSpent budget) :=
  Transition.step_eq (.budgetSpent budget hrunning (spentBudget?_limited_of_le h))

theorem step_limited_of_goesOn {n : Nat} (hfree : machine.options.stepBudget = none)
    (hgo : machine.GoesOn n) (hn : machine.steps + n ≤ budget) :
    ∀ i < n, ((machine.afterSteps i).limited budget).step =
      (machine.afterSteps i).step.limited budget := by
  intro i hi
  have hbefore : machine.GoesOn i := fun j hj => hgo j (Nat.lt_trans hj hi)
  apply step_limited
  · rw [hbefore.steps_eq]
    omega
  · rw [options_afterSteps, hfree]

/-- As long as the budget lasts, both machines take the same steps and report the same. -/
theorem afterSteps_limited {n : Nat} (hfree : machine.options.stepBudget = none)
    (hgo : machine.GoesOn n) (hn : machine.steps + n ≤ budget) :
    (machine.limited budget).GoesOn n ∧
      (machine.limited budget).afterSteps n = (machine.afterSteps n).limited budget ∧
      (machine.limited budget).reported n = machine.reported n := by
  have hsame := step_limited_of_goesOn hfree hgo hn
  refine ⟨?_, afterSteps_of_commutes (f := (limited · budget)) hsame,
    reported_of_commutes (f := (limited · budget)) hsame⟩
  intro i hi
  rw [step_afterSteps_of_commutes (f := (limited · budget)) hsame i hi]
  exact hgo i hi

/-- A stop after `k` steps is within a budget exactly if the budget allows one more. -/
theorem within_iff {k : Nat} (hrunning : machine.status = .running)
    (hgo : machine.GoesOn k) (hstop : (machine.afterSteps k).step.result ≠ .ok .running) :
    (machine.afterSteps k).step.Within budget ↔ machine.steps + k < budget := by
  have hsteps := hgo.steps_eq
  unfold Outcome.Within
  cases hresult : (machine.afterSteps k).step.result with
  | error fault => rw [machine_step_of_error hresult, hsteps]
  | ok status =>
    cases status with
    | running => exact absurd hresult hstop
    | halted =>
      have hhalts := (transition_step _).of_halted (hgo.status_eq hrunning) hresult
      rw [hhalts.2, hsteps]
      exact Iff.rfl

theorem step_afterSteps_limited {n : Nat} (hfree : machine.options.stepBudget = none)
    (hgo : machine.GoesOn n) (hn : machine.steps + n < budget) :
    ((machine.limited budget).afterSteps n).step =
      (machine.afterSteps n).step.limited budget := by
  rw [(afterSteps_limited hfree hgo (Nat.le_of_lt hn)).2.1]
  apply step_limited
  · rw [hgo.steps_eq]
    exact hn
  · rw [options_afterSteps, hfree]

theorem step_afterSteps_limited_of_spent {n : Nat}
    (hfree : machine.options.stepBudget = none) (hrunning : machine.status = .running)
    (hgo : machine.GoesOn n) (hn : machine.steps + n = budget) :
    ((machine.limited budget).afterSteps n).step =
      ((machine.afterSteps n).limited budget).fail [] (.budgetSpent budget) := by
  rw [(afterSteps_limited hfree hgo (Nat.le_of_eq hn)).2.1]
  apply step_limited_of_spent
  · rw [hgo.steps_eq]
    exact Nat.le_of_eq hn.symm
  · exact hgo.status_eq hrunning

theorem run_limited_of_stop {k : Nat} (hfree : machine.options.stepBudget = none)
    (hgo : machine.GoesOn k) (hstop : (machine.afterSteps k).step.result ≠ .ok .running)
    (hk : machine.steps + k < budget) :
    (machine.limited budget).run =
      ((machine.afterSteps k).step.after (machine.reported k)).limited budget := by
  obtain ⟨hgo', -, hreported⟩ := afterSteps_limited hfree hgo (Nat.le_of_lt hk)
  have hsame := step_afterSteps_limited hfree hgo hk
  have hlimit : k < runLimit (machine.limited budget).options := by
    simp only [runLimit, limited, Options.withStepBudget, Option.getD_some]
    omega
  have hstop' : ((machine.limited budget).afterSteps k).step.result ≠ .ok .running := by
    rw [hsame]
    exact hstop
  unfold run
  rw [runFor_of_stop hgo' hstop' hlimit, hsame, hreported]
  rfl

theorem run_limited_of_goesOn {n : Nat} (hfree : machine.options.stepBudget = none)
    (hrunning : machine.status = .running) (hgo : machine.GoesOn n)
    (hn : machine.steps + n = budget) :
    (machine.limited budget).run =
      ⟨(machine.afterSteps n).limited budget, machine.reported n,
        .error (.budgetSpent budget)⟩ := by
  obtain ⟨hgo', -, hreported⟩ := afterSteps_limited hfree hgo (Nat.le_of_eq hn)
  have hspent := step_afterSteps_limited_of_spent hfree hrunning hgo hn
  have hlimit : n < runLimit (machine.limited budget).options := by
    simp only [runLimit, limited, Options.withStepBudget, Option.getD_some]
    omega
  unfold run
  rw [runFor_of_stop hgo' (by simp [hspent, fail]) hlimit, hspent, hreported]
  simp [fail, Outcome.after]

theorem goesOn_of_not_within (hrunning : machine.status = .running) (hsteps : machine.steps = 0)
    (hlate : ∀ outcome, machine.Ends outcome → ¬ outcome.Within budget) :
    machine.GoesOn budget := by
  rcases machine.goesOn_or_stops budget with hgo | ⟨k, hk, hgo, hstop⟩
  · exact hgo
  · have hwithin : (machine.afterSteps k).step.Within budget :=
      (within_iff hrunning hgo hstop).mpr (by omega)
    have hends : machine.Ends ((machine.afterSteps k).step.after (machine.reported k)) :=
      (machine.ends_iff _).mpr ⟨k, hgo, hstop, rfl⟩
    exact (hlate _ hends hwithin).elim

theorem exists_stop_limited (budget : Nat) (hfree : machine.options.stepBudget = none)
    (hrunning : machine.status = .running) (hsteps : machine.steps = 0) :
    ∃ k ≤ budget, (machine.limited budget).GoesOn k ∧
      ((machine.limited budget).afterSteps k).step.result ≠ .ok .running := by
  rcases machine.goesOn_or_stops budget with hgo | ⟨k, hk, hgo, hstop⟩
  · refine ⟨budget, Nat.le_refl budget, ?_, ?_⟩
    · exact (afterSteps_limited hfree hgo (by omega)).1
    · rw [step_afterSteps_limited_of_spent hfree hrunning hgo (by omega)]
      simp [fail]
  · refine ⟨k, Nat.le_of_lt hk, ?_, ?_⟩
    · exact (afterSteps_limited hfree hgo (by omega)).1
    · rw [step_afterSteps_limited hfree hgo (by omega)]
      exact hstop

/-- A run under a budget is the run without one if that ends within the budget, with
all it leaves and reports; otherwise it has gone along with it for as many steps as the
budget allows and fails there. It always ends, within one step more than the budget. -/
theorem run_limited (memory : Memory) (policy : UnknownOpcodes) (budget : Nat) :
    let free := start memory { unknownOpcodes := policy }
    let limited := start memory { unknownOpcodes := policy, stepBudget := some budget }
    (∀ outcome, free.Ends outcome → outcome.Within budget →
      limited.run = outcome.limited budget) ∧
    ((∀ outcome, free.Ends outcome → ¬ outcome.Within budget) →
      free.GoesOn budget ∧ (free.afterSteps budget).steps = budget ∧
        (free.afterSteps budget).status = .running ∧
        limited.run = ⟨(free.afterSteps budget).limited budget, free.reported budget,
          .error (.budgetSpent budget)⟩) ∧
    ∃ k ≤ budget, limited.GoesOn k ∧ limited.run.result ≠ .ok .running ∧
      limited.run = limited.runFor (k + 1) := by
  intro free limited
  have hfree : free.options.stepBudget = none := rfl
  have hrunning : free.status = .running := rfl
  refine ⟨?_, ?_, ?_⟩
  · intro outcome hends hwithin
    obtain ⟨k, hgo, hstop, rfl⟩ := (free.ends_iff outcome).mp hends
    have hk := (within_iff hrunning hgo hstop).mp hwithin
    exact run_limited_of_stop hfree hgo hstop hk
  · intro hlate
    have hgo := goesOn_of_not_within hrunning rfl hlate
    have hsteps : (free.afterSteps budget).steps = budget := by
      rw [hgo.steps_eq]
      exact Nat.zero_add budget
    exact ⟨hgo, hsteps, hgo.status_eq hrunning,
      run_limited_of_goesOn hfree hrunning hgo (Nat.zero_add budget)⟩
  · obtain ⟨k, hk, hgo, hstop⟩ := exists_stop_limited budget hfree hrunning rfl
    have hend : limited.runFor (k + 1) =
        (limited.afterSteps k).step.after (limited.reported k) :=
      runFor_of_stop hgo hstop (Nat.lt_succ_self k)
    have hrun : limited.run = (limited.afterSteps k).step.after (limited.reported k) :=
      runFor_of_stop hgo hstop (Nat.lt_succ_of_le hk)
    refine ⟨k, hk, hgo, ?_, hrun.trans hend.symm⟩
    rw [hrun]
    exact hstop

/-- An addition and a halt take two steps: a budget of two lets them end, a budget of one
does not. -/
theorem run_limited_of_two_steps :
    let memory : Memory := ⟨#[0x03, 1, 2, 0xff], by decide⟩
    let free := start memory {}
    let outcome := free.runFor 2
    (free.Ends outcome ∧ outcome.Within 2 ∧
      (start memory { stepBudget := some 2 }).run = outcome.limited 2) ∧
    (∀ outcome, free.Ends outcome → ¬ outcome.Within 1) ∧
      (start memory { stepBudget := some 1 }).run =
        ⟨(free.afterSteps 1).limited 1, free.reported 1, .error (.budgetSpent 1)⟩ := by
  intro memory free outcome
  have hresult : outcome.result = .ok .halted := by cbv
  have hsteps : outcome.machine.steps = 2 := by cbv
  have hends : free.Ends outcome := ⟨2, rfl, by simp [hresult]⟩
  have hwithin : outcome.Within 2 := by simp [Outcome.Within, hresult, hsteps]
  have hlate : ∀ outcome, free.Ends outcome → ¬ outcome.Within 1 := by
    intro outcome' hends'
    rw [hends'.unique hends]
    simp [Outcome.Within, hresult, hsteps]
  exact ⟨⟨hends, hwithin, (run_limited memory .ignore 2).1 outcome hends hwithin⟩,
    hlate, ((run_limited memory .ignore 1).2.1 hlate).2.2.2⟩

end Machine

end TaggedMachine
