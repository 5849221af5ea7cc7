import Mathlib.Data.List.Basic
import Mathlib.Data.List.Iterate
import TaggedMachine.Proofs.Transition
import TaggedMachine.Run

/-!
Executions: the machines that one machine becomes step after step, and what is reported
on the way. A run stops at the first step that does not leave the machine running, so
its outcome is that step with the earlier reports before it. A machine that has halted
or failed never changes again, and therefore calls, whichever they are, only lead to
machines that single steps lead to.
-/
namespace TaggedMachine.Machine

def next (machine : Machine) : Machine := machine.step.machine

/-- The machine after its first `n` steps. -/
def afterSteps (machine : Machine) (n : Nat) : Machine := next^[n] machine

/-- Each of the first `n` steps leaves the machine running. -/
def GoesOn (machine : Machine) (n : Nat) : Prop :=
  ∀ i < n, (machine.afterSteps i).step.result = .ok .running

/-- What the first `n` steps report. -/
def reported (machine : Machine) (n : Nat) : List Event :=
  (List.range n).flatMap fun i => (machine.afterSteps i).step.events

/-- The number of steps that a run of at most `limit` steps takes. The step that stops it is
one of them. -/
def stepsWithin (machine : Machine) : Nat → Nat
  | 0 => 0
  | limit + 1 =>
    match machine.step.result with
    | .ok .running => machine.step.machine.stepsWithin limit + 1
    | _ => 1

/-- Stepping on, however long it takes, ends with a given outcome. -/
def Ends (machine : Machine) (outcome : Outcome) : Prop :=
  ∃ limit, machine.runFor limit = outcome ∧ outcome.result ≠ .ok .running

@[simp] theorem afterSteps_zero (machine : Machine) : machine.afterSteps 0 = machine := rfl

theorem afterSteps_succ (machine : Machine) (n : Nat) :
    machine.afterSteps (n + 1) = (machine.afterSteps n).step.machine :=
  Function.iterate_succ_apply' next n machine

theorem afterSteps_succ_next (machine : Machine) (n : Nat) :
    machine.afterSteps (n + 1) = machine.step.machine.afterSteps n := rfl

theorem afterSteps_add (machine : Machine) (m n : Nat) :
    machine.afterSteps (m + n) = (machine.afterSteps m).afterSteps n := by
  simp only [afterSteps, Nat.add_comm m n, Function.iterate_add_apply]

theorem reported_succ (machine : Machine) (n : Nat) :
    machine.reported (n + 1) = machine.reported n ++ (machine.afterSteps n).step.events := by
  simp [reported, List.range_succ]

theorem reported_succ_next (machine : Machine) (n : Nat) :
    machine.reported (n + 1) = machine.step.events ++ machine.step.machine.reported n := by
  simp only [reported, List.range_succ_eq_map, List.flatMap_cons, List.flatMap_map,
    afterSteps_zero, Nat.succ_eq_add_one, afterSteps_succ_next]

theorem reported_add (machine : Machine) (m n : Nat) :
    machine.reported (m + n) = machine.reported m ++ (machine.afterSteps m).reported n := by
  induction n with
  | zero => exact (List.append_nil _).symm
  | succ n ih =>
    rw [← Nat.add_assoc, reported_succ, ih, reported_succ, afterSteps_add, List.append_assoc]

theorem reported_congr {machine machine' : Machine} {n : Nat}
    (h : ∀ i < n, (machine'.afterSteps i).step.events = (machine.afterSteps i).step.events) :
    machine'.reported n = machine.reported n :=
  List.flatMap_congr fun i hi => h i (List.mem_range.mp hi)

theorem goesOn_zero (machine : Machine) : machine.GoesOn 0 := by
  intro i hi
  omega

theorem goesOn_succ_iff (machine : Machine) (n : Nat) :
    machine.GoesOn (n + 1) ↔
      machine.GoesOn n ∧ (machine.afterSteps n).step.result = .ok .running :=
  Nat.forall_lt_succ_right

theorem goesOn_succ_iff_next (machine : Machine) (n : Nat) :
    machine.GoesOn (n + 1) ↔
      machine.step.result = .ok .running ∧ machine.step.machine.GoesOn n :=
  Nat.forall_lt_succ_left

theorem runFor_of_goesOn {machine : Machine} {n : Nat} (h : machine.GoesOn n) :
    machine.runFor n =
      ⟨machine.afterSteps n, machine.reported n, .ok (machine.afterSteps n).status⟩ := by
  induction n generalizing machine with
  | zero => rfl
  | succ n ih =>
    obtain ⟨hstep, hnext⟩ := (machine.goesOn_succ_iff_next n).mp h
    rw [runFor_succ, hstep, reported_succ_next, afterSteps_succ_next, ih hnext]
    rfl

/-- A run ends with the first step that does not leave the machine running. -/
theorem runFor_of_stop {machine : Machine} {k limit : Nat} (hgo : machine.GoesOn k)
    (hstop : (machine.afterSteps k).step.result ≠ .ok .running) (hlimit : k < limit) :
    machine.runFor limit = (machine.afterSteps k).step.after (machine.reported k) := by
  induction limit generalizing machine k with
  | zero => omega
  | succ limit ih =>
    cases k with
    | zero =>
      rw [runFor_succ]
      split
      · contradiction
      · rfl
    | succ k =>
      obtain ⟨hstep, hnext⟩ := (machine.goesOn_succ_iff_next k).mp hgo
      rw [afterSteps_succ_next] at hstop ⊢
      rw [runFor_succ, hstep, ih hnext hstop (by omega), reported_succ_next]
      simp [Outcome.after]

/-- A step that does not leave the machine running is all that a run takes. -/
theorem runFor_succ_of_stop {machine : Machine} (h : machine.step.result ≠ .ok .running)
    (limit : Nat) : machine.runFor (limit + 1) = machine.step :=
  runFor_of_stop machine.goesOn_zero h (Nat.succ_pos limit)

theorem goesOn_or_stops (machine : Machine) (limit : Nat) :
    machine.GoesOn limit ∨
      ∃ k < limit, machine.GoesOn k ∧ (machine.afterSteps k).step.result ≠ .ok .running := by
  induction limit with
  | zero => exact Or.inl machine.goesOn_zero
  | succ limit ih =>
    rcases ih with hgo | ⟨k, hk, hstops⟩
    · by_cases hstep : (machine.afterSteps limit).step.result = .ok .running
      · exact Or.inl ((machine.goesOn_succ_iff limit).mpr ⟨hgo, hstep⟩)
      · exact Or.inr ⟨limit, by omega, hgo, hstep⟩
    · exact Or.inr ⟨k, by omega, hstops⟩

theorem stepsWithin_succ_of_running {machine : Machine} (h : machine.step.result = .ok .running)
    (limit : Nat) :
    machine.stepsWithin (limit + 1) = machine.step.machine.stepsWithin limit + 1 := by
  rw [stepsWithin, h]

theorem stepsWithin_succ_of_stop {machine : Machine} (h : machine.step.result ≠ .ok .running)
    (limit : Nat) : machine.stepsWithin (limit + 1) = 1 := by
  rw [stepsWithin]
  split
  · contradiction
  · rfl

/-- A run leads to the machine that its steps lead to, and reports what they report. -/
theorem runFor_stepsWithin (machine : Machine) (limit : Nat) :
    (machine.runFor limit).machine = machine.afterSteps (machine.stepsWithin limit) ∧
      (machine.runFor limit).events = machine.reported (machine.stepsWithin limit) := by
  induction limit generalizing machine with
  | zero => exact ⟨rfl, rfl⟩
  | succ limit ih =>
    by_cases hstep : machine.step.result = .ok .running
    · obtain ⟨hmachine, hevents⟩ := ih machine.step.machine
      rw [runFor_succ, stepsWithin_succ_of_running hstep, hstep, afterSteps_succ_next,
        reported_succ_next, ← hmachine, ← hevents]
      exact ⟨rfl, rfl⟩
    · rw [runFor_succ_of_stop hstep, stepsWithin_succ_of_stop hstep]
      exact ⟨rfl, (List.append_nil _).symm⟩

theorem options_afterSteps (machine : Machine) (n : Nat) :
    (machine.afterSteps n).options = machine.options := by
  induction n with
  | zero => rfl
  | succ n ih => rw [afterSteps_succ, (transition_step _).options_eq, ih]

theorem size_afterSteps (machine : Machine) (n : Nat) :
    (machine.afterSteps n).memory.size = machine.memory.size := by
  induction n with
  | zero => rfl
  | succ n ih => rw [afterSteps_succ, (transition_step _).size_eq, ih]

section Commuting

variable {f : Machine → Machine} {machine : Machine} {n : Nat}

/-- Where a change of the machine commutes with each of the first steps, it commutes with all of
them. -/
theorem afterSteps_of_commutes (h : ∀ i < n, (f (machine.afterSteps i)).step =
      { (machine.afterSteps i).step with machine := f (machine.afterSteps i).step.machine }) :
    (f machine).afterSteps n = f (machine.afterSteps n) := by
  induction n with
  | zero => rfl
  | succ n ih =>
    have hbefore := ih fun i hi => h i (Nat.lt_succ_of_lt hi)
    rw [afterSteps_succ, afterSteps_succ, hbefore, h n (Nat.lt_succ_self n)]

theorem step_afterSteps_of_commutes (h : ∀ i < n, (f (machine.afterSteps i)).step =
      { (machine.afterSteps i).step with machine := f (machine.afterSteps i).step.machine }) :
    ∀ i < n, ((f machine).afterSteps i).step =
      { (machine.afterSteps i).step with machine := f (machine.afterSteps i).step.machine } := by
  intro i hi
  rw [afterSteps_of_commutes fun j hj => h j (Nat.lt_trans hj hi), h i hi]

theorem reported_of_commutes (h : ∀ i < n, (f (machine.afterSteps i)).step =
      { (machine.afterSteps i).step with machine := f (machine.afterSteps i).step.machine }) :
    (f machine).reported n = machine.reported n := by
  refine reported_congr fun i hi => ?_
  rw [step_afterSteps_of_commutes h i hi]

end Commuting

namespace GoesOn

variable {machine : Machine} {n : Nat}

theorem steps_eq (h : machine.GoesOn n) : (machine.afterSteps n).steps = machine.steps + n := by
  induction n with
  | zero => rfl
  | succ n ih =>
    obtain ⟨hgo, hstep⟩ := (machine.goesOn_succ_iff n).mp h
    rw [afterSteps_succ, ((transition_step _).of_running hstep).2.2, ih hgo]
    omega

theorem ne_error (h : machine.GoesOn n) {i : Nat} (hi : i < n) (fault : Fault) :
    (machine.afterSteps i).step.result ≠ .error fault := by
  rw [h i hi]
  exact nofun

theorem status_eq (h : machine.GoesOn n) (hrunning : machine.status = .running) :
    (machine.afterSteps n).status = .running := by
  cases n with
  | zero => exact hrunning
  | succ n =>
    rw [afterSteps_succ]
    exact ((transition_step _).of_running (h n (Nat.lt_succ_self n))).2.1

end GoesOn

/-- An execution ends exactly by reaching a step that does not leave it running. -/
theorem ends_iff (machine : Machine) (outcome : Outcome) :
    machine.Ends outcome ↔
      ∃ k, machine.GoesOn k ∧ (machine.afterSteps k).step.result ≠ .ok .running ∧
        outcome = (machine.afterSteps k).step.after (machine.reported k) := by
  constructor
  · rintro ⟨limit, rfl, hresult⟩
    rcases machine.goesOn_or_stops limit with hgo | ⟨k, hk, hgo, hstop⟩
    · -- the limit is used up, so the machine has halted: one more step would rest
      rw [runFor_of_goesOn hgo] at hresult ⊢
      have hhalted : (machine.afterSteps limit).status = .halted := by
        cases hstatus : (machine.afterSteps limit).status with
        | halted => rfl
        | running => simp [hstatus] at hresult
      have hrests := (Transition.rests hhalted).step_eq
      refine ⟨limit, hgo, ?_, ?_⟩
      · simp [hrests]
      · simp [hrests, hhalted, Outcome.after]
    · exact ⟨k, hgo, hstop, runFor_of_stop hgo hstop hk⟩
  · rintro ⟨k, hgo, hstop, rfl⟩
    exact ⟨k + 1, runFor_of_stop hgo hstop (Nat.lt_succ_self k), hstop⟩

/-- A run that returns has gone on up to the step that stops it. -/
theorem exists_stop_of_run {machine : Machine} (h : machine.run.result ≠ .ok .running) :
    ∃ k, machine.GoesOn k ∧ machine.run.result = (machine.afterSteps k).step.result ∧
      machine.run.machine = machine.afterSteps (k + 1) ∧
      machine.run.events = machine.reported (k + 1) := by
  obtain ⟨k, hgo, -, hrun⟩ := (machine.ends_iff machine.run).mp ⟨_, rfl, h⟩
  refine ⟨k, hgo, ?_, ?_, ?_⟩
  · rw [hrun]
    rfl
  · rw [hrun, afterSteps_succ]
    rfl
  · rw [hrun, reported_succ]
    rfl

theorem Ends.unique {machine : Machine} {outcome outcome' : Outcome}
    (h : machine.Ends outcome) (h' : machine.Ends outcome') : outcome = outcome' := by
  obtain ⟨k, hgo, hstop, rfl⟩ := (machine.ends_iff outcome).mp h
  obtain ⟨k', hgo', hstop', rfl⟩ := (machine.ends_iff outcome').mp h'
  rcases Nat.lt_trichotomy k k' with hlt | rfl | hgt
  · exact absurd (hgo' k hlt) hstop
  · rfl
  · exact absurd (hgo k' hgt) hstop'

end TaggedMachine.Machine
