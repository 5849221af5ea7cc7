import TaggedMachine.Step

/-!
Runs: steps until the machine halts or fails. A run without a budget is given up, still
running, after as many steps as a 64-bit number counts; a budget ends a run by itself,
within one step more than it allows. A session makes calls on one machine, each of
which goes on from where the one before it stopped.
-/
namespace TaggedMachine

/-- The same outcome, with earlier events before its own. -/
def Outcome.after (outcome : Outcome) (earlier : List Event) : Outcome :=
  { outcome with events := earlier ++ outcome.events }

namespace Machine

def runFrom (reported : Array Event) (machine : Machine) : Nat → Outcome
  | 0 => ⟨machine, reported.toList, .ok machine.status⟩
  | limit + 1 =>
    let outcome := machine.step
    let reported := reported ++ outcome.events
    match outcome.result with
    | .ok .running => runFrom reported outcome.machine limit
    | result => ⟨outcome.machine, reported.toList, result⟩

/-- Steps until the machine halts or fails, at most `limit` times. -/
def runFor (machine : Machine) (limit : Nat) : Outcome := runFrom #[] machine limit

def runLimit (options : Options) : Nat := options.stepBudget.getD Parameters.lastLocation + 1

def run (machine : Machine) : Outcome := machine.runFor (runLimit machine.options)

end Machine

inductive Call
  | step | run
deriving DecidableEq

namespace Machine

def call (machine : Machine) : Call → Outcome
  | .step => machine.step
  | .run => machine.run

/-- The outcomes of calls made one after the other. A failed call does not end the
session. -/
def session (machine : Machine) : List Call → List Outcome
  | [] => []
  | call :: rest =>
    let outcome := machine.call call
    outcome :: outcome.machine.session rest

/-- The machine that calls made one after the other lead to. -/
def afterCalls (machine : Machine) (calls : List Call) : Machine :=
  calls.foldl (fun machine call => (machine.call call).machine) machine

theorem runFrom_eq (reported : Array Event) (machine : Machine) (limit : Nat) :
    runFrom reported machine limit = (machine.runFor limit).after reported.toList := by
  induction limit generalizing reported machine with
  | zero => simp [runFrom, runFor, Outcome.after]
  | succ limit ih =>
    simp only [runFor, runFrom]
    split
    · rw [ih, ih (#[] ++ _)]
      simp [Outcome.after]
    · simp [Outcome.after]

theorem runFor_succ (machine : Machine) (limit : Nat) :
    machine.runFor (limit + 1) =
      match machine.step.result with
      | .ok .running => (machine.step.machine.runFor limit).after machine.step.events
      | _ => machine.step := by
  simp only [runFor, runFrom]
  split
  · rw [runFrom_eq]
    simp [runFor]
  · simp

end Machine

end TaggedMachine
