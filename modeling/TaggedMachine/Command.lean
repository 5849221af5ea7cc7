import TaggedMachine.Log.Filter
import TaggedMachine.Sample

/-!
The command: it runs one sample after the other and logs what the machine reports, then the
final memory and output of the sample. Only what the filter admits is printed. The first sample
that fails, or that ends with another output than is expected of it, ends the command with an
error, and the samples after it are not run.
-/
namespace TaggedMachine

/-- What can go wrong with a sample. -/
inductive SampleError
  | run (name : String) (source : Fault)
  | mismatch (name : String) (expected actual : UInt16)
deriving DecidableEq

def SampleError.text : SampleError → String
  | .run name source => "`" ++ name ++ "` failed: " ++ source.text
  | .mismatch name expected actual =>
    "`" ++ name ++ "` produced " ++ actual.toNat.repr ++ ", expected " ++ expected.toNat.repr

namespace Command

open Log

/-- A value with named fields, as it is shown when the command ends with an error. -/
def structureText (name : String) (fields : List (String × String)) : String :=
  name ++ " \x7b " ++ ", ".intercalate (fields.map fun (field, value) => field ++ ": " ++ value) ++
    " \x7d"

def overrunText : Overrun → String
  | .fetch location => structureText "Fetch" [("address", location.repr)]
  | .load location => structureText "Load" [("address", location.repr)]
  | .store location => structureText "Store" [("address", location.repr)]
  | .register id => structureText "Register" [("id", id.toNat.repr)]

def faultText : Fault → String
  | .outOfBounds overrun => "OutOfBounds(" ++ overrunText overrun ++ ")"
  | .unknownOpcode opcode pc =>
    structureText "UnknownOpcode" [("opcode", opcode.toNat.repr), ("pc", pc.repr)]
  | .budgetSpent budget => structureText "StepBudgetExhausted" [("budget", budget.repr)]

def quoted (name : String) : String := "\"" ++ name ++ "\""

/-- The last line that is printed where the command ends with an error. -/
def errorLine : SampleError → String
  | .run name source =>
    "Error: " ++ structureText "Run" [("name", quoted name), ("source", faultText source)]
  | .mismatch name expected actual =>
    "Error: " ++ structureText "Mismatch" [("name", quoted name),
      ("expected", expected.toNat.repr), ("actual", actual.toNat.repr)]

def memoryText (memory : Memory) : String :=
  "[" ++ ", ".intercalate (memory.cells.toList.map fun byte => byte.toNat.repr) ++ "]"

def resultRecord (sample : Sample) (memory : Memory) : Record :=
  ⟨commandTarget, .info, "ran sample",
    [("name", quoted sample.name), ("memory", memoryText memory),
     ("output", (Sample.output memory).toNat.repr)]⟩

/-- The result is logged before it is compared. -/
def runSample (sample : Sample) : List Record × Except SampleError Unit :=
  let outcome := (Machine.start sample.memory {}).run
  let reported := outcome.events.map Event.record
  match outcome.result with
  | .error fault => (reported, .error (.run sample.name fault))
  | .ok _ =>
    let memory := outcome.machine.memory
    let actual := Sample.output memory
    (reported ++ [resultRecord sample memory],
      if actual = sample.expected then .ok ()
      else .error (.mismatch sample.name sample.expected actual))

def runAll : List Sample → List Record × Except SampleError Unit
  | [] => ([], .ok ())
  | sample :: rest =>
    match runSample sample with
    | (records, .error error) => (records, .error error)
    | (records, .ok ()) => (records ++ (runAll rest).1, (runAll rest).2)

/-- The lines logged under a filter setting. -/
def lines (setting : Option String) : List String :=
  ((runAll Sample.all).1.filter (Filter.ofSetting setting).admits).map Record.line

/-- The exit code of the command, and what it prints after the log. -/
def ending : Except SampleError Unit → UInt32 × List String
  | .ok () => (0, [])
  | .error error => (1, [errorLine error])

theorem runSample_eq_ok_iff (sample : Sample) :
    (runSample sample).2 = .ok () ↔ ∃ final, Sample.finalMemory sample.memory = .ok final ∧
      Sample.output final = sample.expected := by
  cases hresult : (Machine.start sample.memory {}).run.result with
  | error fault => simp [runSample, Sample.finalMemory, hresult, Except.map]
  | ok status =>
    by_cases hexpected :
        Sample.output (Machine.start sample.memory {}).run.machine.memory = sample.expected <;>
      simp [runSample, Sample.finalMemory, hresult, hexpected, Except.map]

/-- The command succeeds exactly if every sample runs and ends with what is expected of it. -/
theorem ending_runAll_eq_zero_iff (samples : List Sample) :
    (ending (runAll samples).2).1 = 0 ↔ ∀ sample ∈ samples, ∃ final,
      Sample.finalMemory sample.memory = .ok final ∧ Sample.output final = sample.expected := by
  induction samples with
  | nil => simp [runAll, ending]
  | cons sample rest ih =>
    rw [List.forall_mem_cons, ← runSample_eq_ok_iff, ← ih, runAll]
    rcases hsample : runSample sample with ⟨records, error | _⟩ <;> simp [ending]

/-- All samples pass. -/
example : ending (runAll Sample.all).2 = (0, []) := by decide

end Command

end TaggedMachine
