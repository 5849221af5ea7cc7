import TaggedMachine.Event
import TaggedMachine.Log.Level

/-!
Log records and their lines. A record belongs to a target, by which filters address it:
the machine reports under one target, the command that runs the samples under another.
-/
namespace TaggedMachine

namespace Log

structure Record where
  target : String
  level : Level
  message : String
  fields : List (String × String)
deriving DecidableEq

def machineTarget : String := "tern::vm"

def commandTarget : String := "tern_vm"

def Record.line (record : Record) : String :=
  " ".intercalate (record.level.text :: record.message ::
    record.fields.map fun (name, value) => name ++ "=" ++ value)

/-- The message is a field of every record. -/
def Record.fieldNames (record : Record) : List String := "message" :: record.fields.map Prod.fst

end Log

namespace Event

open Log

def level : Event → Level
  | .dispatched .. => .trace
  | .ignored .. => .debug
  | .halted .. => .debug

def message : Event → String
  | .dispatched .. => "dispatch"
  | .ignored .. => "ignoring unknown opcode"
  | .halted .. => "halted"

def fields : Event → List (String × String)
  | .dispatched pc instruction => [("pc", pc.repr), ("op", instruction.text)]
  | .ignored pc opcode => [("pc", pc.repr), ("opcode", opcode.toNat.repr)]
  | .halted pc steps => [("pc", pc.repr), ("steps", steps.repr)]

def record (event : Event) : Record :=
  ⟨machineTarget, event.level, event.message, event.fields⟩

end Event

end TaggedMachine
