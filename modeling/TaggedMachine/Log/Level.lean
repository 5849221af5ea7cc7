/-!
Levels of log records, from the gravest to the most detailed. A limit is the most
detailed level that is still shown; without a limit nothing is.
-/
namespace TaggedMachine.Log

inductive Level
  | error | warn | info | debug | trace
deriving DecidableEq

namespace Level

def detail : Level → Nat
  | .error => 1
  | .warn => 2
  | .info => 3
  | .debug => 4
  | .trace => 5

def text : Level → String
  | .error => "ERROR"
  | .warn => "WARN"
  | .info => "INFO"
  | .debug => "DEBUG"
  | .trace => "TRACE"

def all : List Level := [.error, .warn, .info, .debug, .trace]

def shownUnder (level : Level) (limit : Option Level) : Bool :=
  match limit with
  | some limit => level.detail ≤ limit.detail
  | none => false

/-- The value of decimal digits, before which a plus sign may stand. -/
def number? (text : List Char) : Option Nat :=
  let digits := match text with
    | '+' :: digits => digits
    | digits => digits
  if digits ≠ [] && digits.all Char.isDigit then
    some (digits.foldl (fun value digit => value * 10 + (digit.toNat - '0'.toNat)) 0)
  else none

/-- A limit is written as its detail or as the word for a level, in any case; zero and
`off` show nothing. -/
def limit? (text : String) : Option (Option Level) :=
  match number? text.toList with
  | some 0 => some none
  | some detail => (all.find? (·.detail = detail)).map some
  | none =>
    let word := text.map Char.toUpper
    if word = "OFF" then some none else (all.find? (·.text = word)).map some

end Level

end TaggedMachine.Log
