import TaggedMachine.Grammar.Reader
import TaggedMachine.Token.Integer
import TaggedMachine.Token.Number

/-!
Names of fields, which may be numbers. A number is an integer without a suffix, and is
written in base ten; the numbers of two fields with a point between them may look like a
fraction.
-/
namespace TaggedMachine.Grammar.FieldName

open Reader

/-- A number at the front of tokens. -/
structure Numeral where
  negative : Bool
  text : String
  rest : List Token

def numeral? : List Token → Option Numeral
  | .literal text :: rest => if Front.isNumber text then some ⟨false, text, rest⟩ else none
  | .mark '-' _ :: .literal text :: rest =>
    if Front.isNumber text then some ⟨true, text, rest⟩ else none
  | _ => none

def isInteger (text : String) : Bool := (Token.Integer.ofLiteral? text).isSome

/-- Numbers of fields fit into 32 bits. -/
def indexLimit : Nat := UInt32.size

def index (negative : Bool) (text : String) : Except IndexFault Nat :=
  match Token.Integer.ofLiteral? text with
  | none => .error .noInteger
  | some integer =>
    if !integer.suffix.isEmpty then .error .suffix
    else if negative then .error .negative
    else if integer.value < indexLimit then .ok integer.value
    else .error .tooLarge

def writeIndex (negative : Bool) (text : String) : Reader Unit := do
  match index negative text with
  | .ok number => write [.ofText number.repr]
  | .error fault => throw (.fieldIndex fault)

/-- Reads the name or the number of a field, and tells whether it is a name. -/
def read : Reader Bool := do
  if ← at? Front.isName then
    identifier
    return true
  match numeral? (← rest) with
  | some numeral =>
    if isInteger numeral.text then
      writeIndex numeral.negative numeral.text
      goTo numeral.rest
    else expected ["identifier or integer"]
  | none => expected ["identifier or integer"]
  return false

/-- A number that looks like a fraction. -/
def fraction? (tokens : List Token) : Option Numeral :=
  (numeral? tokens).filter fun numeral => !isInteger numeral.text

/-- A part of a fraction must be a number of its own. -/
def writePart (negative : Bool) (part : String) : Reader Unit :=
  if Token.Number.after? part.toList = some [] then writeIndex negative part
  else throw (.fieldIndex .noToken)

/-- The parts of a fraction with points between them; tells whether a point ends it. -/
def writeParts (negative : Bool) : List String → Reader Bool
  | [] => return false
  | [part] => do
    if part = "" then return true
    writePart negative part
    return false
  | part :: rest => do
    writePart negative part
    write [.ofText "."]
    writeParts false rest

/-- Reads the numbers of fields that look like a fraction, and tells whether a field still
follows: there was no fraction, or it ended in a point. -/
def fraction : Reader Bool := do
  match fraction? (← rest) with
  | some numeral =>
    goTo numeral.rest
    writeParts numeral.negative (numeral.text.splitOn ".")
  | none => return true

end TaggedMachine.Grammar.FieldName
