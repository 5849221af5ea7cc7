import TaggedMachine.Grammar.TypeForm
import TaggedMachine.Grammar.Pattern

/-!
Signatures of functions: the words before the name, generic parameters, parameters, result
and constraints. Reading one tells whether it says that it is safe.
-/
namespace TaggedMachine.Grammar.Declaration.Signature

open Reader

/-- Whether a signature begins. Where it `mayBeSafe`, a word may say so. -/
def begins (mayBeSafe : Bool) (tokens : List Token) : Bool :=
  let tokens := Front.past "async" (Front.past "const" tokens)
  let tokens :=
    if mayBeSafe && Front.isWord ["safe"] tokens then tokens.tail else Front.past "unsafe" tokens
  let tokens :=
    if Front.isWord ["extern"] tokens then
      if Front.isStringLiteral tokens.tail then tokens.tail.tail else tokens.tail
    else tokens
  Front.isWord ["fn"] tokens

inductive Parameter
  | receiver | typed | variadic
deriving DecidableEq

def receiver (nested : Nested) : Reader Unit := do
  let referenced ← optionalMark "&"
  if referenced && (← atLifetime) then lifetime
  let _ ← optionalKeyword "mut"
  keyword "self"
  if !referenced then
    if ← optionalMark ":" then nested.anyType

/-- A parameter with a pattern and a type. A type with arguments may stand alone, and then
takes any value. -/
def typed (nested : Nested) : Reader Parameter := do
  if ← at? fun tokens => Front.isName tokens && Front.isMark "<" (Front.next tokens) then
    write [.ofText "_", .ofText ":"]
    nested.anyType
    return .typed
  let _ ← nested.pattern
  mark ":"
  if ← optionalMark "..." then return .variadic
  nested.anyType
  return .typed

/-- What reads as a receiver to its end is one, and anything else has a pattern. -/
def parameter (nested : Nested) : Reader Parameter := do
  Attribute.outer nested
  if ← optionalMark "..." then return .variadic
  else if ← attempted (receiver nested) then return .receiver
  else typed nested

/-- The parameters up to the end of the tokens. A receiver comes first, and what stands for
any number of parameters last. -/
def parameters (nested : Nested) (first received : Bool) : Nat → Reader Unit
  | 0 => return
  | steps + 1 => do
    if ← atEnd then return
    let found ← parameter nested
    if found = .receiver && !first then
      throw (if received then .secondReceiver else .receiverAfterOthers)
    if ← atEnd then return
    mark ","
    if found = .variadic then return
    parameters nested false (found = .receiver || received) steps

def result (nested : Nested) : Reader Unit := do
  if ← optionalMark "->" then nested.anyType

def read (nested : Nested) (mayBeSafe : Bool) : Reader Bool := do
  let _ ← optionalKeyword "const"
  let _ ← optionalKeyword "async"
  let restricted ← optionalKeyword "unsafe"
  let safe := mayBeSafe && !restricted && (← atWord ["safe"])
  if safe then anyWord
  TypeForm.convention
  keyword "fn"
  identifier
  let _ ← Generics.parameters nested
  withinThen .parenthesis (parameters nested true false nested.steps) do
    result nested
    let _ ← Generics.optionalWhere nested
  return safe

end TaggedMachine.Grammar.Declaration.Signature
