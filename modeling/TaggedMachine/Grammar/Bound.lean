import TaggedMachine.Grammar.Generics

/-!
Bounds: lifetimes, captured parameters, and traits with the arguments and the result of a
call in parentheses. A bound that is constant stands as it is written. Readers of bounds
tell whether one of them names a trait.
-/
namespace TaggedMachine.Grammar.Bound

open Reader

/-- The result type of a function, to which no bounds may be added. -/
def result (nested : Nested) : Reader Unit := do
  if ← optionalMark "->" then nested.singleType

def callArguments (nested : Nested) : Reader Unit :=
  withinThen .parenthesis (commaSeparated nested.steps nested.anyType) (result nested)

def mayBeConstant (place : BoundPlace) : Bool := place ≠ .object

def constancy (place : BoundPlace) : Reader Bool := do
  let conditional ← atGroup .bracket
  if conditional then within .bracket (keyword "const")
  let found ← if conditional then pure true else optionalKeyword "const"
  if found && !mayBeConstant place then throw (.constElsewhere conditional)
  return found

/-- A path, and the arguments of a call in place of empty arguments of its last name. -/
def traitPath (nested : Nested) : Reader Unit := do
  let form ← Path.upToArguments nested false
  let called := (← atGroup .parenthesis) || (← atQualifiedGroup .parenthesis)
  if called && form.last.empty then
    let _ ← aside (optionalMark "::")
    callArguments nested
  else write form.last.pieces

/-- A trait, perhaps under a binder or relaxed by a question mark, but not both, and perhaps
constant, which it tells. -/
def trait (nested : Nested) (place : BoundPlace) : Reader Bool := do
  let (_, before) ← aside (Generics.optionalBinder nested)
  write before
  let constant ← constancy place
  let relaxed ← optionalMark "?"
  let (_, after) ← aside do
    if relaxed && before.isEmpty then Generics.optionalBinder nested
  traitPath nested
  if relaxed && !(before ++ after).isEmpty then throw .relaxedBinder
  return constant

def captured : Reader Bool := do
  let tokens ← rest
  if Front.isLifetime tokens then lifetime
  else if Front.isName tokens || Front.isWord ["Self"] tokens then anyWord
  else expected [lifetimeText, identifierText, codeText ">"]
  return Front.isLifetime tokens

def captureComma : Reader Unit := do
  if !(← optionalMark ",") then expected [codeText ",", codeText ">"]

def captures (nested : Nested) : Reader Unit := do
  keyword "use"
  let pieces ← Angled.contents nested captureComma captured
  write (Angled.enclosed pieces)

def read (nested : Nested) (place : BoundPlace) : Reader Bool := do
  if ← atLifetime then
    lifetime
    return false
  if ← atWord ["use"] then
    captures nested
    if place ≠ .anonymous then throw .captureElsewhere
    return false
  let _ ← writtenIf id do
    if ← atGroup .parenthesis then within .parenthesis (trait nested place)
    else trait nested place
  return true

/-- Whether a bound may begin, after a plus sign. -/
def begins (place : BoundPlace) (tokens : List Token) : Bool :=
  (Front.word? tokens).isSome || Front.isMark "::" tokens || Front.isMark "?" tokens ||
    Front.isLifetime tokens || Front.isGroup .parenthesis tokens ||
    mayBeConstant place && Front.isGroup .bracket tokens

def more (nested : Nested) (place : BoundPlace) : Nat → Reader Bool
  | 0 => return false
  | steps + 1 => do
    if ← optionalMark "+" then
      if ← at? (begins place) then
        let first ← nested.bound place
        let others ← more nested place steps
        return first || others
    return false

/-- Reads bounds, more than one only where they may be added, and tells whether one of them
names a trait. -/
def list (nested : Nested) (place : BoundPlace) (plus : Bool) : Reader Bool := do
  let first ← nested.bound place
  let others ← if plus then more nested place nested.steps else pure false
  return first || others

def objectBounds (nested : Nested) (plus : Bool) : Reader Unit := do
  if !(← list nested .object plus) then throw .traitOfObject

def anonymousBounds (nested : Nested) (plus : Bool) : Reader Unit := do
  if !(← list nested .anonymous plus) then throw .traitOfImpl

end TaggedMachine.Grammar.Bound
