import TaggedMachine.Grammar.Expression.Operand

/-!
Expressions: operands with operators between them, read up to operators that bind less
closely than a given one.
-/
namespace TaggedMachine.Grammar.Expression

open Reader

/-- What follows a conversion though it must not: it would belong to the type. -/
def castTrailer? (tokens : List Token) : Option CastTrailer :=
  let after := Front.next tokens
  let called := Front.next after
  if Front.isPoint tokens then
    if Front.isWord ["await"] after then some .await
    else if Front.isName after &&
        (Front.isGroup .parenthesis called || Front.isMark "::" called) then some .method
    else some .field
  else if Front.isMark "?" tokens then some .question
  else if Front.isGroup .bracket tokens then some .indexing
  else if Front.isGroup .parenthesis tokens then some .call
  else none

def conversion (nested : Nested) : Reader Unit := do
  keyword "as"
  nested.singleType
  match castTrailer? (← rest) with
  | some trailer => throw (.castThen trailer)
  | none => return

def right (nested : Nested) (braces : Bool) (precedence : Precedence) : Reader Unit := do
  let _ ← nested.expression ⟨braces, precedence.right⟩

def continuation (nested : Nested) (braces : Bool) (form : Form) :
    Continuation → Reader Form
  | .operation operator => do
    let compares := operator.precedence = .comparison
    if compares && form.kind = .comparison then throw .comparisonChain
    mark operator.text
    right nested braces operator.precedence
    return ⟨if compares then .comparison else .other, form.fixedStart⟩
  | .assignment => do
    mark "="
    right nested braces .assignment
    return ⟨.other, form.fixedStart⟩
  | .range => do
    Operand.rangeRest nested braces
    return .range
  | .conversion => do
    conversion nested
    return ⟨.other, form.fixedStart⟩

/-- Reads on after an operand. Nothing continues a range. -/
def continued (nested : Nested) (extent : Extent) (form : Form) : Nat → Reader Form
  | 0 => return form
  | steps + 1 => do
    if form.kind = .range then return form
    match continuationFrom? extent.least (← rest) with
    | some next =>
      let form ← continuation nested extent.braces form next
      continued nested extent form steps
    | none => return form

def read (nested : Nested) (extent : Extent) : Reader Form := do
  let form ← Operand.read nested extent.braces nested.steps
  continued nested extent form nested.steps

def standingStart (nested : Nested) : Reader Form := do
  if ← at? Control.begins then
    Control.read nested
    return .block
  else Operand.read nested true nested.steps

/-- An expression that may be a statement: a form with a block ends it, unless a field or
a question mark follows. -/
def standing (nested : Nested) : Reader Form := do
  let (_, attributes) ← aside (Attribute.outer nested)
  let (form, pieces) ← aside (standingStart nested)
  if !form.fixedStart then write attributes
  write pieces
  if form.kind ≠ .block then continued nested .whole form nested.steps
  else if ← at? fun tokens => Front.isPoint tokens || Front.isMark "?" tokens then
    continued nested .whole (← Operand.trailers nested form nested.steps) nested.steps
  else return form

end TaggedMachine.Grammar.Expression
