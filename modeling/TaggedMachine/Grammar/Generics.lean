import TaggedMachine.Grammar.Attribute

/-!
Generic parameters, binders of them, and the constraints on them in where clauses. A colon
without bounds after it is not written.
-/
namespace TaggedMachine.Grammar.Generics

open Reader

/-- Reads what may follow a colon and writes it with the colon, unless there is nothing. -/
def constrained (bounds : Reader Unit) : Reader Unit := do
  let (found, colon) ← aside (optionalMark ":")
  if found then
    let (_, pieces) ← aside bounds
    if !pieces.isEmpty then write (colon ++ pieces)

def lifetimeBounds (nested : Nested) (ended : Reader Bool) : Reader Unit :=
  summed nested.steps ended lifetime

def atListEnd : Reader Bool := do return (← atEnd) || (← Path.atArgumentEnd)

def atTypeEnd : Reader Bool := do return (← atListEnd) || (← atMark "=")

def lifetimeParameter (nested : Nested) : Reader Unit := do
  lifetime
  constrained (lifetimeBounds nested atListEnd)

def typeParameter (nested : Nested) : Reader Unit := do
  identifier
  constrained (nested.constraint atTypeEnd)
  if ← optionalMark "=" then nested.anyType

/-- A constant that stands for a parameter left out: a literal, a name or a block. -/
def constantDefault (nested : Nested) : Reader Unit := do
  let tokens ← rest
  if Front.isLiteral tokens then literal
  else if Front.isName tokens then identifier
  else if Front.isGroup .brace tokens then nested.bodyBlock
  else expected []

def constantParameter (nested : Nested) : Reader Unit := do
  keyword "const"
  identifier
  mark ":"
  nested.anyType
  if ← optionalMark "=" then constantDefault nested

def constText : String := codeText "const"

/-- A parameter of a binder. -/
def binderParameter (nested : Nested) : Reader Unit := do
  Attribute.outer nested
  let tokens ← rest
  if Front.isName tokens then typeParameter nested
  else if Front.isLifetime tokens then lifetimeParameter nested
  else if Front.isWord ["const"] tokens then constantParameter nested
  else expected [identifierText, lifetimeText, constText]

def binder (nested : Nested) : Reader Unit := do
  keyword "for"
  mark "<"
  separated nested.steps "," (atMark ">") (binderParameter nested)
  mark ">"

def optionalBinder (nested : Nested) : Reader Unit := do
  if ← atWord ["for"] then binder nested

/-- A parameter of a declaration; tells whether it is a lifetime. -/
def parameter (nested : Nested) : Reader Bool := do
  Attribute.outer nested
  let tokens ← rest
  if Front.isLifetime tokens then lifetimeParameter nested
  else if Front.isName tokens then typeParameter nested
  else if Front.isWord ["const"] tokens then constantParameter nested
  else if Front.isWord ["_"] tokens then anyWord
  else expected [lifetimeText, identifierText, constText]
  return Front.isLifetime tokens

/-- The parameters of a declaration, which are not written if there are none; tells
whether there were brackets for them. -/
def parameters (nested : Nested) : Reader Bool := do
  let found ← atMark "<"
  if found then
    let pieces ← Angled.contents nested (mark ",") (parameter nested)
    if !pieces.isEmpty then write (Angled.enclosed pieces)
  return found

def atConstraintEnd : Reader Bool :=
  at? fun tokens => tokens.isEmpty || Front.isGroup .brace tokens || Front.isColon tokens ||
    [",", ";", "="].any fun text => Front.isMark text tokens

def atLifetimeConstraintEnd : Reader Bool := do
  return (← atConstraintEnd) || (← atMark ":")

/-- A constraint on a lifetime or on a type. -/
def constraint (nested : Nested) : Reader Unit := do
  let tokens ← rest
  if Front.isLifetime tokens && Front.isMark ":" (Front.next tokens) then
    lifetime
    mark ":"
    lifetimeBounds nested atLifetimeConstraintEnd
  else
    optionalBinder nested
    nested.anyType
    mark ":"
    nested.constraint atConstraintEnd

def constraints (nested : Nested) : Reader Unit :=
  repeated nested.steps do
    if ← atConstraintEnd then return false
    constraint nested
    optionalMark ","

/-- A where clause, which is not written if it holds no constraint; tells whether there
was one. -/
def optionalWhere (nested : Nested) : Reader Bool := do
  let (found, word) ← aside (optionalKeyword "where")
  if found then
    if Front.beginsParameters (← rest) then throw .whereParameters
    let (_, pieces) ← aside (constraints nested)
    if !pieces.isEmpty then write (word ++ pieces)
  return found

end TaggedMachine.Grammar.Generics
