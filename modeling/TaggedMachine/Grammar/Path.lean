import TaggedMachine.Grammar.Angled

/-!
Paths: names with double colons between them, each perhaps with generic arguments in angle
brackets, and paths that start from a type in angle brackets.
-/
namespace TaggedMachine.Grammar.Path

open Reader

/-- The generic arguments of a name: their pieces, and whether there are brackets and
arguments in them. -/
structure Arguments where
  pieces : List Piece
  bracketed : Bool
  empty : Bool

def noArguments : Arguments := ⟨[], false, true⟩

/-- What matters of a path: whether it is a single name, whether no name in it has
arguments in brackets, and the arguments of the last one. -/
structure Form where
  single : Bool
  plain : Bool
  last : Arguments

def constant (nested : Nested) : Reader Unit := do
  if ← atLiteral then literal else nested.bodyBlock

def atConstant : Reader Bool :=
  at? fun tokens => Front.isLiteral tokens || Front.isGroup .brace tokens

/-- A lifetime to which bounds are added is a type. -/
def atLifetimeArgument : Reader Bool :=
  at? fun tokens => Front.isLifetime tokens && !Front.isMark "+" (Front.next tokens)

def atArgumentEnd : Reader Bool :=
  at? fun tokens => Front.isMark "," tokens || Front.isMark ">" tokens

/-- A generic argument: a lifetime, a constant or a type. A single name may be set equal to
a constant or a type, or be bounded. Tells whether it is a lifetime. -/
def argument (nested : Nested) : Reader Bool := do
  if ← atLifetimeArgument then
    lifetime
    return true
  if ← atConstant then constant nested
  else match ← nested.type true with
    | .name =>
      if ← optionalMark "=" then
        if ← atConstant then constant nested else nested.anyType
      else if ← optionalMark ":" then nested.constraint atArgumentEnd
    | _ => pure ()
  return false

def arguments (nested : Nested) : Reader Arguments := do
  let (_, colons) ← aside (optionalMark "::")
  let pieces ← Angled.contents nested (mark ",") (argument nested)
  return ⟨colons ++ Angled.enclosed pieces, true, pieces.isEmpty⟩

/-- In a type the arguments of a name may follow it at once, in an expression only after a
double colon. -/
def isArguments (inExpression : Bool) (tokens : List Token) : Bool :=
  !inExpression && Front.isMarkOnly "<" ["<=", "<<="] tokens ||
    (Front.afterMarks? [':', ':'] tokens).any (Front.isMark "<")

/-- The keywords that are a whole name in a path. -/
def soleKeywords : List String := ["super", "self", "crate", "try"]

def segment (nested : Nested) (inExpression : Bool) : Reader Arguments := do
  if ← atWord soleKeywords then
    anyWord
    return noArguments
  identifierOr ["Self"]
  if ← at? (isArguments inExpression) then arguments nested else return noArguments

/-- The names of a path, of which at least one must be there. A double colon before
parentheses does not belong to it. The arguments of the last name are not written. -/
def segments (nested : Nested) (inExpression : Bool) : Nat → Reader Form
  | 0 => expected [identifierText]
  | steps + 1 => do
    let arguments ← segment nested inExpression
    if (← atMark "::") && !(← atQualifiedGroup .parenthesis) then
      write arguments.pieces
      mark "::"
      let form ← segments nested inExpression steps
      return ⟨false, !arguments.bracketed && form.plain, form.last⟩
    else return ⟨true, !arguments.bracketed, arguments⟩

/-- Reads a path but for the arguments of its last name. -/
def upToArguments (nested : Nested) (inExpression : Bool) : Reader Form := do
  let absolute ← optionalMark "::"
  let form ← segments nested inExpression nested.steps
  return { form with single := !absolute && form.single }

def path (nested : Nested) (inExpression : Bool) : Reader Form := do
  let form ← upToArguments nested inExpression
  write form.last.pieces
  return form

def qualified (nested : Nested) (inExpression : Bool) : Reader Unit := do
  mark "<"
  nested.anyType
  if ← optionalKeyword "as" then
    let _ ← path nested false
  mark ">"
  mark "::"
  repeated nested.steps do
    write (← segment nested inExpression).pieces
    optionalMark "::"

def isQualified : List Token → Bool := Front.isMark "<"

def atQualified : Reader Bool := at? isQualified

def begins (tokens : List Token) : Bool :=
  Front.isName tokens || Front.isWord placeKeywords tokens || Front.isMark "::" tokens ||
    isQualified tokens

/-- Reads a path in an expression, and tells whether it could be the name of a macro. -/
def inExpression (nested : Nested) : Reader Bool := do
  if ← atQualified then
    qualified nested true
    return false
  return (← path nested true).plain

def isPlainSegment (tokens : List Token) : Bool :=
  Front.isName tokens || Front.isWord placeKeywords tokens

def plainSegments : Nat → Reader Unit
  | 0 => expected [identifierText]
  | steps + 1 => do
    anyWord
    if ← optionalMark "::" then
      if ← at? isPlainSegment then plainSegments steps
      else expected ["path segment after " ++ codeText "::"]

def plain (nested : Nested) : Reader Unit := do
  let _ ← optionalMark "::"
  if ← at? isPlainSegment then plainSegments nested.steps else identifier

def afterPlainSegments? : List Token → Option (List Token)
  | .word text :: .mark ':' true :: .mark ':' _ :: rest =>
    if isPlainSegment [.word text] then afterPlainSegments? rest else none
  | .word text :: rest => if isPlainSegment [.word text] then some rest else none
  | _ => none

/-- The tokens after a path without arguments. -/
def afterPlain? (tokens : List Token) : Option (List Token) :=
  afterPlainSegments? ((Front.afterMarks? [':', ':'] tokens).getD tokens)

def atMacroMark : Reader Bool := at? (Front.isMarkOnly "!" ["!="])

def macroCall : Reader Unit := do
  mark "!"
  verbatimGroup

end TaggedMachine.Grammar.Path
