import TaggedMachine.Grammar.Builtin
import TaggedMachine.Grammar.Expression.Control
import TaggedMachine.Grammar.Generics

/-!
Operands: the parts of an expression between its operators, with the marks before them and
the calls, fields and indices after them.
-/
namespace TaggedMachine.Grammar.Expression.Operand

open Reader

def expressionText : String := "an expression"

def fieldValue (nested : Nested) : Reader Unit := do
  Attribute.outer nested
  let named ← FieldName.read
  if !named || (← atMark ":") then
    mark ":"
    nested.anyExpression

def fieldValues (nested : Nested) : Reader Unit :=
  repeated nested.steps do
    if ← atEnd then return false
    if ← optionalMark ".." then
      if !(← atEnd) then nested.anyExpression
      return false
    fieldValue nested
    if ← atEnd then return false
    mark ","
    return true

def named (nested : Nested) (braces : Bool) : Reader Form := do
  let plain ← Path.inExpression nested
  if plain && (← Path.atMacroMark) then
    mark "!"
    let form : Form := ⟨if ← atGroup .brace then .macroBlock else .other, false⟩
    verbatimGroup
    return form
  if braces && (← atGroup .brace) then within .brace (fieldValues nested)
  return .other

def array (nested : Nested) : Reader Unit := do
  if ← atEnd then return
  nested.anyExpression
  if ← atEnd then return
  if ← optionalMark ";" then nested.anyExpression
  else if ← optionalMark "," then commaSeparated nested.steps nested.anyExpression
  else expected [codeText ",", codeText ";"]

def isDeferredBlock (tokens : List Token) : Bool :=
  Front.isWord ["async"] tokens &&
    Front.isGroup .brace (Front.past "move" (Front.next tokens))

def deferredBlock (nested : Nested) : Reader Unit := do
  keyword "async"
  let _ ← optionalKeyword "move"
  nested.block

def isClosure (tokens : List Token) : Bool :=
  let after := Front.next tokens
  Front.isMark "|" tokens || Front.isWord ["move", "static"] tokens ||
    Front.beginsBinder tokens ||
    Front.isWord ["const"] tokens && !Front.isGroup .brace after ||
    Front.isWord ["async"] tokens && (Front.isMark "|" after || Front.isWord ["move"] after)

/-- A parameter of a closure. A pattern that stands as it is written takes no attributes,
unless it has a type. -/
def closureParameter (nested : Nested) : Reader Unit := do
  let (_, attributes) ← aside (Attribute.outer nested)
  let (shape, pieces) ← aside nested.pattern
  let typed ← atMark ":"
  if typed || shape ≠ .fixed then write attributes
  write pieces
  if typed then
    mark ":"
    nested.anyType

def closure (nested : Nested) (braces : Bool) : Reader Unit := do
  Generics.optionalBinder nested
  let _ ← optionalKeyword "const"
  let _ ← optionalKeyword "static"
  let _ ← optionalKeyword "async"
  let _ ← optionalKeyword "move"
  mark "|"
  separated nested.steps "," (atMark "|") (closureParameter nested)
  mark "|"
  if ← optionalMark "->" then
    nested.anyType
    nested.block
  else
    let _ ← nested.expression { Extent.whole with braces }

def optionalExpression (nested : Nested) : Reader Unit := do
  if ← at? Front.beginsExpression then nested.anyExpression

/-- Leaves a loop or a labelled block, perhaps with a value, which may not be a labelled
form itself. -/
def leaving (nested : Nested) (braces : Bool) : Reader Unit := do
  keyword "break"
  if ← at? fun tokens => Front.isLifetime tokens && Front.isMark ":" (Front.next tokens) then
    nested.anyExpression
    throw .labelledBreak
  if ← atLifetime then lifetime
  if braces || !(← atGroup .brace) then optionalExpression nested

def matching (nested : Nested) (braces : Bool) : Reader Unit := do
  keyword "let"
  let _ ← Pattern.alternatives nested
  mark "="
  let _ ← nested.expression ⟨braces, .comparison⟩

def rangeMark : Reader Bool := do
  let closed ← optionalMark "..="
  if !closed then
    if ← atMark "..." then expected [codeText "..="]
    mark ".."
  return closed

def rangeRest (nested : Nested) (braces : Bool) : Reader Unit := do
  let closed ← rangeMark
  if closed || !(← at? (isOpenRange braces)) then
    let _ ← nested.expression ⟨braces, Precedence.range.right⟩

def becoming (nested : Nested) : Reader Unit :=
  asWritten do
    keyword "become"
    nested.anyExpression

/-- Whether a path begins, which a word for blocks may start. -/
def isNamed (tokens : List Token) : Bool :=
  Path.begins tokens ||
    Front.isWord ["try"] tokens &&
      (Front.isMark "!" (Front.next tokens) || Front.isMark "::" (Front.next tokens))

def keywordForm (nested : Nested) (braces : Bool) : Reader Form := do
  let tokens ← rest
  if Front.isWord ["break"] tokens then leaving nested braces
  else if ← optionalKeyword "continue" then
    if ← atLifetime then lifetime
  else if Front.isWord ["return", "yield"] tokens then
    anyWord
    optionalExpression nested
  else if Front.isWord ["become"] tokens then
    becoming nested
    return .fixed
  else if Front.isWord ["let"] tokens then matching nested braces
  else if Front.isWord ["_"] tokens then anyWord
  else expected [expressionText]
  return .other

def atom (nested : Nested) (braces : Bool) : Reader Form := do
  let tokens ← rest
  if Front.isLiteral tokens then literal
  else if isDeferredBlock tokens then deferredBlock nested
  else if isClosure tokens then closure nested braces
  else if Builtin.begins tokens then
    Builtin.read
    return .fixed
  else if isNamed tokens then return (← named nested braces)
  else if Front.isGroup .parenthesis tokens then nested.expressionsIn .parenthesis
  else if Front.isGroup .bracket tokens then within .bracket (array nested)
  else if Control.begins tokens then
    Control.read nested
    return .block
  else if Front.isMark ".." tokens then
    rangeRest nested braces
    return .range
  else return (← keywordForm nested braces)
  return .other

/-- What follows the point after an operand: fields, or a method with its arguments. -/
def access (nested : Nested) : Reader Unit := do
  if ← FieldName.fraction then
    if ← optionalKeyword "await" then return
    let named ← FieldName.read
    let generic := named && (← atMark "::")
    if generic then write (← Path.arguments nested).pieces
    if generic || named && (← atGroup .parenthesis) then nested.expressionsIn .parenthesis

/-- Calls, fields, indices and question marks after an operand. Only calls and indices may
follow a range. -/
def trailers (nested : Nested) (form : Form) : Nat → Reader Form
  | 0 => return form
  | steps + 1 => do
    let tokens ← rest
    let ranged := form.kind = .range
    if Front.isGroup .parenthesis tokens then
      nested.expressionsIn .parenthesis
      trailers nested .other steps
    else if !ranged && Front.isPoint tokens then
      mark "."
      access nested
      trailers nested .other steps
    else if Front.isGroup .bracket tokens then
      within .bracket nested.anyExpression
      trailers nested .other steps
    else if !ranged && Front.isMark "?" tokens then
      mark "?"
      trailers nested .other steps
    else return form

def borrow : Reader Unit := do
  mark "&"
  let tokens ← rest
  let raw :=
    Front.isWord ["raw"] tokens && Front.isWord ["mut", "const"] (Front.next tokens)
  if raw then keyword "raw"
  if !(← optionalKeyword "mut") && raw then keyword "const"

def optionalSign : Reader Bool := do
  let tokens ← rest
  if Front.isMark "&" tokens then
    borrow
    return true
  if ← optionalMark "*" then return true
  if ← optionalMark "!" then return true
  optionalMark "-"

/-- An operand under its attributes and marks. A range without a start takes no attributes,
and a form that stands as it is written takes them as they are. -/
def read (nested : Nested) (braces : Bool) : Nat → Reader Form
  | 0 => expected [expressionText]
  | steps + 1 =>
    writtenIf Form.fixedStart do
      let (_, attributes) ← aside (Attribute.outer nested)
      write attributes
      if ← optionalSign then
        let _ ← read nested braces steps
        return .other
      let form ← trailers nested (← atom nested braces) nested.steps
      if form.kind = .range && !attributes.isEmpty then throw .attributeOfRange
      return form

end TaggedMachine.Grammar.Expression.Operand
