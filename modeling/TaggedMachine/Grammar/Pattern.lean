import TaggedMachine.Grammar.Attribute
import TaggedMachine.Grammar.FieldName

/-!
Patterns: names, literals, ranges, structures, lists in brackets, references, and
alternatives between them.
-/
namespace TaggedMachine.Grammar.Pattern

open Reader

/-- Alternatives go on after a bar that is no part of a longer mark. -/
def isBar : List Token → Bool := Front.isMarkOnly "|" ["||", "|="]

def alternatives (nested : Nested) : Reader PatternShape := do
  let leading ← optionalMark "|"
  let first ← nested.pattern
  let more ← at? isBar
  repeated nested.steps do
    let found ← at? isBar
    if found then
      mark "|"
      let _ ← nested.pattern
    return found
  return if leading || more then .other else first

/-- Whether a path begins and not a name that is bound. -/
def beginsPath (tokens : List Token) : Bool :=
  let after := Front.next tokens
  Front.isName tokens &&
      (["::", "!", ".."].any (fun text => Front.isMark text after) ||
        Front.isGroup .brace after || Front.isGroup .parenthesis after) ||
    Front.isWord ["self"] tokens && Front.isMark "::" after || Front.isMark "::" tokens ||
    Front.isMark "<" tokens || Front.isWord ["Self", "super", "crate"] tokens

def isRangeEnd (tokens : List Token) : Bool :=
  tokens.isEmpty || Front.isColon tokens || Front.isWord ["if"] tokens ||
    ["|", "=", ",", ";"].any fun text => Front.isMark text tokens

def boundBeginnings : List String :=
  [literalText, identifierText, codeText "::", codeText "<", codeText "self", codeText "Self",
   codeText "super", codeText "crate", codeText "const"]

def rangeBound (nested : Nested) : Reader Unit := do
  let tokens ← rest
  if Front.isLiteral tokens then literal
  else if Path.begins tokens then
    let _ ← Path.inExpression nested
  else if Front.isWord ["const"] tokens then
    keyword "const"
    nested.bodyBlock
  else expected boundBeginnings

/-- The mark of a range, which three points stand for as well; tells whether the range needs
an end. -/
def rangeMark : Reader Bool := do
  if ← optionalMark "..=" then return true
  if ← atMark "..." then
    let _ ← aside (mark "...")
    write [.ofText "..="]
    return true
  mark ".."
  return false

def rangeRest (nested : Nested) : Reader Bool := do
  let closed ← rangeMark
  let found ← at? fun tokens => !isRangeEnd tokens
  if found then rangeBound nested
  else if closed then expected ["range upper bound"]
  return found

def afterBound (nested : Nested) : Reader PatternShape := do
  if ← atMark ".." then
    return if ← rangeRest nested then .other else .openRange
  return .other

/-- A range without a start, or the rest of a list. -/
def fromRange (nested : Nested) : Reader PatternShape := do
  return if ← rangeRest nested then .openRange else .rest

def list (nested : Nested) : Reader Unit :=
  commaSeparated nested.steps do
    let _ ← alternatives nested

/-- The elements of a list in brackets, among which an open range needs parentheses. -/
def elements (nested : Nested) : Reader Unit :=
  commaSeparated nested.steps do
    if (← alternatives nested) = .openRange then throw .openRangeInSlice

/-- A name that is bound, perhaps by reference and perhaps to what a pattern describes. -/
def binding (nested : Nested) : Reader Unit := do
  let _ ← optionalKeyword "ref"
  let _ ← optionalKeyword "mut"
  identifierOr ["self"]
  if ← optionalMark "@" then
    let _ ← nested.pattern

/-- A field of a structure: its name or number and a pattern, or a name that is bound. -/
def field (nested : Nested) : Reader Unit := do
  let boxed ← optionalKeyword "box"
  let shared ← optionalKeyword "ref"
  let changing ← optionalKeyword "mut"
  if boxed || shared || changing then identifier
  else
    let named ← FieldName.read
    if !named || (← atMark ":") then
      mark ":"
      let _ ← alternatives nested

def fields (nested : Nested) : Reader Unit :=
  repeated nested.steps do
    if ← atEnd then return false
    Attribute.outer nested
    if ← optionalMark ".." then return false
    field nested
    if ← atEnd then return false
    mark ","
    return true

def fromPath (nested : Nested) : Reader PatternShape := do
  let plain ← Path.inExpression nested
  if plain && (← Path.atMacroMark) then
    Path.macroCall
    return .other
  if ← atGroup .brace then within .brace (fields nested)
  else if ← atGroup .parenthesis then within .parenthesis (list nested)
  else return (← afterBound nested)
  return .other

def beginnings : List String :=
  [identifierText, codeText "::", codeText "<", codeText "_", literalText, codeText "const",
   codeText "ref", codeText "mut", codeText "&", "parentheses", "square brackets"]

def read (nested : Nested) : Reader PatternShape := do
  let tokens ← rest
  if beginsPath tokens then return (← fromPath nested)
  else if Front.isWord ["_"] tokens then anyWord
  else if Front.isWord ["box"] tokens then
    asWritten do
      keyword "box"
      let _ ← nested.pattern
    return .fixed
  else if Front.isMark "-" tokens || Front.isLiteral tokens || Front.isWord ["const"] tokens then
    rangeBound nested
    return (← afterBound nested)
  else if Front.isWord ["ref", "mut", "self"] tokens || Front.isName tokens then binding nested
  else if ← optionalMark "&" then
    let _ ← optionalKeyword "mut"
    let _ ← nested.pattern
  else if Front.isGroup .parenthesis tokens then within .parenthesis (list nested)
  else if Front.isGroup .bracket tokens then within .bracket (elements nested)
  else if Front.isMarkOnly ".." ["..."] tokens then return (← fromRange nested)
  else
    let points := if Front.isMark "..." tokens then [] else [codeText ".."]
    expected (beginnings ++ points ++ [codeText "const"])
  return .other

end TaggedMachine.Grammar.Pattern
