import TaggedMachine.Grammar.Pattern

/-!
Expressions that hold blocks and may stand as statements of their own: conditions, loops,
selections, and blocks, some of them under a label.
-/
namespace TaggedMachine.Grammar.Expression.Control

open Reader

/-- An expression before a block. -/
def head (nested : Nested) : Reader Unit := do
  let _ ← nested.expression .beforeBlock

/-- A condition and its block, and what is done otherwise, which may depend on another
condition. -/
def conditional (nested : Nested) : Nat → Reader Unit
  | 0 => expected [codeText "if"]
  | steps + 1 => do
    keyword "if"
    head nested
    nested.block
    if ← optionalKeyword "else" then
      if ← atWord ["if"] then conditional nested steps
      else if ← atGroup .brace then nested.block
      else expected [codeText "if", delimiterDescription .brace]

def whileLoop (nested : Nested) : Reader Unit := do
  keyword "while"
  head nested
  nested.bodyBlock

def forLoop (nested : Nested) : Reader Unit := do
  keyword "for"
  let _ ← Pattern.alternatives nested
  keyword "in"
  head nested
  nested.bodyBlock

def endlessLoop (nested : Nested) : Reader Unit := do
  keyword "loop"
  nested.bodyBlock

/-- An arm: a pattern, perhaps a condition, and an expression, after which a comma may be
missing only if it is a block or the arm is the last. -/
def arm (nested : Nested) : Reader Unit := do
  Attribute.outer nested
  let _ ← Pattern.alternatives nested
  if ← optionalKeyword "if" then nested.anyExpression
  mark "=>"
  let form ← nested.standing
  if form.endsArm || (← atEnd) then
    let _ ← optionalMark ","
  else mark ","

def arms (nested : Nested) : Reader Unit :=
  repeated nested.steps do
    let found := !(← atEnd)
    if found then arm nested
    return found

def selection (nested : Nested) : Reader Unit := do
  keyword "match"
  head nested
  within .brace do
    Attribute.inner nested
    arms nested

/-- A loop or a block under a label. -/
def labelled (nested : Nested) : Reader Unit := do
  lifetime
  mark ":"
  let tokens ← rest
  if Front.isWord ["while"] tokens then whileLoop nested
  else if Front.isWord ["for"] tokens then forLoop nested
  else if Front.isWord ["loop"] tokens then endlessLoop nested
  else if Front.isGroup .brace tokens then nested.bodyBlock
  else expected ["loop or block expression"]

/-- Whether one of these expressions begins. -/
def begins (tokens : List Token) : Bool :=
  Front.isWord ["if", "while", "loop", "match", "unsafe"] tokens ||
    Front.isWord ["for"] tokens && !Front.beginsBinder tokens ||
    Front.isWord ["try", "const"] tokens && Front.isGroup .brace (Front.next tokens) ||
    Front.isGroup .brace tokens || Front.isLifetime tokens

def read (nested : Nested) : Reader Unit := do
  let tokens ← rest
  if Front.isWord ["if"] tokens then conditional nested nested.steps
  else if Front.isWord ["while"] tokens then whileLoop nested
  else if Front.isWord ["for"] tokens then forLoop nested
  else if Front.isWord ["loop"] tokens then endlessLoop nested
  else if Front.isWord ["match"] tokens then selection nested
  else if ← optionalKeyword "try" then nested.block
  else if Front.isWord ["unsafe", "const"] tokens then
    anyWord
    nested.bodyBlock
  else if Front.isLifetime tokens then labelled nested
  else nested.bodyBlock

end TaggedMachine.Grammar.Expression.Control
