import TaggedMachine.Grammar.Path

/-!
Attributes: a hash and brackets, in which a path stands alone, before brackets of any kind,
or before an equals sign and a value. With an exclamation mark after the hash an attribute
belongs to what holds it.
-/
namespace TaggedMachine.Grammar.Attribute

open Reader

/-- The value of an attribute: a literal alone, or an expression that does not begin with
an attribute. -/
def value (nested : Nested) : Reader Unit := do
  let tokens ← rest
  if (Front.literal? tokens).any (·.2.isEmpty) then literal
  else if Front.isMark "#" tokens && Front.isGroup .bracket (Front.next tokens) then
    throw .attributeValue
  else nested.anyExpression

def content (nested : Nested) : Reader Unit := do
  if !(← optionalKeyword "unsafe") then Path.plain nested
  let tokens ← rest
  if [.parenthesis, .bracket, .brace].any fun delimiter => Front.isGroup delimiter tokens then
    verbatimGroup
  else if Front.isMarkOnly "=" ["==", "=>"] tokens then
    mark "="
    value nested

def outer (nested : Nested) : Reader Unit :=
  repeated nested.steps do
    let found ← optionalMark "#"
    if found then within .bracket (content nested)
    return found

def inner (nested : Nested) : Reader Unit :=
  repeated nested.steps do
    let tokens ← rest
    let found := Front.isMark "#" tokens && Front.isMark "!" (Front.next tokens)
    if found then
      mark "#"
      mark "!"
      within .bracket (content nested)
    return found

end TaggedMachine.Grammar.Attribute
