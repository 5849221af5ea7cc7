import TaggedMachine.Grammar.Declaration.Constant
import TaggedMachine.Grammar.Declaration.Signature
import TaggedMachine.Grammar.Declaration.Visibility

/-!
Declarations in traits, implementations and foreign modules. Each may be a function, a
constant or variable, a type, or the call of a macro; one with parts that have no place
there stands as it is written.
-/
namespace TaggedMachine.Grammar.Declaration.Members

open Reader

def macroWords : List String := ["self", "super", "crate"]

def macroBeginnings : List String :=
  identifierText :: macroWords.map codeText ++ [codeText "::"]

def beginsMacro (tokens : List Token) : Bool :=
  Front.isName tokens || Front.isWord macroWords tokens || Front.isMark "::" tokens

def macroCall (nested : Nested) : Reader Unit := do
  Path.plain nested
  mark "!"
  let braced ← atGroup .brace
  verbatimGroup
  if !braced then mark ";"

/-- Which function may have a body and which a semicolon in its place. -/
def functionEnd (nested : Nested) : Reader Bool := do
  let bodiless ← optionalMark ";"
  if !bodiless then nested.bodyBlock
  return bodiless

def traitFunction (nested : Nested) : Reader Unit := do
  let _ ← Signature.read nested false
  if ← atGroup .brace then nested.bodyBlock
  else if ← atMark ";" then mark ";"
  else expected [delimiterDescription .brace, codeText ";"]

def functionWords : List String := ["async", "unsafe", "extern", "fn"]

def traitConstant (nested : Nested) : Reader Bool := do
  let after := Front.next (← rest)
  if Front.isName after || Front.isWord ["_"] after then
    keyword "const"
    return (← Constant.constant nested).generic
  else if Front.isWord functionWords after then
    traitFunction nested
    return false
  else
    keyword "const"
    expected ([identifierText, codeText "_"] ++ functionWords.map codeText)

/-- Reads a declaration in a trait after its attributes. A visibility or a default has no
place there. -/
def traitMember (nested : Nested) : Reader Bool := do
  let visible ← Visibility.read nested
  let preset ← optionalKeyword "default"
  let extra := visible || preset
  let tokens ← rest
  if Signature.begins false tokens then
    traitFunction nested
    return extra
  else if Front.isWord ["const"] tokens then
    let fixed ← traitConstant nested
    return extra || fixed
  else if Front.isWord ["type"] tokens then
    let _ ← Constant.typeAlias nested .after
    return extra
  else if !extra && beginsMacro tokens then
    macroCall nested
    return false
  else
    expected (["fn", "const", "type"].map codeText ++ if extra then [] else macroBeginnings)

def implementationMember (nested : Nested) : Reader Bool := do
  let visible ← Visibility.read nested
  let preset ← at? fun tokens =>
    Front.isWord ["default"] tokens && !Front.isMark "!" (Front.next tokens)
  if preset then keyword "default"
  let extra := visible || preset
  let tokens ← rest
  if Signature.begins false tokens then
    let _ ← Signature.read nested false
    functionEnd nested
  else if Front.isWord ["const"] tokens then
    keyword "const"
    let parts ← Constant.constant nested
    return parts.generic || !parts.value
  else if Front.isWord ["type"] tokens then
    let parts ← Constant.typeAlias nested .after
    return parts.colon || !parts.definition
  else if !extra && beginsMacro tokens then
    macroCall nested
    return false
  else
    let presetText := if preset || Front.isWord ["default"] tokens then [] else ["default"]
    expected ((presetText ++ ["fn", "const", "type"]).map codeText ++
      if extra then [] else macroBeginnings)

/-- A static variable of a foreign module; tells whether it has a value or says whether it
is safe, which has no place there. -/
def foreignVariable (nested : Nested) : Reader Bool := do
  let restricted ← optionalKeyword "unsafe"
  let safe := !restricted && (← atWord ["safe"])
  if safe then anyWord
  keyword "static"
  let _ ← optionalKeyword "mut"
  identifier
  mark ":"
  nested.anyType
  let value ← optionalMark "="
  if value then nested.anyExpression
  mark ";"
  return restricted || safe || value

def isForeignVariable (tokens : List Token) : Bool :=
  Front.isWord ["static"] tokens ||
    Front.isWord ["unsafe", "safe"] tokens && Front.isWord ["static"] (Front.next tokens)

def foreignFunction (nested : Nested) : Reader Bool := do
  let safe ← Signature.read nested true
  let embodied ← atGroup .brace
  if embodied then nested.bodyBlock else mark ";"
  return safe || embodied

def foreignMember (nested : Nested) : Reader Bool := do
  let visible ← Visibility.read nested
  let tokens ← rest
  if Signature.begins true tokens then foreignFunction nested
  else if isForeignVariable tokens then foreignVariable nested
  else if Front.isWord ["type"] tokens then
    let parts ← Constant.typeAlias nested .either
    return parts.colon || parts.definition
  else if !visible && beginsMacro tokens then
    macroCall nested
    return false
  else
    expected (["fn", "static", "type"].map codeText ++ if visible then [] else macroBeginnings)

/-- Members in braces, perhaps after attributes of what holds them. -/
def inBraces (nested : Nested) (member : Reader Bool) : Reader Unit :=
  within .brace do
    Attribute.inner nested
    repeated nested.steps do
      if ← atEnd then return false
      let _ ← writtenIf id do
        Attribute.outer nested
        member
      return true

end TaggedMachine.Grammar.Declaration.Members
