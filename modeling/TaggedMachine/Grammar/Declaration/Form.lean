import TaggedMachine.Grammar.Declaration.Fields
import TaggedMachine.Grammar.Declaration.Import
import TaggedMachine.Grammar.Declaration.Trait

/-!
The forms of declarations, told apart by how they begin after their attributes and their
visibility. A reader that gives a boolean tells whether the declaration stands as it is written.
-/
namespace TaggedMachine.Grammar.Declaration.Form

open Reader

def function (nested : Nested) : Reader Bool := do
  let _ ← Signature.read nested false
  Members.functionEnd nested

def foreignLibrary : Reader Unit := do
  keyword "extern"
  keyword "crate"
  identifierOr ["self"]
  if ← optionalKeyword "as" then identifierOr ["_"]
  mark ";"

def foreignModule (nested : Nested) (visible : Bool) : Reader Unit := do
  if visible then throw (.oneOf [codeText "extern"] false)
  let _ ← optionalKeyword "unsafe"
  TypeForm.convention
  Members.inBraces nested (Members.foreignMember nested)

/-- What begins with the keyword for what is foreign, if it is no function. -/
def foreign (nested : Nested) (visible : Bool) : Reader Unit := do
  let after := Front.next (← rest)
  if Front.isWord ["crate"] after then foreignLibrary
  else if Front.isGroup .brace after then foreignModule nested visible
  else if Front.isStringLiteral after then
    if Front.isGroup .brace (Front.next after) then foreignModule nested visible
    else
      goTo (Front.next after)
      expected [delimiterDescription .brace]
  else
    goTo after
    expected [codeText "crate", delimiterDescription .brace, "string literal"]

def importing (nested : Nested) : Reader Bool := do
  keyword "use"
  let rooted ← optionalMark "::"
  let fixed ← nested.imported (!rooted)
  mark ";"
  return fixed

def module (nested : Nested) : Reader Unit := do
  let _ ← optionalKeyword "unsafe"
  keyword "mod"
  identifierOr ["try"]
  if ← atMark ";" then mark ";"
  else if ← atGroup .brace then Members.inBraces nested nested.declaration
  else expected [codeText ";", delimiterDescription .brace]

def macroDefinition : Reader Unit := do
  keyword "macro"
  identifier
  let parameters ← atGroup .parenthesis
  if parameters then verbatimGroup
  if ← atGroup .brace then verbatimGroup
  else
    let parameterText := if parameters then [] else [delimiterDescription .parenthesis]
    expected (parameterText ++ [delimiterDescription .brace])

def macroCall (nested : Nested) : Reader Unit := do
  Path.plain nested
  mark "!"
  if ← at? fun tokens => Front.isName tokens || Front.isWord ["try"] tokens then anyWord
  let braced ← atGroup .brace
  verbatimGroup
  if !braced then mark ";"

/-- A type alias; with bounds or without a definition it stands as it is written. -/
def typeAlias (nested : Nested) : Reader Bool := do
  let parts ← Constant.typeAlias nested .before
  return parts.colon || !parts.definition

def constant (nested : Nested) : Reader Bool := do
  keyword "const"
  let parts ← Constant.constant nested
  return parts.generic || !parts.value

def isAutoTrait (tokens : List Token) : Bool :=
  Front.isWord ["auto"] tokens && Front.isWord ["trait"] (Front.next tokens)

/-- The beginnings of declarations that are no beginning here, where a word is one only
before certain others. -/
def beginnings (words : List String) (tokens : List Token) : List String :=
  (words.filter fun word => !Front.isWord [word] tokens).map codeText

def marked (nested : Nested) (visible : Bool) : Reader Bool := do
  let after := Front.next (← rest)
  if Front.isWord ["trait"] after || isAutoTrait after then
    Trait.markedTrait nested
    return false
  else if Front.isWord ["impl"] after then
    let fixed ← Trait.implementation nested
    return visible || fixed
  else if Front.isWord ["extern"] after then
    foreignModule nested visible
    return false
  else if Front.isWord ["mod"] after then
    module nested
    return false
  else
    goTo after
    expected (beginnings ["trait", "auto", "impl", "extern", "mod"] after)

def words : List String :=
  ["fn", "extern", "use", "static", "const", "unsafe", "mod", "type", "struct", "enum", "union",
   "trait", "auto", "impl", "default", "macro"]

def isImplementation (tokens : List Token) : Bool :=
  Front.isWord ["impl"] tokens ||
    Front.isWord ["default"] tokens && !Front.isMark "!" (Front.next tokens)

/-- Reads a declaration after its attributes, and tells whether it stands as it is
written. -/
def read (nested : Nested) : Reader Bool := do
  let visible ← Visibility.read nested
  let tokens ← rest
  if Signature.begins false tokens then return (← function nested)
  else if Front.isWord ["extern"] tokens then foreign nested visible
  else if Front.isWord ["use"] tokens then return (← importing nested)
  else if Front.isWord ["static"] tokens then return (← Constant.staticVariable nested)
  else if Front.isWord ["const"] tokens then return (← constant nested)
  else if Front.isWord ["unsafe"] tokens then return (← marked nested visible)
  else if Front.isWord ["mod"] tokens then module nested
  else if Front.isWord ["type"] tokens then return (← typeAlias nested)
  else if Front.isWord ["struct"] tokens then Fields.record nested
  else if Front.isWord ["enum"] tokens then Fields.enumeration nested
  else if Front.isWord ["union"] tokens && Front.isName (Front.next tokens) then
    Fields.union nested
  else if Front.isWord ["trait"] tokens then Trait.traitOrAlias nested
  else if isAutoTrait tokens then Trait.markedTrait nested
  else if isImplementation tokens then
    let fixed ← Trait.implementation nested
    return visible || fixed
  else if Front.isWord ["macro"] tokens then
    macroDefinition
    return true
  else if !visible && Members.beginsMacro tokens then macroCall nested
  else expected (beginnings words tokens ++ if visible then [] else Members.macroBeginnings)
  return false

end TaggedMachine.Grammar.Declaration.Form
