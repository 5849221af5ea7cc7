import TaggedMachine.Grammar.Declaration.Members

/-!
Traits, aliases of them, and implementations.
-/
namespace TaggedMachine.Grammar.Declaration.Trait

open Reader

def isSupertraitEnd (tokens : List Token) : Bool :=
  Front.isWord ["where"] tokens || Front.isGroup .brace tokens

/-- What follows the name of a trait and its generic parameters. -/
def traitRest (nested : Nested) : Reader Unit := do
  Generics.constrained (Constant.boundsUpTo nested .constraint isSupertraitEnd)
  let _ ← Generics.optionalWhere nested
  Members.inBraces nested (Members.traitMember nested)

def isAliasEnd (tokens : List Token) : Bool :=
  Front.isWord ["where"] tokens || Front.isMark ";" tokens

/-- What follows the name of an alias of traits and its generic parameters. -/
def aliasRest (nested : Nested) : Reader Unit := do
  mark "="
  Constant.boundsUpTo nested .object isAliasEnd
  let _ ← Generics.optionalWhere nested
  mark ";"

def traitName (nested : Nested) : Reader Unit := do
  keyword "trait"
  identifier
  let _ ← Generics.parameters nested

def traitOrAlias (nested : Nested) : Reader Unit := do
  traitName nested
  let tokens ← rest
  if isSupertraitEnd tokens || Front.isMark ":" tokens then traitRest nested
  else if Front.isMark "=" tokens then aliasRest nested
  else expected (delimiterDescription .brace :: [":", "where", "="].map codeText)

/-- A trait that may be unsafe or hold by itself. -/
def markedTrait (nested : Nested) : Reader Unit := do
  let _ ← optionalKeyword "unsafe"
  let _ ← optionalKeyword "auto"
  traitName nested
  traitRest nested

def isConstant (tokens : List Token) : Bool :=
  Front.isWord ["const"] tokens ||
    Front.isMark "?" tokens && Front.isWord ["const"] (Front.next tokens)

/-- What an implementation is of, as far as it matters: whether it stands as it is written,
since what stands before `for` is no trait. Without a trait, a type under an exclamation mark
stands as it is written itself. -/
def subject (nested : Nested) : Reader Bool := do
  let negative ← at? fun tokens =>
    Front.isMark "!" tokens && !Front.isGroup .brace (Front.next tokens)
  let first ← taken do
    if negative then mark "!"
    nested.type true
  let ofTrait ← atWord ["for"]
  write (if negative && !ofTrait then Piece.ofTokens first.tokens else first.pieces)
  if ofTrait then
    keyword "for"
    nested.anyType
  return ofTrait && !first.value.isPath

def implementation (nested : Nested) : Reader Bool := do
  let _ ← optionalKeyword "default"
  let _ ← optionalKeyword "unsafe"
  keyword "impl"
  if ← at? Front.beginsParameters then
    let _ ← Generics.parameters nested
  let constant ← at? isConstant
  if constant then
    let _ ← optionalMark "?"
    keyword "const"
  let unusual ← subject nested
  let _ ← Generics.optionalWhere nested
  Members.inBraces nested (Members.implementationMember nested)
  return constant || unusual

end TaggedMachine.Grammar.Declaration.Trait
