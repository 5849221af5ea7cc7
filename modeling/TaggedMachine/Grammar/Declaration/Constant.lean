import TaggedMachine.Grammar.Generics

/-!
Constants, static variables and type aliases. Some parts that may be read of them have no
place in their kind; a declaration with one of these stands as it is written.
-/
namespace TaggedMachine.Grammar.Declaration.Constant

open Reader

/-- Which parts of a constant were there: its value, and generic parameters or constraints
on them. -/
structure Parts where
  value : Bool
  generic : Bool

def constant (nested : Nested) : Reader Parts := do
  if ← at? fun tokens => Front.isName tokens || Front.isWord ["_"] tokens then anyWord
  else expected [identifierText, codeText "_"]
  let parameters ← Generics.parameters nested
  mark ":"
  nested.anyType
  let value ← optionalMark "="
  if value then nested.anyExpression
  let constrained ← Generics.optionalWhere nested
  mark ";"
  return ⟨value, parameters || constrained⟩

def staticVariable (nested : Nested) : Reader Bool := do
  keyword "static"
  let _ ← optionalKeyword "mut"
  identifier
  let untyped ← optionalMark "="
  if !untyped then
    mark ":"
    nested.anyType
    if ← optionalMark ";" then return true
    mark "="
  nested.anyExpression
  mark ";"
  return untyped

/-- Where the where clause of a type alias stands: before its definition, after it, or on
either side. -/
inductive WherePlace
  | before | after | either
deriving DecidableEq

/-- Which parts of a type alias were there: a colon for bounds, and a definition. -/
structure AliasParts where
  colon : Bool
  definition : Bool

def isBoundsEnd (tokens : List Token) : Bool :=
  Front.isWord ["where"] tokens || Front.isMark "=" tokens || Front.isMark ";" tokens

def boundsUpTo (nested : Nested) (place : BoundPlace) (isEnd : List Token → Bool) :
    Reader Unit :=
  separated nested.steps "+" (at? isEnd) do
    let _ ← nested.bound place

def typeAlias (nested : Nested) (place : WherePlace) : Reader AliasParts := do
  keyword "type"
  identifier
  let _ ← Generics.parameters nested
  let colon ← atMark ":"
  Generics.constrained (boundsUpTo nested .constraint isBoundsEnd)
  let constrained ← if place = .after then pure false else Generics.optionalWhere nested
  let definition ← optionalMark "="
  if definition then nested.anyType
  if place ≠ .before && !constrained then
    let _ ← Generics.optionalWhere nested
  mark ";"
  return ⟨colon, definition⟩

end TaggedMachine.Grammar.Declaration.Constant
