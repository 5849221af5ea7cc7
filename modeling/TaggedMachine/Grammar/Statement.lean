import TaggedMachine.Grammar.Expression.Operation

/-!
Statements of a block: declarations, bindings by `let`, calls of macros, and expressions,
which end in a semicolon unless they hold a block or are the last.
-/
namespace TaggedMachine.Grammar.Statement

open Reader

/-- Whether the call of a macro in braces is a statement of its own, after its name. -/
def isMacroStatement (tokens : List Token) : Bool :=
  let content := Front.next tokens
  let after := Front.next content
  Front.isMark "!" tokens && Front.isGroup .brace content &&
    !(Front.isPoint after || Front.isMark "?" after)

def isMacroDeclaration (tokens : List Token) : Bool :=
  let name := Front.next tokens
  Front.isMark "!" tokens && (Front.isName name || Front.isWord ["try"] name)

def declarationWords : List String :=
  ["pub", "extern", "use", "fn", "mod", "type", "struct", "enum", "trait", "impl", "macro"]

def functionWords : List String := ["unsafe", "extern", "fn"]

def isDeclaration (tokens : List Token) : Bool :=
  let after := Front.next tokens
  let asynchronous :=
    Front.isWord ["async"] after && !Front.isWord functionWords (Front.next after)
  Front.isWord declarationWords tokens ||
    Front.isWord ["crate"] tokens && !Front.isMark "::" after ||
    Front.isWord ["static"] tokens && (Front.isWord ["mut"] after || Front.isName after) ||
    Front.isWord ["const"] tokens &&
      !(Front.isGroup .brace after || Front.isWord ["static", "move"] after || asynchronous ||
        Front.isMark "|" after) ||
    Front.isWord ["unsafe"] tokens && !Front.isGroup .brace after ||
    Front.isWord ["async"] tokens && Front.isWord functionWords after ||
    Front.isWord ["union"] tokens && Front.isName after ||
    Front.isWord ["auto"] tokens && Front.isWord ["trait"] after ||
    Front.isWord ["default"] tokens && Front.isWord ["unsafe", "impl"] after ||
    (Path.afterPlain? tokens).any isMacroDeclaration

/-- The initial value of a binding, and a block for where it does not match, unless the
value itself ends in a brace. -/
def initializer (nested : Nested) : Reader Unit := do
  let value ← taken nested.anyExpression
  write value.pieces
  let braced := value.tokens.getLast?.any fun token => Front.isGroup .brace [token]
  if !braced && (← atWord ["else"]) then
    keyword "else"
    nested.block

def binding (nested : Nested) : Reader Unit := do
  keyword "let"
  let _ ← nested.pattern
  if ← optionalMark ":" then nested.anyType
  if ← optionalMark "=" then initializer nested
  mark ";"

def macroStatement (nested : Nested) : Reader Unit := do
  Path.plain nested
  Path.macroCall
  let _ ← optionalMark ";"

/-- What matters of a statement: whether it stands as it is written, and whether another may
follow it. -/
structure Ending where
  fixed : Bool
  complete : Bool

/-- An expression as a statement. Where its first operand stands as it is written, it takes
no attributes. -/
def expression (nested : Nested) (attributes : List Piece) : Reader Ending := do
  let (form, pieces) ← aside nested.standing
  if !form.fixedStart then write attributes
  write pieces
  let ended ← optionalMark ";"
  return ⟨false, ended || form.endsStatement⟩

def attributed (nested : Nested) : Reader Ending := do
  let (_, attributes) ← aside (Attribute.outer nested)
  let tokens ← rest
  if (Path.afterPlain? tokens).any isMacroStatement then
    write attributes
    macroStatement nested
    return ⟨false, true⟩
  if Front.isWord ["let"] tokens then
    write attributes
    binding nested
    return ⟨false, true⟩
  if isDeclaration tokens then
    write attributes
    return ⟨← nested.declaration, true⟩
  expression nested attributes

def list (nested : Nested) : Reader Unit :=
  repeated nested.steps do
    if ← optionalMark ";" then return true
    if ← atEnd then return false
    let ending ← writtenIf Ending.fixed (attributed nested)
    if ← atEnd then return false
    if !ending.complete then throw .statementEnd
    return true

/-- Statements, perhaps with attributes before the first that belong to what holds them. -/
def body (nested : Nested) : Reader Unit := do
  Attribute.inner nested
  list nested

end TaggedMachine.Grammar.Statement
