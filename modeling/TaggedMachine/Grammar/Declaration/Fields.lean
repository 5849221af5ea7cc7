import TaggedMachine.Grammar.Declaration.Visibility
import TaggedMachine.Grammar.Generics

/-!
Structures, enumerations and unions: what follows the keyword of each.
-/
namespace TaggedMachine.Grammar.Declaration.Fields

open Reader

/-- Whether a field without a name has fields of its own in place of a type. -/
def isInner (tokens : List Token) : Bool :=
  Front.isWord ["struct"] tokens ||
    Front.isWord ["union"] tokens && Front.isGroup .brace (Front.next tokens)

/-- The name and the type of a field. A field without a name may have fields of its own,
which stand as they are written; `inner` reads them. -/
def namedType (nested : Nested) (inner : Reader Unit) : Reader Unit := do
  let unnamed ← atWord ["_"]
  identifierOr ["_"]
  mark ":"
  if unnamed && (← at? isInner) then
    asWritten do
      anyWord
      inner
  else nested.anyType

/-- Fields with names, in braces; fields of fields are read at most so deep. -/
def named (nested : Nested) : Nat → Reader Unit
  | 0 => expected [delimiterDescription .brace]
  | depth + 1 =>
    within .brace do
      commaSeparated nested.steps do
        Attribute.outer nested
        let _ ← Visibility.read nested
        namedType nested (named nested depth)

def namedFields (nested : Nested) : Reader Unit := named nested nested.steps

/-- Fields without names, in parentheses. -/
def unnamedFields (nested : Nested) : Reader Unit :=
  within .parenthesis do
    commaSeparated nested.steps do
      Attribute.outer nested
      let _ ← Visibility.read nested
      nested.anyType

/-- The name and the generic parameters after a keyword. -/
def heading (nested : Nested) : Reader Unit := do
  anyWord
  identifier
  let _ ← Generics.parameters nested

def whereText : String := codeText "where"

def semicolonText : String := codeText ";"

def recordEnd (beginnings : List String) : Reader Unit := do
  if ← atMark ";" then mark ";" else expected (beginnings ++ [semicolonText])

/-- What follows the heading of a structure: a where clause stands before braces and after
parentheses. -/
def recordBody (nested : Nested) : Reader Unit := do
  if ← atGroup .parenthesis then
    unnamedFields nested
    let constrained ← Generics.optionalWhere nested
    recordEnd (if constrained then [] else [whereText])
  else
    let constrained ← Generics.optionalWhere nested
    let beginnings := if constrained then [] else [whereText, delimiterDescription .parenthesis]
    if ← atGroup .brace then namedFields nested
    else recordEnd (beginnings ++ [delimiterDescription .brace])

def record (nested : Nested) : Reader Unit := do
  heading nested
  recordBody nested

def union (nested : Nested) : Reader Unit := do
  heading nested
  let _ ← Generics.optionalWhere nested
  namedFields nested

/-- A variant, perhaps with fields and a discriminant. Its visibility is not written. -/
def variant (nested : Nested) : Reader Unit := do
  Attribute.outer nested
  let _ ← aside (Visibility.read nested)
  identifier
  if ← atGroup .brace then namedFields nested
  else if ← atGroup .parenthesis then unnamedFields nested
  if ← optionalMark "=" then nested.anyExpression

def enumeration (nested : Nested) : Reader Unit := do
  heading nested
  let _ ← Generics.optionalWhere nested
  within .brace (commaSeparated nested.steps (variant nested))

end TaggedMachine.Grammar.Declaration.Fields
