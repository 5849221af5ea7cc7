import TaggedMachine.Character.Word
import TaggedMachine.Log.Record

/-!
Directives, of which filters consist. A directive limits the records whose target begins
with its own and that have its field. It may also ask for a span or for the value of a
field; these depend on where a record arises, and as no record here arises in a span, such
a directive applies to none.

A directive is written as a limit alone, as a target alone, or as `target[span]=limit`,
where `{field}` or `{field=value}` may stand for the span or at its end. All parts but one
may be missing, and a missing limit shows everything.
-/
namespace TaggedMachine.Log

structure FieldPattern where
  name : String
  value : Option String
deriving DecidableEq

def FieldPattern.parse (text : String) : FieldPattern :=
  match text.splitOn "=" with
  | name :: value :: _ => ⟨name, some value⟩
  | _ => ⟨text, none⟩

structure Directive where
  target : String
  span : Option String
  field : Option FieldPattern
  limit : Option Level
deriving DecidableEq

namespace Directive

/-- A directive for every record. -/
def general (limit : Option Level) : Directive := ⟨"", none, none, limit⟩

def fieldAppliesTo (directive : Directive) (record : Record) : Bool :=
  match directive.field with
  | some field => field.value = none && record.fieldNames.contains field.name
  | none => true

def appliesTo (directive : Directive) (record : Record) : Bool :=
  directive.span = none && directive.target.toList.isPrefixOf record.target.toList &&
    directive.fieldAppliesTo record

/-- Of two directives that apply to a record the one with the longer target is more
specific, then the one with a field, then the one whose field has the greater name. -/
def isAsSpecificAs (directive other : Directive) : Bool :=
  if directive.target.length = other.target.length then
    match other.field, directive.field with
    | none, _ => true
    | some _, none => false
    | some otherField, some field => otherField.name ≤ field.name
  else other.target.length < directive.target.length

/-- A place in the text of a directive. The text is divided as if there were no white
space around it, but its parts are cut out of the whole text at the same places, so at each
place one character decides and another is kept. -/
structure Place where
  deciding : Char
  kept : Char

def places (text : List Char) : List Place :=
  let trimmed := ((text.dropWhile Character.isWhiteSpace).reverse.dropWhile
    Character.isWhiteSpace).reverse
  trimmed.zipWith Place.mk text

def keptText (places : List Place) : String := String.ofList (places.map Place.kept)

/-- The places up to the first that decides for one of the given characters, and those
from there on. -/
def cut (places : List Place) (ends : List Char) : List Place × List Place :=
  places.span fun place => !ends.contains place.deciding

/-- The limit after an equals sign, of which `remainder` is the end. -/
def readLimit? (directive : Directive) (places : List Place) (remainder : String) :
    Option Directive :=
  let text := keptText places ++ remainder
  if text = "" then some directive
  else (Level.limit? text).map fun limit => { directive with limit := limit }

/-- What follows the closing bracket: nothing or a limit. -/
def readEnd? (directive : Directive) (remainder : String) : List Place → Option Directive
  | [] => some directive
  | ⟨'=', _⟩ :: places => directive.readLimit? places remainder
  | _ => none

/-- A field up to its closing brace, which the closing bracket must follow. -/
def readField? (directive : Directive) (remainder : String) (places : List Place) :
    Option Directive :=
  let (name, rest) := cut places ['\x7d']
  match rest with
  | _ :: ⟨']', _⟩ :: rest =>
    if name.isEmpty then none
    else { directive with field := some (FieldPattern.parse (keptText name)) }.readEnd? remainder
      rest
  | _ => none

/-- What stands in brackets: a span, a field, or both. -/
def readSpan? (directive : Directive) (remainder : String) (places : List Place) :
    Option Directive :=
  let (name, rest) := cut places [']', '\x7b']
  match rest with
  | ⟨']', _⟩ :: rest => { directive with span := some (keptText name) }.readEnd? remainder rest
  | _ :: rest =>
    let span := if name.isEmpty then none else some (keptText name)
    { directive with span := span }.readField? remainder rest
  | [] => none

/-- Letters, digits and the marks `-`, `:` and `_` begin a directive, and so does the
bracket before a span. -/
def isFirst (c : Char) : Bool := Character.isWordChar c || ['-', ':', '['].contains c

def parse? (text : String) : Option Directive :=
  let places := places text.toList
  let remainder := String.ofList (text.toList.drop places.length)
  let (name, rest) := cut places ['=', '[']
  let directive : Directive := ⟨keptText name, none, none, some .trace⟩
  if !places.head?.any (isFirst ·.deciding) then none
  else match rest with
    | [] =>
      let text := keptText name ++ remainder
      match Level.limit? text with
      | some limit => some (general limit)
      | none => some { directive with target := text }
    | ⟨'=', _⟩ :: rest => directive.readLimit? rest remainder
    | _ :: rest => directive.readSpan? remainder rest

end Directive

end TaggedMachine.Log
