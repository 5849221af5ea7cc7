import TaggedMachine.Grammar.Bound
import TaggedMachine.Grammar.Builtin

/-!
The forms of types, told apart by how they begin.
-/
namespace TaggedMachine.Grammar.TypeForm

open Reader

def beginnings : List String :=
  [codeText "for", "parentheses", codeText "fn", codeText "unsafe", codeText "extern",
   identifierText, codeText "::", codeText "<", codeText "dyn", "square brackets",
   codeText "*", codeText "&", codeText "!", codeText "impl", codeText "_", lifetimeText]

/-- Bounds after plus signs, each of which one must follow; tells whether there were any. -/
def addedBounds (nested : Nested) : Reader Bool := do
  let found ← atMark "+"
  repeated nested.steps do
    let plus ← optionalMark "+"
    if plus then
      let _ ← nested.bound .object
    return plus
  return found

/-- What stands in parentheses: a type alone, a relaxed bound, or something complete. -/
inductive Inside
  | type (shape : Shape)
  | relaxedBound
  | complete

def inside (nested : Nested) : Reader Inside := do
  if ← atEnd then return .complete
  else if ← atLifetime then
    Bound.objectBounds nested true
    return .complete
  else if ← atMark "?" then
    let _ ← Bound.trait nested .object
    return .relaxedBound
  else
    let shape ← nested.type true
    if ← optionalMark "," then
      commaSeparated nested.steps nested.anyType
      return .complete
    else return .type shape

/-- Reads on after a type in parentheses: it may be the first of several bounds, and then
its own parentheses are the only ones that a bound keeps. -/
def afterType (nested : Nested) (plus : Bool) (shape : Shape) (pieces : List Piece) :
    Reader Unit := do
  let added := plus && shape.isBound && (← atMark "+")
  writeIn .parenthesis (if added then shape.boundPieces pieces else pieces)
  if added then
    let _ ← addedBounds nested

def parenthesized (nested : Nested) (plus : Bool) : Reader Shape := do
  let content ← contentOf .parenthesis (inside nested)
  let mut shape := Shape.other
  match content.value with
  | .complete => writeIn .parenthesis content.pieces
  | .relaxedBound =>
    writeIn .parenthesis content.pieces
    if !(← addedBounds nested) then shape := .bound content.pieces
  | .type inner => afterType nested plus inner content.pieces
  close content
  return shape

def isParameterName (mayBeSelf : Bool) (tokens : List Token) : Bool :=
  (Front.isName tokens || Front.isWord ["_"] tokens || mayBeSelf && Front.isWord ["self"] tokens)
    && Front.isColon (Front.next tokens)

def isMutableSelf (tokens : List Token) : Bool :=
  Front.isWord ["mut"] tokens && Front.isWord ["self"] (Front.next tokens)

def mutableSelf : Reader Unit := do
  keyword "mut"
  keyword "self"

/-- A receiver that may be changed, and perhaps its type. Where it takes the place of the
type of a named parameter, it has none. -/
def changingReceiver (nested : Nested) : Reader Unit := do
  if ← at? isMutableSelf then
    mutableSelf
    if ← at? Front.isColon then
      mark ":"
      nested.anyType
  else
    anyWord
    mark ":"
    mutableSelf

def isNamedReceiver (tokens : List Token) : Bool :=
  isParameterName false tokens && isMutableSelf (Front.next (Front.next tokens))

/-- A parameter of a function type; a name before its type is optional. Only the first may
be a receiver. -/
def parameter (nested : Nested) (first : Bool) : Reader Unit := do
  if first && (← at? fun tokens => isMutableSelf tokens || isNamedReceiver tokens) then
    asWritten (changingReceiver nested)
  else
    if ← at? (isParameterName first) then
      anyWord
      mark ":"
    nested.anyType

def isVariadicName (tokens : List Token) : Bool :=
  (Front.isName tokens || Front.isWord ["_"] tokens) && Front.isMark ":" (Front.next tokens) &&
    Front.isMark "..." (Front.next (Front.next tokens))

def isVariadic (tokens : List Token) : Bool := Front.isMark "..." tokens || isVariadicName tokens

/-- The parameters of a function type, of which the last may stand for any number. -/
def parameters (nested : Nested) (first : Bool) : Nat → Reader Unit
  | 0 => return
  | steps + 1 => do
    if ← atEnd then return
    Attribute.outer nested
    if ← at? isVariadic then
      if ← at? isVariadicName then
        anyWord
        mark ":"
      mark "..."
      let _ ← optionalMark ","
      return
    parameter nested first
    if ← atEnd then return
    mark ","
    parameters nested false steps

def functionWords : List String := ["fn", "unsafe", "extern"]

def atFunction : Reader Bool := atWord functionWords

/-- The calling convention of a function, which may be named by a string. -/
def convention : Reader Unit := do
  if ← optionalKeyword "extern" then optionalString

def function (nested : Nested) : Reader Unit := do
  let _ ← optionalKeyword "unsafe"
  convention
  keyword "fn"
  withinThen .parenthesis (parameters nested true nested.steps) (Bound.result nested)

/-- A path, the call of a macro, or bounds of which the path is the first. A binder, which
has been read before, makes it a bound; it does not bear on a macro. -/
def pathOrBounds (nested : Nested) (plus : Bool) (binder : Option (List Piece)) :
    Reader Shape := do
  let (form, pieces) ← aside (Path.path nested false)
  if form.plain && (← Path.atMacroMark) then
    write pieces
    Path.macroCall
    return .other
  let bound := binder.getD [] ++ pieces
  write bound
  if plus && (← atMark "+") then
    let _ ← Bound.more nested .object nested.steps
    return .other
  else if binder.isSome then return .bound bound
  else return if form.single then .name else .path

/-- A function type, a builtin form or bounds under a binder; tells as well whether the
form stands as it is written. -/
def underBinder (nested : Nested) (plus : Bool) : Reader (Shape × Bool) := do
  let (_, binder) ← aside (Generics.binder nested)
  if ← atFunction then
    write binder
    function nested
    return (.other, false)
  else if ← at? Builtin.begins then
    Builtin.read
    return (.other, true)
  else if ← at? Path.isPlainSegment then
    return (← pathOrBounds nested plus (some binder), false)
  else expected (identifierText :: (functionWords ++ placeKeywords).map codeText)

def bound (nested : Nested) (plus : Bool) : Reader Shape := do
  let (shape, _) ← writtenIf (fun (_, fixed) => fixed) (underBinder nested plus)
  return shape

/-- An object type. With a star after its keyword it stands as it is written. -/
def object (nested : Nested) (plus : Bool) : Reader Unit := do
  let _ ← writtenIf id do
    keyword "dyn"
    let starred ← optionalMark "*"
    Bound.objectBounds nested plus
    return starred

def sliceOrArray (nested : Nested) : Reader Unit := do
  nested.anyType
  if ← optionalMark ";" then nested.anyExpression

def pointer (nested : Nested) : Reader Unit := do
  mark "*"
  if !(← optionalKeyword "const") then
    if !(← optionalKeyword "mut") then expected [codeText "const", codeText "mut"]
  nested.singleType

def reference (nested : Nested) : Reader Unit := do
  mark "&"
  if ← atLifetime then lifetime
  let _ ← optionalKeyword "mut"
  nested.singleType

/-- A form of which no more matters than that it is a type. -/
def otherForm (nested : Nested) (plus : Bool) : Reader Unit := do
  if ← atFunction then function nested
  else if ← Path.atQualified then Path.qualified nested false
  else if ← atWord ["dyn"] then object nested plus
  else if ← atGroup .bracket then within .bracket (sliceOrArray nested)
  else if ← atMark "*" then pointer nested
  else if ← atMark "&" then reference nested
  else if ← atMark "!" then mark "!"
  else if ← optionalKeyword "impl" then Bound.anonymousBounds nested plus
  else if ← atWord ["_"] then keyword "_"
  else if ← atLifetime then Bound.objectBounds nested true
  else expected beginnings

def read (nested : Nested) (plus : Bool) : Reader Shape := do
  if ← atWord ["for"] then bound nested plus
  else if ← atGroup .parenthesis then parenthesized nested plus
  else if ← at? Builtin.begins then
    Builtin.read
    return .other
  else if ← at? fun tokens => !Path.isQualified tokens && Path.begins tokens then
    pathOrBounds nested plus none
  else
    otherForm nested plus
    return .other

end TaggedMachine.Grammar.TypeForm
