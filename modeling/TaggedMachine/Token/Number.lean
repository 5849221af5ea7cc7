import TaggedMachine.Token.Quoted

/-!
Numbers at the start of a text. Each function takes the text and gives what follows, or
nothing where the text begins with no such number. A number may carry a word as suffix, and
no character of a word follows it.
-/
namespace TaggedMachine.Token.Number

open Quoted

def isDigitOrUnderscore (c : Char) : Bool := c.isDigit || c = '_'

/-- The power of ten after its `e`: underscores, a sign, and at least one digit. -/
def afterExponent? (text : List Char) : Option (List Char) :=
  let unsigned := match text.dropWhile (· = '_') with
    | '+' :: rest => rest
    | '-' :: rest => rest
    | rest => rest
  if (unsigned.takeWhile isDigitOrUnderscore).any Char.isDigit then
    some (unsigned.dropWhile isDigitOrUnderscore)
  else none

/-- A fraction may end at its point, but not where a word or a second point follows;
then the point belongs to something else. Without digits, the power of ten after a
fraction is a suffix. -/
def afterFractionDigits? (text : List Char) : Option (List Char) :=
  match text.dropWhile isDigitOrUnderscore with
  | '.' :: rest =>
    if rest.head?.any fun c => c = '.' || Character.isWordStart c then none
    else
      let rest := rest.dropWhile isDigitOrUnderscore
      match rest with
      | 'e' :: power => some ((afterExponent? power).getD rest)
      | 'E' :: power => some ((afterExponent? power).getD rest)
      | _ => some rest
  | 'e' :: power => afterExponent? power
  | 'E' :: power => afterExponent? power
  | _ => none

/-- Digits and underscores, of which at least one is a digit and no decimal digit is too
large for the base. -/
def afterDigits? (base : Nat) (text : List Char) : Option (List Char) :=
  let isDigit := if base = 16 then isHexDigit else Char.isDigit
  let digits := text.takeWhile fun c => isDigit c || c = '_'
  if digits.any isDigit &&
      digits.all (fun c => !c.isDigit || c.toNat < '0'.toNat + base) then
    some (text.dropWhile fun c => isDigit c || c = '_')
  else none

def afterIntegerDigits? : List Char → Option (List Char)
  | '0' :: 'x' :: rest => afterDigits? 16 rest
  | '0' :: 'o' :: rest => afterDigits? 8 rest
  | '0' :: 'b' :: rest => afterDigits? 2 rest
  | text => afterDigits? 10 text

/-- A suffix, after which the number must end. -/
def ending? (text : List Char) : Option (List Char) :=
  (some (afterSuffix text)).filter fun rest => !rest.head?.any Character.isWordChar

def after? (text : List Char) : Option (List Char) :=
  if text.head?.any Char.isDigit then
    ((afterFractionDigits? text).bind ending?).or ((afterIntegerDigits? text).bind ending?)
  else none

end TaggedMachine.Token.Number
