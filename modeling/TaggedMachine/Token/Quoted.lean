import TaggedMachine.Token.Word

/-!
Quoted literals at the start of a text: strings, raw strings and single characters, each
of them also as bytes, and strings also without zeros. Each function takes the text after
the opening and gives what follows the literal, or nothing where the literal is malformed.
A word may follow as suffix.
-/
namespace TaggedMachine.Token.Quoted

/-- What a quoted literal holds: characters, bytes, or characters other than zero. -/
inductive Content
  | characters | bytes | nonzero
deriving DecidableEq

def isHexDigit (c : Char) : Bool :=
  c.isDigit || ('a' ≤ c && c ≤ 'f') || ('A' ≤ c && c ≤ 'F')

def hexDigitValue (c : Char) : Nat :=
  if c.isDigit then c.toNat - '0'.toNat
  else if 'a' ≤ c then c.toNat - 'a'.toNat + 10
  else c.toNat - 'A'.toNat + 10

def hexValue (digits : List Char) : Nat :=
  digits.foldl (fun value digit => value * 16 + hexDigitValue digit) 0

def afterSuffix (text : List Char) : List Char := (afterWord? text).getD text

namespace Content

def holds (content : Content) (c : Char) : Bool :=
  match content with
  | .characters => true
  | .bytes => c.toNat < 128
  | .nonzero => c ≠ '\x00'

/-- Whether two hexadecimal digits may stand for this value; they reach all bytes, but
of the characters only ASCII. -/
def holdsValue (content : Content) (value : Nat) : Bool :=
  match content with
  | .characters => value < 128
  | .bytes => true
  | .nonzero => value ≠ 0

/-- What follows a code point in braces: up to six hexadecimal digits, and underscores
after the first of them. -/
def afterCodePoint? (content : Content) (text : List Char) : Option (List Char) :=
  let body := text.takeWhile (· ≠ '\x7d')
  let digits := body.filter (· ≠ '_')
  let value := hexValue digits
  if body.head?.any isHexDigit && digits.all isHexDigit && digits.length ≤ 6
      && (Nat.isValidChar value : Bool) && (content ≠ .nonzero || value ≠ 0) then
    (text.dropWhile (· ≠ '\x7d')).tail?
  else none

/-- Characters that make an escape with a backslash alone. -/
def escapedChars : List Char := ['n', 'r', 't', '\\', '\x27', '\x22']

/-- What follows an escape, given the text after its backslash. -/
def afterEscape? (content : Content) : List Char → Option (List Char)
  | 'x' :: high :: low :: rest =>
    if isHexDigit high && isHexDigit low && content.holdsValue (hexValue [high, low]) then
      some rest
    else none
  | 'u' :: '\x7b' :: rest => if content = .bytes then none else content.afterCodePoint? rest
  | '0' :: rest => if content = .nonzero then none else some rest
  | c :: rest => if escapedChars.contains c then some rest else none
  | [] => none

/-- A string may go on after a backslash at the end of a line. -/
def escapes (content : Content) : List Char → Bool
  | '\n' :: _ => true
  | '\r' :: '\n' :: _ => true
  | text => (content.afterEscape? text).isSome

end Content

/-- What follows the closing quote of a string. A carriage return stands only at the end
of a line. The characters of an escape after the first need no care: they are content. -/
def afterString? (content : Content) : List Char → Option (List Char)
  | '\x22' :: rest => some (afterSuffix rest)
  | '\r' :: '\n' :: rest => afterString? content rest
  | '\r' :: _ => none
  | '\\' :: c :: rest =>
    if content.escapes (c :: rest) then afterString? content rest else none
  | c :: rest => if content.holds c then afterString? content rest else none
  | [] => none

/-- What follows a quote and as many hashes as opened the string. -/
def afterHashedQuote? (content : Content) (hashes : List Char) : List Char → Option (List Char)
  | '\r' :: '\n' :: rest => afterHashedQuote? content hashes rest
  | '\r' :: _ => none
  | c :: rest =>
    if c = '\x22' && hashes.isPrefixOf rest then some (afterSuffix (rest.drop hashes.length))
    else if content.holds c then afterHashedQuote? content hashes rest
    else none
  | [] => none

def hashLimit : Nat := 255

/-- What follows a raw string, in which a backslash is content. -/
def afterRawString? (content : Content) (text : List Char) : Option (List Char) :=
  let hashes := text.takeWhile (· = '#')
  match text.dropWhile (· = '#') with
  | '\x22' :: rest =>
    if hashes.length ≤ hashLimit then afterHashedQuote? content hashes rest else none
  | _ => none

def afterApostrophe? : List Char → Option (List Char)
  | '\x27' :: rest => some (afterSuffix rest)
  | _ => none

/-- What follows one character, or an escape for one, and the closing apostrophe. -/
def afterCharacter? (content : Content) : List Char → Option (List Char)
  | '\\' :: rest => (content.afterEscape? rest).bind afterApostrophe?
  | c :: rest => if content.holds c then afterApostrophe? rest else none
  | [] => none

end TaggedMachine.Token.Quoted
