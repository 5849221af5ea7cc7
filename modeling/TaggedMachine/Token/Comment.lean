import TaggedMachine.Character.Seen
import TaggedMachine.Token
import TaggedMachine.Token.Word

/-!
Comments at the start of a text. Block comments nest. A documentation comment stands for
the attribute `#[doc = "..."]`, any other comment for nothing.
-/
namespace TaggedMachine.Token.Comment

/-- What follows a block comment of which `depth` further ones are open. -/
def afterBlock? (depth : Nat) : List Char → Option (List Char)
  | '*' :: '/' :: rest =>
    match depth with
    | 0 => some rest
    | depth + 1 => afterBlock? depth rest
  | '/' :: '*' :: rest => afterBlock? (depth + 1) rest
  | _ :: rest => afterBlock? depth rest
  | [] => none

def afterLine (text : List Char) : List Char := text.dropWhile (· ≠ '\n')

/-- The line at the start of a text; a carriage return may belong to its end. -/
def line (text : List Char) : List Char :=
  let line := text.takeWhile (· ≠ '\n')
  if line.getLast? = some '\r' && (afterLine text).head? = some '\n' then line.dropLast else line

/-- Whether a carriage return stands elsewhere than at the end of a line. -/
def hasBareReturn : List Char → Bool
  | '\r' :: '\n' :: rest => hasBareReturn rest
  | c :: rest => c = '\r' || hasBareReturn rest
  | [] => false

/-- The code point of a character in braces, as quoted text has it for what is not seen. -/
def codePointText (c : Char) : List Char :=
  ['\\', 'u', '\x7b'] ++ Nat.toDigits 16 c.toNat ++ ['\x7d']

def quotedChar (c : Char) : List Char :=
  match c with
  | '\t' => ['\\', 't']
  | '\n' => ['\\', 'n']
  | '\r' => ['\\', 'r']
  | '\x22' => ['\\', '\x22']
  | '\\' => ['\\', '\\']
  | c => if Character.isSeen c then [c] else codePointText c

/-- A zero before an octal digit is written with two digits. -/
def quotedText : List Char → List Char
  | '\x00' :: rest =>
    (if rest.head?.any fun c => '0' ≤ c && c ≤ '7' then ['\\', 'x', '0', '0'] else ['\\', '0'])
      ++ quotedText rest
  | c :: rest => quotedChar c ++ quotedText rest
  | [] => []

def documentation? (inner : Bool) (content : List Char) : Option (List Piece) :=
  if hasBareReturn content then none
  else some (.leaf (.mark '#' false) :: (if inner then [.leaf (.mark '!' false)] else []) ++
    [.opening .bracket, .leaf (.word "doc"), .leaf (.mark '=' false),
     .leaf (.literal (String.ofList ('\x22' :: quotedText content ++ ['\x22']))),
     .closing .bracket])

def lineDocumentation? (inner : Bool) (text : List Char) : Option (List Piece × List Char) :=
  (documentation? inner (line text)).map fun pieces => (pieces, afterLine text)

def blockDocumentation? (inner : Bool) (text : List Char) : Option (List Piece × List Char) :=
  (afterBlock? 0 text).bind fun rest =>
    (documentation? inner (taken text rest).dropLast.dropLast).map fun pieces => (pieces, rest)

/-- What a comment stands for, and the text after it. -/
def read? : List Char → Option (List Piece × List Char)
  | '/' :: '/' :: '/' :: '/' :: rest => some ([], afterLine rest)
  | '/' :: '/' :: '/' :: rest => lineDocumentation? false rest
  | '/' :: '/' :: '!' :: rest => lineDocumentation? true rest
  | '/' :: '/' :: rest => some ([], afterLine rest)
  | '/' :: '*' :: '*' :: '/' :: rest => some ([], rest)
  | '/' :: '*' :: '*' :: '*' :: rest =>
    (afterBlock? 0 ('*' :: '*' :: rest)).map fun after => ([], after)
  | '/' :: '*' :: '*' :: rest => blockDocumentation? false rest
  | '/' :: '*' :: '!' :: rest => blockDocumentation? true rest
  | '/' :: '*' :: rest => (afterBlock? 0 rest).map fun after => ([], after)
  | _ => none

def opens (text : List Char) : Bool :=
  ['/', '/'].isPrefixOf text || ['/', '*'].isPrefixOf text

end TaggedMachine.Token.Comment
