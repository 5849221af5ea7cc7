/-!
Tokens of source text. A mark that the next mark follows at once is joint with it, and
brackets hold what stands between them. A lifetime is a joint apostrophe and a word. Groups
without brackets, which only other macros make, are left out.
-/
namespace TaggedMachine

inductive Delimiter
  | parenthesis | bracket | brace
deriving DecidableEq

/-- A text in brackets. Braces are set off from what they hold by spaces. -/
def Delimiter.enclose (delimiter : Delimiter) (content : String) : String :=
  match delimiter with
  | .parenthesis => "(" ++ content ++ ")"
  | .bracket => "[" ++ content ++ "]"
  | .brace => if content = "" then "\x7b \x7d" else "\x7b " ++ content ++ " \x7d"

def Delimiter.closingText : Delimiter → String
  | .parenthesis => ")"
  | .bracket => "]"
  | .brace => "\x7d"

inductive Token
  | word (text : String)
  | mark (char : Char) (joint : Bool)
  | literal (text : String)
  | group (delimiter : Delimiter) (content : List Token)

namespace Token

mutual

/-- The number of tokens in a token; brackets count as one in addition to their content. -/
def count : Token → Nat
  | .group _ content => countAll content + 1
  | _ => 1

def countAll : List Token → Nat
  | [] => 0
  | token :: rest => token.count + countAll rest

end

def isJoint : Token → Bool
  | .mark _ joint => joint
  | _ => false

mutual

def text : Token → String
  | .word text => text
  | .mark char _ => String.singleton char
  | .literal text => text
  | .group delimiter content => delimiter.enclose (textOf content)

/-- The text of tokens: one space between two of them, none after a joint mark. -/
def textOf : List Token → String
  | [] => ""
  | [token] => token.text
  | token :: rest => token.text ++ (if token.isJoint then "" else " ") ++ textOf rest

end

/-- Token text before brackets are matched. -/
inductive Piece
  | leaf (token : Token)
  | opening (delimiter : Delimiter)
  | closing (delimiter : Delimiter)

/-- Matches the brackets of a text. `done` holds the tokens of the innermost open
bracket and `outer` those before each open bracket, latest first. -/
def nestFrom (done : List Token) (outer : List (Delimiter × List Token)) :
    List Piece → Option (List Token)
  | [] => if outer.isEmpty then some done.reverse else none
  | .leaf token :: rest => nestFrom (token :: done) outer rest
  | .opening delimiter :: rest => nestFrom [] ((delimiter, done) :: outer) rest
  | .closing delimiter :: rest =>
    match outer with
    | (opened, before) :: outer =>
      if opened = delimiter then
        nestFrom (.group delimiter done.reverse :: before) outer rest
      else none
    | [] => none

def nest (pieces : List Piece) : Option (List Token) := nestFrom [] [] pieces

end Token

end TaggedMachine
