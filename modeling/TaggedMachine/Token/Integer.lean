import TaggedMachine.Token.Word

/-!
Integer literals: a base, digits in that base with underscores among them, and a word as
suffix. In base ten a point, or an `e` with a power of ten after it, makes a literal a
fraction and not an integer.
-/
namespace TaggedMachine.Token

structure Integer where
  value : Nat
  suffix : List Char

namespace Integer

def digit? (base : Nat) (c : Char) : Option Nat :=
  if c.isDigit then some (c.toNat - '0'.toNat)
  else if base = 16 ∧ 'a' ≤ c ∧ c ≤ 'f' then some (c.toNat - 'a'.toNat + 10)
  else if base = 16 ∧ 'A' ≤ c ∧ c ≤ 'F' then some (c.toNat - 'A'.toNat + 10)
  else none

def isWord (text : List Char) : Bool := afterWord? text = some []

/-- Whether the text after an `e` is a power of ten: a sign, or digits up to the end or
up to a suffix. -/
def isPower (digits : Bool) : List Char → Bool
  | [] => digits
  | c :: rest =>
    if c = '_' then isPower digits rest
    else if c = '+' ∨ c = '-' then true
    else if c.isDigit then isPower true rest
    else digits && isWord (c :: rest)

def isFraction : List Char → Bool
  | '.' :: _ => true
  | 'e' :: rest => isPower false rest
  | 'E' :: rest => isPower false rest
  | _ => false

/-- Reads on after digits of the given value; `digits` tells whether there were any. -/
def readFrom? (base value : Nat) (digits : Bool) : List Char → Option Integer
  | [] => if digits then some ⟨value, []⟩ else none
  | c :: rest =>
    if c = '_' then readFrom? base value digits rest
    else match digit? base c with
      | some digit =>
        if digit < base then readFrom? base (value * base + digit) true rest else none
      | none =>
        if base = 10 ∧ isFraction (c :: rest) then none
        else if digits ∧ isWord (c :: rest) then some ⟨value, c :: rest⟩
        else none

/-- The integer that a literal stands for. -/
def ofLiteral? (text : String) : Option Integer :=
  match text.toList with
  | '0' :: 'x' :: rest => readFrom? 16 0 false rest
  | '0' :: 'o' :: rest => readFrom? 8 0 false rest
  | '0' :: 'b' :: rest => readFrom? 2 0 false rest
  | c :: rest => if c.isDigit then readFrom? 10 0 false (c :: rest) else none
  | [] => none

end Integer

end TaggedMachine.Token
