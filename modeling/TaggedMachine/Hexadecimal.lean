/-!
Hexadecimal text of numbers: a leading `0x`, then lower-case digits, at least two.
-/
namespace TaggedMachine.Hexadecimal

def digits (n : Nat) : List Char :=
  let shortest := Nat.toDigits 16 n
  List.replicate (2 - shortest.length) '0' ++ shortest

def text (n : Nat) : String := "0x" ++ String.ofList (digits n)

end TaggedMachine.Hexadecimal
