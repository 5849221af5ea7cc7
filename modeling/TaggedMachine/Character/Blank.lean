/-!
Blank characters. White space is the Unicode property of that name; in source text the two
directional marks are blank as well.
-/
namespace TaggedMachine.Character

/-- Whether a character lies in one of the ranges of code points, ends included. -/
def liesIn (ranges : List (Nat × Nat)) (c : Char) : Bool :=
  ranges.any fun (first, last) => first ≤ c.toNat && c.toNat ≤ last

def whiteSpaceRanges : List (Nat × Nat) :=
  [(0x09, 0x0d), (0x20, 0x20), (0x85, 0x85), (0xa0, 0xa0), (0x1680, 0x1680),
   (0x2000, 0x200a), (0x2028, 0x2029), (0x202f, 0x202f), (0x205f, 0x205f), (0x3000, 0x3000)]

def isWhiteSpace (c : Char) : Bool := liesIn whiteSpaceRanges c

def directionalMarks : List (Nat × Nat) := [(0x200e, 0x200f)]

def isBlank (c : Char) : Bool := isWhiteSpace c || liesIn directionalMarks c

end TaggedMachine.Character
