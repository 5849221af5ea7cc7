/-!
Words that are no names. Raw words are names, whatever stands after their `r#`.
-/
namespace TaggedMachine.Grammar

def keywords : List String :=
  ["_", "abstract", "as", "async", "await", "become", "box", "break", "const", "continue",
   "crate", "do", "dyn", "else", "enum", "extern", "false", "final", "fn", "for", "if",
   "impl", "in", "let", "loop", "macro", "match", "mod", "move", "mut", "override", "priv",
   "pub", "ref", "return", "Self", "self", "static", "struct", "super", "trait", "true",
   "try", "type", "typeof", "unsafe", "unsized", "use", "virtual", "where", "while", "yield"]

def isKeyword (word : String) : Bool := keywords.contains word

/-- The keywords that name a place and may stand in a path. -/
def placeKeywords : List String := ["super", "self", "Self", "crate"]

end TaggedMachine.Grammar
