import TaggedMachine.Grammar.Reader

/-!
Forms that the compiler itself provides: their name after a hash, and parentheses. They stand
as they are written.
-/
namespace TaggedMachine.Grammar.Builtin

open Reader

def begins (tokens : List Token) : Bool :=
  Front.isWord ["builtin"] tokens && Front.isMark "#" (Front.next tokens)

def read : Reader Unit :=
  asWritten do
    keyword "builtin"
    mark "#"
    identifier
    within .parenthesis verbatimRest

end TaggedMachine.Grammar.Builtin
