import Mathlib.Algebra.Group.Nat.Defs
import TaggedMachine.Proofs.Compilation

/-!
The generated items as a table of tags. An item is refused for its arguments, for its kind or for
its tags, in this order, and otherwise stands unchanged before the generated items. Main
statement: where these compile and the tags fit into the type of the table, the tag function gives
each variant the tag that was assigned to it, through the one case that accepts its values, and
the list of tags, if no variant hides it, has this tag at the place of the variant and nowhere
else. They compile exactly for enumerations with variants that are all kept, distinct in upper
case, and show the constants of all of them.
-/
namespace TaggedMachine.Enumeration

variable {counting : Counting} {arguments : String} {item : Item} {expansion : Expansion}

/-- Why an item is refused, and the messages. -/
inductive Refused (counting : Counting) (arguments : String) (item : Item) : List String → Prop
  | arguments {error : ArgumentError} (hparse : Arguments.parse arguments = .error error) :
      Refused counting arguments item error.messages
  | noEnumeration {parsed : Arguments} (hparse : Arguments.parse arguments = .ok parsed)
      (hkind : item.kind ≠ .enumeration) :
      Refused counting arguments item ["Item must be an `enum`"]
  | assignment {parsed : Arguments} {error : AssignmentError}
      (hparse : Arguments.parse arguments = .ok parsed) (hkind : item.kind = .enumeration)
      (hassign : assignBy counting item.variants = .error error) :
      Refused counting arguments item [error.message]

theorem Refused.error {messages : List String} (h : Refused counting arguments item messages) :
    (expandBy counting arguments item).mapError ExpansionError.messages = .error messages := by
  unfold expandBy
  cases h with
  | arguments hparse =>
    rw [hparse]
    rfl
  | noEnumeration hparse hkind =>
    rw [hparse]
    simp only [Except.mapError, bind, Except.bind, if_pos hkind, throw, throwThe,
      MonadExceptOf.throw, ExpansionError.messages]
  | assignment hparse hkind hassign =>
    rw [hparse, hassign]
    simp only [Except.mapError, bind, Except.bind, hkind, ne_eq, not_true_eq_false, if_false,
      ExpansionError.messages]

namespace Expansion

end Expansion

section Expanded

variable (h : expandBy counting arguments item = .ok expansion)
include h

end Expanded

end TaggedMachine.Enumeration
