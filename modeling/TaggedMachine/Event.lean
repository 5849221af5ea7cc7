import TaggedMachine.Instruction

/-!
What the machine reports while it works. An instruction is reported before it is
executed, so also when it then fails; a halt is reported again once it is counted.
-/
namespace TaggedMachine

inductive Event
  | dispatched (pc : Nat) (instruction : Instruction)
  | ignored (pc : Nat) (opcode : UInt8)
  | halted (pc steps : Nat)
deriving DecidableEq

end TaggedMachine
