import TaggedMachine.Instruction

/-!
Programs as byte images. An image is read instruction by instruction from its first
byte and must reach a halt, of which the tag alone is read. What follows the halt is
data and belongs to no instruction.
-/
namespace TaggedMachine.Program

def encode (program : List Instruction) : List UInt8 := program.flatMap Instruction.encode

/-- The instructions of an image up to its first halt. There is no program in an image
that names an unknown opcode, or ends, before a halt. -/
def decode? : List UInt8 → Option (List Instruction)
  | [] => none
  | tag :: rest =>
    if tag = Opcode.halt.tag then some [.halt]
    else match rest with
      | left :: right :: rest =>
        (Instruction.decode? tag left right).bind fun instruction =>
          (decode? rest).map (instruction :: ·)
      | _ => none

theorem length_encode (program : List Instruction) :
    (encode program).length = Parameters.instructionWidth * program.length := by
  induction program with
  | nil => rfl
  | cons instruction rest ih =>
    simp only [encode, List.flatMap_cons, List.length_append, List.length_cons,
      Instruction.length_encode, Parameters.instructionWidth] at ih ⊢
    omega

theorem decode?_halt (rest : List UInt8) :
    decode? (Opcode.halt.tag :: rest) = some [.halt] := by
  rw [decode?.eq_def]
  simp

/-- A body without a halt is read back from its bytes and the tag of a halt, whatever
follows. -/
theorem decode?_encode_append (body : List Instruction) (hbody : .halt ∉ body)
    (tail : List UInt8) :
    decode? (encode body ++ Opcode.halt.tag :: tail) = some (body ++ [.halt]) := by
  induction body with
  | nil => exact decode?_halt tail
  | cons instruction rest ih =>
    simp only [List.mem_cons, not_or] at hbody
    have htag : instruction.opcode.tag ≠ Opcode.halt.tag :=
      fun h => hbody.1 ((instruction.tag_eq_halt_iff.mp h).symm)
    have hrest := ih hbody.2
    simp only [encode] at hrest
    simp [encode, Instruction.encode, decode?, htag, Instruction.decode?_encode, hrest]

end TaggedMachine.Program
