import TaggedMachine.Proofs.Code

/-!
The images of a program. Bytes decode to a program exactly if the program is a body without a
halt and one halt after it, and the bytes begin with the body, encoded, and the tag of a halt.
The operands of that halt may be any bytes or missing, and so may all that follows. Encoding
takes three bytes for each instruction and loses nothing, wherever halts stand in the program.
-/
namespace TaggedMachine

theorem Instruction.encode_injective : Function.Injective encode := by
  intro instruction other h
  simp only [encode, List.cons.injEq, and_true] at h
  obtain ⟨htag, hleft, hright⟩ := h
  apply Option.some.inj
  calc
    some instruction = decode? instruction.opcode.tag instruction.operands.1
        instruction.operands.2 := instruction.decode?_encode.symm
    _ = decode? other.opcode.tag other.operands.1 other.operands.2 := by rw [htag, hleft, hright]
    _ = some other := other.decode?_encode

namespace Program

open Parameters

/-- What every image of a body and a halt begins with: of the halt the tag alone. -/
def opening (body : List Instruction) : List UInt8 := encode body ++ [Opcode.halt.tag]

theorem length_opening (body : List Instruction) :
    (opening body).length = instructionWidth * body.length + 1 := by
  rw [opening, List.length_append, length_encode, List.length_singleton]

theorem opening_cons (instruction : Instruction) (body : List Instruction) :
    opening (instruction :: body) = instruction.encode ++ opening body :=
  List.append_assoc _ _ _

theorem encode_concat_halt (body : List Instruction) :
    encode (body ++ [.halt]) = opening body ++ [0, 0] := by
  rw [opening, List.append_assoc]
  exact List.flatMap_append

/-- Instructions all have the same width, so the first bytes tell the first instruction. -/
theorem encode_injective : Function.Injective encode := by
  intro program other h
  have hlength : program.length = other.length := by
    have hbytes := congrArg List.length h
    simp only [length_encode, instructionWidth] at hbytes
    omega
  induction program generalizing other with
  | nil => exact (List.length_eq_zero_iff.mp hlength.symm).symm
  | cons instruction rest ih =>
    cases other with
    | nil => contradiction
    | cons instruction' rest' =>
      have hwidth : instruction.encode.length = instruction'.encode.length := rfl
      obtain ⟨hfirst, hrest⟩ := List.append_inj h hwidth
      rw [Instruction.encode_injective hfirst, ih hrest (Nat.succ.inj hlength)]

/-- What decodes to a program begins as its images do. The induction is on the way the bytes
are decoded, three of them at a time. -/
theorem exists_body_of_decode? {bytes : List UInt8} {program : List Instruction}
    (h : decode? bytes = some program) :
    ∃ body, program = body ++ [.halt] ∧ .halt ∉ body ∧ opening body <+: bytes := by
  fun_induction decode? bytes generalizing program with
  | case1 => contradiction
  | case2 tail =>
    cases h
    exact ⟨[], rfl, List.not_mem_nil, List.prefix_append [Opcode.halt.tag] tail⟩
  | case3 tag htag left right bytes ih =>
    obtain ⟨instruction, hfirst, hmap⟩ := Option.bind_eq_some_iff.mp h
    obtain ⟨rest, hrest, rfl⟩ := Option.map_eq_some_iff.mp hmap
    obtain ⟨body, rfl, hbody, hprefix⟩ := ih hrest
    have hne := Instruction.ne_halt_of_decode? hfirst htag
    refine ⟨instruction :: body, rfl, List.not_mem_cons_of_ne_of_not_mem hne.symm hbody, ?_⟩
    rw [opening_cons, Instruction.encode_of_decode? hfirst hne]
    exact (List.prefix_append_right_inj [tag, left, right]).mpr hprefix
  | case4 => contradiction

theorem decode?_of_opening {bytes : List UInt8} {body : List Instruction} (hbody : .halt ∉ body)
    (h : opening body <+: bytes) : decode? bytes = some (body ++ [.halt]) := by
  obtain ⟨tail, rfl⟩ := h
  rw [opening, List.append_assoc]
  exact decode?_encode_append body hbody tail

/-- All images of a program agree up to the tag of its halt, the encoded program among them. -/
theorem take_opening {bytes : List UInt8} {body : List Instruction}
    (h : opening body <+: bytes) :
    (encode (body ++ [.halt])).take (opening body).length =
      bytes.take (opening body).length := by
  rw [encode_concat_halt, List.take_left]
  exact List.prefix_iff_eq_take.mp h

/-- Bytes decode to a program exactly if they begin as an image of it: with a body that holds
no halt, encoded, and the tag of the halt after it. So an encoded program is read back whatever
follows, and encoding what was read gives the bytes up to that tag again. Encoding writes three
bytes for each instruction, and different bytes for different programs. -/
theorem decode?_eq_some_iff_begins (bytes : List UInt8) (program : List Instruction) :
    (decode? bytes = some program ↔
      ∃ body, program = body ++ [.halt] ∧ .halt ∉ body ∧ encode body ++ [0xff] <+: bytes) ∧
    (∀ body, program = body ++ [.halt] → .halt ∉ body →
      ∀ tail, decode? (encode program ++ tail) = some program) ∧
    (decode? bytes = some program →
      3 * (program.length - 1) + 1 ≤ bytes.length ∧
        (encode program).take (3 * (program.length - 1) + 1) =
          bytes.take (3 * (program.length - 1) + 1)) ∧
    (encode program).length = 3 * program.length ∧
    ∀ other, encode other = encode program → other = program := by
  refine ⟨⟨exists_body_of_decode?, ?_⟩, ?_, ?_, length_encode program, ?_⟩
  · rintro ⟨body, rfl, hbody, hopening⟩
    exact decode?_of_opening hbody hopening
  · rintro body rfl hbody tail
    rw [encode_concat_halt, List.append_assoc]
    exact decode?_of_opening hbody (List.prefix_append _ _)
  · intro h
    obtain ⟨body, rfl, -, hopening⟩ := exists_body_of_decode? h
    have hlength : (opening body).length = 3 * ((body ++ [Instruction.halt]).length - 1) + 1 := by
      rw [length_opening, List.length_append, List.length_singleton, Nat.add_sub_cancel]
      rfl
    rw [← hlength]
    exact ⟨hopening.length_le, take_opening hopening⟩
  · exact fun other h => encode_injective h

/-- An image that ends in the tag of its halt, and one with bytes behind it that decode to
nothing. -/
theorem decode?_eq_some_iff_begins_at_short_halt :
    let program : List Instruction := [.add 2 1, .halt]
    let short : List UInt8 := [0x03, 2, 1, 0xff]
    (decode? short = some program ∧ 3 * (program.length - 1) + 1 ≤ short.length ∧
      (encode program).take 4 = short.take 4) ∧
    (.halt ∉ [Instruction.add 2 1] ∧ decode? (encode program ++ [0x09, 0x09]) = some program) ∧
    encode program = [0x03, 2, 1, 0xff, 0, 0] := by
  intro program short
  obtain ⟨hiff, hback, hopening, -⟩ := decode?_eq_some_iff_begins short program
  have hbody : .halt ∉ [Instruction.add 2 1] := by decide
  have hdecode : decode? short = some program :=
    hiff.mpr ⟨[.add 2 1], rfl, hbody, List.prefix_rfl⟩
  obtain ⟨hlength, htake⟩ := hopening hdecode
  exact ⟨⟨hdecode, hlength, htake⟩, ⟨hbody, hback [.add 2 1] rfl hbody [0x09, 0x09]⟩, rfl⟩

end Program

end TaggedMachine
