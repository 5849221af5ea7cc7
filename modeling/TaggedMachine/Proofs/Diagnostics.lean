import Mathlib.Logic.Function.Basic
import TaggedMachine.Fault
import TaggedMachine.Log.Record
import TaggedMachine.Proofs.Numerals

/-!
What diagnostics say is known from their texts. The texts of faults and of instructions are
words with single blanks between them. No word has a blank in it, whatever number or register it
names, so the words are those that stand between the blanks; and the words say all there is to
know, since no two numbers and no two registers have the same name. Main statement: no two
faults have the same text and no two instructions, nor do the reports of two different
instructions carry the same text.
-/
namespace TaggedMachine

/-- Words that make a text from which they can be told. -/
structure Separable (words : List String) : Prop where
  ne_nil : words ≠ []
  blank_notMem : ∀ word ∈ words, ' ' ∉ word.toList

/-- The words between the blanks of a text. -/
def wordsOf (text : String) : List String := (text.split ' ').toList.map fun word => word.copy

theorem Separable.wordsOf_intercalate {words : List String} (h : Separable words) :
    wordsOf (" ".intercalate words) = words := by
  have hsplit := String.toList_split_intercalate h.blank_notMem
  rwa [if_neg h.ne_nil] at hsplit

theorem injective_of_words {α : Type} {text : α → String} {words : α → List String}
    (htext : ∀ a, text a = " ".intercalate (words a)) (hseparable : ∀ a, Separable (words a))
    (hwords : Function.Injective words) : Function.Injective text := by
  have hwordsOf (a : α) : wordsOf (text a) = words a := by
    rw [htext, (hseparable a).wordsOf_intercalate]
  intro a b h
  apply hwords
  rw [← hwordsOf a, ← hwordsOf b, h]

namespace Opcode

theorem blank_notMem_mnemonic (opcode : Opcode) : ' ' ∉ opcode.mnemonic.toList := by
  cases opcode <;> decide

theorem mnemonic_injective : Function.Injective mnemonic := by
  intro opcode opcode' h
  cases opcode <;> cases opcode' <;> simp_all [mnemonic]

end Opcode

namespace Instruction

@[simp] theorem blank_notMem_registerText (id : UInt8) : ' ' ∉ (registerText id).toList := by
  unfold registerText
  split <;> simp

theorem programCounterText_ne (number : String) : "PC" ≠ "R" ++ number := by
  intro h
  have hletters := congrArg String.toList h
  simp at hletters

theorem registerText_injective : Function.Injective registerText := by
  intro id id' h
  unfold registerText at h
  split at h <;> split at h
  case isTrue.isTrue hpc hpc' => rw [hpc, hpc']
  case isTrue.isFalse => exact absurd h (programCounterText_ne _)
  case isFalse.isTrue => exact absurd h.symm (programCounterText_ne _)
  case isFalse.isFalse =>
    exact UInt8.toNat_inj.mp (repr_injective ((String.append_right_inj _).mp h))

def operandWords : Instruction → List String
  | .load register address => [registerText register, addressText address]
  | .store register address => [registerText register, addressText address]
  | .add left right => [registerText left, registerText right]
  | .sub left right => [registerText left, registerText right]
  | .halt => []

def words (instruction : Instruction) : List String :=
  instruction.opcode.mnemonic :: instruction.operandWords

theorem text_eq_intercalate (instruction : Instruction) :
    instruction.text = " ".intercalate instruction.words := by
  unfold text words
  cases instruction <;>
    simp only [operandsText, operandWords, String.intercalate_cons_cons,
      String.intercalate_singleton, String.append_assoc, String.append_empty]

theorem separable_words (instruction : Instruction) : Separable instruction.words := by
  constructor
  · exact List.cons_ne_nil _ _
  · refine List.forall_mem_cons.mpr ⟨Opcode.blank_notMem_mnemonic _, ?_⟩
    cases instruction <;> simp [operandWords, addressText]

theorem addressText_injective : Function.Injective addressText :=
  fun _ _ h => UInt8.toNat_inj.mp (Hexadecimal.text_injective h)

theorem words_injective : Function.Injective words := by
  intro instruction instruction' h
  obtain ⟨hmnemonic, hoperands⟩ := List.cons.inj h
  have hopcode := Opcode.mnemonic_injective hmnemonic
  -- The opcode tells the constructor, so only operands of one constructor are left to compare.
  cases instruction <;> cases instruction' <;>
    simp_all [opcode, operandWords, registerText_injective.eq_iff, addressText_injective.eq_iff]

theorem text_injective : Function.Injective text :=
  injective_of_words text_eq_intercalate separable_words words_injective

end Instruction

def Overrun.words : Overrun → List String
  | .fetch location => ["fetch", "at", Hexadecimal.text location]
  | .load location => ["load", "at", Hexadecimal.text location]
  | .store location => ["store", "at", Hexadecimal.text location]
  | .register id => ["register", id.toNat.repr]

theorem Overrun.words_injective : Function.Injective Overrun.words := by
  intro overrun overrun' h
  cases overrun <;> cases overrun' <;>
    simp_all [words, Hexadecimal.text_injective.eq_iff, repr_injective.eq_iff, UInt8.toNat_inj]

namespace Fault

def words : Fault → List String
  | .outOfBounds overrun => "out" :: "of" :: "bounds" :: overrun.words
  | .unknownOpcode opcode pc =>
    ["unknown", "opcode", Hexadecimal.text opcode.toNat, "at", Hexadecimal.text pc]
  | .budgetSpent budget => ["no", "halt", "within", budget.repr, "steps"]

theorem text_eq_intercalate (fault : Fault) : fault.text = " ".intercalate fault.words := by
  apply String.toList_injective
  unfold text words
  cases fault with
  | outOfBounds overrun =>
    unfold Overrun.text Overrun.words
    cases overrun <;> simp
  | unknownOpcode opcode pc => simp
  | budgetSpent budget => simp

theorem separable_words (fault : Fault) : Separable fault.words := by
  constructor
  · cases fault <;> simp [words]
  · cases fault with
    | outOfBounds overrun => cases overrun <;> simp [words, Overrun.words]
    | unknownOpcode opcode pc => simp [words]
    | budgetSpent budget => simp [words]

theorem words_injective : Function.Injective words := by
  intro fault fault' h
  -- Faults of different kinds differ in the first word.
  cases fault <;> cases fault' <;>
    simp_all [words, Overrun.words_injective.eq_iff, Hexadecimal.text_injective.eq_iff,
      repr_injective.eq_iff, UInt8.toNat_inj]

theorem text_injective : Function.Injective text :=
  injective_of_words text_eq_intercalate separable_words words_injective

end Fault

/-- Faults and instructions are known from their texts, instructions also from the texts that
their reports carry. -/
theorem diagnostics_unambiguous :
    Function.Injective Fault.text ∧ Function.Injective Instruction.text ∧
      ∀ pc pc' instruction instruction',
        (Event.dispatched pc instruction).fields.lookup "op" =
            (Event.dispatched pc' instruction').fields.lookup "op" →
          instruction = instruction' := by
  refine ⟨Fault.text_injective, Instruction.text_injective, ?_⟩
  intro pc pc' instruction instruction' h
  have htext : instruction.text = instruction'.text := Option.some.inj h
  exact Instruction.text_injective htext

/-- A halt has no operands, neither in the report that carries it nor as an instruction. -/
theorem diagnostics_unambiguous_at_halt :
    (Event.dispatched 0 (.ofOpcode .halt 7 8)).fields.lookup "op" =
        (Event.dispatched 3 .halt).fields.lookup "op" ∧
      Instruction.ofOpcode .halt 7 8 = .halt ∧
      (Fault.unknownOpcode 0x10 0x100).text ≠ (Fault.unknownOpcode 0x01 0x00).text := by
  have hcarried : (Event.dispatched 0 (.ofOpcode .halt 7 8)).fields.lookup "op" =
      (Event.dispatched 3 .halt).fields.lookup "op" := rfl
  refine ⟨hcarried, diagnostics_unambiguous.2.2 0 3 _ _ hcarried, ?_⟩
  intro htext
  have hfault := diagnostics_unambiguous.1 htext
  contradiction

/-- Numbers are filled up to two digits, and may have more. -/
example : (Fault.unknownOpcode 5 256).text = "unknown opcode 0x05 at 0x100" := by decide

end TaggedMachine
