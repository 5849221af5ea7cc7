import Mathlib.Data.Nat.Digits.Lemmas
import TaggedMachine.Hexadecimal
import TaggedMachine.Token.Integer

/-!
Numbers in texts. Hexadecimal text writes the digits of a number to base 16, filled up with
zeros to two. Main statement: it is an integer literal, and the number is what the literal
stands for. Numbers therefore differ in their hexadecimal texts, as they do in decimal ones;
neither kind of text has a blank in it.
-/
namespace TaggedMachine

@[simp] theorem blank_notMem_toDigits (n : Nat) : ' ' ∉ Nat.toDigits 10 n := by
  intro hblank
  have hdigit := Nat.isDigit_of_mem_toDigits (by decide) (by decide) hblank
  contradiction

theorem repr_injective : Function.Injective Nat.repr := by
  intro n m h
  have hdigits : Nat.toDigits 10 n = Nat.toDigits 10 m := by
    rw [← Nat.toList_repr, ← Nat.toList_repr, h]
  rw [← Nat.ofDigitChars_ten_toDigits (n := n), hdigits, Nat.ofDigitChars_ten_toDigits]

namespace Hexadecimal

theorem toDigits_eq_map_digits {base n : Nat} (hbase : 1 < base) (hn : 0 < n) :
    Nat.toDigits base n = (Nat.digits base n).reverse.map Nat.digitChar := by
  induction n using Nat.strongRecOn with
  | ind n ih =>
    rw [Nat.digits_def' hbase hn, List.reverse_cons, List.map_append, List.map_singleton,
      Nat.toDigits_eq_if hbase]
    split
    · rename_i hlt
      simp [Nat.div_eq_of_lt hlt, Nat.mod_eq_of_lt hlt]
    · rename_i hge
      have hquotient : 0 < n / base := Nat.div_pos (Nat.le_of_not_lt hge) (by omega)
      rw [ih (n / base) (Nat.div_lt_self hn hbase) hquotient]

theorem digits_eq_map_digitsAppend (n : Nat) :
    digits n = (Nat.digitsAppend 16 2 n).reverse.map Nat.digitChar := by
  rcases Nat.eq_zero_or_pos n with rfl | hn
  · rfl
  · have hdigits : Nat.toDigits 16 n = (Nat.digits 16 n).reverse.map Nat.digitChar :=
      toDigits_eq_map_digits (by decide) hn
    rw [digits, hdigits, Nat.digitsAppend, List.reverse_append, List.map_append,
      List.reverse_replicate, List.map_replicate, List.length_map, List.length_reverse]
    rfl

theorem toList_text (n : Nat) : (text n).toList = '0' :: 'x' :: digits n := by
  simp [text]

theorem digits_ne_nil (n : Nat) : digits n ≠ [] :=
  List.append_ne_nil_of_right_ne_nil _ Nat.toDigits_ne_nil

@[simp] theorem blank_notMem_text (n : Nat) : ' ' ∉ (text n).toList := by
  intro hblank
  have hdigit : ' ' ∈ digits n := by simpa [toList_text] using hblank
  rw [digits_eq_map_digitsAppend] at hdigit
  obtain ⟨value, -, hvalue⟩ := List.mem_map.mp hdigit
  exact Nat.digitChar_ne ' ' (by decide) hvalue

end Hexadecimal

namespace Token.Integer

theorem readFrom?_digitChar {value : Nat} (h : value < 16) (higher : Nat) (digits : Bool)
    (rest : List Char) :
    readFrom? 16 higher digits (value.digitChar :: rest) =
      readFrom? 16 (higher * 16 + value) true rest := by
  have hread : ∀ value < 16, value.digitChar ≠ '_' ∧ digit? 16 value.digitChar = some value := by
    decide
  obtain ⟨hmark, hdigit⟩ := hread value h
  rw [readFrom?, if_neg hmark, hdigit]
  exact if_pos h

/-- Digits are read from the highest on, so the induction takes off the lowest. -/
theorem readFrom?_map_digitChar {values : List Nat} (h : ∀ value ∈ values, value < 16)
    (digits : Bool) (rest : List Char) :
    readFrom? 16 0 digits (values.reverse.map Nat.digitChar ++ rest) =
      readFrom? 16 (Nat.ofDigits 16 values) (digits || !values.isEmpty) rest := by
  induction values generalizing rest with
  | nil => simp
  | cons lowest higher ih =>
    obtain ⟨hlowest, hhigher⟩ := List.forall_mem_cons.mp h
    rw [List.reverse_cons, List.map_append, List.map_singleton, List.append_assoc, ih hhigher,
      List.singleton_append, readFrom?_digitChar hlowest, Nat.ofDigits_cons]
    simp [Nat.add_comm, Nat.mul_comm]

/-- Hexadecimal text reads back as the number. -/
theorem ofLiteral?_hexadecimal (n : Nat) :
    ofLiteral? (Hexadecimal.text n) = some ⟨n, []⟩ := by
  have hvalues : ∀ value ∈ Nat.digitsAppend 16 2 n, value < 16 := fun value =>
    Nat.lt_of_mem_digitsAppend (by decide) 2 value
  have hnumber : Nat.ofDigits 16 (Nat.digitsAppend 16 2 n) = n := by
    rw [Nat.digitsAppend, Nat.ofDigits_append_replicate_zero, Nat.ofDigits_digits]
  have hread := readFrom?_map_digitChar hvalues false []
  rw [hnumber, ← Hexadecimal.digits_eq_map_digitsAppend, List.append_nil] at hread
  have hsome : Nat.digitsAppend 16 2 n ≠ [] := by
    intro hnil
    refine Hexadecimal.digits_ne_nil n ?_
    rw [Hexadecimal.digits_eq_map_digitsAppend, hnil]
    rfl
  calc
    ofLiteral? (Hexadecimal.text n) = readFrom? 16 0 false (Hexadecimal.digits n) := by
      rw [ofLiteral?, Hexadecimal.toList_text]
      rfl
    _ = readFrom? 16 n (false || !(Nat.digitsAppend 16 2 n).isEmpty) [] := hread
    _ = some ⟨n, []⟩ := by
      rw [List.isEmpty_eq_false_iff.mpr hsome]
      rfl

end Token.Integer

theorem Hexadecimal.text_injective : Function.Injective Hexadecimal.text := by
  intro n n' h
  have hread := congrArg Token.Integer.ofLiteral? h
  rw [Token.Integer.ofLiteral?_hexadecimal, Token.Integer.ofLiteral?_hexadecimal] at hread
  simpa using hread

end TaggedMachine
