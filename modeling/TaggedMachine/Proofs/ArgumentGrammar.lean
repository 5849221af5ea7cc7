import TaggedMachine.Enumeration.Arguments

/-!
The arguments that are accepted. They are four tokens: a visibility, a comma, the word `repr`
and parentheses that hold one type and nothing else. All other tokens are unfit, each for the
first of these expectations that they do not meet. Main statement: exactly the four tokens are
accepted, and every other sequence is refused with the messages of its first unmet expectation.
Every expectation has a lemma by which tokens that meet all earlier ones meet it as well or
are unfit.
-/
namespace TaggedMachine.Enumeration.Arguments

open Grammar

/-- Parentheses hold a type and nothing else, and so do all brackets in the type. -/
def IsType (content : List Token) (type : TypeExpression) : Prop :=
  TypeExpression.read content = .ok ⟨type, [], none⟩

/-- What tokens look like that meet all expectations before some one but not that one, and how
they are refused. A missing comma or `repr` is told with the visibility that was given. -/
inductive Unfit : List Token → List String → Prop
  | visibilityAtEnd : Unfit [] ["unexpected end of input, expected identifier"]
  | visibilityNoWord {token : Token} {rest : List Token} (h : ∀ text, token ≠ .word text) :
      Unfit (token :: rest) ["expected identifier"]
  | visibilityKeyword {text : String} {rest : List Token} (h : text ∈ keywords) :
      Unfit (.word text :: rest) ["expected identifier, found keyword `" ++ text ++ "`"]
  | visibilityUnknown {text : String} {rest : List Token} (hkeyword : text ∉ keywords)
      (hpublic : text ≠ "public") (hprivate : text ≠ "private") :
      Unfit (.word text :: rest) ["Unexpected visibility: expected `public` or `private`"]
  | comma {visibility : Visibility} {rest : List Token}
      (h : ∀ joint after, rest ≠ .mark ',' joint :: after) :
      Unfit (.word visibility.word :: rest)
        ["expected `,`", "Missing comma after `" ++ visibility.word ++ "` visibility"]
  | reprAtEnd {visibility : Visibility} {joint : Bool} :
      Unfit [.word visibility.word, .mark ',' joint]
        ["unexpected end of input, expected `repr`",
          "Missing `repr` after `" ++ visibility.word ++ ",`"]
  | repr {visibility : Visibility} {joint : Bool} {token : Token} {rest : List Token}
      (h : token ≠ .word "repr") :
      Unfit (.word visibility.word :: .mark ',' joint :: token :: rest)
        ["expected `repr`", "Missing `repr` after `" ++ visibility.word ++ ",`"]
  | parenthesesAtEnd {visibility : Visibility} {joint : Bool} :
      Unfit [.word visibility.word, .mark ',' joint, .word "repr"]
        ["unexpected end of input, expected parentheses"]
  | parentheses {visibility : Visibility} {joint : Bool} {token : Token} {rest : List Token}
      (h : ∀ content, token ≠ .group .parenthesis content) :
      Unfit (.word visibility.word :: .mark ',' joint :: .word "repr" :: token :: rest)
        ["expected parentheses"]
  | type {visibility : Visibility} {joint : Bool} {content rest : List Token} {unmet : Unmet}
      (h : TypeExpression.read content = .error unmet) :
      Unfit (.word visibility.word :: .mark ',' joint :: .word "repr" ::
        .group .parenthesis content :: rest) [unmet.message]
  | groupEnd {visibility : Visibility} {joint : Bool} {content rest left : List Token}
      {type : TypeExpression} (h : TypeExpression.read content = .ok ⟨type, left, none⟩)
      (hleft : left ≠ []) :
      Unfit (.word visibility.word :: .mark ',' joint :: .word "repr" ::
        .group .parenthesis content :: rest) ["unexpected token, expected `)`"]
  | innerGroupEnd {visibility : Visibility} {joint : Bool} {content rest left : List Token}
      {type : TypeExpression} {delimiter : Delimiter}
      (h : TypeExpression.read content = .ok ⟨type, left, some delimiter⟩) :
      Unfit (.word visibility.word :: .mark ',' joint :: .word "repr" ::
        .group .parenthesis content :: rest)
        ["unexpected token, expected `" ++ delimiter.closingText ++ "`"]
  | argumentsEnd {visibility : Visibility} {joint : Bool} {content rest : List Token}
      {type : TypeExpression} {token : Token} (h : IsType content type) :
      Unfit (.word visibility.word :: .mark ',' joint :: .word "repr" ::
        .group .parenthesis content :: token :: rest) ["unexpected token"]

theorem isKeyword_iff (text : String) : isKeyword text = true ↔ text ∈ keywords :=
  List.contains_iff_mem

theorem readVisibility_word (visibility : Visibility) (rest : List Token) :
    readVisibility (.word visibility.word :: rest) = .ok (visibility, rest) := by
  cases visibility <;> rfl

theorem readVisibility_of_noWord {token : Token} (h : ∀ text, token ≠ .word text)
    (rest : List Token) : readVisibility (token :: rest) =
      .error (.visibilityMissing (.oneOf [Reader.identifierText] false)) := by
  cases token with
  | word text => exact absurd rfl (h text)
  | _ => rfl

theorem readVisibility_of_keyword {text : String} (h : text ∈ keywords) (rest : List Token) :
    readVisibility (.word text :: rest) =
      .error (.visibilityMissing (.nameNotKeyword text)) := by
  have hexported : text ≠ Visibility.exported.word := by
    rintro rfl
    exact absurd h (by decide)
  have hinternal : text ≠ Visibility.internal.word := by
    rintro rfl
    exact absurd h (by decide)
  simp only [readVisibility, if_neg hexported, if_neg hinternal, isKeyword_iff, if_pos h]

theorem readVisibility_of_unknown {text : String} (hkeyword : text ∉ keywords)
    (hpublic : text ≠ "public") (hprivate : text ≠ "private") (rest : List Token) :
    readVisibility (.word text :: rest) = .error .visibilityUnknown := by
  have hexported : text ≠ Visibility.exported.word := hpublic
  have hinternal : text ≠ Visibility.internal.word := hprivate
  simp only [readVisibility, if_neg hexported, if_neg hinternal, isKeyword_iff, if_neg hkeyword]

variable {visibility : Visibility} {joint : Bool} {content rest : List Token}

theorem readComma_of_ne (h : ∀ joint after, rest ≠ .mark ',' joint :: after) :
    readComma visibility rest = .error (.commaMissing visibility) := by
  unfold readComma
  split
  · rename_i joint after
    exact absurd rfl (h joint after)
  · rfl

theorem readRepr_of_ne {token : Token} (h : token ≠ .word "repr") :
    readRepr visibility (token :: rest) = .error (.reprMissing visibility false) := by
  unfold readRepr
  split
  · rename_i heq
    cases heq
    contradiction
  · rfl

theorem readParentheses_of_ne {token : Token} (h : ∀ content, token ≠ .group .parenthesis content) :
    readParentheses (token :: rest) = .error (.parenthesesMissing false) := by
  unfold readParentheses
  split
  · rename_i content after heq
    cases heq
    exact absurd rfl (h content)
  · rfl

theorem readType_of_isType {type : TypeExpression} (h : IsType content type) :
    readType content = .ok type := by
  rw [IsType] at h
  simp only [readType, h]

theorem readType_of_error {unmet : Unmet} (h : TypeExpression.read content = .error unmet) :
    readType content = .error (.typeMissing unmet) := by
  simp only [readType, h]

theorem readType_of_left {type : TypeExpression} {left : List Token} (hleft : left ≠ [])
    (h : TypeExpression.read content = .ok ⟨type, left, none⟩) :
    readType content = .error (.notClosed .parenthesis) := by
  cases left with
  | nil => contradiction
  | cons token left => simp only [readType, h, Option.getD_none]

theorem readType_of_unread {type : TypeExpression} {left : List Token} {delimiter : Delimiter}
    (h : TypeExpression.read content = .ok ⟨type, left, some delimiter⟩) :
    readType content = .error (.notClosed delimiter) := by
  simp only [readType, h, Option.getD_some]

variable {cause : ArgumentError}

theorem read_of_noComma (h : readComma visibility rest = .error cause) :
    read (.word visibility.word :: rest) = .error cause := by
  simp only [read, readVisibility_word, h, bind, Except.bind]

theorem read_of_noRepr (h : readRepr visibility rest = .error cause) :
    read (.word visibility.word :: .mark ',' joint :: rest) = .error cause := by
  simp only [read, readVisibility_word, readComma, h, bind, Except.bind]

theorem read_of_noParentheses (h : readParentheses rest = .error cause) :
    read (.word visibility.word :: .mark ',' joint :: .word "repr" :: rest) = .error cause := by
  simp only [read, readVisibility_word, readComma, readRepr, h, bind, Except.bind]

theorem read_of_noType (h : readType content = .error cause) :
    read (.word visibility.word :: .mark ',' joint :: .word "repr" ::
      .group .parenthesis content :: rest) = .error cause := by
  simp only [read, readVisibility_word, readComma, readRepr, readParentheses, h, bind,
    Except.bind]

theorem read_of_isType {type : TypeExpression} (h : IsType content type) :
    read (.word visibility.word :: .mark ',' joint :: .word "repr" ::
      .group .parenthesis content :: rest) =
        (readEnd rest).map fun _ => ⟨visibility, type⟩ := by
  simp only [read, readVisibility_word, readComma, readRepr, readParentheses,
    readType_of_isType h, bind, Except.bind]
  rfl

/-- Unfit tokens are refused with the messages of the expectation that they do not meet. -/
theorem Unfit.error {tokens : List Token} {messages : List String} (h : Unfit tokens messages) :
    (read tokens).mapError ArgumentError.messages = .error messages := by
  cases h with
  | visibilityAtEnd => rfl
  | visibilityNoWord h =>
    rw [read, readVisibility_of_noWord h]
    rfl
  | visibilityKeyword h =>
    rw [read, readVisibility_of_keyword h]
    rfl
  | visibilityUnknown hkeyword hpublic hprivate =>
    rw [read, readVisibility_of_unknown hkeyword hpublic hprivate]
    rfl
  | comma h =>
    rw [read_of_noComma (readComma_of_ne h)]
    rfl
  | reprAtEnd =>
    rw [read_of_noRepr rfl]
    rfl
  | repr h =>
    rw [read_of_noRepr (readRepr_of_ne h)]
    rfl
  | parenthesesAtEnd =>
    rw [read_of_noParentheses rfl]
    rfl
  | parentheses h =>
    rw [read_of_noParentheses (readParentheses_of_ne h)]
    rfl
  | type h =>
    rw [read_of_noType (readType_of_error h)]
    rfl
  | groupEnd h hleft =>
    rw [read_of_noType (readType_of_left hleft h)]
    rfl
  | innerGroupEnd h =>
    rw [read_of_noType (readType_of_unread h)]
    rfl
  | argumentsEnd h =>
    rw [read_of_isType h]
    rfl

/-- Tokens are unfit for some reason. -/
def IsUnfit (tokens : List Token) : Prop := ∃ messages, Unfit tokens messages

theorem visibility_or_unfit (tokens : List Token) :
    (∃ visibility rest, tokens = .word (Visibility.word visibility) :: rest) ∨ IsUnfit tokens := by
  rcases tokens with _ | ⟨token, rest⟩
  · exact Or.inr ⟨_, .visibilityAtEnd⟩
  · by_cases hword : ∃ text, token = .word text
    · obtain ⟨text, rfl⟩ := hword
      by_cases hpublic : text = "public"
      · exact Or.inl ⟨.exported, rest, hpublic ▸ rfl⟩
      · by_cases hprivate : text = "private"
        · exact Or.inl ⟨.internal, rest, hprivate ▸ rfl⟩
        · by_cases hkeyword : text ∈ keywords
          · exact Or.inr ⟨_, .visibilityKeyword hkeyword⟩
          · exact Or.inr ⟨_, .visibilityUnknown hkeyword hpublic hprivate⟩
    · exact Or.inr ⟨_, .visibilityNoWord fun text h => hword ⟨text, h⟩⟩

theorem comma_or_unfit (visibility : Visibility) (rest : List Token) :
    (∃ joint after, rest = .mark ',' joint :: after) ∨ IsUnfit (.word visibility.word :: rest) := by
  by_cases hcomma : ∃ joint after, rest = .mark ',' joint :: after
  · exact Or.inl hcomma
  · exact Or.inr ⟨_, .comma fun joint after h => hcomma ⟨joint, after, h⟩⟩

theorem repr_or_unfit (visibility : Visibility) (joint : Bool) (rest : List Token) :
    (∃ after, rest = .word "repr" :: after) ∨
      IsUnfit (.word visibility.word :: .mark ',' joint :: rest) := by
  rcases rest with _ | ⟨token, rest⟩
  · exact Or.inr ⟨_, .reprAtEnd⟩
  · by_cases hrepr : token = .word "repr"
    · exact Or.inl ⟨rest, hrepr ▸ rfl⟩
    · exact Or.inr ⟨_, .repr hrepr⟩

theorem parentheses_or_unfit (visibility : Visibility) (joint : Bool) (rest : List Token) :
    (∃ content after, rest = .group .parenthesis content :: after) ∨
      IsUnfit (.word visibility.word :: .mark ',' joint :: .word "repr" :: rest) := by
  rcases rest with _ | ⟨token, rest⟩
  · exact Or.inr ⟨_, .parenthesesAtEnd⟩
  · by_cases hgroup : ∃ content, token = .group .parenthesis content
    · obtain ⟨content, rfl⟩ := hgroup
      exact Or.inl ⟨content, rest, rfl⟩
    · exact Or.inr ⟨_, .parentheses fun content h => hgroup ⟨content, h⟩⟩

theorem type_or_unfit (visibility : Visibility) (joint : Bool) (content rest : List Token) :
    (∃ type, IsType content type) ∨
      IsUnfit (.word visibility.word :: .mark ',' joint :: .word "repr" ::
        .group .parenthesis content :: rest) := by
  cases hread : TypeExpression.read content with
  | error unmet => exact Or.inr ⟨_, .type hread⟩
  | ok reading =>
    obtain ⟨type, left, unread⟩ := reading
    cases unread with
    | some delimiter => exact Or.inr ⟨_, .innerGroupEnd hread⟩
    | none =>
      cases left with
      | nil => exact Or.inl ⟨type, hread⟩
      | cons token left => exact Or.inr ⟨_, .groupEnd hread (List.cons_ne_nil token left)⟩

/-- Tokens that are not unfit are the four that are accepted. -/
theorem fits_or_unfit (tokens : List Token) :
    (∃ visibility joint content type, tokens =
        [.word (Visibility.word visibility), .mark ',' joint, .word "repr",
          .group .parenthesis content] ∧ IsType content type) ∨ IsUnfit tokens := by
  refine (visibility_or_unfit tokens).elim ?_ Or.inr
  rintro ⟨visibility, rest, rfl⟩
  refine (comma_or_unfit visibility rest).elim ?_ Or.inr
  rintro ⟨joint, rest, rfl⟩
  refine (repr_or_unfit visibility joint rest).elim ?_ Or.inr
  rintro ⟨rest, rfl⟩
  refine (parentheses_or_unfit visibility joint rest).elim ?_ Or.inr
  rintro ⟨content, rest, rfl⟩
  refine (type_or_unfit visibility joint content rest).elim ?_ Or.inr
  rintro ⟨type, htype⟩
  rcases rest with _ | ⟨token, rest⟩
  · exact Or.inl ⟨visibility, joint, content, type, rfl, htype⟩
  · exact Or.inr ⟨_, .argumentsEnd htype⟩

/-- Tokens are read as a visibility and a type exactly if they are the word of the visibility, a
comma, the word `repr` and parentheses around the type alone. They are refused with messages
exactly if these tell the first expectation that they do not meet. -/
theorem read_by_grammar (tokens : List Token) :
    (∀ visibility type, read tokens = .ok ⟨visibility, type⟩ ↔
      ∃ joint content, tokens =
        [.word visibility.word, .mark ',' joint, .word "repr", .group .parenthesis content] ∧
          TypeExpression.read content = .ok ⟨type, [], none⟩) ∧
    ∀ messages, (read tokens).mapError ArgumentError.messages = .error messages ↔
      Unfit tokens messages := by
  constructor
  · intro visibility type
    constructor
    · intro hread
      rcases fits_or_unfit tokens with
        ⟨given, joint, content, found, rfl, htype⟩ | ⟨messages, hunfit⟩
      · cases (read_of_isType htype).symm.trans hread
        exact ⟨joint, content, rfl, htype⟩
      · have herror := hunfit.error
        rw [hread] at herror
        contradiction
    · rintro ⟨joint, content, rfl, htype⟩
      exact read_of_isType htype
  · intro messages
    constructor
    · intro hread
      rcases fits_or_unfit tokens with
        ⟨given, joint, content, found, rfl, htype⟩ | ⟨other, hunfit⟩
      · rw [read_of_isType htype] at hread
        contradiction
      · cases hunfit.error.symm.trans hread
        exact hunfit
    · exact Unfit.error

/-- The visibility that was given is named where the comma after it is missing, even if what
follows is unfit as well. -/
example : (read [.word "private", .word "repr", .literal "8"]).mapError ArgumentError.messages =
    .error ["expected `,`", "Missing comma after `private` visibility"] := rfl

end TaggedMachine.Enumeration.Arguments
