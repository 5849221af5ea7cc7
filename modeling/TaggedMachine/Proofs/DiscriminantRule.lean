import Mathlib.Algebra.Group.Nat.Defs
import TaggedMachine.Proofs.Acceptance

/-!
The rule for discriminants. A variant has the tag that its literal sets, or one more than the
variant before it, the first one zero. A variant breaks the rule with a discriminant that is not
an integer literal or too large, or with a tag that an earlier variant has. Main statement: the
first variant that breaks the rule is reported, and if there is none the tags are assigned by
the rule. The induction is on the number of variants that have been gone through; all of these
keep the rule, so their tags are distinct. As long as none of them is the last 64-bit number, it
makes no difference how the tags are counted.
-/
namespace TaggedMachine.Enumeration

/-- The number that an expression stands for if, attributes apart, it is one integer literal. -/
def literal? (text : String) : Option Nat :=
  match (Token.lex? text).map withoutAttributes with
  | some [.literal text] => (Token.Integer.ofLiteral? text).map Token.Integer.value
  | _ => none

/-- The number that variant `i` sets as its tag, if it does. -/
def explicitTag? (variants : List Variant) (i : Nat) : Option Nat :=
  variants[i]?.bind fun variant => variant.discriminant.bind literal?

/-- The tag of variant `i` by the rule alone. -/
def tagAt (variants : List Variant) : Nat → Nat
  | 0 => (explicitTag? variants 0).getD 0
  | i + 1 => (explicitTag? variants (i + 1)).getD (tagAt variants i + 1)

/-- If the variant has a discriminant, it is an integer literal below 2^64. -/
def Variant.Sound (variant : Variant) : Prop :=
  ∀ text, variant.discriminant = some text → ∃ number < 2 ^ 64, literal? text = some number

/-- Variant `i` breaks the rule, and this is how it is reported. -/
inductive Breaks (variants : List Variant) (i : Nat) : String → Prop
  | notLiteral {variant : Variant} {text : String} (hvariant : variants[i]? = some variant)
      (htext : variant.discriminant = some text) (hliteral : literal? text = none) :
      Breaks variants i "Only literal discriminants are allowed"
  | tooLarge {variant : Variant} {text : String} {number : Nat}
      (hvariant : variants[i]? = some variant) (htext : variant.discriminant = some text)
      (hliteral : literal? text = some number) (hlarge : 2 ^ 64 ≤ number) :
      Breaks variants i "number too large to fit in target type"
  | taken {variant holder : Variant} {j : Nat} (hvariant : variants[i]? = some variant)
      (hsound : variant.Sound) (hj : j < i) (hholder : variants[j]? = some holder)
      (hsame : tagAt variants j = tagAt variants i) :
      Breaks variants i
        ("Tag " ++ (tagAt variants i).repr ++ " is already used by `" ++ holder.name ++ "`")

/-- The first `n` variants keep the rule. -/
def KeepsRule (variants : List Variant) (n : Nat) : Prop :=
  ∀ j < n, ∀ text, ¬ Breaks variants j text

/-- The tag of variant `i` if it does not set one. -/
def nextTag (variants : List Variant) : Nat → Nat
  | 0 => 0
  | i + 1 => tagAt variants i + 1

def taggedAt (variants : List Variant) (i : Nat) (variant : Variant) : TaggedVariant :=
  ⟨variant.name, variant.fields, tagAt variants i⟩

/-- The first `n` variants with their tags. -/
def taggedBefore (variants : List Variant) (n : Nat) : List TaggedVariant :=
  (variants.take n).mapIdx (taggedAt variants)

/-- The assignment from variant `n` on, after the tags before it. -/
def assignRest (counting : Counting) (variants : List Variant) (n : Nat) :
    Except AssignmentError (List TaggedVariant) :=
  assignFrom counting (taggedBefore variants n).reverse (nextTag variants n) (variants.drop n)

/-- The tags of the first `n` variants are counted up by one. -/
def CountsUp (counting : Counting) (variants : List Variant) (n : Nat) : Prop :=
  ∀ j < n, counting.after (tagAt variants j) = .ok (tagAt variants j + 1)

theorem discriminantTag_eq (text : String) :
    discriminantTag text = match literal? text with
      | none => .error .notLiteral
      | some number => if number < tagLimit then .ok number else .error .tooLarge := by
  unfold discriminantTag literal?
  generalize (Token.lex? text).map withoutAttributes = tokens
  rcases tokens with _ | _ | ⟨token, _ | ⟨second, rest⟩⟩
  · rfl
  · rfl
  · cases token with
    | literal text =>
      dsimp only
      cases Token.Integer.ofLiteral? text <;> rfl
    | _ => rfl
  · cases token <;> rfl

theorem countsUp_unbounded (variants : List Variant) (n : Nat) :
    CountsUp .unbounded variants n :=
  fun _ _ => rfl

theorem after_eq_of_lt (counting : Counting) {tag : Nat} (h : tag + 1 < tagLimit) :
    counting.after tag = .ok (tag + 1) := by
  cases counting with
  | unbounded => rfl
  | trapped => exact if_pos h
  | wrapping => rw [Counting.after, Nat.mod_eq_of_lt h]

variable {counting : Counting} {variants : List Variant} {variant : Variant} {i : Nat}
  {text : String}

theorem Breaks.lt_length (h : Breaks variants i text) : i < variants.length := by
  cases h with
  | notLiteral hvariant => exact (List.getElem?_eq_some_iff.mp hvariant).1
  | tooLarge hvariant => exact (List.getElem?_eq_some_iff.mp hvariant).1
  | taken hvariant => exact (List.getElem?_eq_some_iff.mp hvariant).1

theorem tagAt_eq (variants : List Variant) (i : Nat) :
    tagAt variants i = (explicitTag? variants i).getD (nextTag variants i) := by
  cases i <;> rfl

theorem tag_of_sound (hvariant : variants[i]? = some variant) (hsound : variant.Sound) :
    variant.tag (nextTag variants i) = .ok (tagAt variants i) := by
  rw [tagAt_eq, explicitTag?, hvariant, Option.bind_some, Variant.tag]
  cases htext : variant.discriminant with
  | none => rfl
  | some text =>
    obtain ⟨number, hnumber, hliteral⟩ := hsound text htext
    simp only [discriminantTag_eq, hliteral, Option.bind_some, Option.getD_some]
    exact if_pos hnumber

theorem sound_of_keepsRule (hvariant : variants[i]? = some variant)
    (hkeeps : ∀ text, ¬ Breaks variants i text) : variant.Sound := by
  intro text htext
  cases hliteral : literal? text with
  | none => exact absurd (.notLiteral hvariant htext hliteral) (hkeeps _)
  | some number =>
    refine ⟨number, Nat.lt_of_not_le fun hlarge => ?_, rfl⟩
    exact hkeeps _ (.tooLarge hvariant htext hliteral hlarge)

theorem taggedBefore_succ (hvariant : variants[i]? = some variant) :
    taggedBefore variants (i + 1) = taggedBefore variants i ++ [taggedAt variants i variant] := by
  obtain ⟨hi, -⟩ := List.getElem?_eq_some_iff.mp hvariant
  rw [taggedBefore, List.take_add_one, hvariant, Option.toList_some, List.mapIdx_concat,
    List.length_take_of_le (Nat.le_of_lt hi)]
  rfl

theorem mem_taggedBefore (variants : List Variant) (n : Nat) (tagged : TaggedVariant) :
    tagged ∈ taggedBefore variants n ↔
      ∃ j < n, ∃ variant, variants[j]? = some variant ∧ tagged = taggedAt variants j variant := by
  rw [taggedBefore, List.mem_mapIdx]
  constructor
  · rintro ⟨j, hj, rfl⟩
    have hlength := List.length_take ▸ hj
    refine ⟨j, by omega, (variants.take n)[j], ?_, rfl⟩
    rw [List.getElem_take, List.getElem?_eq_getElem]
  · rintro ⟨j, hj, variant, hvariant, rfl⟩
    obtain ⟨hlength, hget⟩ := List.getElem?_eq_some_iff.mp hvariant
    refine ⟨j, by rw [List.length_take]; omega, ?_⟩
    rw [List.getElem_take, hget]

/-- Variants that keep the rule have distinct tags. -/
theorem KeepsRule.tagAt_ne {n j k : Nat} (h : KeepsRule variants n) (hjk : j < k) (hk : k < n)
    (hlength : k < variants.length) : tagAt variants j ≠ tagAt variants k := by
  intro hsame
  have hvariant := List.getElem?_eq_getElem hlength
  have hholder := List.getElem?_eq_getElem (Nat.lt_trans hjk hlength)
  exact h k hk _ (.taken hvariant (sound_of_keepsRule hvariant (h k hk)) hjk hholder hsame)

theorem KeepsRule.tagAt_inj {n j k : Nat} (h : KeepsRule variants n) (hj : j < n) (hk : k < n)
    (hj' : j < variants.length) (hk' : k < variants.length)
    (hsame : tagAt variants j = tagAt variants k) : j = k := by
  rcases Nat.lt_trichotomy j k with hlt | heq | hgt
  · exact absurd hsame (h.tagAt_ne hlt hk hk')
  · exact heq
  · exact absurd hsame.symm (h.tagAt_ne hgt hj hj')

theorem holder?_of_keepsRule (hvariant : variants[i]? = some variant)
    (hkeeps : ∀ text, ¬ Breaks variants i text) :
    holder? (taggedBefore variants i).reverse (tagAt variants i) = none := by
  rw [holder?_eq_none_iff]
  intro tagged htagged hsame
  obtain ⟨j, hj, holder, hholder, rfl⟩ :=
    (mem_taggedBefore variants i tagged).mp (List.mem_reverse.mp htagged)
  exact hkeeps _ (.taken hvariant (sound_of_keepsRule hvariant hkeeps) hj hholder hsame)

/-- A tag that is taken has the one holder that the rule knows. -/
theorem holder?_of_taken {j : Nat} {holder : Variant} (hfirst : KeepsRule variants i)
    (hi : i < variants.length) (hj : j < i) (hholder : variants[j]? = some holder)
    (hsame : tagAt variants j = tagAt variants i) :
    holder? (taggedBefore variants i).reverse (tagAt variants i) =
      some (taggedAt variants j holder) := by
  have hmem : taggedAt variants j holder ∈ (taggedBefore variants i).reverse :=
    List.mem_reverse.mpr ((mem_taggedBefore ..).mpr ⟨j, hj, holder, hholder, rfl⟩)
  cases hfound : holder? (taggedBefore variants i).reverse (tagAt variants i) with
  | none => exact absurd hsame ((holder?_eq_none_iff _ _).mp hfound _ hmem)
  | some found =>
    have hfoundTag : found.tag = tagAt variants i := by simpa using List.find?_some hfound
    obtain ⟨k, hk, other, hother, rfl⟩ := (mem_taggedBefore variants i found).mp
      (List.mem_reverse.mp (List.mem_of_find?_eq_some hfound))
    obtain rfl : k = j := hfirst.tagAt_inj hk hj (Nat.lt_trans hk hi) (Nat.lt_trans hj hi)
      (hfoundTag.trans hsame.symm)
    rw [hholder] at hother
    cases hother
    rfl

theorem drop_eq_cons (hvariant : variants[i]? = some variant) :
    variants.drop i = variant :: variants.drop (i + 1) := by
  obtain ⟨hi, hget⟩ := List.getElem?_eq_some_iff.mp hvariant
  rw [List.drop_eq_getElem_cons hi, hget]

/-- A variant that keeps the rule gets its tag, and the assignment goes on behind it. -/
theorem assignRest_of_keepsRule (hvariant : variants[i]? = some variant)
    (hkeeps : ∀ text, ¬ Breaks variants i text)
    (hafter : counting.after (tagAt variants i) = .ok (tagAt variants i + 1)) :
    assignRest counting variants i =
      (assignRest counting variants (i + 1)).map (taggedAt variants i variant :: ·) := by
  have htag := tag_of_sound hvariant (sound_of_keepsRule hvariant hkeeps)
  rw [assignRest, drop_eq_cons hvariant, assignFrom]
  simp only [htag, holder?_of_keepsRule hvariant hkeeps, hafter]
  rw [assignRest, taggedBefore_succ hvariant, List.reverse_append]
  rfl

/-- At the first variant that breaks the rule the assignment ends with its report. -/
theorem assignRest_of_breaks (counting : Counting) (hbreaks : Breaks variants i text)
    (hfirst : KeepsRule variants i) :
    (assignRest counting variants i).mapError AssignmentError.message = .error text := by
  cases hbreaks with
  | notLiteral hvariant htext hliteral =>
    rw [assignRest, drop_eq_cons hvariant, assignFrom]
    simp only [Variant.tag, htext, discriminantTag_eq, hliteral]
    rfl
  | tooLarge hvariant htext hliteral hlarge =>
    rename_i variant expression number
    have htag : variant.tag (nextTag variants i) = .error .tooLarge := by
      simp only [Variant.tag, htext, discriminantTag_eq, hliteral]
      exact if_neg (Nat.not_lt.mpr hlarge)
    rw [assignRest, drop_eq_cons hvariant, assignFrom]
    simp only [htag]
    rfl
  | taken hvariant hsound hj hholder hsame =>
    obtain ⟨hi, -⟩ := List.getElem?_eq_some_iff.mp hvariant
    rw [assignRest, drop_eq_cons hvariant, assignFrom]
    simp only [tag_of_sound hvariant hsound, holder?_of_taken hfirst hi hj hholder hsame]
    rfl

/-- As long as the variants keep the rule, the assignment gives them their tags. -/
theorem assignBy_eq {n : Nat} (hkeeps : KeepsRule variants n) (hn : n ≤ variants.length)
    (hcounts : CountsUp counting variants n) :
    assignBy counting variants =
      (assignRest counting variants n).map (taggedBefore variants n ++ ·) := by
  induction n with
  | zero =>
    change assignFrom counting [] 0 variants = (assignFrom counting [] 0 variants).map ([] ++ ·)
    cases assignFrom counting [] 0 variants <;> rfl
  | succ n ih =>
    have hvariant := List.getElem?_eq_getElem hn
    rw [ih (fun j hj => hkeeps j (Nat.lt_succ_of_lt hj)) (Nat.le_of_succ_le hn)
        (fun j hj => hcounts j (Nat.lt_succ_of_lt hj)),
      assignRest_of_keepsRule hvariant (hkeeps n (Nat.lt_succ_self n))
        (hcounts n (Nat.lt_succ_self n)),
      taggedBefore_succ hvariant]
    cases assignRest counting variants (n + 1) with
    | error error => rfl
    | ok later => simp only [Except.map, List.append_assoc, List.singleton_append]

theorem assignBy_of_breaks (hbreaks : Breaks variants i text) (hfirst : KeepsRule variants i)
    (hcounts : CountsUp counting variants i) :
    (assignBy counting variants).mapError AssignmentError.message = .error text := by
  have hrest := assignRest_of_breaks counting hbreaks hfirst
  rw [assignBy_eq hfirst (Nat.le_of_lt hbreaks.lt_length) hcounts]
  cases hassign : assignRest counting variants i with
  | error error =>
    rw [hassign] at hrest
    exact hrest
  | ok later =>
    rw [hassign] at hrest
    contradiction

theorem assignBy_of_keepsRule (hkeeps : KeepsRule variants variants.length)
    (hcounts : CountsUp counting variants variants.length) :
    assignBy counting variants = .ok (variants.mapIdx (taggedAt variants)) := by
  rw [assignBy_eq hkeeps (Nat.le_refl _) hcounts, assignRest, List.drop_length, taggedBefore,
    List.take_length]
  simp only [assignFrom, Except.map, List.append_nil]

theorem assign_of_breaks (hbreaks : Breaks variants i text) (hfirst : KeepsRule variants i) :
    (assign variants).mapError AssignmentError.message = .error text :=
  assignBy_of_breaks hbreaks hfirst (countsUp_unbounded variants i)

theorem assign_of_keepsRule (hkeeps : KeepsRule variants variants.length) :
    assign variants = .ok (variants.mapIdx (taggedAt variants)) :=
  assignBy_of_keepsRule hkeeps (countsUp_unbounded variants _)

theorem exists_first_break (h : Breaks variants i text) :
    ∃ first report, Breaks variants first report ∧ KeepsRule variants first := by
  induction i using Nat.strongRecOn generalizing text with
  | ind i ih =>
    by_cases hfirst : KeepsRule variants i
    · exact ⟨i, text, h, hfirst⟩
    · simp only [KeepsRule, not_forall, not_not] at hfirst
      obtain ⟨j, hj, earlier, hearlier⟩ := hfirst
      exact ih j hj hearlier

/-- Either all variants keep the rule, or one of them is the first to break it. -/
theorem keepsRule_or_exists_first_break (variants : List Variant) :
    KeepsRule variants variants.length ∨
      ∃ first report, Breaks variants first report ∧ KeepsRule variants first := by
  by_cases hkeeps : KeepsRule variants variants.length
  · exact Or.inl hkeeps
  · simp only [KeepsRule, not_forall, not_not] at hkeeps
    obtain ⟨j, hj, text, hbreaks⟩ := hkeeps
    exact Or.inr (exists_first_break hbreaks)

theorem explicitTag?_lt {number : Nat} (hvariant : variants[i]? = some variant)
    (hsound : variant.Sound) (h : explicitTag? variants i = some number) : number < 2 ^ 64 := by
  rw [explicitTag?, hvariant, Option.bind_some, Option.bind_eq_some_iff] at h
  obtain ⟨text, htext, hliteral⟩ := h
  obtain ⟨other, hother, hliteral'⟩ := hsound text htext
  rw [hliteral] at hliteral'
  cases hliteral'
  exact hother

theorem tagAt_lt_of_nextTag (hvariant : variants[i]? = some variant) (hsound : variant.Sound)
    (hnext : nextTag variants i < 2 ^ 64) : tagAt variants i < 2 ^ 64 := by
  rw [tagAt_eq]
  cases hexplicit : explicitTag? variants i with
  | none => exact hnext
  | some number => exact explicitTag?_lt hvariant hsound hexplicit

/-- As long as no tag is the last 64-bit number, the number after each tag is one as well. -/
theorem KeepsRule.nextTag_lt {n : Nat} (h : KeepsRule variants n) (hn : n ≤ variants.length)
    (hlast : ∀ j < n, tagAt variants j ≠ 2 ^ 64 - 1) (hi : i ≤ n) :
    nextTag variants i < 2 ^ 64 := by
  induction i with
  | zero => exact Nat.two_pow_pos 64
  | succ j ih =>
    have hvariant := List.getElem?_eq_getElem (Nat.lt_of_lt_of_le hi hn)
    have hsound := sound_of_keepsRule hvariant (h j hi)
    have htag := tagAt_lt_of_nextTag hvariant hsound (ih (Nat.le_of_succ_le hi))
    have hne := hlast j hi
    rw [nextTag]
    omega

/-- Unless the last 64-bit number is given to a variant before the first that breaks the rule,
variants are accepted or refused alike, however tags are counted. -/
theorem assignBy_eq_assign (counting : Counting)
    (hlast : ∀ n ≤ variants.length, KeepsRule variants n →
      ∀ i < n, tagAt variants i ≠ 2 ^ 64 - 1) :
    (assignBy counting variants).mapError AssignmentError.message =
      (assign variants).mapError AssignmentError.message := by
  have hcounts : ∀ n ≤ variants.length, KeepsRule variants n → CountsUp counting variants n :=
    fun n hn hkeeps _ hj =>
      after_eq_of_lt counting (hkeeps.nextTag_lt hn (hlast n hn hkeeps) hj)
  rcases keepsRule_or_exists_first_break variants with hkeeps | ⟨i, report, hbreaks, hfirst⟩
  · rw [assign_of_keepsRule hkeeps,
      assignBy_of_keepsRule hkeeps (hcounts _ (Nat.le_refl _) hkeeps)]
  · rw [assign_of_breaks hbreaks hfirst,
      assignBy_of_breaks hbreaks hfirst (hcounts i (Nat.le_of_lt hbreaks.lt_length) hfirst)]

/-- A list of variants is refused with the report of the first one that breaks the rule, and only
then. Otherwise the variants get their tags by the rule, in the order of declaration. Variants
before the first that breaks the rule have distinct tags, so that a tag which is taken has one
holder; and none of the tags leaves the 64-bit numbers as long as the last of these is not
given. -/
theorem assign_by_rule (variants : List Variant) :
    (∀ text, (assign variants).mapError AssignmentError.message = .error text ↔
      ∃ i, Breaks variants i text ∧ ∀ j < i, ∀ earlier, ¬ Breaks variants j earlier) ∧
    (∀ tagged, assign variants = .ok tagged ↔
      (∀ i text, ¬ Breaks variants i text) ∧
        tagged = variants.mapIdx fun i variant =>
          ⟨variant.name, variant.fields, tagAt variants i⟩) ∧
    ∀ n ≤ variants.length, (∀ j < n, ∀ text, ¬ Breaks variants j text) →
      (∀ j < n, ∀ k < n, tagAt variants j = tagAt variants k → j = k) ∧
      ((∀ i < n, tagAt variants i ≠ 2 ^ 64 - 1) → ∀ i < n, tagAt variants i + 1 < 2 ^ 64) := by
  refine ⟨?_, ?_, ?_⟩
  · intro text
    constructor
    · intro herror
      rcases keepsRule_or_exists_first_break variants with hkeeps | ⟨i, report, hbreaks, hfirst⟩
      · rw [assign_of_keepsRule hkeeps] at herror
        contradiction
      · rw [assign_of_breaks hbreaks hfirst] at herror
        cases herror
        exact ⟨i, hbreaks, hfirst⟩
    · rintro ⟨i, hbreaks, hfirst⟩
      exact assign_of_breaks hbreaks hfirst
  · intro tagged
    constructor
    · intro hassign
      rcases keepsRule_or_exists_first_break variants with hkeeps | ⟨i, report, hbreaks, hfirst⟩
      · rw [assign_of_keepsRule hkeeps] at hassign
        cases hassign
        exact ⟨fun i text hbreaks => hkeeps i hbreaks.lt_length text hbreaks, rfl⟩
      · have herror := assign_of_breaks hbreaks hfirst
        rw [hassign] at herror
        contradiction
    · rintro ⟨hkeeps, rfl⟩
      exact assign_of_keepsRule fun i _ => hkeeps i
  · intro n hn hkeeps
    refine ⟨fun j hj k hk => ?_, fun hlast i => KeepsRule.nextTag_lt hkeeps hn hlast⟩
    exact KeepsRule.tagAt_inj hkeeps hj hk (Nat.lt_of_lt_of_le hj hn) (Nat.lt_of_lt_of_le hk hn)

/-- An explicit tag below the one before it is accepted, and the implicit tag after it is the
first that is taken. -/
theorem assign_by_rule_at_descending_tags :
    let accepted : List Variant :=
      [⟨"A", .unit, none⟩, ⟨"B", .named, some "7"⟩, ⟨"C", .unnamed, none⟩, ⟨"D", .unit, some "0x6"⟩]
    let refused := accepted ++ [⟨"E", .unit, none⟩, ⟨"F", .unit, some "-1"⟩]
    (∃ i, Breaks refused i "Tag 7 is already used by `B`" ∧
      ∀ j < i, ∀ earlier, ¬ Breaks refused j earlier) ∧
    (∀ i text, ¬ Breaks accepted i text) ∧
    (∀ j < 4, ∀ k < 4, tagAt accepted j = tagAt accepted k → j = k) ∧
    (∀ i < 4, tagAt accepted i ≠ 2 ^ 64 - 1) ∧ ∀ i < 4, tagAt accepted i + 1 < 2 ^ 64 := by
  intro accepted refused
  have herror : (assign refused).mapError AssignmentError.message =
      .error "Tag 7 is already used by `B`" := by
    decide +kernel
  have hassign : assign accepted =
      .ok [⟨"A", .unit, 0⟩, ⟨"B", .named, 7⟩, ⟨"C", .unnamed, 8⟩, ⟨"D", .unit, 6⟩] := by
    decide +kernel
  have htags : (List.range 4).map (tagAt accepted) = [0, 7, 8, 6] := by decide +kernel
  obtain ⟨hkeeps, -⟩ := ((assign_by_rule accepted).2.1 _).mp hassign
  obtain ⟨hdistinct, hbound⟩ := (assign_by_rule accepted).2.2 4 (by decide) fun j _ => hkeeps j
  have hlast : ∀ i < 4, tagAt accepted i ≠ 2 ^ 64 - 1 := by
    intro i hi hsame
    have hmem : tagAt accepted i ∈ [0, 7, 8, 6] := by
      rw [← htags]
      exact List.mem_map_of_mem (List.mem_range.mpr hi)
    rw [hsame] at hmem
    revert hmem
    decide
  exact ⟨((assign_by_rule refused).1 _).mp herror, hkeeps, hdistinct, hlast, hbound hlast⟩

end TaggedMachine.Enumeration
