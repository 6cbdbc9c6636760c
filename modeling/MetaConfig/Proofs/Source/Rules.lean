import MetaConfig.Proofs.Source.Literal
import MetaConfig.Proofs.Text.Cutting

/-!
The rules that a text is typed by, each as the form of the texts that it accepts. Single
characters tell which rule can accept a text, so no text is accepted by two, and the type is the
same in whatever order the rules are tried.
-/

namespace MetaConfig.Scalar

open Text

inductive Rule where
  | boolean
  | integer
  | fraction
  | reference
  deriving DecidableEq

def IsDigits (text : Text) : Prop :=
  text ≠ [] ∧ ∀ char ∈ text, isDigit char = true

def IsPointed (text : Text) : Prop :=
  ∃ whole fraction, text = whole ++ '.' :: fraction ∧
    (∀ char ∈ whole, isDigit char = true) ∧ IsDigits fraction

def Signed (Form : Text → Prop) (text : Text) : Prop :=
  Form text ∨ ∃ rest, text = '-' :: rest ∧ Form rest

namespace Rule

def all : List Rule := [boolean, integer, fraction, reference]

theorem mem_all (rule : Rule) : rule ∈ all := by
  cases rule <;> decide

def type : Rule → ValueType
  | boolean => .bool
  | integer => .int
  | fraction => .float
  | reference => .env

theorem type_injective : Function.Injective type := by
  have apart : ∀ rule ∈ all, ∀ other ∈ all, rule.type = other.type → rule = other := by decide
  intro rule other
  exact apart rule rule.mem_all other other.mem_all

theorem type_ne_string (rule : Rule) : rule.type ≠ .string := by
  cases rule <;> decide

def Accepts : Rule → Text → Prop
  | boolean, text =>
      text.map Char.toLower = "true".toList ∨ text.map Char.toLower = "false".toList
  | integer, text => Signed IsDigits text
  | fraction, text => Signed IsPointed text
  | reference, text => '$' ∈ text

def test : Rule → Text → Bool
  | boolean, text => isBooleanText text
  | integer, text => isIntegerText text
  | fraction, text => isFractionText text
  | reference, text => text.contains '$'

end Rule

theorem signed_iff {Form : Text → Prop} (unsigned : ∀ rest, ¬ Form ('-' :: rest)) (text : Text) :
    Signed Form text ↔ Form (withoutMinus text) := by
  constructor
  · rintro (formed | ⟨rest, rfl, formed⟩)
    · unfold withoutMinus
      split
      · rename_i rest
        exact absurd formed (unsigned rest)
      · exact formed
    · exact formed
  · intro formed
    unfold withoutMinus at formed
    split at formed
    · exact .inr ⟨_, rfl, formed⟩
    · exact .inl formed

theorem signed_append (negative : Bool) {Form : Text → Prop} {text : Text} (formed : Form text) :
    Signed Form ((if negative then ['-'] else []) ++ text) := by
  cases negative with
  | true => exact .inr ⟨text, rfl, formed⟩
  | false => exact .inl formed

theorem Signed.mem_form {Form : Text → Prop} {text : Text} (signed : Signed Form text) :
    ∃ form, Form form ∧ (∀ char ∈ form, char ∈ text) ∧ ∀ char ∈ text, char = '-' ∨ char ∈ form := by
  rcases signed with formed | ⟨rest, rfl, formed⟩
  · exact ⟨text, formed, fun _ member => member, fun _ member => .inr member⟩
  · exact ⟨rest, formed, fun _ member => List.mem_cons_of_mem _ member,
      fun _ member => List.mem_cons.mp member⟩

theorem isIntegerText_iff {text : Text} :
    isIntegerText text = true ↔ IsDigits (withoutMinus text) := by
  simp [isIntegerText, IsDigits]

theorem isFractionText_iff {text : Text} :
    isFractionText text = true ↔ IsPointed (withoutMinus text) := by
  unfold isFractionText IsPointed IsDigits
  constructor
  · intro accepted
    cases cut : splitOnce '.' (withoutMinus text) with
    | none => simp [cut] at accepted
    | some parts =>
        obtain ⟨whole, fraction⟩ := parts
        simp only [cut, Bool.and_eq_true, List.all_eq_true, Bool.not_eq_true',
          List.isEmpty_eq_false_iff] at accepted
        obtain ⟨⟨wholeDigits, nonempty⟩, fractionDigits⟩ := accepted
        exact ⟨whole, fraction, (eq_append_of_splitOnce cut).1, wholeDigits, nonempty,
          fractionDigits⟩
  · rintro ⟨whole, fraction, spelled, wholeDigits, nonempty, fractionDigits⟩
    have absent : '.' ∉ whole := fun inside => absurd (wholeDigits '.' inside) (by decide)
    simp only [spelled, splitOnce_append_cons absent, Bool.and_eq_true, List.all_eq_true,
      Bool.not_eq_true', List.isEmpty_eq_false_iff]
    exact ⟨⟨wholeDigits, nonempty⟩, fractionDigits⟩

namespace Rule

theorem test_eq_true_iff (rule : Rule) (text : Text) :
    rule.test text = true ↔ rule.Accepts text := by
  have minus : isDigit '-' ≠ true := by decide
  cases rule with
  | boolean => simp [test, Accepts, isBooleanText]
  | integer =>
      have unsigned (rest : Text) : ¬ IsDigits ('-' :: rest) := by
        intro digits
        exact minus (digits.2 '-' List.mem_cons_self)
      rw [test, Accepts, signed_iff unsigned, isIntegerText_iff]
  | fraction =>
      have unsigned (rest : Text) : ¬ IsPointed ('-' :: rest) := by
        rintro ⟨whole, fraction, spelled, wholeDigits, -⟩
        cases whole with
        | nil => simp at spelled
        | cons first others =>
            obtain ⟨rfl, -⟩ := List.cons.inj spelled
            exact minus (wholeDigits '-' List.mem_cons_self)
      rw [test, Accepts, signed_iff unsigned, isFractionText_iff]
  | reference => simp [test, Accepts]

instance (rule : Rule) (text : Text) : Decidable (rule.Accepts text) :=
  decidable_of_iff _ (test_eq_true_iff rule text)

/-! ## No text is accepted by two rules -/

theorem toLower_of_isDigit {char : Char} (digit : isDigit char = true) : char.toLower = char := by
  simp only [isDigit, Bool.and_eq_true, decide_eq_true_eq] at digit
  have small : char.toNat ≤ 57 := digit.2
  refine dif_neg ?_
  rintro ⟨capital, _⟩
  have large : 65 ≤ char.toNat := capital
  omega

def ofCharacters (text : Text) : Rule :=
  if '$' ∈ text then reference
  else if '.' ∈ text then fraction
  else if text.any isDigit = true then integer
  else boolean

theorem characters_of_boolean {text : Text} (accepted : boolean.Accepts text) :
    '$' ∉ text ∧ '.' ∉ text ∧ ∀ char ∈ text, isDigit char ≠ true := by
  have letter {char : Char} (member : char ∈ text) : char.toLower ∈ "truefalse".toList := by
    have lowered : char.toLower ∈ text.map Char.toLower := List.mem_map_of_mem member
    rcases accepted with same | same
    · rw [same] at lowered
      exact List.mem_append_left "false".toList lowered
    · rw [same] at lowered
      exact List.mem_append_right "true".toList lowered
  refine ⟨?_, ?_, ?_⟩
  · intro member
    exact absurd (letter member) (by decide)
  · intro member
    exact absurd (letter member) (by decide)
  · intro char member digit
    have noDigit : ∀ letter ∈ "truefalse".toList, isDigit letter = false := by simp [isDigit]
    have lowered := letter member
    rw [toLower_of_isDigit digit] at lowered
    rw [noDigit char lowered] at digit
    contradiction

theorem characters_of_integer {text : Text} (accepted : integer.Accepts text) :
    '$' ∉ text ∧ '.' ∉ text ∧ ∃ char ∈ text, isDigit char = true := by
  obtain ⟨form, ⟨nonempty, digits⟩, inText, inForm⟩ := Signed.mem_form accepted
  refine ⟨?_, ?_, ?_⟩
  · intro member
    exact absurd (digits '$' ((inForm '$' member).resolve_left (by decide))) (by decide)
  · intro member
    exact absurd (digits '.' ((inForm '.' member).resolve_left (by decide))) (by decide)
  · obtain ⟨char, member⟩ := List.exists_mem_of_ne_nil form nonempty
    exact ⟨char, inText char member, digits char member⟩

theorem mem_of_fraction {text : Text} (accepted : fraction.Accepts text) {char : Char}
    (member : char ∈ text) : char = '-' ∨ char = '.' ∨ isDigit char = true := by
  obtain ⟨_, ⟨whole, fraction, rfl, wholeDigits, _, fractionDigits⟩, _, inForm⟩ :=
    Signed.mem_form accepted
  rcases inForm char member with minus | inside
  · exact .inl minus
  · rcases List.mem_append.mp inside with early | late
    · exact .inr (.inr (wholeDigits char early))
    · exact .inr ((List.mem_cons.mp late).imp_right (fractionDigits char))

theorem characters_of_fraction {text : Text} (accepted : fraction.Accepts text) :
    '$' ∉ text ∧ '.' ∈ text := by
  obtain ⟨_, ⟨whole, fraction, rfl, -⟩, inText, -⟩ := Signed.mem_form accepted
  constructor
  · intro member
    exact absurd (mem_of_fraction accepted member) (by decide)
  · exact inText '.' (by simp)

theorem eq_ofCharacters {rule : Rule} {text : Text} (accepted : rule.Accepts text) :
    rule = ofCharacters text := by
  unfold ofCharacters
  cases rule with
  | boolean =>
      obtain ⟨noReference, noPoint, noDigit⟩ := characters_of_boolean accepted
      rw [if_neg noReference, if_neg noPoint, if_neg]
      intro some
      obtain ⟨char, member, digit⟩ := List.any_eq_true.mp some
      exact noDigit char member digit
  | integer =>
      obtain ⟨noReference, noPoint, digit⟩ := characters_of_integer accepted
      rw [if_neg noReference, if_neg noPoint, if_pos (List.any_eq_true.mpr digit)]
  | fraction =>
      obtain ⟨noReference, point⟩ := characters_of_fraction accepted
      rw [if_neg noReference, if_pos point]
  | reference => exact (if_pos accepted).symm

theorem eq_of_accepts {rule other : Rule} {text : Text} (accepted : rule.Accepts text)
    (otherAccepted : other.Accepts text) : rule = other :=
  (eq_ofCharacters accepted).trans (eq_ofCharacters otherAccepted).symm

/-! ## The order of the rules -/

def typeIn : (order : List Rule) → Text → ValueType
  | [], _ => .string
  | rule :: order, text => if rule.Accepts text then rule.type else typeIn order text

theorem typeIn_of_accepts {order : List Rule} {rule : Rule} {text : Text} (member : rule ∈ order)
    (accepted : rule.Accepts text) : typeIn order text = rule.type := by
  induction order with
  | nil => contradiction
  | cons first others ih =>
      rw [typeIn]
      by_cases firstAccepted : first.Accepts text
      · rw [if_pos firstAccepted, eq_of_accepts firstAccepted accepted]
      · rw [if_neg firstAccepted]
        rcases List.mem_cons.mp member with rfl | later
        · exact absurd accepted firstAccepted
        · exact ih later

theorem typeIn_of_refused {text : Text} (refused : ∀ rule : Rule, ¬ rule.Accepts text)
    (order : List Rule) : typeIn order text = .string := by
  induction order with
  | nil => rfl
  | cons first others ih => rw [typeIn, if_neg (refused first), ih]

/-- Inference tries the rules in the order in which they are listed. -/
theorem type_infer_eq_typeIn (text : Text) : (infer text).type = typeIn all text := by
  simp only [infer, apply_ite Scalar.type, all, typeIn, ← test_eq_true_iff, test, type]

section Order

variable {order : List Rule} (complete : ∀ rule, rule ∈ order) (text : Text)

include complete

theorem typeIn_eq_string_iff :
    typeIn order text = .string ↔ ∀ rule : Rule, ¬ rule.Accepts text := by
  constructor
  · intro same rule accepted
    rw [typeIn_of_accepts (complete rule) accepted] at same
    exact rule.type_ne_string same
  · intro refused
    exact typeIn_of_refused refused order

theorem typeIn_eq_type_iff (rule : Rule) :
    typeIn order text = rule.type ↔ rule.Accepts text := by
  constructor
  · intro same
    have notString : typeIn order text ≠ .string := same ▸ rule.type_ne_string
    rw [Ne, typeIn_eq_string_iff complete, not_forall_not] at notString
    obtain ⟨other, accepted⟩ := notString
    rw [typeIn_of_accepts (complete other) accepted] at same
    exact type_injective same ▸ accepted
  · exact typeIn_of_accepts (complete rule)

theorem typeIn_eq_typeIn {other : List Rule} (otherComplete : ∀ rule, rule ∈ other) :
    typeIn order text = typeIn other text := by
  by_cases refused : ∀ rule : Rule, ¬ rule.Accepts text
  · rw [typeIn_of_refused refused, typeIn_of_refused refused]
  · obtain ⟨rule, accepted⟩ := not_forall_not.mp refused
    rw [typeIn_of_accepts (complete rule) accepted, typeIn_of_accepts (otherComplete rule) accepted]

end Order

theorem type_infer_eq_iff (rule : Rule) (text : Text) :
    (infer text).type = rule.type ↔ rule.Accepts text := by
  rw [type_infer_eq_typeIn]
  exact typeIn_eq_type_iff mem_all text rule

theorem literal_infer_eq_ite_type (text : Text) : (infer text).literal =
    if (infer text).type = .bool then text.map Char.toLower else text := by
  have isBoolean : (infer text).type = .bool ↔ isBooleanText text = true :=
    (boolean.type_infer_eq_iff text).trans (test_eq_true_iff boolean text).symm
  rw [literal_infer_eq_ite]
  simp only [isBoolean]

theorem infer_of_accepts (rule : Rule) (notBoolean : rule ≠ boolean) {text : Text}
    (accepted : rule.Accepts text) : infer text = ⟨text, rule.type⟩ := by
  have typed : (infer text).type = rule.type := (rule.type_infer_eq_iff text).mpr accepted
  have notBool : (infer text).type ≠ .bool := by
    intro bool
    exact notBoolean (type_injective (typed.symm.trans bool))
  have kept : (infer text).literal = text := by
    rw [literal_infer_eq_ite_type, if_neg notBool]
  calc infer text
    _ = ⟨(infer text).literal, (infer text).type⟩ := rfl
    _ = ⟨text, rule.type⟩ := by rw [kept, typed]

end Rule

/-- At most one rule accepts a text, and the type is that of this rule, or a string; whatever the
order of the rules. The literal is the text, a boolean in lower case, and it is typed alike. -/
theorem infer_follows_rules (text : Text) :
    (∀ rule other : Rule, rule.Accepts text → other.Accepts text → rule = other) ∧
      (∀ rule : Rule, (infer text).type = rule.type ↔ rule.Accepts text) ∧
      ((infer text).type = .string ↔ ∀ rule : Rule, ¬ rule.Accepts text) ∧
      (∀ order : List Rule, (∀ rule, rule ∈ order) →
        Rule.typeIn order text = (infer text).type) ∧
      (infer text).literal =
        (if (infer text).type = .bool then text.map Char.toLower else text) ∧
      infer (infer text).literal = infer text := by
  refine ⟨fun _ _ => Rule.eq_of_accepts, fun rule => rule.type_infer_eq_iff text, ?_, ?_,
    Rule.literal_infer_eq_ite_type text, infer_literal_infer text⟩
  · rw [Rule.type_infer_eq_typeIn]
    exact Rule.typeIn_eq_string_iff Rule.mem_all text
  · intro order complete
    rw [Rule.type_infer_eq_typeIn]
    exact Rule.typeIn_eq_typeIn complete text Rule.mem_all

-- Signs and points alone make no number, nor does a line break after one or another script.
example : ["-".toList, "-.".toList, "1.".toList, "+1".toList, "1\n".toList, "١".toList].map
    (fun text => (infer text).type) = List.replicate 6 .string := by decide

end MetaConfig.Scalar
