import Mathlib.Data.List.Forall2
import MetaConfig.Proofs.Json.Leaves

/-!
JSON texts as trees of what is written in them. A scalar is known by the text that it begins, and
an object has all members that are written, also those that a later member replaces. Every text
that is read has such a tree, and what a path leads to in the value that is read was read from the
text that it leads to in the tree.
-/

namespace MetaConfig.Json

open Text

inductive Written where
  | scalar (text : Text)
  | array (items : List Written)
  | object (members : List (Text × Written))

namespace Written

def step? : Step → Written → Option Written
  | .member name, object members => members.reverse.lookup name
  | .item index, array items => items[index]?
  | _, _ => none

def at? : Path → Written → Option Written
  | [], written => some written
  | step :: path, written => (written.step? step).bind (at? path)

mutual

inductive Begins : Written → (text rest : Text) → Prop
  | scalar {value text place rest} : skipBlanks text = place →
      readScalar? place = .ok (some (value, rest)) → Begins (.scalar place) text rest
  | array {items text inside rest} : skipBlanks text = '[' :: inside →
      BeginsItems items true inside rest → Begins (.array items) text rest
  | object {members text inside rest} : skipBlanks text = '\x7b' :: inside →
      BeginsMembers members true inside rest → Begins (.object members) text rest

inductive BeginsItems : List Written → (first : Bool) → (text rest : Text) → Prop
  | closing {first text rest} : nextItem first text = .ok (false, rest) →
      BeginsItems [] first text rest
  | item {item items first text between after rest} : nextItem first text = .ok (true, between) →
      Begins item between after → BeginsItems items false after rest →
      BeginsItems (item :: items) first text rest

inductive BeginsMembers : List (Text × Written) → (first : Bool) → (text rest : Text) → Prop
  | closing {first text rest} : nextName first text = .ok (false, rest) →
      BeginsMembers [] first text rest
  | member {name value members first text opened named between after rest} :
      nextName first text = .ok (true, opened) → readString opened = .ok (name, named) →
      readColon named = .ok between → Begins value between after →
      BeginsMembers members false after rest →
      BeginsMembers ((name, value) :: members) first text rest

end

def Agrees (written : Written) (value : Value) : Prop :=
  ∀ path text, written.at? path = some (.scalar text) →
    ∃ leaf rest, readScalar? text = .ok (some (leaf, rest)) ∧ value.at? path = some leaf

def AgreesMember (member : Text × Written) (found : Text × Value) : Prop :=
  member.1 = found.1 ∧ member.2.Agrees found.2

theorem agrees_scalar {text rest : Text} {value : Value}
    (read : readScalar? text = .ok (some (value, rest))) : (scalar text).Agrees value := by
  intro path place leads
  cases path with
  | nil =>
      obtain rfl := Written.scalar.inj (Option.some.inj leads)
      exact ⟨value, rest, read, rfl⟩
  | cons step path => cases step <;> contradiction

theorem agrees_array {items : List Written} {values : List Value}
    (agree : List.Forall₂ Agrees items values) : (array items).Agrees (.array values) := by
  intro path text leads
  cases path with
  | nil => cases leads
  | cons step path =>
      cases step with
      | member name => contradiction
      | item index =>
          obtain ⟨item, inItems, leads⟩ := Option.bind_eq_some_iff.mp leads
          obtain ⟨bound, rfl⟩ := List.getElem?_eq_some_iff.mp inItems
          have valueBound : index < values.length := agree.length_eq ▸ bound
          obtain ⟨leaf, rest, read, found⟩ := agree.get bound valueBound path text leads
          refine ⟨leaf, rest, read, ?_⟩
          simpa [Value.at?, Value.step?, Value.array?, valueBound] using found

theorem exists_lookup_of_agreesMember {members : List (Text × Written)}
    {found : List (Text × Value)} (agree : List.Forall₂ AgreesMember members found)
    {name : Text} {written : Written} (known : members.lookup name = some written) :
    ∃ value, found.lookup name = some value ∧ written.Agrees value := by
  induction agree with
  | nil => contradiction
  | @cons member other members found agrees _ ih =>
      obtain ⟨first, value⟩ := member
      obtain ⟨second, otherValue⟩ := other
      obtain ⟨names, valueAgrees⟩ := agrees
      obtain rfl : first = second := names
      simp only [List.lookup_cons] at known ⊢
      cases same : name == first with
      | true =>
          simp only [same, Option.some.injEq] at known ⊢
          exact ⟨otherValue, rfl, known ▸ valueAgrees⟩
      | false =>
          simp only [same] at known ⊢
          exact ih known

theorem agrees_object {members : List (Text × Written)} {written : List (Text × Value)}
    (agree : List.Forall₂ AgreesMember members written) :
    (object members).Agrees (.ofMembers written) := by
  intro path text leads
  cases path with
  | nil => cases leads
  | cons step path =>
      cases step with
      | item index => contradiction
      | member name =>
          obtain ⟨member, inMembers, leads⟩ := Option.bind_eq_some_iff.mp leads
          obtain ⟨value, inWritten, agrees⟩ :=
            exists_lookup_of_agreesMember (List.forall₂_reverse_iff.mpr agree) inMembers
          obtain ⟨leaf, rest, read, found⟩ := agrees path text leads
          obtain ⟨kept, isObject, merges⟩ := Value.exists_merges_ofMembers written
          refine ⟨leaf, rest, read, ?_⟩
          rw [isObject, Value.at?, Value.step?, Value.member?_object, merges.lookup_eq, inWritten]
          exact found

structure AgreesWithin (fuel : Nat) : Prop where
  value {levels text value rest written after} : readValue fuel levels text = .ok (value, rest) →
    Begins written text after → after = rest ∧ written.Agrees value
  items {levels first text values rest items after} :
    readItems fuel levels first text = .ok (values, rest) →
    BeginsItems items first text after → after = rest ∧ List.Forall₂ Agrees items values
  members {levels first text found rest members after} :
    readMembers fuel levels first text = .ok (found, rest) →
    BeginsMembers members first text after → after = rest ∧ List.Forall₂ AgreesMember members found

variable {fuel : Nat}

theorem AgreesWithin.value_succ (ih : AgreesWithin fuel) {levels : Nat} {text rest after : Text}
    {value : Value} {written : Written}
    (found : readValue (fuel + 1) levels text = .ok (value, rest))
    (begins : Begins written text after) : after = rest ∧ written.Agrees value := by
  -- The first character decides what is read and what is written, so the two are of one kind.
  rcases cases_of_readValue found with scalarRead |
    ⟨inside, _, _, ⟨items, opened, itemsRead, rfl⟩ | ⟨members, opened, membersRead, rfl⟩⟩
  · cases begins with
    | scalar place read =>
        subst place
        obtain ⟨rfl, rfl⟩ := by simpa [scalarRead] using read
        exact ⟨rfl, agrees_scalar scalarRead⟩
    | array opened _ =>
        rw [opened] at scalarRead
        cases scalarRead
    | object opened _ =>
        rw [opened] at scalarRead
        cases scalarRead
  · cases begins with
    | scalar place read =>
        rw [← place, opened] at read
        cases read
    | array alsoOpened itemsBegin =>
        obtain rfl := (List.cons.inj (opened.symm.trans alsoOpened)).2
        obtain ⟨stops, agree⟩ := ih.items itemsRead itemsBegin
        exact ⟨stops, agrees_array agree⟩
    | object alsoOpened _ => simp [opened] at alsoOpened
  · cases begins with
    | scalar place read =>
        rw [← place, opened] at read
        cases read
    | array alsoOpened _ => simp [opened] at alsoOpened
    | object alsoOpened membersBegin =>
        obtain rfl := (List.cons.inj (opened.symm.trans alsoOpened)).2
        obtain ⟨stops, agree⟩ := ih.members membersRead membersBegin
        exact ⟨stops, agrees_object agree⟩

theorem AgreesWithin.items_succ (ih : AgreesWithin fuel) {levels : Nat} {first : Bool}
    {text rest after : Text} {values : List Value} {items : List Written}
    (found : readItems (fuel + 1) levels first text = .ok (values, rest))
    (begins : BeginsItems items first text after) :
    after = rest ∧ List.Forall₂ Agrees items values := by
  rcases cases_of_readItems found with ⟨closed, rfl⟩ |
    ⟨between, value, afterValue, others, goesOn, valueRead, othersRead, rfl⟩
  · cases begins with
    | closing alsoClosed =>
        obtain rfl := by simpa [closed] using alsoClosed
        exact ⟨rfl, .nil⟩
    | item goesOn => simp [closed] at goesOn
  · cases begins with
    | closing closed => simp [goesOn] at closed
    | item alsoGoesOn itemBegins itemsBegin =>
        obtain rfl := by simpa [goesOn] using alsoGoesOn
        obtain ⟨rfl, agrees⟩ := ih.value valueRead itemBegins
        obtain ⟨stops, agree⟩ := ih.items othersRead itemsBegin
        exact ⟨stops, .cons agrees agree⟩

theorem AgreesWithin.members_succ (ih : AgreesWithin fuel) {levels : Nat} {first : Bool}
    {text rest after : Text} {found : List (Text × Value)} {members : List (Text × Written)}
    (read : readMembers (fuel + 1) levels first text = .ok (found, rest))
    (begins : BeginsMembers members first text after) :
    after = rest ∧ List.Forall₂ AgreesMember members found := by
  rcases cases_of_readMembers read with ⟨closed, rfl⟩ |
    ⟨opened, name, named, between, value, afterValue, others, goesOn, nameRead, colonRead,
      valueRead, othersRead, rfl⟩
  · cases begins with
    | closing alsoClosed =>
        obtain rfl := by simpa [closed] using alsoClosed
        exact ⟨rfl, .nil⟩
    | member goesOn => simp [closed] at goesOn
  · cases begins with
    | closing closed => simp [goesOn] at closed
    | member alsoGoesOn alsoName alsoColon valueBegins membersBegin =>
        obtain rfl := by simpa [goesOn] using alsoGoesOn
        obtain ⟨rfl, rfl⟩ := by simpa [nameRead] using alsoName
        obtain rfl := by simpa [colonRead] using alsoColon
        obtain ⟨rfl, agrees⟩ := ih.value valueRead valueBegins
        obtain ⟨stops, agree⟩ := ih.members othersRead membersBegin
        exact ⟨stops, .cons ⟨rfl, agrees⟩ agree⟩

theorem agreesWithin (fuel : Nat) : AgreesWithin fuel := by
  induction fuel with
  | zero =>
      constructor
      · intro levels text value rest written after found
        cases found
      · intro levels first text values rest items after found
        cases found
      · intro levels first text found rest members after read
        cases read
  | succ fuel ih => exact ⟨ih.value_succ, ih.items_succ, ih.members_succ⟩

structure IsWrittenWithin (fuel : Nat) : Prop where
  value {levels text value rest} : readValue fuel levels text = .ok (value, rest) →
    ∃ written, Begins written text rest
  items {levels first text values rest} : readItems fuel levels first text = .ok (values, rest) →
    ∃ items, BeginsItems items first text rest
  members {levels first text found rest} :
    readMembers fuel levels first text = .ok (found, rest) →
    ∃ members, BeginsMembers members first text rest

theorem isWrittenWithin (fuel : Nat) : IsWrittenWithin fuel := by
  induction fuel with
  | zero =>
      constructor
      · intro levels text value rest found
        cases found
      · intro levels first text values rest found
        cases found
      · intro levels first text found rest read
        cases read
  | succ fuel ih =>
      constructor
      · intro levels text value rest found
        rcases cases_of_readValue found with scalarRead |
          ⟨inside, _, _, ⟨_, opened, itemsRead, _⟩ | ⟨_, opened, membersRead, _⟩⟩
        · exact ⟨_, .scalar rfl scalarRead⟩
        · obtain ⟨items, begins⟩ := ih.items itemsRead
          exact ⟨_, .array opened begins⟩
        · obtain ⟨members, begins⟩ := ih.members membersRead
          exact ⟨_, .object opened begins⟩
      · intro levels first text values rest found
        rcases cases_of_readItems found with ⟨closed, _⟩ |
          ⟨_, _, _, _, goesOn, valueRead, othersRead, _⟩
        · exact ⟨_, .closing closed⟩
        · obtain ⟨item, itemBegins⟩ := ih.value valueRead
          obtain ⟨items, itemsBegin⟩ := ih.items othersRead
          exact ⟨_, .item goesOn itemBegins itemsBegin⟩
      · intro levels first text found rest read
        rcases cases_of_readMembers read with ⟨closed, _⟩ |
          ⟨_, _, _, _, _, _, _, goesOn, nameRead, colonRead, valueRead, othersRead, _⟩
        · exact ⟨_, .closing closed⟩
        · obtain ⟨value, valueBegins⟩ := ih.value valueRead
          obtain ⟨members, membersBegin⟩ := ih.members othersRead
          exact ⟨_, .member goesOn nameRead colonRead valueBegins membersBegin⟩

/-! ## Whole texts -/

theorem exists_begins_of_read {source : Text} {value : Value}
    (found : Value.read source = .ok value) : ∃ written rest, Begins written source rest := by
  obtain ⟨⟨content, rest⟩, valueRead, _⟩ := exists_of_bind_eq_ok found
  obtain ⟨written, begins⟩ := (isWrittenWithin _).value valueRead
  exact ⟨written, rest, begins⟩

theorem agrees_of_read {source rest : Text} {value : Value} {written : Written}
    (found : Value.read source = .ok value) (begins : Begins written source rest) :
    written.Agrees value := by
  obtain ⟨⟨content, after⟩, valueRead, found⟩ := exists_of_bind_eq_ok found
  obtain ⟨_, -, found⟩ := exists_of_bind_eq_ok found
  cases found
  exact ((agreesWithin _).value valueRead begins).2

end Written

end MetaConfig.Json
