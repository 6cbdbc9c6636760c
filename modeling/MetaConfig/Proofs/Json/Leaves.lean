import Mathlib.Data.List.Nodup
import MetaConfig.Proofs.Json.Members

/-!
Values as trees. A path leads from a value to one inside it by the names of members and the
indexes of items, and the scalars at the ends of the paths are the leaves of the value. They are
listed in document order, each with the path to it, and no path is listed twice.
-/

namespace MetaConfig.Json

open Text

inductive Step where
  | member (name : Text)
  | item (index : Nat)
  deriving DecidableEq, Repr

abbrev Path := List Step

namespace Value

def step? : Step → Value → Option Value
  | .member name, value => value.member? name
  | .item index, value => value.array?.bind fun items => items[index]?

def at? : Path → Value → Option Value
  | [], value => some value
  | step :: path, value => (value.step? step).bind (at? path)

def children : Value → List (Step × Value)
  | array items => items.zipIdx.map fun (item, index) => (.item index, item)
  | object members => members.map fun (name, value) => (.member name, value)
  | _ => []

/-- One path comes before another in a value: where the two part, its step is to an earlier
member or item. -/
inductive Precedes : Value → Path → Path → Prop
  | parting {value step other path otherPath} :
      [step, other].Sublist (value.children.map Prod.fst) →
      Precedes value (step :: path) (other :: otherPath)
  | within {value child step path otherPath} : (step, child) ∈ value.children →
      Precedes child path otherPath → Precedes value (step :: path) (step :: otherPath)

theorem sizeOf_lt_of_mem_children {value : Value} {child : Step × Value}
    (inside : child ∈ value.children) : sizeOf child.2 < sizeOf value := by
  cases value with
  | array items =>
      obtain ⟨⟨item, index⟩, member, rfl⟩ := List.mem_map.mp inside
      have smaller : sizeOf item < sizeOf items :=
        List.sizeOf_lt_of_mem (List.fst_mem_of_mem_zipIdx member)
      simp only [array.sizeOf_spec]
      omega
  | object members =>
      obtain ⟨⟨name, value⟩, member, rfl⟩ := List.mem_map.mp inside
      have smaller := List.sizeOf_lt_of_mem member
      simp only [object.sizeOf_spec, Prod.mk.sizeOf_spec] at smaller ⊢
      omega
  | null => contradiction
  | boolean value => contradiction
  | number value => contradiction
  | string value => contradiction

theorem induction {motive : Value → Prop}
    (fromChildren : ∀ value, (∀ child ∈ value.children, motive child.2) → motive value)
    (value : Value) : motive value :=
  fromChildren value fun child _ => induction fromChildren child.2
termination_by sizeOf value
decreasing_by exact sizeOf_lt_of_mem_children ‹_›

def leaves (value : Value) : List (Path × Value) :=
  if value.isScalar then [([], value)]
  else value.children.attach.flatMap fun child =>
    child.1.2.leaves.map fun leaf => (child.1.1 :: leaf.1, leaf.2)
termination_by sizeOf value
decreasing_by exact sizeOf_lt_of_mem_children child.2

theorem leaves_of_scalar {value : Value} (scalar : value.isScalar = true) :
    value.leaves = [([], value)] := by
  rw [leaves, if_pos scalar]

theorem leaves_of_container {value : Value} (container : value.isScalar = false) :
    value.leaves = value.children.flatMap fun child =>
      child.2.leaves.map fun leaf => (child.1 :: leaf.1, leaf.2) := by
  rw [leaves, if_neg (by simp [container])]
  conv_rhs => rw [← List.attach_map_subtype_val value.children, List.flatMap_map]

/-! ## Steps -/

theorem member?_object (name : Text) (members : List (Text × Value)) :
    (object members).member? name = members.lookup name := by
  rw [member?]
  induction members with
  | nil => rfl
  | cons first others ih =>
      obtain ⟨other, value⟩ := first
      rw [lookup_cons_eq_ite, List.find?_cons]
      by_cases same : other = name
      · simp [same]
      · simp [beq_false_of_ne same, Ne.symm same, ih]

theorem lookup_eq_some_iff_mem {members : List (Text × Value)} (differ : NamesDiffer members)
    {name : Text} {value : Value} :
    members.lookup name = some value ↔ (name, value) ∈ members := by
  constructor
  · intro found
    obtain ⟨before, after, rfl, -⟩ := List.lookup_eq_some_iff.mp found
    simp
  · intro member
    obtain ⟨before, after, rfl⟩ := List.append_of_mem member
    refine List.lookup_eq_some_iff.mpr ⟨before, after, rfl, ?_⟩
    intro earlier inside
    rw [NamesDiffer, List.map_append, List.map_cons] at differ
    have apart := (List.nodup_append.mp differ).2.2 earlier.1 (List.mem_map_of_mem inside) name
      List.mem_cons_self
    simpa using Ne.symm apart

theorem children_of_scalar {value : Value} (scalar : value.isScalar = true) :
    value.children = [] := by
  cases value with
  | array items => contradiction
  | object members => contradiction
  | _ => rfl

theorem step?_of_scalar {value : Value} (scalar : value.isScalar = true) (step : Step) :
    value.step? step = none := by
  cases value with
  | array items => contradiction
  | object members => contradiction
  | _ => cases step <;> rfl

theorem EveryObject.of_mem_children {condition : List (Text × Value) → Prop} {value : Value}
    (holds : value.EveryObject condition) {child : Step × Value} (inside : child ∈ value.children) :
    child.2.EveryObject condition := by
  cases holds with
  | scalar scalar => simp [children_of_scalar scalar] at inside
  | array itemsHold =>
      obtain ⟨⟨item, index⟩, member, rfl⟩ := List.mem_map.mp inside
      exact itemsHold item (List.fst_mem_of_mem_zipIdx member)
  | object _ membersHold =>
      obtain ⟨member, known, rfl⟩ := List.mem_map.mp inside
      exact membersHold member known

theorem step?_eq_some_iff {value child : Value} (differ : value.EveryObject NamesDiffer)
    {step : Step} : value.step? step = some child ↔ (step, child) ∈ value.children := by
  cases differ with
  | scalar scalar => simp [step?_of_scalar scalar, children_of_scalar scalar]
  | array _ =>
      cases step with
      | member name => simp [step?, member?, children]
      | item index => simp [step?, array?, children, List.mem_zipIdx_iff_getElem?]
  | object here _ =>
      cases step with
      | member name => simp [step?, member?_object, children, lookup_eq_some_iff_mem here]
      | item index => simp [step?, array?, children]

theorem nodup_steps {value : Value} (differ : value.EveryObject NamesDiffer) :
    (value.children.map Prod.fst).Nodup := by
  cases differ with
  | scalar scalar => simp [children_of_scalar scalar]
  | @array items _ =>
      have steps : (children (.array items)).map Prod.fst =
          (items.zipIdx.map Prod.snd).map Step.item := by
        rw [children, List.map_map, List.map_map]
        rfl
      rw [steps, List.zipIdx_map_snd]
      exact List.Nodup.map (fun first second same => Step.item.inj same) List.nodup_range'
  | @object members here _ =>
      have steps : (children (.object members)).map Prod.fst =
          (members.map Prod.fst).map Step.member := by
        rw [children, List.map_map, List.map_map]
        rfl
      rw [steps]
      exact List.Nodup.map (fun first second same => Step.member.inj same) here

/-! ## Document order -/

theorem Precedes.ne {value : Value} {path other : Path} (precedes : value.Precedes path other)
    (differ : value.EveryObject NamesDiffer) : path ≠ other := by
  induction precedes with
  | parting apart =>
      rintro same
      obtain ⟨rfl, -⟩ := List.cons_eq_cons.mp same
      exact List.nodup_iff_sublist.mp (nodup_steps differ) _ apart
  | within inside _ ih =>
      intro same
      exact ih (differ.of_mem_children inside) (List.cons_eq_cons.mp same).2

/-- The leaves are listed in document order. -/
theorem pairwise_precedes_leaves (value : Value) :
    value.leaves.Pairwise fun earlier later => value.Precedes earlier.1 later.1 := by
  induction value using Value.induction with
  | fromChildren value ih =>
      cases scalar : value.isScalar with
      | true =>
          rw [leaves_of_scalar scalar]
          exact List.pairwise_singleton _ _
      | false =>
          rw [leaves_of_container scalar, List.pairwise_flatMap]
          constructor
          · intro child inside
            rw [List.pairwise_map]
            exact (ih child inside).imp fun precedes => .within inside precedes
          · refine List.pairwise_iff_forall_sublist.mpr fun {first second} inOrder => ?_
            intro earlier inFirst later inSecond
            obtain ⟨_, -, rfl⟩ := List.mem_map.mp inFirst
            obtain ⟨_, -, rfl⟩ := List.mem_map.mp inSecond
            exact .parting (inOrder.map Prod.fst)

/-- The leaves are the scalars that a path leads to. -/
theorem mem_leaves_iff {value leaf : Value} (differ : value.EveryObject NamesDiffer)
    {path : Path} :
    (path, leaf) ∈ value.leaves ↔ value.at? path = some leaf ∧ leaf.isScalar = true := by
  induction value using Value.induction generalizing path with
  | fromChildren value ih =>
      cases scalar : value.isScalar with
      | true =>
          rw [leaves_of_scalar scalar]
          cases path with
          | nil =>
              simp only [List.mem_singleton, Prod.mk.injEq, true_and, at?, Option.some.injEq]
              constructor
              · rintro rfl
                exact ⟨rfl, scalar⟩
              · exact fun found => found.1.symm
          | cons step path => simp [at?, step?_of_scalar scalar]
      | false =>
          rw [leaves_of_container scalar]
          cases path with
          | nil =>
              have outside : value.at? [] = some leaf ∧ leaf.isScalar = true ↔ False := by
                simp only [at?, Option.some.injEq, iff_false, not_and]
                rintro rfl
                simp [scalar]
              simp [outside]
          | cons step path =>
              simp only [List.mem_flatMap, List.mem_map, at?, Option.bind_eq_some_iff,
                step?_eq_some_iff differ]
              constructor
              · rintro ⟨⟨_, child⟩, inside, ⟨_, _⟩, listed, same⟩
                obtain ⟨⟨rfl, rfl⟩, rfl⟩ := by simpa using same
                obtain ⟨found, ends⟩ :=
                  (ih _ inside (differ.of_mem_children inside)).mp listed
                exact ⟨⟨child, inside, found⟩, ends⟩
              · rintro ⟨⟨child, inside, found⟩, ends⟩
                have listed := (ih _ inside (differ.of_mem_children inside)).mpr ⟨found, ends⟩
                exact ⟨(step, child), inside, (path, leaf), listed, rfl⟩

end Value

end MetaConfig.Json
