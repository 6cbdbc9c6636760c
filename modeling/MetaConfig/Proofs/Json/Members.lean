import Mathlib.Data.List.Induction
import MetaConfig.Proofs.Json.Reading

/-!
The objects that are read. An object keeps the names of its members in the order in which they
first occur, each with its last value, so in every object of a value that is read the names are
different.
-/

namespace MetaConfig.Json

open Text

namespace Value

/-! ## What an object keeps of the members that are written -/

/-- The names are kept in the order in which they first occur, each with its last value. -/
structure Merges (written kept : List (Text × Value)) : Prop where
  names_eq : kept.map Prod.fst = (written.map Prod.fst).eraseDups
  lookup_eq : ∀ name, kept.lookup name = written.reverse.lookup name

theorem mem_of_mem_setMember {name : Text} {value : Value} {known : List (Text × Value)}
    {member : Text × Value} (inside : member ∈ setMember name value known) :
    member = (name, value) ∨ member ∈ known := by
  induction known with
  | nil => exact .inl (List.mem_singleton.mp inside)
  | cons first others ih =>
      simp only [setMember] at inside
      split at inside
      · rename_i same
        rcases List.mem_cons.mp inside with rfl | later
        · exact .inl (by rw [same])
        · exact .inr (List.mem_cons_of_mem first later)
      · rcases List.mem_cons.mp inside with rfl | later
        · exact .inr List.mem_cons_self
        · exact (ih later).imp_right (List.mem_cons_of_mem first)

theorem map_fst_setMember (name : Text) (value : Value) (known : List (Text × Value)) :
    (setMember name value known).map Prod.fst =
      if name ∈ known.map Prod.fst then known.map Prod.fst else known.map Prod.fst ++ [name] := by
  induction known with
  | nil => rfl
  | cons first others ih =>
      obtain ⟨other, old⟩ := first
      simp only [setMember, List.map_cons, List.mem_cons]
      by_cases same : other = name
      · simp [same]
      · rw [if_neg same, List.map_cons, ih]
        by_cases later : name ∈ others.map Prod.fst
        · simp [later]
        · simp [later, Ne.symm same]

theorem lookup_cons_eq_ite (name other : Text) (value : Value) (known : List (Text × Value)) :
    ((name, value) :: known).lookup other =
      if other = name then some value else known.lookup other := by
  rw [List.lookup_cons]
  by_cases same : other = name
  · simp [same]
  · simp [beq_false_of_ne same, same]

theorem lookup_setMember (name other : Text) (value : Value) (known : List (Text × Value)) :
    (setMember name value known).lookup other =
      if other = name then some value else known.lookup other := by
  induction known with
  | nil => exact lookup_cons_eq_ite name other value []
  | cons first others ih =>
      obtain ⟨head, old⟩ := first
      simp only [setMember]
      by_cases isHead : head = name
      · rw [if_pos isHead, lookup_cons_eq_ite, lookup_cons_eq_ite, isHead]
        by_cases same : other = name <;> simp [same]
      · rw [if_neg isHead, lookup_cons_eq_ite, lookup_cons_eq_ite, ih]
        by_cases same : other = name
        · simp [same, Ne.symm isHead]
        · simp [same]

theorem exists_merges_ofMembers (written : List (Text × Value)) :
    ∃ kept, ofMembers written = .object kept ∧ Merges written kept := by
  refine ⟨_, rfl, ?_⟩
  -- from the end of the list: what is written last is set last
  induction written using List.reverseRecOn with
  | nil => exact ⟨rfl, fun _ => rfl⟩
  | append_singleton earlier last ih =>
      obtain ⟨name, value⟩ := last
      rw [List.foldl_append, List.foldl_cons, List.foldl_nil]
      constructor
      · have member : name ∈ (earlier.map Prod.fst).eraseDups ↔ name ∈ earlier.map Prod.fst :=
          List.mem_eraseDups
        rw [map_fst_setMember, ih.names_eq, List.map_append, List.eraseDups_append]
        by_cases known : name ∈ earlier.map Prod.fst
        · rw [if_pos (member.mpr known)]
          simp [List.removeAll, known]
        · rw [if_neg (member.not.mpr known)]
          simp [List.removeAll, known, List.eraseDups_cons]
      · intro other
        rw [lookup_setMember, ih.lookup_eq, List.reverse_concat, lookup_cons_eq_ite]

/-- Of two members with one name, the second gives the value and the first the place. -/
example : ofMembers [(['a'], .null), (['b'], .boolean true), (['a'], .string ['z'])] =
    .object [(['a'], .string ['z']), (['b'], .boolean true)] := rfl

/-! ## Every object in a value -/

def isScalar : Value → Bool
  | array _ => false
  | object _ => false
  | _ => true

inductive EveryObject (condition : List (Text × Value) → Prop) : Value → Prop
  | scalar {value} : value.isScalar = true → EveryObject condition value
  | array {items} : (∀ item ∈ items, EveryObject condition item) →
      EveryObject condition (.array items)
  | object {members} : condition members →
      (∀ member ∈ members, EveryObject condition member.2) →
      EveryObject condition (.object members)

theorem EveryObject.imp {condition other : List (Text × Value) → Prop}
    (weaker : ∀ members, condition members → other members) {value : Value}
    (holds : EveryObject condition value) : EveryObject other value := by
  induction holds with
  | scalar isScalar => exact .scalar isScalar
  | array _ ih => exact .array ih
  | object here _ ih => exact .object (weaker _ here) ih

def NamesDiffer (members : List (Text × Value)) : Prop := (members.map Prod.fst).Nodup

theorem namesDiffer_nil : NamesDiffer [] := List.nodup_nil

theorem namesDiffer_foldl_setMember {known : List (Text × Value)} (differ : NamesDiffer known)
    (written : List (Text × Value)) :
    NamesDiffer (written.foldl (fun known (name, value) => setMember name value known) known) := by
  induction written generalizing known with
  | nil => exact differ
  | cons first others ih =>
      obtain ⟨name, value⟩ := first
      refine ih ?_
      rw [NamesDiffer, map_fst_setMember]
      split
      · exact differ
      · rename_i absent
        refine List.nodup_append.mpr ⟨differ, by simp, ?_⟩
        intro earlier member later isName
        rw [List.mem_singleton.mp isName]
        rintro rfl
        exact absent member

theorem mem_of_mem_foldl_setMember {written known : List (Text × Value)} {member : Text × Value}
    (inside : member ∈
      written.foldl (fun known (name, value) => setMember name value known) known) :
    member ∈ written ∨ member ∈ known := by
  induction written generalizing known with
  | nil => exact .inr inside
  | cons first others ih =>
      rcases ih inside with later | early
      · exact .inl (List.mem_cons_of_mem first later)
      · rcases mem_of_mem_setMember early with rfl | before
        · exact .inl List.mem_cons_self
        · exact .inr before

theorem everyObject_ofMembers {written : List (Text × Value)}
    (inside : ∀ member ∈ written, EveryObject NamesDiffer member.2) :
    EveryObject NamesDiffer (ofMembers written) := by
  refine .object (namesDiffer_foldl_setMember namesDiffer_nil written) ?_
  intro member kept
  rcases mem_of_mem_foldl_setMember kept with known | impossible
  · exact inside member known
  · exact absurd impossible List.not_mem_nil

end Value

theorem isScalar_of_readScalar? {text rest : Text} {value : Value}
    (found : readScalar? text = .ok (some (value, rest))) : value.isScalar = true := by
  unfold readScalar? at found
  split at found
  · cases found
  · split_ifs at found
    · cases found
    all_goals
      obtain ⟨after, -, found⟩ := exists_of_bind_eq_ok found
      cases found
      rfl

structure NamesDifferWithin (fuel : Nat) : Prop where
  value {levels text value rest} : readValue fuel levels text = .ok (value, rest) →
    value.EveryObject Value.NamesDiffer
  items {levels first text items rest} : readItems fuel levels first text = .ok (items, rest) →
    ∀ item ∈ items, item.EveryObject Value.NamesDiffer
  members {levels first text members rest} :
    readMembers fuel levels first text = .ok (members, rest) →
    ∀ member ∈ members, member.2.EveryObject Value.NamesDiffer

theorem namesDifferWithin (fuel : Nat) : NamesDifferWithin fuel := by
  induction fuel with
  | zero =>
      constructor
      · intro levels text value rest found
        cases found
      · intro levels first text items rest found
        cases found
      · intro levels first text members rest found
        cases found
  | succ fuel ih =>
      constructor
      · intro levels text value rest found
        rcases cases_of_readValue found with scalarRead |
          ⟨_, _, _, ⟨items, _, itemsRead, rfl⟩ | ⟨written, _, membersRead, rfl⟩⟩
        · exact .scalar (isScalar_of_readScalar? scalarRead)
        · exact .array (ih.items itemsRead)
        · exact Value.everyObject_ofMembers (ih.members membersRead)
      · intro levels first text items rest found
        rcases cases_of_readItems found with ⟨_, rfl⟩ |
          ⟨_, item, _, others, _, itemRead, othersRead, rfl⟩
        · simp
        · exact List.forall_mem_cons.mpr ⟨ih.value itemRead, ih.items othersRead⟩
      · intro levels first text members rest found
        rcases cases_of_readMembers found with ⟨_, rfl⟩ |
          ⟨_, name, _, _, value, _, others, _, _, _, valueRead, othersRead, rfl⟩
        · simp
        · exact List.forall_mem_cons.mpr ⟨ih.value valueRead, ih.members othersRead⟩

/-- In every object of a value that a text holds, the names are different. -/
theorem everyObject_of_read {source : Text} {value : Value}
    (found : Value.read source = .ok value) : value.EveryObject Value.NamesDiffer := by
  obtain ⟨⟨content, rest⟩, valueRead, found⟩ := exists_of_bind_eq_ok found
  obtain ⟨_, -, found⟩ := exists_of_bind_eq_ok found
  cases found
  exact (namesDifferWithin _).value valueRead

end MetaConfig.Json
