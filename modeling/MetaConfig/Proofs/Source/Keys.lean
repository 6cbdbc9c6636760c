import MetaConfig.Proofs.Source.Flattening

/-!
Flattening keeps settings apart. Where no name is empty or has an underscore in it, and the names
of an object differ in lower case as well, a key can be cut again into what each step of its path
adds, and no two settings have the same key.
-/

namespace MetaConfig.Flatten

open Json Text

def segment : Step → Text
  | .member name => lower name
  | .item index => ofNat index

/-- Names are not empty, have no underscore, and differ in lower case as well. -/
structure NamesApart (members : List (Text × Value)) : Prop where
  nonempty : ∀ member ∈ members, member.1 ≠ []
  noUnderscore : ∀ member ∈ members, '_' ∉ member.1
  lowerDiffer : (members.map fun member => lower member.1).Nodup

theorem NamesApart.namesDiffer {members : List (Text × Value)} (apart : NamesApart members) :
    Value.NamesDiffer members := by
  have lowered : (members.map fun member => lower member.1) =
      (members.map Prod.fst).map lower := by
    rw [List.map_map]
    rfl
  exact List.Nodup.of_map lower (lowered ▸ apart.lowerDiffer)

theorem everyObject_namesDiffer {value : Value} (apart : value.EveryObject NamesApart) :
    value.EveryObject Value.NamesDiffer :=
  apart.imp fun _ => NamesApart.namesDiffer

/-! ## The segments of a key -/

theorem foldl_extendKey {key : Text} (nonempty : key ≠ []) (path : Path) :
    path.foldl extendKey key = joinWith ['_'] (key :: path.map segment) := by
  induction path generalizing key with
  | nil => rfl
  | cons step path ih =>
      have extended : extendKey key step = key ++ ['_'] ++ segment step := by
        cases step with
        | member name => simp [extendKey, segment, nonempty]
        | item index => rfl
      have longer : key ++ ['_'] ++ segment step ≠ [] := by simp
      rw [List.foldl_cons, extended, ih longer]
      cases path with
      | nil => simp [joinWith]
      | cons second others => simp [joinWith]

theorem keyOf_member {name : Text} (nonempty : name ≠ []) (path : Path) :
    keyOf (.member name :: path) = joinWith ['_'] ((Step.member name :: path).map segment) := by
  rw [keyOf, List.foldl_cons]
  exact foldl_extendKey (lower_ne_nil nonempty) path

theorem underscore_not_mem_segment {value child : Value} (apart : value.EveryObject NamesApart)
    {step : Step} (inside : (step, child) ∈ value.children) : '_' ∉ segment step := by
  cases apart with
  | scalar scalar => simp [Value.children_of_scalar scalar] at inside
  | array _ =>
      obtain ⟨⟨item, index⟩, -, same⟩ := List.mem_map.mp inside
      obtain ⟨rfl, rfl⟩ := Prod.mk.inj same
      exact fun member => absurd (isDigit_of_mem_ofNat member) (by decide)
  | object here _ =>
      obtain ⟨⟨name, value⟩, known, same⟩ := List.mem_map.mp inside
      obtain ⟨rfl, rfl⟩ := Prod.mk.inj same
      exact fun member => here.noUnderscore _ known (mem_of_mem_lower (by decide) member)

theorem eq_of_segment_eq {value child other : Value} (apart : value.EveryObject NamesApart)
    {step otherStep : Step} (inside : (step, child) ∈ value.children)
    (otherInside : (otherStep, other) ∈ value.children)
    (same : segment step = segment otherStep) : step = otherStep := by
  cases apart with
  | scalar scalar => simp [Value.children_of_scalar scalar] at inside
  | array _ =>
      obtain ⟨⟨item, index⟩, -, isFirst⟩ := List.mem_map.mp inside
      obtain ⟨⟨otherItem, otherIndex⟩, -, isSecond⟩ := List.mem_map.mp otherInside
      obtain ⟨rfl, -⟩ := Prod.mk.inj isFirst
      obtain ⟨rfl, -⟩ := Prod.mk.inj isSecond
      exact congrArg Step.item (ofNat_injective same)
  | object here _ =>
      obtain ⟨⟨name, value⟩, known, isFirst⟩ := List.mem_map.mp inside
      obtain ⟨⟨otherName, otherValue⟩, otherKnown, isSecond⟩ := List.mem_map.mp otherInside
      obtain ⟨rfl, -⟩ := Prod.mk.inj isFirst
      obtain ⟨rfl, -⟩ := Prod.mk.inj isSecond
      have member := List.inj_on_of_nodup_map here.lowerDiffer known otherKnown same
      exact congrArg Step.member (Prod.mk.inj member).1

variable {value leaf otherLeaf : Value} {path other : Path}

theorem underscore_not_mem_of_at? (apart : value.EveryObject NamesApart)
    (found : value.at? path = some leaf) : ∀ step ∈ path, '_' ∉ segment step := by
  induction path generalizing value with
  | nil => simp
  | cons step path ih =>
      obtain ⟨child, stepped, later⟩ := Option.bind_eq_some_iff.mp found
      have inside := (Value.step?_eq_some_iff (everyObject_namesDiffer apart)).mp stepped
      exact List.forall_mem_cons.mpr
        ⟨underscore_not_mem_segment apart inside, ih (apart.of_mem_children inside) later⟩

/-- Paths in one value with the same segments are the same. -/
theorem eq_of_map_segment_eq (apart : value.EveryObject NamesApart)
    (found : value.at? path = some leaf) (otherFound : value.at? other = some otherLeaf)
    (same : path.map segment = other.map segment) : path = other := by
  induction path generalizing value other with
  | nil => exact (List.map_eq_nil_iff.mp same.symm).symm
  | cons step path ih =>
      cases other with
      | nil => contradiction
      | cons otherStep other =>
          obtain ⟨sameFirst, sameLater⟩ := List.cons_eq_cons.mp same
          obtain ⟨child, stepped, later⟩ := Option.bind_eq_some_iff.mp found
          obtain ⟨otherChild, otherStepped, otherLater⟩ := Option.bind_eq_some_iff.mp otherFound
          have differ := everyObject_namesDiffer apart
          have inside := (Value.step?_eq_some_iff differ).mp stepped
          have otherInside := (Value.step?_eq_some_iff differ).mp otherStepped
          obtain rfl := eq_of_segment_eq apart inside otherInside sameFirst
          obtain rfl := Option.some.inj (stepped.symm.trans otherStepped)
          rw [ih (apart.of_mem_children inside) later otherLater sameLater]

/-! ## Keys of settings -/

variable {members : List (Text × Value)}

theorem pieces_keyOf (apart : (Value.object members).EveryObject NamesApart)
    (found : (Value.object members).at? path = some leaf) (scalar : leaf.isScalar = true) :
    pieces '_' (keyOf path) = path.map segment := by
  cases path with
  | nil =>
      obtain rfl := Option.some.inj found
      contradiction
  | cons step path =>
      have noUnderscore := underscore_not_mem_of_at? apart found
      obtain ⟨child, stepped, -⟩ := Option.bind_eq_some_iff.mp found
      have inside := (Value.step?_eq_some_iff (everyObject_namesDiffer apart)).mp stepped
      obtain ⟨⟨name, value⟩, known, isStep⟩ := List.mem_map.mp inside
      obtain ⟨rfl, rfl⟩ := Prod.mk.inj isStep
      have nonempty : name ≠ [] := by
        cases apart with
        | object here _ => exact here.nonempty _ known
        | scalar scalar => contradiction
      rw [keyOf_member nonempty, pieces_joinWith_eq_self_iff '_' (by simp)]
      intro part member
      obtain ⟨step, onPath, rfl⟩ := List.mem_map.mp member
      exact noUnderscore step onPath

theorem nodup_keys (apart : (Value.object members).EveryObject NamesApart) :
    ((settings [] (.object members)).map Setting.key).Nodup := by
  obtain ⟨places, lists, settingsFor⟩ := exists_listsLeaves (everyObject_namesDiffer apart)
  have keys : List.Forall₂ Eq ((settings [] (.object members)).map Setting.key)
      ((places.map Prod.fst).map keyOf) := by
    rw [List.map_map, List.forall₂_map_left_iff, List.forall₂_map_right_iff]
    exact settingsFor.imp fun _ _ isFor => isFor.key_eq
  rw [List.forall₂_eq_eq_eq] at keys
  rw [keys]
  refine List.Nodup.map_on ?_ lists.once
  intro path listed other otherListed same
  obtain ⟨⟨_, leaf⟩, place, rfl⟩ := List.mem_map.mp listed
  obtain ⟨⟨_, otherLeaf⟩, otherPlace, rfl⟩ := List.mem_map.mp otherListed
  obtain ⟨found, scalar, -⟩ := (lists.mem_iff _ _).mp place
  obtain ⟨otherFound, otherScalar, -⟩ := (lists.mem_iff _ _).mp otherPlace
  refine eq_of_map_segment_eq apart found otherFound ?_
  rw [← pieces_keyOf apart found scalar, ← pieces_keyOf apart otherFound otherScalar, same]

/-- No two settings of a JSON object have the same key, where names are not empty, have no
underscore, and differ in lower case as well. -/
theorem nodup_keys_read {source : Text} (isObject : Value.read source = .ok (.object members))
    (apart : (Value.object members).EveryObject NamesApart) :
    ∃ found, Flatten.read source = .ok found ∧ (found.map Setting.key).Nodup := by
  refine ⟨settings [] (.object members), ?_, nodup_keys apart⟩
  rw [Flatten.read, isObject]

theorem nodup_keys_read_of_nested_names :
    let source := "\x7b\"A\":\x7b\"0\":[[true],null]\x7d,\"A0\":\"x\"\x7d".toList
    let inner : List (Text × Value) :=
      [(['0'], .array [.array [.boolean true], .null])]
    let outer : List (Text × Value) :=
      [(['A'], .object inner), (['A', '0'], .string ['x'])]
    Value.read source = .ok (.object outer) ∧ (Value.object outer).EveryObject NamesApart ∧
      ∃ found, Flatten.read source = .ok found ∧ (found.map Setting.key).Nodup := by
  intro source inner outer
  have isObject : Value.read source = .ok (.object outer) := by
    subst source
    cbv
  have innerApart : (Value.object inner).EveryObject NamesApart := by
    refine .object ⟨by decide, by decide, by decide +kernel⟩ (List.forall_mem_singleton.mpr ?_)
    refine .array (List.forall_mem_cons.mpr ⟨.array ?_, ?_⟩)
    · exact List.forall_mem_singleton.mpr (.scalar rfl)
    · exact List.forall_mem_singleton.mpr (.scalar rfl)
  have apart : (Value.object outer).EveryObject NamesApart := by
    refine .object ⟨by decide, by decide, by decide +kernel⟩ ?_
    exact List.forall_mem_cons.mpr ⟨innerApart, List.forall_mem_singleton.mpr (.scalar rfl)⟩
  exact ⟨isObject, apart, nodup_keys_read isObject apart⟩

end MetaConfig.Flatten
