import MetaConfig.Proofs.Json.Leaves
import MetaConfig.Proofs.Source.Settings
import MetaConfig.Proofs.Text.Decimal

/-!
A JSON object is flattened to its leaves: there is one setting for each scalar in it but the empty
string, in document order, and its key is built along the path to the scalar.
-/

namespace MetaConfig

open Text

theorem Text.escapeLineBreaks_ne_nil {text : Text} (nonempty : text ≠ []) :
    escapeLineBreaks text ≠ [] := by
  fun_cases escapeLineBreaks text <;> simp_all

namespace Binary64

theorem print_ne_nil (number : Binary64) : number.print ≠ [] := by
  have written (digits : Text) (power : Int) :
      (if power < -5 ∨ 15 < power then withExponent digits power
        else placePoint digits (power + 1)) ≠ [] := by
    split
    · simp [withExponent]
    · unfold placePoint
      split <;> simp
  unfold print printWith
  dsimp only
  split
  · exact List.cons_ne_nil _ _
  · split
    · exact List.cons_ne_nil _ _
    · exact written _ _

end Binary64

theorem Scalar.literal_ofNumber_ne_nil (number : Json.Number) :
    (Scalar.ofNumber number).literal ≠ [] := by
  unfold ofNumber
  split
  · unfold ofInt
    split
    · exact List.cons_ne_nil _ _
    · exact ofNat_ne_nil _
  · split
    · exact List.append_ne_nil_of_right_ne_nil _ (ofNat_ne_nil _)
    · exact Binary64.print_ne_nil _

theorem Scalar.exists_ofJson? {value : Json.Value} (scalar : value.isScalar = true)
    (nonempty : value ≠ .string []) :
    ∃ typed, ofJson? value = some typed ∧ typed.literal ≠ [] := by
  cases value with
  | null => exact ⟨_, rfl, by simp⟩
  | boolean value => cases value <;> exact ⟨_, rfl, by simp⟩
  | number number => exact ⟨_, rfl, literal_ofNumber_ne_nil number⟩
  | string text =>
      have inside : text ≠ [] := fun empty => nonempty (by rw [empty])
      exact ⟨_, rfl, literal_infer_ne_nil (escapeLineBreaks_ne_nil inside)⟩
  | array items => contradiction
  | object members => contradiction

namespace Flatten

open Json

/-! ## Keys along paths -/

def extendKey (key : Text) : Step → Text
  | .member name => if key.isEmpty then lower name else key ++ ['_'] ++ lower name
  | .item index => key ++ ['_'] ++ ofNat index

def keyOf (path : Path) : Text := path.foldl extendKey []

theorem memberSettings_eq_flatMap (key : Text) (members : List (Text × Value)) :
    memberSettings key members = members.flatMap fun member =>
      settings (extendKey key (.member member.1)) member.2 := by
  induction members with
  | nil => rfl
  | cons first others ih => rw [memberSettings, ih, List.flatMap_cons]; rfl

theorem itemSettings_eq_flatMap (key : Text) (index : Nat) (items : List Value) :
    itemSettings key index items = (items.zipIdx index).flatMap fun place =>
      settings (extendKey key (.item place.2)) place.1 := by
  induction items generalizing index with
  | nil => rfl
  | cons first others ih => rw [itemSettings, ih, List.zipIdx_cons, List.flatMap_cons]; rfl

theorem settings_of_scalar {value : Value} (scalar : value.isScalar = true) (key : Text) :
    settings key value = leaf key value := by
  cases value with
  | array items => contradiction
  | object members => contradiction
  | _ => rw [settings]

theorem settings_of_container {value : Value} (container : value.isScalar = false) (key : Text) :
    settings key value = value.children.flatMap fun child =>
      settings (extendKey key child.1) child.2 := by
  cases value with
  | array items =>
      rw [settings, itemSettings_eq_flatMap, Value.children, List.flatMap_map]
  | object members =>
      rw [settings, memberSettings_eq_flatMap, Value.children, List.flatMap_map]
  | _ => contradiction

/-- The settings of a value are those of its leaves. -/
theorem settings_eq_flatMap_leaves (value : Value) (key : Text) :
    settings key value = value.leaves.flatMap fun place =>
      leaf (place.1.foldl extendKey key) place.2 := by
  induction value using Value.induction generalizing key with
  | fromChildren value ih =>
      cases scalar : value.isScalar with
      | true =>
          rw [settings_of_scalar scalar, Value.leaves_of_scalar scalar]
          exact (List.flatMap_singleton _ _).symm
      | false =>
          rw [settings_of_container scalar, Value.leaves_of_container scalar, List.flatMap_assoc]
          refine List.flatMap_congr fun child inside => ?_
          rw [ih child inside, List.flatMap_map]
          rfl

/-! ## One setting for each leaf -/

structure ListsLeaves (value : Value) (places : List (Path × Value)) : Prop where
  mem_iff : ∀ path leaf, (path, leaf) ∈ places ↔
    value.at? path = some leaf ∧ leaf.isScalar = true ∧ leaf ≠ .string []
  inOrder : places.Pairwise fun earlier later => value.Precedes earlier.1 later.1
  once : (places.map Prod.fst).Nodup

structure IsFor (setting : Setting) (place : Path × Value) : Prop where
  key_eq : setting.key = keyOf place.1
  typed : Scalar.ofJson? place.2 = some setting.scalar

def isEmptyString : Value → Bool
  | .string [] => true
  | _ => false

theorem isEmptyString_iff {value : Value} : isEmptyString value = true ↔ value = .string [] := by
  fun_cases isEmptyString value <;> simp_all

theorem exists_leaf_eq_singleton {value : Value} (scalar : value.isScalar = true)
    (nonempty : value ≠ .string []) (path : Path) :
    ∃ setting, leaf (keyOf path) value = [setting] ∧ IsFor setting (path, value) := by
  obtain ⟨typed, found, inside⟩ := Scalar.exists_ofJson? scalar nonempty
  refine ⟨⟨keyOf path, typed⟩, ?_, rfl, found⟩
  simp [leaf, found, inside]

theorem forall₂_leaves {places : List (Path × Value)}
    (scalars : ∀ place ∈ places, place.2.isScalar = true) :
    List.Forall₂ IsFor (places.flatMap fun place => leaf (keyOf place.1) place.2)
      (places.filter fun place => !isEmptyString place.2) := by
  induction places with
  | nil => exact .nil
  | cons first others ih =>
      obtain ⟨path, value⟩ := first
      obtain ⟨scalar, othersScalar⟩ := List.forall_mem_cons.mp scalars
      rw [List.flatMap_cons]
      by_cases empty : value = .string []
      · subst empty
        exact ih othersScalar
      · obtain ⟨setting, single, isFor⟩ := exists_leaf_eq_singleton scalar empty path
        have kept : (!isEmptyString value) = true := by
          simpa using mt isEmptyString_iff.mp empty
        rw [single, List.filter_cons, if_pos kept]
        exact .cons isFor (ih othersScalar)

theorem exists_listsLeaves {value : Value} (differ : value.EveryObject Value.NamesDiffer) :
    ∃ places, ListsLeaves value places ∧ List.Forall₂ IsFor (settings [] value) places := by
  have inOrder := (Value.pairwise_precedes_leaves value).filter fun place => !isEmptyString place.2
  refine ⟨value.leaves.filter fun place => !isEmptyString place.2, ⟨?_, inOrder, ?_⟩, ?_⟩
  · intro path leaf
    rw [List.mem_filter, Value.mem_leaves_iff differ, Bool.not_eq_true', Bool.eq_false_iff, ne_eq,
      isEmptyString_iff, and_assoc]
  · exact List.pairwise_map.mpr (inOrder.imp fun precedes => precedes.ne differ)
  · rw [settings_eq_flatMap_leaves]
    exact forall₂_leaves fun place listed => ((Value.mem_leaves_iff differ).mp listed).2

/-- A JSON text that holds an object gives one setting for each leaf of the object. The object
keeps the names of its members in the order in which they first occur, each with its last value. -/
theorem read_forall₂_leaves {source : Text} {members : List (Text × Value)}
    (isObject : Value.read source = .ok (.object members)) :
    (∀ written, ∃ kept, Value.ofMembers written = .object kept ∧ Value.Merges written kept) ∧
      ∃ found places, Flatten.read source = .ok found ∧ ListsLeaves (.object members) places ∧
        List.Forall₂ IsFor found places := by
  obtain ⟨places, lists, settingsFor⟩ := exists_listsLeaves (everyObject_of_read isObject)
  refine ⟨Value.exists_merges_ofMembers, settings [] (.object members), places, ?_, lists,
    settingsFor⟩
  rw [Flatten.read, isObject]

theorem read_forall₂_leaves_of_repeated_name :
    let source := "\x7b\"A\":\x7b\"x\":0\x7d,\"b\":[\"\",[null]],\"A\":true\x7d".toList
    let members : List (Text × Value) :=
      [(['A'], .boolean true), (['b'], .array [.string [], .array [.null]])]
    Value.read source = .ok (.object members) ∧
      ∃ places, ListsLeaves (.object members) places ∧
        List.Forall₂ IsFor
          [⟨['a'], ⟨"true".toList, .bool⟩⟩, ⟨"b_1_0".toList, ⟨"null".toList, .string⟩⟩] places ∧
        ([.member ['b'], .item 1, .item 0], .null) ∈ places := by
  have isObject :
      Value.read "\x7b\"A\":\x7b\"x\":0\x7d,\"b\":[\"\",[null]],\"A\":true\x7d".toList =
        .ok (.object
          [(['A'], .boolean true), (['b'], .array [.string [], .array [.null]])]) := by
    cbv
  have flattened :
      Flatten.read "\x7b\"A\":\x7b\"x\":0\x7d,\"b\":[\"\",[null]],\"A\":true\x7d".toList =
        .ok [⟨['a'], ⟨"true".toList, .bool⟩⟩, ⟨"b_1_0".toList, ⟨"null".toList, .string⟩⟩] := by
    decide +kernel
  obtain ⟨-, found, places, read, lists, settingsFor⟩ := read_forall₂_leaves isObject
  obtain rfl := Except.ok.inj (flattened.symm.trans read)
  exact ⟨isObject, places, lists, settingsFor, (lists.mem_iff _ _).mpr ⟨rfl, rfl, by simp⟩⟩

end Flatten

end MetaConfig
