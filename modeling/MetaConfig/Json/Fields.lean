import MetaConfig.Json.Value

/-!
Records as JSON values: objects with a member for each field, or arrays that hold the fields in
their order.
-/

namespace MetaConfig.Json.Value

/-- The values of the fields, each of which may have several names. A field is absent where
there is no member with a name of it, or the array ends before it; two members for one field,
and more items than fields, are refused. Other members do not matter. -/
def fields? (names : List (List Text)) : Value → Option (List (Option Value))
  | object members =>
      names.mapM fun aliases =>
        match members.filter fun (name, _) => aliases.contains name with
        | [] => some none
        | [(_, value)] => some (some value)
        | _ => none
  | array items =>
      if items.length ≤ names.length then
        some (items.map some ++ List.replicate (names.length - items.length) none)
      else none
  | _ => none

def word? : Value → Option Text
  | string word => some word
  | object [(word, null)] => some word
  | _ => none

def ofText (text : Text) : Value := string text

def ofNat (number : Nat) : Value := .number (.integer number)

end MetaConfig.Json.Value
