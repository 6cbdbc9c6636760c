import MetaConfig.Binary64.Basic
import MetaConfig.Powers
import MetaConfig.Text.Basic

/-!
JSON values. The members of an object keep the order in which their names first occur, and of
several members with one name the last value stands.
-/

namespace MetaConfig.Json

inductive Number where
  | integer (value : Int)
  | real (value : Binary64)
  deriving DecidableEq, Repr

inductive Value where
  | null
  | boolean (value : Bool)
  | number (value : Number)
  | string (value : Text)
  | array (items : List Value)
  | object (members : List (Text × Value))

namespace Value

def setMember (name : Text) (value : Value) : List (Text × Value) → List (Text × Value)
  | [] => [(name, value)]
  | (other, old) :: members =>
      if other = name then (other, value) :: members
      else (other, old) :: setMember name value members

def ofMembers (members : List (Text × Value)) : Value :=
  object (members.foldl (fun known (name, value) => setMember name value known) [])

def member? (name : Text) : Value → Option Value
  | object members => (members.find? fun (other, _) => other == name).map Prod.snd
  | _ => none

def boolean? : Value → Option Bool
  | boolean value => some value
  | _ => none

def string? : Value → Option Text
  | string value => some value
  | _ => none

def array? : Value → Option (List Value)
  | array items => some items
  | _ => none

def natural? : Value → Option Nat
  | number (.integer (.ofNat value)) => if value < twoTo 64 then some value else none
  | _ => none

end Value

end MetaConfig.Json
