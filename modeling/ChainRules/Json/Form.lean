import ChainRules.Bytes.Bytes32
import ChainRules.Json.Value

set_option autoImplicit false

namespace ChainRules

class JsonForm (α : Type) where
  toJson : α → Json
  ofJson? : Json → Option α

export JsonForm (toJson)

namespace Json

def as? (α : Type) [JsonForm α] (json : Json) : Option α := JsonForm.ofJson? json

def integerWithin? (low high : Int) (json : Json) : Option Int :=
  match json with
  | .integer value => if low ≤ value ∧ value ≤ high then some value else none
  | _ => none

def variant? {α : Type} (name : α → String) (all : List α) : Json → Option α
  | .text units => (JsonText.string? units).bind (fun given => all.find? (fun value => name value == given))
  | .object [(units, .null)] =>
      (JsonText.string? units).bind (fun given => all.find? (fun value => name value == given))
  | _ => none

def namedMembers? : List (JsonText × Json) → Option (List (String × Json))
  | [] => some []
  | (units, value) :: rest =>
      match JsonText.string? units with
      | none => none
      | some name => (namedMembers? rest).map ((name, value) :: ·)

def valuesOf (name : String) (members : List (String × Json)) : List Json :=
  (members.filter (fun member => member.1 == name)).map Prod.snd

def required? (members : List (String × Json)) (name : String) : Option Json :=
  match valuesOf name members with
  | [value] => some value
  | _ => none

def optional? (members : List (String × Json)) (name : String) : Option (Option Json) :=
  match valuesOf name members with
  | [] => some none
  | [value] => some (some value)
  | _ => none

-- An object with each of the fields once, others being ignored, or an array of exactly their values.
def fields? (names : List String) : Json → Option (List Json)
  | .object members => (namedMembers? members).bind (fun named => names.mapM (required? named))
  | .array elements => if elements.length = names.length then some elements else none
  | _ => none

-- An object with each of the fields at most once and no others, or an array of the first of their values.
def optionalFields? (names : List String) : Json → Option (List (Option Json))
  | .object members =>
      (namedMembers? members).bind (fun named =>
        if named.all (fun member => names.contains member.1) then names.mapM (optional? named) else none)
  | .array elements =>
      if elements.length ≤ names.length then
        some (elements.map some ++ List.replicate (names.length - elements.length) none)
      else none
  | _ => none

end Json

namespace JsonForm

instance : JsonForm UInt8 where
  toJson value := .integer value.toNat
  ofJson? json := (Json.integerWithin? 0 0xff json).map (fun value => UInt8.ofNat value.toNat)

instance : JsonForm UInt32 where
  toJson value := .integer value.toNat
  ofJson? json := (Json.integerWithin? 0 0xffffffff json).map (fun value => UInt32.ofNat value.toNat)

instance : JsonForm UInt64 where
  toJson value := .integer value.toNat
  ofJson? json := (Json.integerWithin? 0 0xffffffffffffffff json).map (fun value => UInt64.ofNat value.toNat)

instance : JsonForm Int32 where
  toJson value := .integer value.toInt
  ofJson? json := (Json.integerWithin? Int32.minValue.toInt Int32.maxValue.toInt json).map Int32.ofInt

instance : JsonForm Int64 where
  toJson value := .integer value.toInt
  ofJson? json := (Json.integerWithin? Int64.minValue.toInt Int64.maxValue.toInt json).map Int64.ofInt

instance : JsonForm String where
  toJson text := Json.string text
  ofJson?
    | .text units => JsonText.string? units
    | _ => none

instance {α : Type} [JsonForm α] : JsonForm (List α) where
  toJson values := .array (values.map toJson)
  ofJson?
    | .array elements => elements.mapM ofJson?
    | _ => none

instance : JsonForm Bytes32 where
  toJson bytes := toJson bytes.toList
  ofJson? json := (json.as? (List UInt8)).bind Bytes32.ofList?

end JsonForm

end ChainRules
