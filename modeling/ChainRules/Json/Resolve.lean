import ChainRules.Json.Value

set_option autoImplicit false

namespace ChainRules

def JsonUnit.resolved : JsonUnit → JsonUnit
  | .escaped char => .plain char
  | unit => unit

namespace Json

def keepLast (member : JsonText × Json) (later : List (JsonText × Json)) : List (JsonText × Json) :=
  if later.any (fun other => other.1 == member.1) then later else member :: later

mutual

def resolved : Json → Json
  | .text units => .text (units.map JsonUnit.resolved)
  | .array elements => .array (resolvedElements elements)
  | .object members => .object (resolvedMembers members)
  | value => value

def resolvedElements : List Json → List Json
  | [] => []
  | element :: rest => resolved element :: resolvedElements rest

def resolvedMembers : List (JsonText × Json) → List (JsonText × Json)
  | [] => []
  | (name, value) :: rest => keepLast (name.map JsonUnit.resolved, resolved value) (resolvedMembers rest)

end

end Json

end ChainRules
