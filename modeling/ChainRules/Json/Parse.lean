import ChainRules.Json.Token

set_option autoImplicit false

namespace ChainRules.Json

-- A container that waits for the value it is about to take. What it has taken stands latest first.
inductive Frame where
  | array (elements : List Json)
  | object (members : List (JsonText × Json)) (name : JsonText)

inductive ParseState where
  | wantValue (frames : List Frame)
  | wantFirstElement (frames : List Frame)
  | wantFirstName (frames : List Frame)
  | wantName (members : List (JsonText × Json)) (frames : List Frame)
  | wantColon (members : List (JsonText × Json)) (name : JsonText) (frames : List Frame)
  | afterElement (elements : List Json) (frames : List Frame)
  | afterMember (members : List (JsonText × Json)) (frames : List Frame)
  | done (value : Json)

namespace ParseState

def complete (value : Json) : List Frame → ParseState
  | [] => .done value
  | .array elements :: frames => .afterElement (value :: elements) frames
  | .object members name :: frames => .afterMember ((name, value) :: members) frames

def begin? (frames : List Frame) : JsonToken → Option ParseState
  | .scalar value => some (complete value frames)
  | .text units => some (complete (.text units) frames)
  | .openArray => some (.wantFirstElement frames)
  | .openObject => some (.wantFirstName frames)
  | _ => none

def step : ParseState → JsonToken → Option ParseState
  | .wantValue frames, token => begin? frames token
  | .wantFirstElement frames, .closeArray => some (complete (.array []) frames)
  | .wantFirstElement frames, token => begin? (.array [] :: frames) token
  | .wantFirstName frames, .closeObject => some (complete (.object []) frames)
  | .wantFirstName frames, .text name => some (.wantColon [] name frames)
  | .wantName members frames, .text name => some (.wantColon members name frames)
  | .wantColon members name frames, .colon => some (.wantValue (.object members name :: frames))
  | .afterElement elements frames, .comma => some (.wantValue (.array elements :: frames))
  | .afterElement elements frames, .closeArray => some (complete (.array elements.reverse) frames)
  | .afterMember members frames, .comma => some (.wantName members frames)
  | .afterMember members frames, .closeObject => some (complete (.object members.reverse) frames)
  | _, _ => none

def finish? : ParseState → Option Json
  | .done value => some value
  | _ => none

end ParseState

def ofTokens? (tokens : List JsonToken) : Option Json :=
  (tokens.foldlM ParseState.step (.wantValue [])).bind ParseState.finish?

def parse? (text : String) : Option Json :=
  (JsonToken.scan? text.toList).bind ofTokens?

end ChainRules.Json
