import ResourceRouter.Json.Token

set_option autoImplicit false

/-!
Reading a JSON text: its tokens are taken one by one, with the open arrays and objects on a stack.
A limit bounds how deeply values nest; of members with one name the last counts.
-/

namespace ResourceRouter.Json

/-- An array or object that is still open; the elements of an array are held in reverse. -/
inductive Frame where
  | elements (done : List Json)
  | members (done : List (String × Json))
  | member (done : List (String × Json)) (name : String)

/-- What the next token has to be. -/
inductive Expected where
  | value
  | elementOrClose
  | nameOrClose
  | name
  | colon (name : String)
  | commaOrClose
  | nothing (result : Json)

/-- Hands a finished value to the innermost open container. -/
def deliver (value : Json) : List Frame → Expected × List Frame
  | [] => (.nothing value, [])
  | .elements done :: outer => (.commaOrClose, .elements (value :: done) :: outer)
  | .member done name :: outer => (.commaOrClose, .members (insertMember name value done) :: outer)
  | .members done :: outer => (.commaOrClose, .members done :: outer)

/-- Takes a token where a value is expected. -/
def beginValue (limit : Nat) (frames : List Frame) : Token → Option (Expected × List Frame)
  | .text value => some (deliver (.string value) frames)
  | .scalar value => some (deliver value frames)
  | .openArray =>
    if frames.length < limit then some (.elementOrClose, .elements [] :: frames) else none
  | .openObject =>
    if frames.length < limit then some (.nameOrClose, .members [] :: frames) else none
  | _ => none

/-- Takes one token. -/
def step (limit : Nat) (expected : Expected) (frames : List Frame) (token : Token) :
    Option (Expected × List Frame) :=
  match expected, token, frames with
  | .value, token, frames => beginValue limit frames token
  | .elementOrClose, .closeArray, .elements _ :: outer => some (deliver (.array []) outer)
  | .elementOrClose, token, frames => beginValue limit frames token
  | .nameOrClose, .closeObject, .members _ :: outer => some (deliver (.object []) outer)
  | .nameOrClose, .text name, frames => some (.colon name, frames)
  | .name, .text name, frames => some (.colon name, frames)
  | .colon name, .colon, .members done :: outer => some (.value, .member done name :: outer)
  | .commaOrClose, .comma, .elements done :: outer => some (.value, .elements done :: outer)
  | .commaOrClose, .closeArray, .elements done :: outer =>
    some (deliver (.array done.reverse) outer)
  | .commaOrClose, .comma, .members done :: outer => some (.name, .members done :: outer)
  | .commaOrClose, .closeObject, .members done :: outer => some (deliver (.object done) outer)
  | _, _, _ => none

/-- Takes all tokens; the last one has to finish the value. -/
def build (limit : Nat) : Expected → List Frame → List Token → Option Json
  | .nothing result, _, [] => some result
  | _, _, [] => none
  | expected, frames, token :: rest =>
    match step limit expected frames token with
    | none => none
    | some (next, frames) => build limit next frames rest

/-- The value of a text in which containers nest at most to the limit. -/
def parse? (limit : Nat) (text : String) : Option Json :=
  (tokens? text.toList).bind (build limit .value [])

end ResourceRouter.Json
