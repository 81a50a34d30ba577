import ResourceRouter.Proofs.Json.Lookup

set_option autoImplicit false

/-!
Places in a value. A place is reached by the names of members and the positions of elements; what
stands there may be replaced, which leaves everything beside it as it is.
-/

namespace ResourceRouter.Json

/-- A step into an object or an array. -/
inductive Step where
  | member (name : String)
  | element (position : Nat)
deriving DecidableEq, Repr

/-- A step as part of a path. -/
def Step.text : Step → String
  | .member name => name
  | .element position => toString position

/-- The value that one step leads to. -/
def child? : Json → Step → Option Json
  | .object members, .member name => lookup name members
  | .array elements, .element position => elements[position]?
  | _, _ => none

/-- The value with another one where a step leads. -/
def putChild : Json → Step → Json → Json
  | .object members, .member name, new => .object (insertMember name new members)
  | .array elements, .element position, new => .array (elements.set position new)
  | value, _, _ => value

/-- The value at a place. -/
def at? : Json → List Step → Option Json
  | value, [] => some value
  | value, step :: rest => (value.child? step).bind (at? · rest)

/-- The value with another one at a place, if the place is there. -/
def replace : Json → List Step → Json → Json
  | _, [], new => new
  | value, step :: rest, new =>
    match value.child? step with
    | some held => value.putChild step (held.replace rest new)
    | none => value

section Replace

variable {step : Step} {path : List Step} {value held : Json}

theorem at?_singleton (value : Json) (step : Step) : value.at? [step] = value.child? step := by
  rw [at?]
  cases value.child? step <;> rfl

theorem replace_cons (found : value.child? step = some held) (rest : List Step) (new : Json) :
    value.replace (step :: rest) new = value.putChild step (held.replace rest new) := by
  rw [replace, found]

theorem at?_append (value : Json) (first second : List Step) :
    value.at? (first ++ second) = (value.at? first).bind (at? · second) := by
  induction first generalizing value with
  | nil => rfl
  | cons step rest ih =>
      rw [List.cons_append, at?, at?, Option.bind_assoc]
      congr 1
      funext held
      exact ih held

/-- What is replaced within the value at a place is replaced within the whole. -/
theorem replace_append (found : value.at? path = some held) (second : List Step) (new : Json) :
    value.replace (path ++ second) new = value.replace path (held.replace second new) := by
  induction path generalizing value with
  | nil =>
      obtain rfl := Option.some.inj found
      rfl
  | cons step rest ih =>
      obtain ⟨child, reached, later⟩ := Option.bind_eq_some_iff.mp found
      rw [List.cons_append, replace_cons reached, replace_cons reached, ih later]

theorem child?_putChild (found : value.child? step = some held) (new : Json) :
    (value.putChild step new).child? step = some new := by
  cases step with
  | member name =>
      cases value with
      | object members => simp [child?, putChild, lookup_insertMember]
      | _ => cases found
  | element position =>
      cases value with
      | array elements =>
          obtain ⟨within, -⟩ := List.getElem?_eq_some_iff.mp found
          simp [child?, putChild, within]
      | _ => cases found

/-- What is put in a place is found there. -/
theorem at?_replace (found : value.at? path = some held) (new : Json) :
    (value.replace path new).at? path = some new := by
  induction path generalizing value with
  | nil => rfl
  | cons step rest ih =>
      obtain ⟨child, reached, later⟩ := Option.bind_eq_some_iff.mp found
      rw [replace_cons reached, at?, child?_putChild reached, Option.bind_some, ih later]

end Replace

end ResourceRouter.Json
