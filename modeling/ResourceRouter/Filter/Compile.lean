import ResourceRouter.Filter.Value

set_option autoImplicit false

/-!
Compilation of filters: every clause becomes a condition on a field of the schema, and the marked
clauses decide how the conditions are joined.
-/

namespace ResourceRouter

/-- How alternatives group with their neighbours. -/
inductive Grouping where
  /-- All plain clauses form one conjunction, and every alternative stands beside it. -/
  | alternativesLast
  /-- An alternative joins the clause before it, and the groups are joined by conjunction. -/
  | alternativesFirst
deriving DecidableEq, Repr, Inhabited

/-- A condition with the marker of its clause. -/
structure Term where
  alternative : Bool
  condition : Condition
deriving DecidableEq, Repr

namespace Filter

/-- The field that a path names, with the declared type of its attribute. -/
def resolveField (schema : Schema) (typeName : String) (path : AttributePath) :
    Except FilterFault (Field × Option AttributeType) :=
  let owner :=
    match path.association with
    | none => some typeName
    | some association => schema.associatedType typeName association
  match owner with
  | none => .error (.unknownAssociation (path.association.getD "") typeName)
  | some owner =>
    if schema.isRealAttribute owner path.name then
      .ok (⟨typeName, path.association, path.name⟩, schema.attributeType owner path.name)
    else .error (.unknownAttribute path.name owner)

/-- The term of one clause. -/
def compileClause (schema : Schema) (typeName text : String) : Except FilterFault Term := do
  let clause ← Clause.parse text
  let (field, type) ← resolveField schema typeName clause.path
  let (comparison, value) ← interpret clause.operator clause.value type
  return ⟨clause.alternative, ⟨comparison, field, value⟩⟩

/-- One conjunction of the plain terms, beside the alternatives. -/
def composeLast (terms : List Term) : Expression :=
  let plain := (terms.filter (!·.alternative)).map fun term => Expression.leaf term.condition
  let alternatives := (terms.filter (·.alternative)).map fun term => Expression.leaf term.condition
  if alternatives.isEmpty then .all plain
  else if plain.isEmpty then .any alternatives
  else .any (.all plain :: alternatives)

/-- Groups of terms: a term and the alternatives that follow it without a plain one between. -/
def groups : List Term → List (List Condition)
  | [] => []
  | term :: rest =>
    match rest, groups rest with
    | next :: _, group :: more =>
      if next.alternative then (term.condition :: group) :: more
      else [term.condition] :: group :: more
    | _, more => [term.condition] :: more

/-- A conjunction of the disjunctions of the groups. -/
def composeFirst (terms : List Term) : Expression :=
  .all ((groups terms).map fun group => .any (group.map .leaf))

/-- The expression of terms under a grouping. -/
def compose : Grouping → List Term → Expression
  | .alternativesLast => composeLast
  | .alternativesFirst => composeFirst

/-- The expression of a list of clauses on a type; the first clause that fails decides the fault. -/
def compile (schema : Schema) (grouping : Grouping) (typeName : String) (clauses : List String) :
    Except FilterFault Expression :=
  if clauses.isEmpty then .error .noClauses
  else (clauses.mapM (compileClause schema typeName)).map (compose grouping)

end Filter

end ResourceRouter
