import ResourceRouter.Json.Basic

set_option autoImplicit false

/-!
Compiled filters: conditions on fields joined by conjunction and disjunction, their meaning, and the
wire form that the query layer reads.
-/

namespace ResourceRouter

/-- The comparison of a condition. -/
inductive Comparison where
  | equal
  | notEqual
  | less
  | greater
  | atMost
  | atLeast
  | is
  | isNull
  | isNotNull
  | before
  | after
  | matchesPattern
  | matchesNotPattern
  | includesAll
deriving DecidableEq, Repr

namespace Comparison

def all : List Comparison :=
  [.equal, .notEqual, .less, .greater, .atMost, .atLeast, .is, .isNull, .isNotNull, .before, .after,
    .matchesPattern, .matchesNotPattern, .includesAll]

/-- The name of a comparison in the wire form. -/
def name : Comparison → String
  | .equal => "="
  | .notEqual => "!="
  | .less => "<"
  | .greater => ">"
  | .atMost => "<="
  | .atLeast => ">="
  | .is => "IS"
  | .isNull => "IS NULL"
  | .isNotNull => "IS NOT NULL"
  | .before => "BEFORE"
  | .after => "AFTER"
  | .matchesPattern => "REGULAR EXPRESSION MATCHES"
  | .matchesNotPattern => "REGULAR EXPRESSION DOES NOT MATCH"
  | .includesAll => "includes all"

def ofName? (name : String) : Option Comparison := all.find? (·.name == name)

end Comparison

/-- An attribute of a type, or of the type that one association leads to. -/
structure Field where
  typeName : String
  association : Option String
  name : String
deriving DecidableEq, Repr

/-- The name of a field in the wire form. -/
def Field.text (field : Field) : String :=
  match field.association with
  | some association => field.typeName ++ "." ++ association ++ "-" ++ field.name
  | none => field.typeName ++ "-" ++ field.name

/-- A predicate on one field. Values stay text; the query layer gives them their type. -/
structure Condition where
  comparison : Comparison
  field : Field
  value : Option String
deriving DecidableEq, Repr

inductive Expression where
  | leaf (condition : Condition)
  | and (children : List Expression)
  | or (children : List Expression)
deriving BEq, Repr, Inhabited

instance : Inhabited Condition := ⟨⟨.equal, ⟨"", none, ""⟩, none⟩⟩

namespace Expression

/-- The conjunction of expressions; that of a single one is the expression itself. -/
def all : List Expression → Expression
  | [single] => single
  | children => .and children

/-- The disjunction of expressions; that of a single one is the expression itself. -/
def any : List Expression → Expression
  | [single] => single
  | children => .or children

mutual

/-- The conditions of an expression from left to right. -/
def conditions : Expression → List Condition
  | .leaf condition => [condition]
  | .and children => conditionsOfAll children
  | .or children => conditionsOfAll children

def conditionsOfAll : List Expression → List Condition
  | [] => []
  | child :: rest => conditions child ++ conditionsOfAll rest

end

mutual

/-- The truth of an expression when the truth of its conditions is given. -/
def holds (truth : Condition → Bool) : Expression → Bool
  | .leaf condition => truth condition
  | .and children => allHold truth children
  | .or children => anyHolds truth children

def allHold (truth : Condition → Bool) : List Expression → Bool
  | [] => true
  | child :: rest => holds truth child && allHold truth rest

def anyHolds (truth : Condition → Bool) : List Expression → Bool
  | [] => false
  | child :: rest => holds truth child || anyHolds truth rest

end

/-- The wire form of a condition: its comparison names an object of field and value. -/
def conditionWire (condition : Condition) : Json :=
  .object [(condition.comparison.name,
    .object [("field", .string condition.field.text), ("value", Json.ofOption condition.value)])]

mutual

/-- The wire form of an expression. -/
def wire : Expression → Json
  | .leaf condition => conditionWire condition
  | .and children => .object [("AND", .array (wireAll children))]
  | .or children => .object [("OR", .array (wireAll children))]

def wireAll : List Expression → List Json
  | [] => []
  | child :: rest => wire child :: wireAll rest

end

end Expression

end ResourceRouter
