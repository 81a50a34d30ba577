import ResourceRouter.Filter.Expression
import ResourceRouter.Text.Utf8

set_option autoImplicit false

/-!
The operators of filter clauses: how they are written, where the first one stands in a clause, and
which comparisons they stand for.
-/

namespace ResourceRouter

inductive Operator where
  | equal
  | identical
  | notEqual
  | notIdentical
  | less
  | greater
  | atMost
  | atLeast
  | matchesPattern
  | matchesNotPattern
deriving DecidableEq, Repr

/-- The comparisons that an operator stands for, by the kind of value it meets. -/
structure Rendering where
  plain : Comparison
  /-- For a quoted value with wildcards. -/
  pattern : Option Comparison
  /-- For the value null. -/
  null : Option Comparison
  /-- For dates and moments; an operator without one does not apply to them. -/
  temporal : Option Comparison
deriving DecidableEq, Repr

namespace Operator

/-- Every operator, the longer ones first, so that the first that fits is the longest. -/
def longestFirst : List Operator :=
  [.notIdentical, .notEqual, .atMost, .atLeast, .identical, .matchesPattern, .matchesNotPattern,
    .less, .greater, .equal]

/-- The text of an operator. -/
def text : Operator → String
  | .equal => "="
  | .identical => "=="
  | .notEqual => "!="
  | .notIdentical => "!=="
  | .less => "<"
  | .greater => ">"
  | .atMost => "<="
  | .atLeast => ">="
  | .matchesPattern => "=~"
  | .matchesNotPattern => "!~"

/-- The operators whose value is a regular expression. -/
def takesPattern (operator : Operator) : Bool :=
  operator == .matchesPattern || operator == .matchesNotPattern

def rendering : Operator → Rendering
  | .equal | .identical => ⟨.equal, some .matchesPattern, some .isNull, some .is⟩
  | .notEqual | .notIdentical => ⟨.notEqual, some .matchesNotPattern, some .isNotNull, none⟩
  | .less => ⟨.less, none, none, some .before⟩
  | .greater => ⟨.greater, none, none, some .after⟩
  | .atMost => ⟨.atMost, none, none, none⟩
  | .atLeast => ⟨.atLeast, none, none, none⟩
  | .matchesPattern => ⟨.matchesPattern, some .matchesPattern, none, none⟩
  | .matchesNotPattern => ⟨.matchesNotPattern, some .matchesNotPattern, none, none⟩

/-- The longest operator that a text starts with. -/
def leading? (text : List Char) : Option Operator :=
  longestFirst.find? fun operator => operator.text.toList.isPrefixOf text

/-- A text split at its first operator. -/
structure Split where
  before : List Char
  operator : Operator
  after : List Char
deriving DecidableEq, Repr

/-- Splits a text at the leftmost position where an operator stands, at the longest one there. -/
def split? : List Char → Option Split
  | [] => none
  | c :: rest =>
    match leading? (c :: rest) with
    | some operator => some ⟨[], operator, (c :: rest).drop operator.text.length⟩
    | none => (split? rest).map fun split => { split with before := c :: split.before }

/-- The place of an operator in a text, as offsets in bytes. -/
structure Occurrence where
  operator : Operator
  start : Nat
  stop : Nat
deriving DecidableEq, Repr

/-- The place of the operator at which a text is split. -/
def Split.occurrence (split : Split) : Occurrence where
  operator := split.operator
  start := Text.byteLength split.before
  stop := Text.byteLength split.before + split.operator.text.utf8ByteSize

/-- The place of the first operator of a clause. -/
def find? (clause : String) : Option Occurrence := (split? clause.toList).map Split.occurrence

end Operator

end ResourceRouter
