import ResourceRouter.Calendar.Timestamp
import ResourceRouter.Filter.Clause
import ResourceRouter.Text.Replacement

set_option autoImplicit false

/-!
The meaning of a clause's value: quotes, wildcards, regular expressions, null and times decide which
comparison the operator stands for and which text it compares with.
-/

namespace ResourceRouter.Filter

/-- The text between quotes of one kind. -/
def unquote? (value : List Char) : Option (List Char) :=
  match value with
  | quote :: rest =>
    if (quote = '\'' || quote = '"') && rest.getLast? = some quote then some rest.dropLast else none
  | [] => none

/-- The characters that stand for any text in a quoted value. -/
def isWildcard (c : Char) : Bool := c == '%' || c == '*'

/-- The characters that mean something in a regular expression. -/
def patternChars : List Char :=
  ['\\', '.', '+', '*', '?', '(', ')', '|', '[', ']', '\x7b', '\x7d', '^', '$', '#', '&', '-',
    '~']

/-- The character means something in a regular expression. -/
def isPatternChar (c : Char) : Bool := patternChars.contains c

/-- The text as a regular expression for itself: what means something there gets a backslash. -/
def escape (text : List Char) : List Char :=
  text.flatMap fun c => if isPatternChar c then ['\\', c] else [c]

/-- The part of a regular expression that stands for any text. -/
def anyText : List Char := ['.', '*']

/-- The regular expression for a whole text in which wildcards stand for any text. The value is
escaped as a whole, so a star is found with a backslash before it. -/
def wildcardPattern (value : List Char) : List Char :=
  let starred := Text.replace ['\\', '*'] anyText (escape value)
  ['/', '\\', 'A'] ++ Text.replace ['%'] anyText starred ++ ['\\', 'z', '/']

/-- A regular expression between slashes, which are added unless they are there. -/
def patternLiteral (source : List Char) : List Char :=
  match source with
  | '/' :: rest => if rest.getLast? = some '/' then source else '/' :: source ++ ['/']
  | _ => '/' :: source ++ ['/']

/-- An unquoted word for the missing value, in any case of its letters. -/
def isNull (value : List Char) : Bool :=
  let word := value.map Char.toLower
  word == ['n', 'u', 'l', 'l'] || word == ['n', 'i', 'l']

/-- A comparison with a time: the operator has to apply to times and the value to be one. -/
def compareTime (operator : Operator) (type : AttributeType) (value : String) :
    Except FilterFault (Comparison × Option String) :=
  match operator.rendering.temporal with
  | none => .error (.temporalOperator type operator)
  | some comparison =>
    if Calendar.isTime value then .ok (comparison, some value)
    else .error (.temporalValue type value)

/-- A comparison with a text that is neither null nor, for a temporal attribute, free of the rules
for times. -/
def compareText (operator : Operator) (type : Option AttributeType) (value : String) :
    Except FilterFault (Comparison × Option String) :=
  match type.filter AttributeType.isTemporal with
  | some temporal => compareTime operator temporal value
  | none => .ok (operator.rendering.plain, some value)

/-- The comparison for a quoted value with wildcards. On a set of texts the plain equality asks for
inclusion; an operator without a pattern form has none. -/
def wildcardComparison? (operator : Operator) (type : Option AttributeType) (inner : List Char) :
    Option (Comparison × Option String) :=
  if !inner.any isWildcard then none
  else if type = some .stringSet && operator = .equal then
    some (.includesAll, some (String.ofList inner))
  else
    operator.rendering.pattern.map fun comparison =>
      (comparison, some (String.ofList (wildcardPattern inner)))

/-- The comparison and the value of a clause on an attribute of the given type. -/
def interpret (operator : Operator) (value : List Char) (type : Option AttributeType) :
    Except FilterFault (Comparison × Option String) :=
  match unquote? value with
  | some inner =>
    if operator.takesPattern then
      .ok (operator.rendering.plain, some (String.ofList (patternLiteral inner)))
    else
      match wildcardComparison? operator type inner with
      | some result => .ok result
      | none => compareText operator type (String.ofList inner)
  | none =>
    if isNull value then .ok (operator.rendering.null.getD operator.rendering.plain, none)
    else if operator.takesPattern && !type.any AttributeType.isTemporal then
      .ok (operator.rendering.plain, some (String.ofList (patternLiteral value)))
    else compareText operator type (String.ofList value)

end ResourceRouter.Filter
