import Mathlib.Tactic.MkIffOfInductiveProp
import ResourceRouter.Filter.Expression
import ResourceRouter.Proofs.Text.Trimming

set_option autoImplicit false

/-!
The wire form of a filter read back. The name of a field is cut at its first hyphen, and what
stands before that hyphen at its first point. Main statement: among the expressions whose type
names have neither of the two and whose associations have no hyphen, no two have one wire form.
-/

namespace ResourceRouter

namespace Field

/-- The separators in the name of a field are where a reader looks for them. The attribute may
have both, and the association a point. -/
@[mk_iff]
structure IsPlain (field : Field) : Prop where
  point : '.' ∉ field.typeName.toList
  hyphen : '-' ∉ field.typeName.toList
  association : ∀ association ∈ field.association, '-' ∉ association.toList

instance (field : Field) : Decidable field.IsPlain := decidable_of_iff' _ (isPlain_iff field)

/-- The association with the point before it. -/
def hop (field : Field) : List Char := (field.association.map ('.' :: ·.toList)).getD []

/-- What stands before the attribute in the name of a field. -/
def path (field : Field) : List Char := field.typeName.toList ++ field.hop

theorem toList_text (field : Field) :
    field.text.toList = field.path ++ '-' :: field.name.toList := by
  unfold text path hop
  cases field.association with
  | none => simp
  | some association => simp

theorem head?_hop (field : Field) : ∀ c ∈ field.hop.head?, c = '.' := by
  unfold hop
  cases field.association with
  | none => simp
  | some association => simp

theorem tail?_hop (field : Field) : field.hop.tail?.map String.ofList = field.association := by
  unfold hop
  cases field.association with
  | none => rfl
  | some association => simp

/-- The field that a path leads to. The type reaches up to the first point. -/
def ofPath (path : List Char) (name : String) : Field where
  typeName := String.ofList (path.takeWhile (· != '.'))
  association := (path.dropWhile (· != '.')).tail?.map String.ofList
  name := name

/-- The field of a name. The path reaches up to the first hyphen. -/
def ofText? (text : String) : Option Field :=
  (text.toList.dropWhile (· != '-')).tail?.map fun name =>
    ofPath (text.toList.takeWhile (· != '-')) (String.ofList name)

section Plain

variable {field : Field} (plain : field.IsPlain)
include plain

theorem ofPath_path : ofPath field.path field.name = field := by
  rw [ofPath, path, Text.takeWhile_bne_append plain.point field.head?_hop,
    Text.dropWhile_bne_append plain.point field.head?_hop, tail?_hop, String.ofList_toList]

theorem hyphen_notMem_path : '-' ∉ field.path := by
  have type := plain.hyphen
  unfold path hop
  cases shape : field.association with
  | none => simpa using type
  | some association =>
      have association : '-' ∉ association.toList := plain.association association shape
      simpa using ⟨type, association⟩

theorem ofText?_text : ofText? field.text = some field := by
  have starts : ∀ c ∈ ('-' :: field.name.toList).head?, c = '-' := by simp
  have before := Text.takeWhile_bne_append (hyphen_notMem_path plain) starts
  have after := Text.dropWhile_bne_append (hyphen_notMem_path plain) starts
  rw [ofText?, toList_text, before, after, List.tail?_cons, Option.map_some, String.ofList_toList,
    ofPath_path plain]

end Plain

/-- A point in the name of a type reads as the start of an association. -/
example : (Field.mk "Vm.host" none "name").text = (Field.mk "Vm" (some "host") "name").text := by
  decide

end Field

namespace Comparison

theorem ofName?_name (comparison : Comparison) : ofName? comparison.name = some comparison := by
  cases comparison <;> rfl

/-- No comparison is named like a combination. -/
theorem name_ne (comparison : Comparison) :
    comparison.name ≠ "AND" ∧ comparison.name ≠ "OR" := by
  cases comparison <;> decide

end Comparison

namespace Condition

/-- A value that may be absent. -/
def value? : Json → Option (Option String)
  | .null => some none
  | .string text => some (some text)
  | _ => none

theorem value?_ofOption (value : Option String) : value? (Json.ofOption value) = some value := by
  cases value with
  | none => rfl
  | some text => rfl

/-- The condition that an object of field and value states. -/
def ofWire? (comparison : Comparison) (body : Json) : Option Condition := do
  let text ← (body.member? "field").bind Json.string?
  let field ← Field.ofText? text
  let value ← (body.member? "value").bind value?
  return { comparison, field, value }

theorem ofWire?_body {condition : Condition} (plain : condition.field.IsPlain) :
    ofWire? condition.comparison (.object [("field", .string condition.field.text),
      ("value", Json.ofOption condition.value)]) = some condition := by
  have field := Field.ofText?_text plain
  have value := value?_ofOption condition.value
  simp [ofWire?, Json.member?, Json.lookup, Json.string?, field, value]

end Condition

namespace Expression

mutual

/-- The expression that a wire form states. -/
def ofWire? : Json → Option Expression
  | .object [("AND", .array children)] => (ofWireAll? children).map .and
  | .object [("OR", .array children)] => (ofWireAll? children).map .or
  | .object [(name, body)] => do
      let comparison ← Comparison.ofName? name
      let condition ← Condition.ofWire? comparison body
      return .leaf condition
  | _ => none

def ofWireAll? : List Json → Option (List Expression)
  | [] => some []
  | element :: rest => do
      let child ← ofWire? element
      let children ← ofWireAll? rest
      return child :: children

end

/-- Every field that the expression asks about is plain. -/
def IsPlain (expression : Expression) : Prop :=
  ∀ condition ∈ expression.conditions, condition.field.IsPlain

instance (expression : Expression) : Decidable expression.IsPlain :=
  inferInstanceAs (Decidable (∀ condition ∈ expression.conditions, condition.field.IsPlain))

theorem ofWire?_conditionWire {condition : Condition} (plain : condition.field.IsPlain) :
    ofWire? (conditionWire condition) = some (.leaf condition) := by
  have name := condition.comparison.name_ne
  have comparison := condition.comparison.ofName?_name
  have body := Condition.ofWire?_body plain
  -- A reader looks for the combinations first, and no comparison is named like one.
  rw [conditionWire, ofWire?]
  · rw [comparison, Option.bind_eq_bind, Option.bind_some, body]
    rfl
  · intro children key
    exact absurd key name.1
  · intro children key
    exact absurd key name.2

mutual

theorem ofWire?_wire : ∀ {expression : Expression}, expression.IsPlain →
    ofWire? expression.wire = some expression
  | .leaf condition, plain => by
      apply ofWire?_conditionWire
      exact plain condition List.mem_cons_self
  | .and children, plain => by
      have read : ofWireAll? (wireAll children) = some children := ofWireAll?_wireAll plain
      rw [wire, ofWire?, read, Option.map_some]
  | .or children, plain => by
      have read : ofWireAll? (wireAll children) = some children := ofWireAll?_wireAll plain
      rw [wire, ofWire?, read, Option.map_some]

theorem ofWireAll?_wireAll : ∀ {children : List Expression},
    (∀ condition ∈ conditionsOfAll children, condition.field.IsPlain) →
    ofWireAll? (wireAll children) = some children
  | [], _ => by rw [wireAll, ofWireAll?]
  | child :: rest, plain => by
      rw [conditionsOfAll, List.forall_mem_append] at plain
      have first : ofWire? child.wire = some child := ofWire?_wire plain.1
      have others : ofWireAll? (wireAll rest) = some rest := ofWireAll?_wireAll plain.2
      rw [wireAll, ofWireAll?, first, others]
      rfl

end

/-- An expression of plain fields can be read back from its wire form, so that no two of them have
one wire form. -/
theorem wire_unambiguous {first second : Expression} (plainFirst : first.IsPlain)
    (plainSecond : second.IsPlain) :
    ofWire? first.wire = some first ∧ (first.wire = second.wire ↔ first = second) := by
  have readFirst : ofWire? first.wire = some first := ofWire?_wire plainFirst
  have readSecond : ofWire? second.wire = some second := ofWire?_wire plainSecond
  refine ⟨readFirst, ?_, congrArg wire⟩
  intro same
  rw [same, readSecond] at readFirst
  exact (Option.some.inj readFirst).symm

/-- Asks for an attribute that has both separators, through an association that has a point. -/
def unracked : Expression := .leaf ⟨.isNull, ⟨"Vm", some "host.rack", "serial-no.main"⟩, none⟩

/-- A combination of a single expression is told from that expression. -/
theorem wire_unambiguous_single :
    (Expression.or [.and [], .or [unracked]]).IsPlain ∧ (Expression.or [.and [], unracked]).IsPlain ∧
      ofWire? (Expression.or [.and [], .or [unracked]]).wire =
        some (.or [.and [], .or [unracked]]) ∧
      ((Expression.or [.and [], .or [unracked]]).wire = (Expression.or [.and [], unracked]).wire ↔
        Expression.or [.and [], .or [unracked]] = .or [.and [], unracked]) :=
  ⟨by decide, by decide, wire_unambiguous (by decide) (by decide)⟩

end Expression

end ResourceRouter
