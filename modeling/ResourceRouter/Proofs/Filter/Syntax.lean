import ResourceRouter.Proofs.Filter.Clauses
import ResourceRouter.Proofs.Filter.Operators
import ResourceRouter.Proofs.Text.Trimming

set_option autoImplicit false

/-!
How filter clauses are written: a marker that may be missing, a path of one or two names around a
point, the first operator, and a value. Reading a clause gives just these parts, without the blanks
around them.
-/

namespace ResourceRouter

/-- A text writes a path as the name of an attribute, or as those of an association and an attribute
with a point between them. Blanks around a name do not count, and no name is blank. -/
inductive AttributePath.IsWritten (text : List Char) : AttributePath → Prop where
  | own (undotted : '.' ∉ text) (named : Text.trim text ≠ []) :
    IsWritten text ⟨none, String.ofList (Text.trim text)⟩
  | through (association name : List Char) (dotted : text = association ++ '.' :: name)
    (first : '.' ∉ association) (last : '.' ∉ name)
    (associated : Text.trim association ≠ []) (named : Text.trim name ≠ []) :
    IsWritten text
      ⟨some (String.ofList (Text.trim association)), String.ofList (Text.trim name)⟩

namespace AttributePath

variable {text association name : List Char} {path : AttributePath}

theorem dot_notMem_trim (undotted : '.' ∉ text) : '.' ∉ Text.trim text :=
  fun inside => undotted ((Text.trim_infix text).subset inside)

theorem parse_trim_undotted (undotted : '.' ∉ text) :
    parse (Text.trim text) = .ok path ↔
      Text.trim text ≠ [] ∧ ⟨none, String.ofList (Text.trim text)⟩ = path := by
  have parts : ((Text.trim text).splitOn '.').map Text.trim = [Text.trim text] := by
    rw [List.splitOn_eq_singleton (dot_notMem_trim undotted), List.map_singleton, Text.trim_trim]
  rw [parse, parts]
  by_cases blank : Text.trim text = []
  · simp [blank]
  · simp [blank]

theorem parse_trim_dotted (first : '.' ∉ association) (last : '.' ∉ name) :
    parse (Text.trim (association ++ '.' :: name)) = .ok path ↔
      Text.trim association ≠ [] ∧ Text.trim name ≠ [] ∧
        ⟨some (String.ofList (Text.trim association)), String.ofList (Text.trim name)⟩ = path := by
  have firstKept : '.' ∉ Text.trimStart association := fun inside =>
    first ((List.dropWhile_suffix Text.isBlank).subset inside)
  have lastKept : '.' ∉ Text.dropTrailing Text.isBlank name := fun inside =>
    last ((Text.dropTrailing_prefix name).subset inside)
  have parts : ((Text.trim (association ++ '.' :: name)).splitOn '.').map Text.trim =
      [Text.trim association, Text.trim name] := by
    rw [Text.trim_append_cons rfl, List.splitOn_append_cons_self,
      List.splitOn_eq_singleton firstKept, List.splitOn_eq_singleton lastKept, List.map_append,
      List.map_singleton, List.map_singleton, Text.trim_trimStart, Text.trim_dropTrailing]
    rfl
  rw [parse, parts]
  by_cases noAssociation : Text.trim association = []
  · simp [noAssociation]
  · by_cases noName : Text.trim name = []
    · simp [noName]
    · simp [noAssociation, noName]

/-- A path with a second point is refused. -/
theorem parse_trim_hops (first second third : List Char) :
    parse (Text.trim (first ++ '.' :: (second ++ '.' :: third))) ≠ .ok path := by
  have hops : 2 < (((Text.trim (first ++ '.' :: (second ++ '.' :: third))).splitOn '.').map
      Text.trim).length := by
    have some (part : List Char) : 0 < (part.splitOn '.').length :=
      List.length_pos_iff.mpr (List.splitOn_ne_nil '.' part)
    rw [Text.trim_append_cons rfl, Text.dropTrailing_append_cons rfl,
      List.splitOn_append_cons_self, List.splitOn_append_cons_self]
    simp only [List.length_map, List.length_append]
    have start := some (Text.trimStart first)
    have middle := some second
    have final := some (Text.dropTrailing Text.isBlank third)
    omega
  rw [parse, if_pos hops]
  simp

/-- Reading gives the path that is written, and refuses every other text. -/
theorem parse_trim_eq_ok_iff : parse (Text.trim text) = .ok path ↔ path.IsWritten text := by
  constructor
  · intro read
    by_cases dotted : '.' ∈ text
    · obtain ⟨association, name, rfl, first⟩ := List.eq_append_cons_of_mem dotted
      by_cases further : '.' ∈ name
      · obtain ⟨second, third, rfl⟩ := List.append_of_mem further
        exact absurd read (parse_trim_hops association second third)
      · obtain ⟨associated, named, rfl⟩ := (parse_trim_dotted first further).mp read
        exact .through association name rfl first further associated named
    · obtain ⟨named, rfl⟩ := (parse_trim_undotted dotted).mp read
      exact .own dotted named
  · intro written
    cases written with
    | own undotted named => exact (parse_trim_undotted undotted).mpr ⟨named, rfl⟩
    | through association name dotted first last associated named =>
        rw [dotted]
        exact (parse_trim_dotted first last).mpr ⟨associated, named, rfl⟩

end AttributePath

namespace Clause

/-- The text of a clause without its marker and the blanks after it. -/
def unmarked (text : List Char) : List Char :=
  if isMarked text then Text.trimStart (text.drop 3) else text

theorem dropMarker_eq (text : List Char) : dropMarker text = (isMarked text, unmarked text) := by
  have marked := dropMarker_marked text
  refine Prod.ext marked ?_
  rw [unmarked, ← marked]
  unfold dropMarker
  split
  case h_1 o r rest => split <;> rfl
  case h_2 => rfl

/-- Reading a clause gives the parts that it is written with: those before and after the first
operator that follows the marker. -/
theorem parse_eq_ok_iff {text : String} {clause : Clause} :
    parse text = .ok clause ↔ ∃ split path,
      Operator.Split.IsFirstIn split (unmarked (Text.trim text.toList)) ∧
        AttributePath.IsWritten split.before path ∧
        ⟨path, split.operator, Text.trim split.after, isMarked (Text.trim text.toList)⟩ =
          clause := by
  simp only [← Operator.split?_eq_some_iff, ← AttributePath.parse_trim_eq_ok_iff]
  rw [parse, dropMarker_eq]
  dsimp only
  generalize unmarked (Text.trim text.toList) = body
  cases found : Operator.split? body with
  | none =>
      refine iff_of_false ?_ (by simp)
      split <;> simp
  | some split =>
      have present : ¬ body.isEmpty = true := by
        intro empty
        rw [List.isEmpty_iff.mp empty] at found
        cases found
      simp [present, Stage.map_eq_ok]

end Clause

end ResourceRouter
