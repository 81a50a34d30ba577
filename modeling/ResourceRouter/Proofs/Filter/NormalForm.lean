import ResourceRouter.Proofs.Filter.Clauses

set_option autoImplicit false

/-!
The shape of compiled filters. A combination always joins two members or more, never stands directly
inside another of its own kind, and holds at most one further level of combinations. Which of them may
stand inside the outermost one is decided by the grouping.
-/

namespace ResourceRouter

namespace Expression

/-- The two ways to combine expressions. -/
inductive Connective where
  | and
  | or
deriving DecidableEq, Repr

/-- How an expression combines its members; a condition has none. -/
def connective? : Expression → Option Connective
  | .leaf _ => none
  | .and _ => some .and
  | .or _ => some .or

def members : Expression → List Expression
  | .leaf _ => []
  | .and children => children
  | .or children => children

/-- A single condition. -/
def IsLeaf (expression : Expression) : Prop := expression.connective? = none

mutual

/-- Every expression inside an expression, which itself comes first. -/
def nodes : Expression → List Expression
  | .leaf condition => [.leaf condition]
  | .and children => .and children :: nodesOfAll children
  | .or children => .or children :: nodesOfAll children

def nodesOfAll : List Expression → List Expression
  | [] => []
  | child :: rest => nodes child ++ nodesOfAll rest

end

mutual

/-- How many combinations stand inside each other. -/
def depth : Expression → Nat
  | .leaf _ => 0
  | .and children => depthOfAll children + 1
  | .or children => depthOfAll children + 1

def depthOfAll : List Expression → Nat
  | [] => 0
  | child :: rest => max (depth child) (depthOfAll rest)

end

/-- The normal form of an expression. -/
structure IsNormal (expression : Expression) : Prop where
  /-- A combination has something to combine. -/
  joins : ∀ node ∈ expression.nodes, node.connective? ≠ none → 2 ≤ node.members.length
  /-- No conjunction is a member of a conjunction, and no disjunction of a disjunction. -/
  alternates : ∀ node ∈ expression.nodes, ∀ member ∈ node.members,
    member.connective? ≠ node.connective?
  shallow : expression.depth ≤ 2

section Nodes

variable {expression : Expression} {children : List Expression}

theorem nodesOfAll_eq (children : List Expression) :
    nodesOfAll children = children.flatMap nodes := by
  induction children with
  | nil => rfl
  | cons child rest ih => simp only [nodesOfAll, ih, List.flatMap_cons]

/-- Below an expression stand its members and what is inside them. -/
theorem nodes_eq (expression : Expression) :
    expression.nodes = expression :: expression.members.flatMap nodes := by
  cases expression with
  | leaf condition => rfl
  | and children => rw [nodes, nodesOfAll_eq]; rfl
  | or children => rw [nodes, nodesOfAll_eq]; rfl

theorem depthOfAll_le {bound : Nat} (each : ∀ child ∈ children, child.depth ≤ bound) :
    depthOfAll children ≤ bound := by
  induction children with
  | nil => exact Nat.zero_le bound
  | cons child rest ih =>
      have first := each child List.mem_cons_self
      have others := ih fun member inside => each member (List.mem_cons_of_mem child inside)
      rw [depthOfAll]
      omega

theorem depth_le {bound : Nat} (each : ∀ member ∈ expression.members, member.depth ≤ bound) :
    expression.depth ≤ bound + 1 := by
  cases expression with
  | leaf condition => exact Nat.zero_le _
  | and children => exact Nat.succ_le_succ (depthOfAll_le each)
  | or children => exact Nat.succ_le_succ (depthOfAll_le each)

theorem members_of_isLeaf (leaf : expression.IsLeaf) : expression.members = [] := by
  cases expression with
  | leaf condition => rfl
  | and children => cases leaf
  | or children => cases leaf

theorem depth_of_isLeaf (leaf : expression.IsLeaf) : expression.depth = 0 := by
  cases expression with
  | leaf condition => rfl
  | and children => cases leaf
  | or children => cases leaf

/-- All members are single conditions. -/
def IsFlat (expression : Expression) : Prop := ∀ member ∈ expression.members, member.IsLeaf

theorem isFlat_of_isLeaf (leaf : expression.IsLeaf) : expression.IsFlat := by
  intro member inside
  rw [members_of_isLeaf leaf] at inside
  cases inside

theorem depth_of_isFlat (flat : expression.IsFlat) : expression.depth ≤ 1 := by
  apply depth_le
  intro member inside
  exact Nat.le_of_eq (depth_of_isLeaf (flat member inside))

/-- An expression is normal when its members are normal and flat, two or more and of another kind. -/
theorem isNormal_of_members
    (joins : expression.connective? ≠ none → 2 ≤ expression.members.length)
    (alternates : ∀ member ∈ expression.members, member.connective? ≠ expression.connective?)
    (normal : ∀ member ∈ expression.members, member.IsNormal)
    (flat : ∀ member ∈ expression.members, member.IsFlat) : expression.IsNormal := by
  have below {node : Expression} (inside : node ∈ expression.nodes) :
      node = expression ∨ ∃ member ∈ expression.members, node ∈ member.nodes := by
    rw [nodes_eq, List.mem_cons, List.mem_flatMap] at inside
    exact inside
  constructor
  case joins =>
    intro node inside
    rcases below inside with rfl | ⟨member, listed, within⟩
    · exact joins
    · exact (normal member listed).joins node within
  case alternates =>
    intro node inside
    rcases below inside with rfl | ⟨member, listed, within⟩
    · exact alternates
    · exact (normal member listed).alternates node within
  case shallow =>
    apply depth_le
    intro member inside
    exact depth_of_isFlat (flat member inside)

theorem isNormal_of_isLeaf (leaf : expression.IsLeaf) : expression.IsNormal := by
  have nothing := members_of_isLeaf leaf
  apply isNormal_of_members
  · exact fun combined => absurd leaf combined
  all_goals simp [nothing]

end Nodes

/-- An expression joins a list of others: a single one stands for itself. -/
inductive IsJoined (connective : Connective) (children : List Expression) : Expression → Prop where
  | single {expression : Expression} (only : children = [expression]) :
    IsJoined connective children expression
  | several {expression : Expression} (two : 2 ≤ children.length)
    (kind : expression.connective? = some connective) (whole : expression.members = children) :
    IsJoined connective children expression

section Joined

variable {connective : Connective} {children : List Expression} {expression : Expression}

theorem isJoined_all (present : children ≠ []) : IsJoined .and children (all children) := by
  rcases children with - | ⟨first, - | ⟨second, rest⟩⟩
  · exact absurd rfl present
  · exact .single rfl
  · exact .several (by simp) rfl rfl

theorem isJoined_any (present : children ≠ []) : IsJoined .or children (any children) := by
  rcases children with - | ⟨first, - | ⟨second, rest⟩⟩
  · exact absurd rfl present
  · exact .single rfl
  · exact .several (by simp) rfl rfl

/-- What may stand in a combination: a normal expression of another kind whose own members are
conditions. -/
structure IsMember (connective : Connective) (child : Expression) : Prop where
  normal : child.IsNormal
  flat : child.IsFlat
  other : child.connective? ≠ some connective

theorem isMember_of_isLeaf (leaf : expression.IsLeaf) : IsMember connective expression := by
  have kind : expression.connective? = none := leaf
  exact ⟨isNormal_of_isLeaf leaf, isFlat_of_isLeaf leaf, by simp [kind]⟩

theorem IsJoined.isNormal (joined : IsJoined connective children expression)
    (each : ∀ child ∈ children, IsMember connective child) : expression.IsNormal := by
  cases joined with
  | single only =>
      have inside : expression ∈ children := by simp [only]
      exact (each expression inside).normal
  | several two kind whole =>
      apply isNormal_of_members
      · intro
        rw [whole]
        exact two
      all_goals
        intro member inside
        rw [whole] at inside
      · rw [kind]
        exact (each member inside).other
      · exact (each member inside).normal
      · exact (each member inside).flat

section Leaves

variable (joined : IsJoined connective children expression)
  (leaves : ∀ child ∈ children, child.IsLeaf)
include joined leaves

theorem IsJoined.isNormal_of_leaves : expression.IsNormal :=
  joined.isNormal fun child inside => isMember_of_isLeaf (leaves child inside)

/-- Joined conditions are a condition or a combination of the kind that joins them. -/
theorem IsJoined.isLeaf_or_connective :
    expression.IsLeaf ∨ expression.connective? = some connective := by
  cases joined with
  | single only =>
      have inside : expression ∈ children := by simp [only]
      exact .inl (leaves expression inside)
  | several two kind whole => exact .inr kind

theorem IsJoined.isFlat : expression.IsFlat := by
  cases joined with
  | single only =>
      have inside : expression ∈ children := by simp [only]
      exact isFlat_of_isLeaf (leaves expression inside)
  | several two kind whole =>
      intro member inside
      rw [whole] at inside
      exact leaves member inside

/-- Joined conditions may stand in a combination of the other kind. -/
theorem IsJoined.isMember {outer : Connective} (apart : connective ≠ outer) :
    IsMember outer expression := by
  refine ⟨joined.isNormal_of_leaves leaves, joined.isFlat leaves, ?_⟩
  rcases joined.isLeaf_or_connective leaves with leaf | kind
  · exact (isMember_of_isLeaf leaf).other
  · rw [kind, ne_eq, Option.some.injEq]
    exact apart

end Leaves

end Joined

end Expression

namespace Filter

open Expression

/-- The shape that a grouping gives: beside alternatives only the first member may be a combination,
and a conjunction of groups has conditions and disjunctions of conditions for its members. Any other
expression joins nothing but conditions. -/
def IsArranged : Grouping → Expression → Prop
  | .alternativesLast, .or children => ∀ child ∈ children.tail, child.IsLeaf
  | .alternativesFirst, .and children =>
    ∀ child ∈ children, child.IsLeaf ∨ child.connective? = some .or ∧ child.IsFlat
  | _, expression => expression.IsFlat

theorem isArranged_of_isFlat {grouping : Grouping} {expression : Expression}
    (flat : expression.IsFlat) : IsArranged grouping expression := by
  unfold IsArranged
  split
  · exact fun child inside => flat child (List.mem_of_mem_tail inside)
  · exact fun child inside => .inl (flat child inside)
  · exact flat

/-- The conditions of terms as expressions. -/
def leaves (terms : List Term) : List Expression := terms.map fun term => .leaf term.condition

section Compositions

variable {terms : List Term} {grouping : Grouping} {connective : Connective}
  {expression : Expression}

theorem leaves_ne_nil (given : terms ≠ []) : leaves terms ≠ [] := by
  rw [leaves, ne_eq, List.map_eq_nil_iff]
  exact given

theorem isLeaf_of_mem_leaves : ∀ child ∈ leaves terms, child.IsLeaf := by
  intro child inside
  obtain ⟨term, -, rfl⟩ := List.mem_map.mp inside
  rfl

/-- Terms that are all joined in one way suit either grouping. -/
theorem isNormal_of_leaves (joined : IsJoined connective (leaves terms) expression) :
    expression.IsNormal ∧ IsArranged grouping expression := by
  constructor
  · exact joined.isNormal_of_leaves isLeaf_of_mem_leaves
  · exact isArranged_of_isFlat (joined.isFlat isLeaf_of_mem_leaves)

theorem composeLast_of_plain (plain : ∀ term ∈ terms, term.alternative = false) :
    composeLast terms = .all (leaves terms) := by
  have noAlternative : terms.filter (·.alternative) = [] := by
    simpa [List.filter_eq_nil_iff] using plain
  have allPlain : terms.filter (!·.alternative) = terms := by
    simpa [List.filter_eq_self] using plain
  rw [composeLast, noAlternative, allPlain]
  rfl

theorem composeLast_of_alternatives (given : terms ≠ [])
    (alternatives : ∀ term ∈ terms, term.alternative = true) :
    composeLast terms = .any (leaves terms) := by
  have noPlain : terms.filter (!·.alternative) = [] := by
    simpa [List.filter_eq_nil_iff] using alternatives
  have allAlternatives : terms.filter (·.alternative) = terms := List.filter_eq_self.mpr alternatives
  have present : ¬ (leaves terms).isEmpty = true := by
    rw [List.isEmpty_iff]
    exact leaves_ne_nil given
  rw [composeLast, noPlain, allAlternatives]
  exact if_neg present

/-- Plain terms and alternatives give a disjunction, with the conjunction of the plain ones first. -/
theorem composeLast_of_both (plain : ∃ term ∈ terms, term.alternative = false)
    (alternative : ∃ term ∈ terms, term.alternative = true) :
    ∃ first others, first ≠ [] ∧ others ≠ [] ∧
      composeLast terms = .or (.all (leaves first) :: leaves others) := by
  have somePlain : terms.filter (!·.alternative) ≠ [] := by
    simpa [List.filter_eq_nil_iff] using plain
  have someAlternative : terms.filter (·.alternative) ≠ [] := by
    simpa [List.filter_eq_nil_iff] using alternative
  refine ⟨_, _, somePlain, someAlternative, ?_⟩
  obtain ⟨term, rest, shape⟩ := List.exists_cons_of_ne_nil someAlternative
  have present : ¬ (leaves (terms.filter (!·.alternative))).isEmpty = true := by
    rw [List.isEmpty_iff]
    exact leaves_ne_nil somePlain
  rw [composeLast, shape]
  exact if_neg present

/-- Terms without alternatives, without plain ones, or with both. -/
theorem plain_or_alternatives (terms : List Term) :
    (∀ term ∈ terms, term.alternative = false) ∨ (∀ term ∈ terms, term.alternative = true) ∨
      (∃ term ∈ terms, term.alternative = false) ∧ ∃ term ∈ terms, term.alternative = true := by
  by_cases alternative : ∃ term ∈ terms, term.alternative = true
  · by_cases plain : ∃ term ∈ terms, term.alternative = false
    · exact .inr (.inr ⟨plain, alternative⟩)
    · exact .inr (.inl (by simpa using plain))
  · exact .inl (by simpa using alternative)

theorem isNormal_composeLast (given : terms ≠ []) :
    (composeLast terms).IsNormal ∧ IsArranged .alternativesLast (composeLast terms) := by
  rcases plain_or_alternatives terms with plain | alternatives | ⟨plain, alternative⟩
  · rw [composeLast_of_plain plain]
    exact isNormal_of_leaves (isJoined_all (leaves_ne_nil given))
  · rw [composeLast_of_alternatives given alternatives]
    exact isNormal_of_leaves (isJoined_any (leaves_ne_nil given))
  · obtain ⟨first, others, someFirst, someOther, composed⟩ := composeLast_of_both plain alternative
    have conjunction := isJoined_all (leaves_ne_nil someFirst)
    have two : 2 ≤ (all (leaves first) :: leaves others).length := by
      have more := List.length_pos_iff.mpr (leaves_ne_nil someOther)
      rw [List.length_cons]
      omega
    rw [composed]
    refine ⟨(IsJoined.several two rfl rfl).isNormal ?_, isLeaf_of_mem_leaves⟩
    intro child inside
    rcases List.mem_cons.mp inside with rfl | other
    · exact conjunction.isMember isLeaf_of_mem_leaves (by decide)
    · exact isMember_of_isLeaf (isLeaf_of_mem_leaves child other)

/-- No group of terms is empty. -/
theorem ne_nil_of_mem_groups {group : List Condition} (listed : group ∈ groups terms) :
    group ≠ [] := by
  induction terms generalizing group with
  | nil => cases listed
  | cons term rest ih =>
      cases rest with
      | nil =>
          have only : group = [term.condition] := List.mem_singleton.mp listed
          rw [only]
          exact List.cons_ne_nil _ _
      | cons next rest =>
          obtain ⟨lead, more, shape, joined⟩ := groups_cons_cons term next rest
          rw [shape] at ih
          rw [joined] at listed
          -- Either way the term is in the first group, and the others are groups of the rest.
          split at listed
          all_goals
            rcases List.mem_cons.mp listed with rfl | later
            · exact List.cons_ne_nil _ _
          · exact ih (List.mem_cons_of_mem lead later)
          · exact ih later

/-- Each group is a condition or a disjunction of conditions. -/
theorem isJoined_group
    (inside : expression ∈ (groups terms).map fun group => Expression.any (group.map .leaf)) :
    ∃ children, IsJoined .or children expression ∧ ∀ child ∈ children, child.IsLeaf := by
  obtain ⟨group, listed, rfl⟩ := List.mem_map.mp inside
  refine ⟨group.map .leaf, isJoined_any ?_, ?_⟩
  · rw [ne_eq, List.map_eq_nil_iff]
    exact ne_nil_of_mem_groups listed
  · intro child among
    obtain ⟨condition, -, rfl⟩ := List.mem_map.mp among
    rfl

theorem isNormal_composeFirst (given : terms ≠ []) :
    (composeFirst terms).IsNormal ∧ IsArranged .alternativesFirst (composeFirst terms) := by
  have present : (groups terms).map (fun group => Expression.any (group.map .leaf)) ≠ [] := by
    obtain ⟨term, rest, rfl⟩ := List.exists_cons_of_ne_nil given
    rw [ne_eq, List.map_eq_nil_iff]
    exact groups_ne_nil term rest
  have joined : IsJoined .and _ (composeFirst terms) := isJoined_all present
  constructor
  · apply joined.isNormal
    intro child inside
    obtain ⟨members, disjunction, conditions⟩ := isJoined_group inside
    exact disjunction.isMember conditions (by decide)
  · generalize composeFirst terms = expression at joined
    cases joined with
    | single only =>
        -- A lone group stands for itself, and may well be a disjunction.
        have inside : expression ∈ [expression] := List.mem_cons_self
        rw [← only] at inside
        obtain ⟨members, disjunction, conditions⟩ := isJoined_group inside
        exact isArranged_of_isFlat (disjunction.isFlat conditions)
    | several two kind whole =>
        cases expression with
        | leaf condition => cases kind
        | or children => cases kind
        | and children =>
            intro child inside
            have shape : children = (groups terms).map _ := whole
            rw [shape] at inside
            obtain ⟨members, disjunction, conditions⟩ := isJoined_group inside
            rcases disjunction.isLeaf_or_connective conditions with leaf | kind
            · exact .inl leaf
            · exact .inr ⟨kind, disjunction.isFlat conditions⟩

end Compositions

/-- A compiled filter is in normal form, with its combinations where the grouping allows them. -/
theorem compile_isNormal {schema : Schema} {grouping : Grouping} {typeName : String}
    {clauses : List String} {filter : Expression}
    (compiled : compile schema grouping typeName clauses = .ok filter) :
    filter.IsNormal ∧ IsArranged grouping filter := by
  obtain ⟨given, terms, each, rfl⟩ := compile_eq_ok.mp compiled
  have some : terms ≠ [] := by
    rintro rfl
    exact given (List.forall₂_nil_right_iff.mp each)
  cases grouping with
  | alternativesLast => exact isNormal_composeLast some
  | alternativesFirst => exact isNormal_composeFirst some

/-- The first member of the disjunction combines the plain clauses, which stand apart in the list. -/
theorem compile_isNormal_inventory :
    ∃ filter, compile inventory .alternativesLast "Machine"
        ["or name = 'a*'", "created = 2020-01-02", "OR host.size > 3", "name = b"] = .ok filter ∧
      filter.depth = 2 ∧ filter.IsNormal ∧ IsArranged .alternativesLast filter := by
  have compiled : compile inventory .alternativesLast "Machine"
      ["or name = 'a*'", "created = 2020-01-02", "OR host.size > 3", "name = b"] =
        .ok (.or [
          .and [.leaf ⟨.is, ⟨"Machine", none, "created"⟩, some "2020-01-02"⟩,
            .leaf ⟨.equal, ⟨"Machine", none, "name"⟩, some "b"⟩],
          .leaf ⟨.matchesPattern, ⟨"Machine", none, "name"⟩, some "/\\Aa.*\\z/"⟩,
          .leaf ⟨.greater, ⟨"Machine", some "host", "size"⟩, some "3"⟩]) := rfl
  exact ⟨_, compiled, rfl, compile_isNormal compiled⟩

end Filter

end ResourceRouter
