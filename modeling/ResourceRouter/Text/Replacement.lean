set_option autoImplicit false

/-!
Replacement of a text by another wherever it stands in a longer one, from left to right. Occurrences
that overlap an earlier one do not count, and what is put in is not searched again.
-/

namespace ResourceRouter.Text

/-- Replaces what is left of a text, of which so many characters still belong to an occurrence. -/
def replaceFrom (old new : List Char) : Nat → List Char → List Char
  | _, [] => []
  | covered + 1, _ :: rest => replaceFrom old new covered rest
  | 0, c :: rest =>
    if old.isPrefixOf (c :: rest) then new ++ replaceFrom old new (old.length - 1) rest
    else c :: replaceFrom old new 0 rest

/-- Replaces every occurrence of a text, which must not be empty. -/
def replace (old new text : List Char) : List Char := replaceFrom old new 0 text

variable {old new : List Char}

@[simp] theorem replace_nil : replace old new [] = [] := rfl

theorem replaceFrom_eq (covered : Nat) (text : List Char) :
    replaceFrom old new covered text = replace old new (text.drop covered) := by
  induction text generalizing covered with
  | nil => cases covered <;> rfl
  | cons c rest ih =>
      cases covered with
      | zero => rfl
      | succ covered => exact ih covered

/-- An occurrence at the start is replaced, and the search goes on behind it. -/
theorem replace_append (present : old ≠ []) (rest : List Char) :
    replace old new (old ++ rest) = new ++ replace old new rest := by
  cases old with
  | nil => exact absurd rfl present
  | cons c old =>
      have starts : (c :: old).isPrefixOf (c :: (old ++ rest)) = true :=
        List.isPrefixOf_iff_prefix.mpr (List.prefix_append (c :: old) rest)
      rw [replace, List.cons_append, replaceFrom, if_pos starts, replaceFrom_eq,
        List.length_cons, Nat.add_sub_cancel, List.drop_left]

/-- A character at which no occurrence starts is kept. -/
theorem replace_cons {c : Char} {rest : List Char} (absent : ¬ old <+: c :: rest) :
    replace old new (c :: rest) = c :: replace old new rest := by
  have unlike : ¬ old.isPrefixOf (c :: rest) = true := by
    rw [List.isPrefixOf_iff_prefix]
    exact absent
  rw [replace, replaceFrom, if_neg unlike]
  rfl

/-- A single character is replaced place by place. -/
theorem replace_singleton (old : Char) (text : List Char) :
    replace [old] new text = text.flatMap fun c => if c = old then new else [c] := by
  induction text with
  | nil => rfl
  | cons c rest ih =>
      rw [List.flatMap_cons, ← ih]
      by_cases same : c = old
      · rw [if_pos same, same]
        exact replace_append (List.cons_ne_nil old []) rest
      · rw [if_neg same]
        apply replace_cons
        rw [List.cons_prefix_cons]
        exact fun starts => same starts.1.symm

end ResourceRouter.Text
