import ResourceRouter.Proofs.Text.Trimming
import ResourceRouter.Url.Basic

set_option autoImplicit false

/-!
Texts that are no absolute URLs, as no scheme opens them.
-/

namespace ResourceRouter.Url

theorem path?_eq_none {raw : List Char} (relative : scheme? (withoutBreaks (trimMargins raw)) = none) :
    path? raw = none := by
  simp only [path?, relative]

theorem path?_of_slash (rest : List Char) : path? ('/' :: rest) = none := by
  apply path?_eq_none
  have kept : trimMargins ('/' :: rest) =
      '/' :: Text.dropTrailing (fun c => decide (c.toNat ≤ 0x20)) rest := by
    rw [trimMargins, List.dropWhile_cons_of_neg (by decide), Text.dropTrailing_cons (by decide)]
  rw [kept]
  rfl

theorem visible_of_endsPath {c : Char} (ends : endsPath c = true) :
    0x20 < c.toNat ∧ c.toNat < 0x7F := by
  simp only [endsPath, Bool.or_eq_true, beq_iff_eq] at ends
  rcases ends with rfl | rfl <;> decide

theorem isBreak_of_visible {c : Char} (visible : 0x20 < c.toNat) : isBreak c = false := by
  simp only [isBreak, Bool.or_eq_false_iff, beq_eq_false_iff_ne]
  refine ⟨⟨?_, ?_⟩, ?_⟩ <;> rintro rfl <;> exact absurd visible (by decide)

/-- A character that no run holds is not the first after a run. -/
theorem head?_dropWhile_append {test : Char → Bool} {first second : List Char} {c : Char}
    (absent : c ∉ first) (stops : ∀ x ∈ second.head?, test x = false) (other : c ∉ second.head?) :
    c ∉ ((first ++ second).dropWhile test).head? := by
  rw [List.dropWhile_append]
  split
  · cases second with
    | nil => simp
    | cons x rest =>
        rw [List.dropWhile_cons_of_neg (by simp [stops x rfl])]
        exact other
  · rename_i left
    intro opens
    rw [List.head?_append_of_ne_nil _ (by simpa using left)] at opens
    have inside := List.mem_of_head? opens
    exact absent ((List.dropWhile_suffix test).subset inside)

section Suffix

variable {first second : List Char} (visible : ∀ c ∈ first, 0x20 < c.toNat)
  (ends : ∀ c ∈ second.head?, endsPath c = true)
include visible ends

/-- Of a visible text before a query or a fragment, nothing is lost when a URL is read. -/
theorem withoutBreaks_trimMargins :
    ∃ suffix, withoutBreaks (trimMargins (first ++ second)) = first ++ suffix ∧
      ∀ c ∈ suffix.head?, endsPath c = true := by
  have starts : ∀ c ∈ second.head?, decide (c.toNat ≤ 0x20) = false := by
    intro c opens
    have visible := (visible_of_endsPath (ends c opens)).1
    simpa using visible
  have trimmed : trimMargins (first ++ second) =
      first ++ Text.dropTrailing (fun c => decide (c.toNat ≤ 0x20)) second :=
    Text.dropTrailing_dropWhile_append (fun c inside => by simpa using visible c inside) starts
  have kept : withoutBreaks first = first := by
    apply List.filter_eq_self.mpr
    intro c inside
    simp [isBreak_of_visible (visible c inside)]
  have sameHead := Text.head?_dropTrailing starts
  refine ⟨withoutBreaks (Text.dropTrailing (fun c => decide (c.toNat ≤ 0x20)) second), ?_, ?_⟩
  · rw [trimmed, withoutBreaks, List.filter_append]
    exact congrArg (· ++ _) kept
  · rw [← sameHead] at ends
    cases cut : Text.dropTrailing (fun c => decide (c.toNat ≤ 0x20)) second with
    | nil => simp [withoutBreaks]
    | cons c rest =>
        rw [cut] at ends
        have opens : endsPath c = true := ends c rfl
        simp [withoutBreaks, isBreak_of_visible (visible_of_endsPath opens).1, opens]

/-- A text without a colon before its query or fragment is no absolute URL. -/
theorem path?_of_no_colon (solid : ':' ∉ first) : path? (first ++ second) = none := by
  obtain ⟨suffix, kept, opens⟩ := withoutBreaks_trimMargins visible ends
  have stops : ∀ c ∈ suffix.head?,
      (c.isAlphanum || c == '+' || c == '-' || c == '.') = false ∧ c ≠ ':' := by
    intro c start
    have mark := opens c start
    simp only [endsPath, Bool.or_eq_true, beq_iff_eq] at mark
    rcases mark with rfl | rfl <;> decide
  apply path?_eq_none
  rw [kept, scheme?]
  split
  · split
    · rename_i rest scheme
      have absent := head?_dropWhile_append solid (fun c start => (stops c start).1)
        fun start => (stops ':' start).2 rfl
      rw [scheme] at absent
      exact absurd rfl absent
    · rfl
  · rfl

end Suffix

end ResourceRouter.Url
