import Mathlib.Data.List.Basic

set_option autoImplicit false

/-!
The parts of a text between separators.
-/

namespace ResourceRouter.Text

theorem splitOnP_congr {α : Type} {first second : α → Bool} {text : List α}
    (same : ∀ c ∈ text, first c = second c) : text.splitOnP first = text.splitOnP second := by
  induction text with
  | nil => rfl
  | cons c rest ih =>
      have later := ih fun x inside => same x (List.mem_cons_of_mem c inside)
      rw [List.splitOnP_cons_eq_if_modifyHead, List.splitOnP_cons_eq_if_modifyHead, later,
        same c List.mem_cons_self]

theorem mem_splitOn {text part : List Char} {separator : Char}
    (listed : part ∈ text.splitOn separator) :
    ∀ c ∈ part, c ≠ separator ∧ c ∈ text := by
  induction text generalizing part with
  | nil =>
      obtain rfl : part = [] := by simpa using listed
      intro c inside
      cases inside
  | cons x rest ih =>
      rw [List.splitOn_cons_eq_if_modifyHead] at listed
      have weaken {other : List Char} (later : other ∈ rest.splitOn separator) :
          ∀ c ∈ other, c ≠ separator ∧ c ∈ x :: rest :=
        fun c inside => ⟨(ih later c inside).1, List.mem_cons_of_mem x (ih later c inside).2⟩
      split at listed
      · rcases List.mem_cons.mp listed with rfl | later
        · intro c inside
          cases inside
        · exact weaken later
      · rename_i other
        have solid : x ≠ separator := by simpa using other
        cases parts : rest.splitOn separator with
        | nil => exact absurd parts (List.splitOn_ne_nil separator rest)
        | cons head tail =>
            rw [parts, List.modifyHead_cons] at listed
            rcases List.mem_cons.mp listed with rfl | later
            · intro c inside
              rcases List.mem_cons.mp inside with rfl | inHead
              · exact ⟨solid, List.mem_cons_self⟩
              · exact weaken (by simp [parts]) c inHead
            · exact weaken (by simp [parts, later])

end ResourceRouter.Text
