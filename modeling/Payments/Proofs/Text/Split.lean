import Mathlib.Data.List.TakeWhile
import Payments.Text.Split

/-!
Cutting at a separator. The pieces are those of the library's splitting; a cut at the first separator
is told by a text before it that is free of separators.
-/

namespace Payments.Text

theorem pieces_eq_splitOn (separator : Char) (chars : List Char) :
    pieces separator chars = chars.splitOn separator := by
  induction chars with
  | nil => exact (List.splitOn_nil separator).symm
  | cons c rest ih =>
      rw [pieces, List.splitOn_cons_eq_if_modifyHead, ih]
      by_cases same : c = separator
      · simp [same]
      · simp only [same, if_false, beq_iff_eq]
        cases split : rest.splitOn separator with
        | nil => exact absurd split (List.splitOn_ne_nil separator rest)
        | cons piece others => rfl

theorem separator_notMem_of_mem_pieces {separator : Char} {chars piece : List Char}
    (member : piece ∈ pieces separator chars) : separator ∉ piece := by
  induction chars generalizing piece with
  | nil =>
      rw [pieces, List.mem_singleton] at member
      simp [member]
  | cons c rest ih =>
      rw [pieces] at member
      by_cases same : c = separator
      · rw [if_pos same, List.mem_cons] at member
        rcases member with rfl | later
        · simp
        · exact ih later
      · rw [if_neg same] at member
        cases cut : pieces separator rest with
        | nil => exact absurd cut (pieces_ne_nil separator rest)
        | cons first others =>
            rw [cut] at ih
            rw [cut, List.mem_cons] at member
            rcases member with rfl | later
            · rw [List.mem_cons, not_or]
              exact ⟨Ne.symm same, ih List.mem_cons_self⟩
            · exact ih (List.mem_cons_of_mem _ later)

theorem cut?_eq_some_iff {separator : Char} {chars before after : List Char} :
    cut? separator chars = some (before, after) ↔
      chars = before ++ separator :: after ∧ separator ∉ before := by
  constructor
  · intro made
    have joined := List.takeWhile_append_dropWhile (p := (· != separator)) (l := chars)
    unfold cut? at made
    split at made
    · cases made
    · rename_i first rest found
      cases made
      have stopped := List.head_dropWhile_not (· != separator) (l := chars) (by simp [found])
      have isSeparator : first = separator := by simpa [found] using stopped
      rw [found, isSeparator] at joined
      refine ⟨joined.symm, fun member => ?_⟩
      simpa using List.mem_takeWhile_imp member
  · rintro ⟨rfl, clear⟩
    have passed : ∀ c ∈ before, (c != separator) = true := by
      intro c member
      exact bne_iff_ne.mpr (ne_of_mem_of_not_mem member clear)
    simp [cut?, List.dropWhile_append_of_pos passed, List.takeWhile_append_of_pos passed]

end Payments.Text
