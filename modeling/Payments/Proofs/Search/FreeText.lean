import Payments.Proofs.Text.LowerCase
import Payments.Search.Query

/-!
Free text in searches. Text and field are put into lower case each on its own, so what is found does
not depend on the letter case of the text, and a piece of a field is found as long as its capital
sigmas have in the field the lower-case form that they have in the text.
-/

namespace Payments.SearchQuery

open Text (lower lowerBetween trim KeepsSigmas)

variable {document : SearchDocument} {text variant field : String} {before after : List Char}

theorem accepts_text :
    ({ text := some text } : SearchQuery).accepts document = acceptsText text document := by
  simp [accepts]

theorem acceptsText_congr (alike : lower variant = lower text) :
    acceptsText variant document = acceptsText text document := by
  unfold acceptsText
  rw [← Text.trim_lower, ← Text.trim_lower, alike]

/-- Where a field has the text, its lower case has the lower case of the text, if and only if no sigma
of the text changes. -/
theorem lower_place_iff (occurs : field.toList = before ++ text.toList ++ after) :
    (lower field).toList =
        lowerBetween [] (text.toList ++ after) before ++ (lower text).toList ++
          lowerBetween (text.toList.reverse ++ before.reverse) [] after ↔
      KeepsSigmas before text.toList after := by
  rw [Text.toList_lower, Text.toList_lower, occurs, Text.lowerBetween_append,
    Text.lowerBetween_append, List.reverse_append]
  simp only [List.append_nil, List.append_left_inj, List.append_right_inj]
  exact Text.lowerBetween_eq_alone_iff

theorem acceptsText_iff : acceptsText text document = true ↔
    ∃ field ∈ texts document, (lower (trim text)).toList <:+: (lower field).toList := by
  rw [acceptsText, Bool.or_eq_true, List.any_eq_true, List.isEmpty_iff]
  simp only [Text.occursIn_iff]
  refine ⟨?_, .inr⟩
  rintro (nothing | found)
  · rw [nothing]
    exact ⟨document.description, List.mem_cons_self, List.nil_infix⟩
  · exact found

theorem acceptsText_of_occurs (isField : field ∈ texts document)
    (occurs : field.toList = before ++ (trim text).toList ++ after)
    (keeps : KeepsSigmas before (trim text).toList after) : acceptsText text document = true := by
  refine acceptsText_iff.mpr ⟨field, isField, ?_⟩
  rw [(lower_place_iff occurs).mpr keeps]
  exact List.infix_append ..

/-- A text is found if its lower case stands in that of a field, whatever letter case it has. Where the
text itself stands in a field, this is so if no capital sigma of it has another lower-case form in the
field than in the text alone; if one has, the field in lower case has something else in that place. So
what a search misses has a sigma at its end that does not end the word, or one at its beginning that
does. -/
theorem finds_what_occurs (document : SearchDocument) (text : String) :
    (({ text := some text } : SearchQuery).accepts document = true ↔
      ∃ field ∈ texts document, (lower (trim text)).toList <:+: (lower field).toList) ∧
    (∀ variant, lower variant = lower text →
      ({ text := some variant } : SearchQuery).accepts document =
        ({ text := some text } : SearchQuery).accepts document) ∧
    ∀ (field : String) (before after : List Char), field ∈ texts document →
      field.toList = before ++ (trim text).toList ++ after →
      (KeepsSigmas before (trim text).toList after →
        ({ text := some text } : SearchQuery).accepts document = true) ∧
      (KeepsSigmas before (trim text).toList after ↔
        (lower field).toList =
          lowerBetween [] ((trim text).toList ++ after) before ++ (lower (trim text)).toList ++
            lowerBetween ((trim text).toList.reverse ++ before.reverse) [] after) := by
  simp only [accepts_text]
  refine ⟨acceptsText_iff, fun variant => acceptsText_congr, ?_⟩
  intro field before after isField occurs
  exact ⟨acceptsText_of_occurs isField occurs, (lower_place_iff occurs).symm⟩

def journey : SearchDocument where
  id := "d1"
  reference := "pi_1"
  status := .succeeded
  amount := .hundred
  currency := "EUR"
  userId := "42"
  planId := "premium"
  createdAt := ⟨1760000000, 0⟩
  description := "ΟΔΥΣΣΕΑΣ"
  version := 1

theorem finds_what_occurs_inside :
    ({ text := some " ΣΣΕΑ " } : SearchQuery).accepts journey = true ∧
    ({ text := some " σσεα " } : SearchQuery).accepts journey = true := by
  obtain ⟨-, alike, places⟩ := finds_what_occurs journey " ΣΣΕΑ "
  have keeps : KeepsSigmas "ΟΔΥ".toList (trim " ΣΣΕΑ ").toList "Σ".toList :=
    Text.lowerBetween_eq_alone_iff.mp (by decide +kernel)
  have found := (places "ΟΔΥΣΣΕΑΣ" "ΟΔΥ".toList "Σ".toList (by simp [texts, journey])
    (by decide +kernel)).1 keeps
  exact ⟨found, (alike " σσεα " (by decide +kernel)).trans found⟩

/-- The last sigma is a final one in the text alone, and within the word it is not. -/
theorem sigma_within_word_missed :
    ∃ before after : List Char,
      journey.description.toList = before ++ (trim "ΟΔΥΣΣ").toList ++ after ∧
      ({ text := some "ΟΔΥΣΣ" } : SearchQuery).accepts journey = false := by
  refine ⟨[], "ΕΑΣ".toList, ?_, ?_⟩ <;> decide +kernel

end Payments.SearchQuery
