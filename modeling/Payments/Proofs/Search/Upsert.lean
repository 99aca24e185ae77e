import Payments.Search.Index

/-!
What one document does to a search index: it takes the place of an older one of its reference, is
added if there is none, and reaches no other reference.
-/

namespace Payments.SearchIndex

variable {index : SearchIndex} {document : SearchDocument} {reference : String}

theorem find?_reference {found : SearchDocument} (held : index.find? reference = some found) :
    found.reference = reference := by
  simpa using List.find?_some held

theorem mem_of_mem_upsert {held : SearchDocument}
    (member : held ∈ (index.upsert document).documents) :
    held ∈ index.documents ∨ held = document := by
  unfold upsert at member
  split at member
  · split at member
    · exact .inl member
    · obtain ⟨old, isOld, replaced⟩ := List.mem_map.mp member
      split at replaced
      · exact .inr replaced.symm
      · exact .inl (replaced ▸ isOld)
  · simpa using member

theorem find?_map_replace :
    (index.documents.map fun d => if d.reference = document.reference then document else d).find?
        (·.reference = reference) =
      (index.find? reference).map fun d =>
        if d.reference = document.reference then document else d := by
  rw [List.find?_map]
  unfold find?
  congr 2
  funext d
  by_cases own : d.reference = document.reference <;> simp [own]

theorem find?_upsert_self :
    (index.upsert document).find? document.reference =
      match index.find? document.reference with
      | some existing => if document.version ≤ existing.version then some existing else some document
      | none => some document := by
  unfold upsert
  cases held : index.find? document.reference with
  | none =>
      unfold find? at held
      simp [find?, List.find?_append, held]
  | some existing =>
      by_cases newer : document.version ≤ existing.version
      · simp [newer, held]
      · simp only [newer, if_false]
        refine find?_map_replace.trans ?_
        rw [held, Option.map_some, find?_reference held, if_pos rfl]

theorem find?_upsert_newer (newer : ∀ existing,
      index.find? document.reference = some existing → existing.version < document.version) :
    (index.upsert document).find? document.reference = some document := by
  rw [find?_upsert_self]
  cases held : index.find? document.reference with
  | none => rfl
  | some existing => exact if_neg (Int.not_le.mpr (newer existing held))

theorem find?_upsert_of_ne (different : reference ≠ document.reference) :
    (index.upsert document).find? reference = index.find? reference := by
  unfold upsert
  split
  · split
    · rfl
    · refine find?_map_replace.trans ?_
      cases held : index.find? reference with
      | none => rfl
      | some d => simp [find?_reference held, different]
  · simp [find?, List.find?_append, Ne.symm different]

end Payments.SearchIndex
