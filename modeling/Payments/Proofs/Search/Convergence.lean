import Mathlib.Data.List.Induction
import Mathlib.Data.List.Nodup
import Payments.Proofs.Search.Upsert

/-!
Any number of documents put into a search index that was empty. For every reference the index ends
up with the newest of them, so what it holds depends on which documents there were, and neither on
their order nor on how often each of them came.
-/

namespace Payments.SearchIndex

def upsertAll (index : SearchIndex) (documents : List SearchDocument) : SearchIndex :=
  documents.foldl upsert index

def OnePerReference (index : SearchIndex) : Prop := (index.documents.map (·.reference)).Nodup

/-- A document that none of the others about its reference is newer than. -/
structure Newest (documents : List SearchDocument) (document : SearchDocument) : Prop where
  member : document ∈ documents
  newest : ∀ other ∈ documents, other.reference = document.reference →
    other.version ≤ document.version

/-- The documents about one reference differ in their versions. -/
def Versioned (documents : List SearchDocument) : Prop :=
  ∀ first ∈ documents, ∀ second ∈ documents, first.reference = second.reference →
    first.version = second.version → first = second

variable {index other : SearchIndex} {document found : SearchDocument}
  {documents : List SearchDocument} {reference : String}

theorem upsertAll_concat (index : SearchIndex) (documents : List SearchDocument)
    (document : SearchDocument) :
    index.upsertAll (documents ++ [document]) = (index.upsertAll documents).upsert document :=
  List.foldl_concat ..

theorem find?_eq_none_iff :
    index.find? reference = none ↔ ∀ document ∈ index.documents, document.reference ≠ reference := by
  simp [find?]

theorem onePerReference_upsert (unique : index.OnePerReference) :
    (index.upsert document).OnePerReference := by
  unfold upsert
  split
  · split
    · exact unique
    · have same : (index.documents.map fun d =>
          if d.reference = document.reference then document else d).map (·.reference) =
          index.documents.map (·.reference) := by
        rw [List.map_map]
        refine List.map_congr_left fun d _ => ?_
        by_cases own : d.reference = document.reference <;> simp [own]
      rwa [OnePerReference, same]
  · rename_i absent
    rw [OnePerReference, List.map_append, List.map_singleton]
    refine List.nodup_append.mpr ⟨unique, List.nodup_singleton _, ?_⟩
    intro held isHeld new isNew same
    obtain ⟨d, member, rfl⟩ := List.mem_map.mp isHeld
    rw [List.mem_singleton.mp isNew] at same
    exact find?_eq_none_iff.mp absent d member same

theorem onePerReference_upsertAll (unique : index.OnePerReference)
    (documents : List SearchDocument) : (index.upsertAll documents).OnePerReference := by
  induction documents generalizing index with
  | nil => exact unique
  | cons document documents ih => exact ih (onePerReference_upsert unique)

theorem mem_documents_iff (unique : index.OnePerReference) :
    document ∈ index.documents ↔ index.find? document.reference = some document := by
  constructor
  · intro member
    cases held : index.find? document.reference with
    | none => exact absurd rfl (find?_eq_none_iff.mp held document member)
    | some found =>
        have same := List.inj_on_of_nodup_map unique (List.mem_of_find?_eq_some held) member
          (find?_reference held)
        rw [same]
  · exact List.mem_of_find?_eq_some

theorem perm_of_find? (unique : index.OnePerReference) (uniqueOther : other.OnePerReference)
    (same : ∀ reference, index.find? reference = other.find? reference) :
    index.documents.Perm other.documents := by
  refine (List.perm_ext_iff_of_nodup (.of_map _ unique) (.of_map _ uniqueOther)).mpr ?_
  intro document
  rw [mem_documents_iff unique, mem_documents_iff uniqueOther, same]

theorem find?_upsertAll_eq_none_iff :
    (({} : SearchIndex).upsertAll documents).find? reference = none ↔
      ∀ document ∈ documents, document.reference ≠ reference := by
  induction documents using List.reverseRecOn with
  | nil => simp [upsertAll, find?]
  | append_singleton documents document ih =>
      rw [upsertAll_concat]
      by_cases own : reference = document.reference
      · subst own
        rw [find?_upsert_self]
        constructor
        · intro absent
          split at absent
          · split at absent <;> cases absent
          · cases absent
        · intro others
          exact absurd rfl (others document List.mem_concat_self)
      · rw [find?_upsert_of_ne own, ih, List.forall_mem_append, List.forall_mem_singleton,
          and_iff_left (Ne.symm own)]

theorem Newest.concat (newest : Newest documents found)
    (older : document.reference = found.reference → document.version ≤ found.version) :
    Newest (documents ++ [document]) found := by
  refine ⟨List.mem_append_left _ newest.member, fun other member same => ?_⟩
  rcases List.mem_append.mp member with old | new
  · exact newest.newest other old same
  · rw [List.mem_singleton.mp new] at same ⊢
    exact older same

theorem newest_concat_self (older : ∀ other ∈ documents, other.reference = document.reference →
      other.version ≤ document.version) : Newest (documents ++ [document]) document := by
  refine ⟨List.mem_concat_self, fun other member same => ?_⟩
  rcases List.mem_append.mp member with old | new
  · exact older other old same
  · exact Int.le_of_eq (congrArg _ (List.mem_singleton.mp new))

theorem newest_of_find? (held : (({} : SearchIndex).upsertAll documents).find? reference = some found) :
    Newest documents found := by
  induction documents using List.reverseRecOn generalizing found with
  | nil => cases held
  | append_singleton documents document ih =>
      rw [upsertAll_concat] at held
      by_cases own : reference = document.reference
      · subst own
        rw [find?_upsert_self] at held
        cases before : (({} : SearchIndex).upsertAll documents).find? document.reference with
        | none =>
            rw [before] at held
            cases held
            refine newest_concat_self fun other member same => ?_
            exact absurd same (find?_upsertAll_eq_none_iff.mp before other member)
        | some existing =>
            have newest := ih before
            have isExisting := find?_reference before
            simp only [before] at held
            split at held
            · rename_i older
              cases held
              exact newest.concat fun _ => older
            · rename_i newer
              cases held
              refine newest_concat_self fun other member same => ?_
              have bound := newest.newest other member (same.trans isExisting.symm)
              omega
      · rw [find?_upsert_of_ne own] at held
        refine (ih held).concat fun same => ?_
        exact absurd (same.trans (find?_reference held)).symm own

theorem Newest.eq (versioned : Versioned documents) (newest : Newest documents document)
    (newestFound : Newest documents found) (same : document.reference = found.reference) :
    document = found :=
  versioned _ newest.member _ newestFound.member same
    (Int.le_antisymm (newestFound.newest _ newest.member same)
      (newest.newest _ newestFound.member same.symm))

theorem find?_upsertAll_eq_some_iff (versioned : Versioned documents) :
    (({} : SearchIndex).upsertAll documents).find? reference = some document ↔
      document.reference = reference ∧ Newest documents document := by
  constructor
  · exact fun held => ⟨find?_reference held, newest_of_find? held⟩
  · rintro ⟨rfl, newest⟩
    cases held : (({} : SearchIndex).upsertAll documents).find? document.reference with
    | none => exact absurd rfl (find?_upsertAll_eq_none_iff.mp held document newest.member)
    | some found =>
        rw [newest.eq versioned (newest_of_find? held) (find?_reference held).symm]

theorem newest_congr {others : List SearchDocument}
    (same : ∀ document, document ∈ others ↔ document ∈ documents) :
    Newest others document ↔ Newest documents document := by
  constructor
  · rintro ⟨member, newest⟩
    exact ⟨(same _).mp member, fun other isOther => newest other ((same other).mpr isOther)⟩
  · rintro ⟨member, newest⟩
    exact ⟨(same _).mpr member, fun other isOther => newest other ((same other).mp isOther)⟩

theorem find?_upsertAll_congr {others : List SearchDocument} (versioned : Versioned documents)
    (same : ∀ document, document ∈ others ↔ document ∈ documents) (reference : String) :
    (({} : SearchIndex).upsertAll others).find? reference =
      (({} : SearchIndex).upsertAll documents).find? reference := by
  have versionedOthers : Versioned others := fun first isFirst second isSecond =>
    versioned first ((same first).mp isFirst) second ((same second).mp isSecond)
  refine Option.ext fun document => ?_
  rw [find?_upsertAll_eq_some_iff versionedOthers, find?_upsertAll_eq_some_iff versioned,
    newest_congr same]

theorem onePerReference_empty : ({} : SearchIndex).OnePerReference := List.nodup_nil

/-- The index holds the newest document for each reference, whatever the order and the repetitions. -/
theorem upsertAll_newest (versioned : Versioned documents) :
    let index := ({} : SearchIndex).upsertAll documents
    index.OnePerReference ∧
    (∀ document, document ∈ index.documents ↔ Newest documents document) ∧
    (∀ document ∈ documents, ∃ newest ∈ index.documents, newest.reference = document.reference) ∧
    ∀ others, (∀ document, document ∈ others ↔ document ∈ documents) →
      let other := ({} : SearchIndex).upsertAll others
      other.documents.Perm index.documents ∧
      ∀ reference, other.find? reference = index.find? reference := by
  intro index
  have unique : index.OnePerReference := onePerReference_upsertAll onePerReference_empty documents
  refine ⟨unique, ?_, ?_, ?_⟩
  · intro document
    rw [mem_documents_iff unique, find?_upsertAll_eq_some_iff versioned, and_iff_right rfl]
  · intro document member
    cases found : index.find? document.reference with
    | none => exact absurd rfl (find?_upsertAll_eq_none_iff.mp found document member)
    | some newest => exact ⟨newest, List.mem_of_find?_eq_some found, find?_reference found⟩
  · intro others same other
    have find? := find?_upsertAll_congr versioned same
    exact ⟨perm_of_find? (onePerReference_upsertAll onePerReference_empty others) unique find?, find?⟩

end Payments.SearchIndex
