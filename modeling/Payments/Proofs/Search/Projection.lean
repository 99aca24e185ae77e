import Mathlib.Algebra.BigOperators.Group.List.Basic
import Mathlib.Algebra.GroupWithZero.Nat
import Payments.Proofs.Search.Convergence
import Payments.Proofs.Service.Sinks
import Payments.Proofs.Store.History

/-!
The search index as an image of the store. While the index is in order it holds the newest of the
documents it was told of. Once every operation is done these are the documents of all commits, of
which the newest for each payment is the one of its stored record.
-/

namespace Payments

namespace Store

variable {store : Store}

def projection (store : Store) : SearchIndex := ⟨store.payments.map .ofPayment⟩

theorem onePerReference_projection (unique : store.OnePerReference) :
    store.projection.OnePerReference := by
  have texts : store.projection.documents.map (·.reference) =
      (store.payments.map (·.reference)).map (·.text) := by
    simp only [projection, List.map_map]
    rfl
  rw [SearchIndex.OnePerReference, texts]
  exact List.Nodup.map (fun _ _ => Reference.text_inj.mp) unique

theorem find?_projection (store : Store) (reference : Reference) :
    store.projection.find? reference.text = (store.find? reference).map .ofPayment := by
  simp only [SearchIndex.find?, projection, List.find?_map, find?]
  congr 2
  funext payment
  exact decide_eq_decide.mpr Reference.text_inj

theorem find?_projection_eq_some_iff {text : String} {document : SearchDocument} :
    store.projection.find? text = some document ↔
      ∃ reference current, reference.text = text ∧ store.find? reference = some current ∧
        document = .ofPayment current := by
  constructor
  · intro held
    obtain ⟨payment, member, rfl⟩ := List.mem_map.mp (List.mem_of_find?_eq_some held)
    have own : payment.reference.text = text := SearchIndex.find?_reference held
    rw [← own, find?_projection, Option.map_eq_some_iff] at held
    obtain ⟨current, stored, same⟩ := held
    exact ⟨payment.reference, current, own, stored, same.symm⟩
  · rintro ⟨reference, current, rfl, stored, rfl⟩
    rw [find?_projection, stored, Option.map_some]

theorem count_projection (store : Store) (status : Status) :
    store.projection.count status = store.payments.countP (·.status = status) :=
  List.countP_map

end Store

namespace SearchIndex

theorem sum_count (index : SearchIndex) :
    (Status.all.map index.count).sum = index.documents.length := by
  obtain ⟨documents⟩ := index
  induction documents with
  | nil => rfl
  | cons document documents ih =>
      have one : (Status.all.map fun status => if document.status = status then 1 else 0).sum = 1 := by
        cases document.status <;> rfl
      have more : ∀ status, SearchIndex.count ⟨document :: documents⟩ status =
          SearchIndex.count ⟨documents⟩ status + if document.status = status then 1 else 0 := by
        intro status
        simp only [count, List.countP_cons, decide_eq_true_eq]
      rw [List.map_congr_left fun status _ => more status, List.sum_map_add, ih, one]
      rfl

end SearchIndex

namespace Interleaving

theorem Leads.onePerReference {may : Nat → ServiceMoment → Action → Prop} {who : Nat → Prop}
    {start now : ServiceMoment} (leads : Leads World.perform may who start now)
    (unique : start.state.store.OnePerReference) : now.state.store.OnePerReference := by
  induction leads with
  | refl => exact unique
  | @step now client action choice _ _ _ ih =>
      exact (World.perform_commit choice action now.state).onePerReference ih

def indexListener : Listener SearchDocument SearchIndex where
  sink := .search
  hears? := fun
    | .index document => some document
    | _ => none
  told := Commit.document
  hears_requests := fun _ => rfl
  content := World.index
  takes := fun _ => SearchIndex.upsert
  content_perform := by
    intro circumstances action world healthy
    cases action with
    | gateway action => rfl
    | here action =>
        cases action with
        | index document => simp [World.perform, World.act, Outages.guard, healthy, Action.request?]
        | _ =>
            simp only [World.perform, World.act, Outages.guard]
            try split
            all_goals rfl

section

variable {operations : List Operation} {turns : List (Nat × Circumstances)}

theorem index_of_heard (healthy : ∀ turn ∈ turns, turn.2.outages .search = none) :
    let now := ((operationPool operations).run World.perform turns).moment
    now.state.index = ({} : SearchIndex).upsertAll (now.past.filterMap indexListener.heardAt) := by
  intro now
  have held : now.state.index = now.past.foldl indexListener.follow {} :=
    indexListener.content_of_run healthy
  rw [held, SearchIndex.upsertAll, List.foldl_filterMap]
  congr 1
  funext index step
  rw [Listener.follow]
  cases indexListener.heardAt step <;> rfl

theorem index_of_run (healthy : ∀ turn ∈ turns, turn.2.outages .search = none)
    (rest : ((operationPool operations).run World.perform turns).AtRest) :
    let now := ((operationPool operations).run World.perform turns).moment
    ∃ documents, now.state.index = ({} : SearchIndex).upsertAll documents ∧
      ∀ document, document ∈ documents ↔
        ∃ record, (∃ step ∈ now.past, worldAccess.record? step = some record) ∧
          document = .ofPayment record := by
  intro now
  refine ⟨now.past.filterMap indexListener.heardAt, index_of_heard healthy, ?_⟩
  intro document
  have heard : (now.past.filterMap indexListener.heardAt).Perm _ :=
    indexListener.heard_perm rest
  rw [heard.mem_iff, List.mem_filterMap]
  constructor
  · rintro ⟨step, member, due⟩
    rw [dueAt, Option.map_map, Option.map_eq_some_iff] at due
    obtain ⟨change, changed, rfl⟩ := due
    exact ⟨change.current, ⟨step, member, by rw [record?_eq, changed]; rfl⟩, rfl⟩
  · rintro ⟨record, ⟨step, member, recorded⟩, rfl⟩
    rw [record?_eq, Option.map_eq_some_iff] at recorded
    obtain ⟨change, changed, rfl⟩ := recorded
    exact ⟨step, member, by rw [dueAt, changed]; rfl⟩

theorem find?_index_of_run (healthy : ∀ turn ∈ turns, turn.2.outages .search = none)
    (rest : ((operationPool operations).run World.perform turns).AtRest) (text : String) :
    let world := ((operationPool operations).run World.perform turns).moment.state
    world.index.find? text = world.store.projection.find? text := by
  intro world
  obtain ⟨documents, held, isDocument⟩ := index_of_run healthy rest
  let past := ((operationPool operations).run World.perform turns).moment.past
  have lineage (reference : Reference) : Payment.Lineage none
      (worldAccess.recordsOf reference past) (world.store.find? reference) :=
    (lineage_of_run {} operations turns reference).2
  have versioned : SearchIndex.Versioned documents := by
    intro first isFirst second isSecond same version
    obtain ⟨record, committed, rfl⟩ := (isDocument first).mp isFirst
    obtain ⟨record', committed', rfl⟩ := (isDocument second).mp isSecond
    have own : record.reference = record'.reference := Reference.text_inj.mp same
    exact congrArg _ ((lineage record'.reference).eq_of_version
      record (worldAccess.mem_recordsOf.mpr ⟨committed, own⟩)
      record' (worldAccess.mem_recordsOf.mpr ⟨committed', rfl⟩) version)
  refine Option.ext fun document => ?_
  rw [show world.index = _ from held, SearchIndex.find?_upsertAll_eq_some_iff versioned,
    Store.find?_projection_eq_some_iff]
  constructor
  · rintro ⟨rfl, newest⟩
    obtain ⟨record, committed, rfl⟩ := (isDocument document).mp newest.member
    have member := worldAccess.mem_recordsOf.mpr ⟨committed, rfl⟩
    obtain ⟨current, stored, _⟩ := (lineage record.reference).sameCharge record member
    have bound := (lineage record.reference).newest record member
    rw [stored, Payment.versionOf_some] at bound
    have isCurrent := worldAccess.mem_recordsOf.mp (stored ▸ lineage record.reference).mem_of_stored
    have older : current.version ≤ record.version :=
      newest.newest _ ((isDocument _).mpr ⟨current, isCurrent.1, rfl⟩)
        (congrArg Reference.text isCurrent.2)
    refine ⟨record.reference, current, rfl, stored, ?_⟩
    rw [Option.some.inj (bound.2 (Int.le_antisymm bound.1 older))]
  · rintro ⟨reference, current, rfl, stored, rfl⟩
    have isCurrent := worldAccess.mem_recordsOf.mp (stored ▸ lineage reference).mem_of_stored
    refine ⟨congrArg Reference.text isCurrent.2, (isDocument _).mpr ⟨current, isCurrent.1, rfl⟩, ?_⟩
    intro other isOther same
    obtain ⟨record, committed, rfl⟩ := (isDocument other).mp isOther
    have own : record.reference = reference :=
      (Reference.text_inj.mp same).trans isCurrent.2
    have bound := (lineage reference).newest record (worldAccess.mem_recordsOf.mpr ⟨committed, own⟩)
    rw [stored, Payment.versionOf_some] at bound
    exact bound.1

theorem index_of_rest (healthy : ∀ turn ∈ turns, turn.2.outages .search = none)
    (rest : ((operationPool operations).run World.perform turns).AtRest) :
    let world := ((operationPool operations).run World.perform turns).moment.state
    world.index.OnePerReference ∧
    world.index.documents.Perm (world.store.payments.map .ofPayment) ∧
    (∀ reference, world.index.find? reference.text =
      (world.store.find? reference).map .ofPayment) ∧
    (∀ status, world.index.count status = world.store.payments.countP (·.status = status)) ∧
    (Status.all.map world.index.count).sum = world.store.payments.length := by
  intro world
  have reached : Leads World.perform _ _ _ _ := (operationPool operations).run_leads turns
  have stored : world.store.OnePerReference := reached.onePerReference List.nodup_nil
  obtain ⟨documents, held, _⟩ := index_of_run healthy rest
  have unique : world.index.OnePerReference := by
    rw [show world.index = _ from held]
    exact SearchIndex.onePerReference_upsertAll SearchIndex.onePerReference_empty documents
  have same := find?_index_of_run healthy rest
  have perm : world.index.documents.Perm world.store.projection.documents :=
    SearchIndex.perm_of_find? unique (Store.onePerReference_projection stored) same
  refine ⟨unique, perm, ?_, ?_, ?_⟩
  · intro reference
    rw [← Store.find?_projection]
    exact same reference.text
  · intro status
    rw [← Store.count_projection]
    exact perm.countP_eq _
  · rw [SearchIndex.sum_count, perm.length_eq]
    exact List.length_map _

end

/-- Documents that came in any order, and any number of times, leave the newest for each reference.
So once every operation is done, an index that was in order holds a document for each stored record,
and counts as many of each status as are stored. -/
theorem search_converges :
    (∀ documents, SearchIndex.Versioned documents →
      let index := ({} : SearchIndex).upsertAll documents
      index.OnePerReference ∧
      (∀ document, document ∈ index.documents ↔ SearchIndex.Newest documents document) ∧
      (∀ document ∈ documents, ∃ newest ∈ index.documents,
        newest.reference = document.reference) ∧
      ∀ others, (∀ document, document ∈ others ↔ document ∈ documents) →
        let other := ({} : SearchIndex).upsertAll others
        other.documents.Perm index.documents ∧
        ∀ reference, other.find? reference = index.find? reference) ∧
    (∀ operations turns, (∀ turn ∈ turns, turn.2.outages .search = none) →
      ((operationPool operations).run World.perform turns).AtRest →
      let world := ((operationPool operations).run World.perform turns).moment.state
      world.index.OnePerReference ∧
      world.index.documents.Perm (world.store.payments.map .ofPayment) ∧
      (∀ reference, world.index.find? reference.text =
        (world.store.find? reference).map .ofPayment) ∧
      (∀ status, world.index.count status =
        world.store.payments.countP (·.status = status)) ∧
      (Status.all.map world.index.count).sum = world.store.payments.length) := by
  exact ⟨fun documents => SearchIndex.upsertAll_newest, fun operations turns => index_of_rest⟩

/-- The document of the second version comes before the one of the first, and stays. -/
theorem search_converges_lateReport :
    ∃ current,
      (lateReport.moment.past.filterMap indexListener.heardAt).map (·.version) = [2, 1] ∧
      lateReport.moment.state.store.find? (cardCharge .processing).reference = some current ∧
      current.version = 2 ∧
      lateReport.moment.state.index.find? (cardCharge .processing).reference.text =
        some (.ofPayment current) ∧
      (Status.all.map lateReport.moment.state.index.count).sum = 1 := by
  have confirmed : (lateReport.moment.state.store.find? (cardCharge .processing).reference).map
      (·.version) = some 2 := by decide +kernel
  obtain ⟨current, stored, version⟩ := Option.map_eq_some_iff.mp confirmed
  have healthy : ∀ turn ∈ List.replicate 5 (0, cooperative) ++ List.replicate 10 (1, cooperative) ++
      List.replicate 5 (0, cooperative), turn.2.outages .search = none := by
    simp [cooperative, Outages.none]
  obtain ⟨_, _, find?, _, sum⟩ := search_converges.2 _ _ healthy lateReport_atRest
  refine ⟨current, by decide +kernel, stored, version, ?_, ?_⟩
  · exact (find? _).trans (congrArg _ stored)
  · exact sum.trans (by decide +kernel)

end Interleaving

end Payments
