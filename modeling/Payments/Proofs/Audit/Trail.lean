import Mathlib.Data.List.Perm.Basic
import Payments.Proofs.Service.Sinks

/-!
The audit log as a history. While the log is in order it holds an entry for each commit that was
announced to it. Since what was announced is what was committed, the entries of one reference lead
from each version of its record to the next, once every operation is done.
-/

namespace Payments

def AuditEntry.Records (entry : AuditEntry) (change : Change) : Prop :=
  ∃ origin stamp, entry = (change.report origin).auditEntry stamp

/-- The entries about one payment, in the order of its versions. -/
structure IsTrail (entries : List AuditEntry) (reference : Reference) (current : Payment) :
    Prop where
  count : current.version = entries.length
  versions : ∀ k (bound : k < entries.length),
    entries[k].metadata.get? "version" = some (.ofInt (k + 1))
  references : ∀ entry ∈ entries, entry.reference = reference.text
  first : ∀ entry, entries.head? = some entry →
    entry.eventType = .created ∧ entry.previousStatus = none
  later : entries.IsChain fun earlier later =>
    later.eventType = .updated ∧ later.previousStatus = some earlier.newStatus
  last : entries.getLast?.map (·.newStatus) = some current.status

namespace AuditEntry.Records

variable {entry : AuditEntry} {change : Change}

theorem reference (records : entry.Records change) :
    entry.reference = change.current.reference.text := by
  obtain ⟨origin, stamp, rfl⟩ := records
  rfl

theorem eventType (records : entry.Records change) : entry.eventType = change.eventType := by
  obtain ⟨origin, stamp, rfl⟩ := records
  rfl

theorem previousStatus (records : entry.Records change) :
    entry.previousStatus = change.previous.map (·.status) := by
  obtain ⟨origin, stamp, rfl⟩ := records
  rfl

theorem newStatus (records : entry.Records change) : entry.newStatus = change.current.status := by
  obtain ⟨origin, stamp, rfl⟩ := records
  rfl

theorem version (records : entry.Records change) :
    entry.metadata.get? "version" = some (.ofInt change.current.version) := by
  obtain ⟨origin, stamp, rfl⟩ := records
  rfl

end AuditEntry.Records

section

variable {trail : List AuditEntry} {stored : Option Payment} {records : List Payment}
  {current : Payment} {reference : Reference}

theorem forall₂_records_of_through
    (recorded : List.Forall₂ AuditEntry.Records trail (Change.through stored records)) :
    List.Forall₂ (fun entry record => ∃ previous, entry.Records ⟨previous, record⟩) trail
      records := by
  induction records generalizing stored trail with
  | nil =>
      cases recorded
      exact .nil
  | cons record records ih =>
      cases recorded with
      | cons newest rest => exact .cons ⟨stored, newest⟩ (ih rest)

theorem isChain_of_through
    (recorded : List.Forall₂ AuditEntry.Records trail (Change.through stored records)) :
    trail.IsChain fun earlier later =>
      later.eventType = .updated ∧ later.previousStatus = some earlier.newStatus := by
  induction records generalizing stored trail with
  | nil =>
      cases recorded
      exact .nil
  | cons record records ih =>
      cases recorded with
      | @cons entry _ trail _ about rest =>
          refine List.isChain_cons.mpr ⟨?_, ih rest⟩
          intro later isNext
          cases records with
          | nil =>
              cases rest
              cases isNext
          | cons next records =>
              cases rest with
              | cons aboutNext rest =>
                  cases isNext
                  refine ⟨aboutNext.eventType, ?_⟩
                  rw [aboutNext.previousStatus, about.newStatus]
                  rfl

theorem isTrail_of_lineage (lineage : Payment.Lineage none records (some current))
    (own : ∀ record ∈ records, record.reference = reference)
    (recorded : List.Forall₂ AuditEntry.Records trail (Change.through none records)) :
    IsTrail trail reference current := by
  have each := forall₂_records_of_through recorded
  have length : trail.length = records.length := each.length_eq
  have statuses : trail.map (·.newStatus) = records.map (·.status) := by
    refine List.ext_getElem (by simpa using length) fun k bound bound' => ?_
    obtain ⟨previous, about⟩ := each.get (by simpa using bound) (by simpa using bound')
    simpa using about.newStatus
  refine ⟨?_, ?_, ?_, ?_, isChain_of_through recorded, ?_⟩
  · simpa [length] using lineage.version
  · intro k bound
    obtain ⟨previous, about⟩ := each.get bound (length ▸ bound)
    have version := lineage.version_getElem k (length ▸ bound)
    simp only [Payment.versionOf_none, Int.zero_add] at version
    exact about.version.trans (by simp [version])
  · intro entry member
    obtain ⟨k, bound, rfl⟩ := List.mem_iff_getElem.mp member
    obtain ⟨previous, about⟩ := each.get bound (length ▸ bound)
    exact about.reference.trans (congrArg _ (own _ (List.get_mem _ _)))
  · intro entry isFirst
    cases records with
    | nil =>
        cases recorded
        cases isFirst
    | cons record records =>
        cases recorded with
        | cons about rest =>
            cases isFirst
            exact ⟨about.eventType, about.previousStatus⟩
  · have last := congrArg (Option.map (·.status)) lineage.last
    rw [Option.toList_none, List.nil_append, ← List.getLast?_map, ← statuses,
      List.getLast?_map] at last
    exact last

end

namespace LocalAction

def announced? : LocalAction → Option Commit
  | .append commit => some commit
  | _ => none

end LocalAction

namespace Interleaving

def announcedAt (step : ServiceStep) : Option Commit :=
  step.action.request?.bind LocalAction.announced?

def entryAt (step : ServiceStep) : Option AuditEntry :=
  (announcedAt step).map (·.auditEntry step.choice.stamp)

def auditListener : Listener Commit AuditLog where
  sink := .audit
  hears? := LocalAction.announced?
  told := id
  hears_requests := fun _ => rfl
  content := World.audit
  takes := fun stamp log commit => log.append (commit.auditEntry stamp)
  content_perform := by
    intro circumstances action world healthy
    cases action with
    | gateway action => rfl
    | here action =>
        cases action with
        | append commit => simp [World.perform, World.act, Outages.guard, healthy, Action.request?,
            LocalAction.announced?]
        | _ =>
            simp only [World.perform, World.act, Outages.guard]
            try split
            all_goals rfl

theorem entries_foldl (log : AuditLog) (steps : List ServiceStep) :
    (steps.foldl auditListener.follow log).entries = log.entries ++ steps.filterMap entryAt :=
  auditListener.foldl_follow_writes AuditLog.entries (fun _ _ _ => rfl) log steps

section

variable {operations : List Operation} {turns : List (Nat × Circumstances)}

theorem told_audit : (fun step => (dueAt operations step).map auditListener.told) = dueAt operations :=
  funext fun _ => Option.map_id'

theorem announced_perm
    (rest : ((operationPool operations).run World.perform turns).AtRest) :
    let past := ((operationPool operations).run World.perform turns).moment.past
    (past.filterMap announcedAt).Perm (past.filterMap (dueAt operations)) := by
  have heard := auditListener.heard_perm rest
  rw [told_audit] at heard
  exact heard

theorem announced_eq (inTurn : InTurn turns)
    (rest : ((operationPool operations).run World.perform turns).AtRest) :
    let past := ((operationPool operations).run World.perform turns).moment.past
    past.filterMap announcedAt = past.filterMap (dueAt operations) := by
  have heard := auditListener.heard_eq inTurn rest
  rw [told_audit] at heard
  exact heard

theorem entries_of_run {world : World}
    (healthy : ∀ turn ∈ turns, turn.2.outages .audit = none) :
    let now := ((operationsOn world operations).run World.perform turns).moment
    now.state.audit.entries = world.audit.entries ++ now.past.filterMap entryAt := by
  intro now
  have held : now.state.audit = now.past.foldl auditListener.follow world.audit :=
    auditListener.content_of_run healthy
  rw [held, entries_foldl]

end

theorem forall₂_entryAt (steps : List ServiceStep) :
    List.Forall₂ (fun entry commit => ∃ stamp, entry = commit.auditEntry stamp)
      (steps.filterMap entryAt) (steps.filterMap announcedAt) := by
  induction steps with
  | nil => exact .nil
  | cons step steps ih =>
      cases announced : announcedAt step with
      | none => simpa [entryAt, announced] using ih
      | some commit =>
          rw [List.filterMap_cons_some announced,
            List.filterMap_cons_some (by rw [entryAt, announced]; rfl)]
          exact .cons ⟨_, rfl⟩ ih

theorem forall₂_records {operations : List Operation} {steps : List ServiceStep}
    {history : List AuditEntry}
    (written : List.Forall₂ (fun entry commit => ∃ stamp, entry = commit.auditEntry stamp) history
      (steps.filterMap (dueAt operations))) :
    List.Forall₂ AuditEntry.Records history (steps.filterMap changeAt) := by
  induction steps generalizing history with
  | nil =>
      cases written
      exact .nil
  | cons step steps ih =>
      cases changed : changeAt step with
      | none =>
          have nothing : dueAt operations step = none := by rw [dueAt, changed]; rfl
          rw [List.filterMap_cons_none nothing] at written
          rw [List.filterMap_cons_none changed]
          exact ih written
      | some change =>
          have due : dueAt operations step =
            some (change.report (originOf operations step.client)) := by rw [dueAt, changed]; rfl
          rw [List.filterMap_cons_some due] at written
          rw [List.filterMap_cons_some changed]
          cases written with
          | cons entry rest =>
              obtain ⟨stamp, isEntry⟩ := entry
              exact .cons ⟨_, stamp, isEntry⟩ (ih rest)

section

variable {operations : List Operation} {turns : List (Nat × Circumstances)}

/-- Up to its order, the log is a history of the commits; one operation at a time, it is one. -/
theorem log_of_run (healthy : ∀ turn ∈ turns, turn.2.outages .audit = none)
    (rest : ((operationPool operations).run World.perform turns).AtRest) :
    let now := ((operationPool operations).run World.perform turns).moment
    ∃ history, now.state.audit.entries.Perm history ∧
      (InTurn turns → now.state.audit.entries = history) ∧
      List.Forall₂ AuditEntry.Records history (now.past.filterMap changeAt) := by
  intro now
  have written := forall₂_entryAt now.past
  have entries : now.state.audit.entries = now.past.filterMap entryAt := entries_of_run healthy
  rw [← entries] at written
  by_cases inTurn : InTurn turns
  · rw [announced_eq inTurn rest] at written
    exact ⟨_, .refl _, fun _ => rfl, forall₂_records written⟩
  · have both : Relation.Comp (List.Forall₂ _) List.Perm _ _ := ⟨_, written, announced_perm rest⟩
    rw [List.forall₂_comp_perm_eq_perm_comp_forall₂] at both
    obtain ⟨history, order, due⟩ := both
    exact ⟨history, order, fun orderly => absurd orderly inTurn, forall₂_records due⟩

theorem query_reference (log : AuditLog) (text : String) :
    log.query { reference := some text } = log.entries.filter (·.reference = text) := by
  refine List.filter_congr fun entry _ => ?_
  simp [AuditQuery.accepts, eq_comm]

/-- Once every operation is done, the audit log holds for each payment the trail of its versions, in
their order if the operations worked one after another, and nothing about anything else. -/
theorem run_audit_trail (operations : List Operation) (turns : List (Nat × Circumstances))
    (healthy : ∀ turn ∈ turns, turn.2.outages .audit = none)
    (rest : ((operationPool operations).run World.perform turns).AtRest) :
    let world := ((operationPool operations).run World.perform turns).moment.state
    (∀ reference current, world.store.find? reference = some current →
      ∃ trail, IsTrail trail reference current ∧
        (world.audit.query { reference := some reference.text }).Perm trail ∧
        (InTurn turns → world.audit.query { reference := some reference.text } = trail)) ∧
    (∀ text, (∀ reference current, world.store.find? reference = some current →
        reference.text ≠ text) →
      world.audit.query { reference := some text } = []) := by
  intro world
  obtain ⟨history, order, inOrder, recorded⟩ := log_of_run healthy rest
  have about : ∀ text, List.Forall₂ AuditEntry.Records (history.filter (·.reference = text))
      ((((operationPool operations).run World.perform turns).moment.past.filterMap changeAt).filter
        (·.current.reference.text = text)) := by
    intro text
    refine List.rel_filter (fun entry change records => ?_) recorded
    simp [records.reference]
  refine ⟨?_, ?_⟩
  · intro reference current stored
    let past := ((operationPool operations).run World.perform turns).moment.past
    obtain ⟨changes, lineage⟩ :
        changesOf reference past = Change.through none (worldAccess.recordsOf reference past) ∧
          Payment.Lineage none (worldAccess.recordsOf reference past)
            (world.store.find? reference) := lineage_of_run {} operations turns reference
    rw [stored] at lineage
    have trail := about reference.text
    refine ⟨history.filter (·.reference = reference.text), ?_, ?_, ?_⟩
    · refine isTrail_of_lineage lineage (fun record member => ?_) ?_
      · exact (worldAccess.mem_recordsOf.mp member).2
      · rw [← changes]
        simpa [changesOf, Reference.text_inj] using trail
    · rw [query_reference]
      exact order.filter _
    · intro inTurn
      rw [query_reference, inOrder inTurn]
  · intro text unknown
    have trail := about text
    have none : (((operationPool operations).run World.perform turns).moment.past.filterMap
        changeAt).filter (·.current.reference.text = text) = [] := by
      refine List.filter_eq_nil_iff.mpr fun change member => ?_
      obtain ⟨step, isStep, changed⟩ := List.mem_filterMap.mp member
      have lineage := (lineage_of_run {} operations turns change.current.reference).2
      have committed : worldAccess.record? step = some change.current := by
        rw [record?_eq, changed]
        rfl
      obtain ⟨current, stored, _⟩ := lineage.sameCharge change.current
        (worldAccess.mem_recordsOf.mpr ⟨⟨step, isStep, committed⟩, rfl⟩)
      simpa using unknown _ _ stored
    rw [none, List.forall₂_nil_right_iff] at trail
    rw [query_reference]
    exact List.perm_nil.mp (trail ▸ order.filter _)

end

theorem run_audit_trail_lateReport :
    ∃ current trail,
      lateReport.moment.state.store.find? (cardCharge .processing).reference = some current ∧
      current.version = 2 ∧ IsTrail trail (cardCharge .processing).reference current ∧
      (lateReport.moment.state.audit.query
        { reference := some (cardCharge .processing).reference.text }).Perm trail := by
  have confirmed : (lateReport.moment.state.store.find? (cardCharge .processing).reference).map
      (·.version) = some 2 := by decide +kernel
  obtain ⟨current, stored, version⟩ := Option.map_eq_some_iff.mp confirmed
  have healthy : ∀ turn ∈ List.replicate 5 (0, cooperative) ++ List.replicate 10 (1, cooperative) ++
      List.replicate 5 (0, cooperative), turn.2.outages .audit = none := by
    simp [cooperative, Outages.none]
  obtain ⟨trail, isTrail, order, _⟩ :=
    (run_audit_trail _ _ healthy lateReport_atRest).1 _ current stored
  exact ⟨current, trail, stored, version, isTrail, order⟩

end Interleaving

end Payments
