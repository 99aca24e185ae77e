import Payments.Proofs.Service.Report

/-!
Whole runs of the service. The commits to one reference lead from each version to the next, and once
every operation is done, the reports to the sinks are the commits, up to their order.
-/

namespace Payments

theorem StoreAction.committed?_eq (action : StoreAction) (reply : action.Reply) :
    action.committed? reply = (action.change? reply).map Change.current := by
  cases action with
  | create payment => cases reply <;> rfl
  | find reference => rfl
  | ofUser userId page => rfl
  | update reference expected update =>
      cases reply with
      | error error => rfl
      | ok outcome => cases outcome <;> rfl

theorem Action.committed?_eq (action : Action) (reply : action.Reply) :
    action.committed? reply = (action.change? reply).map Change.current := by
  cases action with
  | gateway action => rfl
  | here action =>
      cases action with
      | store action => exact action.committed?_eq reply
      | _ => rfl

theorem Store.previous_of_act {store : Store} {stamp : Stamp} {action : StoreAction}
    {change : Change} (changed : action.change? (store.act stamp action).1 = some change) :
    change.previous = store.find? change.current.reference := by
  cases action with
  | create payment =>
      cases found : store.find? payment.reference with
      | none =>
          rw [act_create_absent found] at changed
          cases changed
          exact found.symm
      | some current =>
          rw [act_create_present found] at changed
          cases changed
  | find reference => cases changed
  | ofUser userId page => cases changed
  | update reference expected update =>
      cases found : store.find? reference with
      | none =>
          rw [act_update_absent found] at changed
          cases changed
      | some current =>
          rw [act_update found] at changed
          split at changed
          · split at changed
            · cases changed
            · cases changed
            · cases changed
              have known := find?_reference found
              rw [Payment.reference_apply, known, found]
          · cases changed

namespace Change

def through (stored : Option Payment) : List Payment → List Change
  | [] => []
  | record :: records => ⟨stored, record⟩ :: through (some record) records

theorem through_concat (stored : Option Payment) (records : List Payment) (record : Payment) :
    through stored (records ++ [record]) =
      through stored records ++ [⟨(stored.toList ++ records).getLast?, record⟩] := by
  induction records generalizing stored with
  | nil => cases stored <;> rfl
  | cons first records ih =>
      rw [List.cons_append, through, ih, through]
      simp [List.getLast?_append, List.getLast?_cons]

end Change

namespace Interleaving

def changeAt (step : ServiceStep) : Option Change := step.action.change? step.reply

def changesOf (reference : Reference) (steps : List ServiceStep) : List Change :=
  (steps.filterMap changeAt).filter (·.current.reference = reference)

theorem record?_eq (step : ServiceStep) :
    worldAccess.record? step = (changeAt step).map Change.current :=
  step.action.committed?_eq step.reply

theorem mem_recordsOf_of_changeAt {past : List ServiceStep} {step : ServiceStep} {change : Change}
    (member : step ∈ past) (changed : changeAt step = some change) :
    change.current ∈ worldAccess.recordsOf change.current.reference past := by
  refine worldAccess.mem_recordsOf.mpr ⟨⟨step, member, ?_⟩, rfl⟩
  rw [record?_eq, changed]
  rfl

theorem changeAt_step {now : ServiceMoment} {client : Nat} {choice : Circumstances}
    {action : Action} {change : Change}
    (changed : changeAt (now.step World.perform client choice action) = some change) :
    change.previous = now.state.store.find? change.current.reference := by
  cases action with
  | gateway action => cases changed
  | here action =>
      cases action with
      | store action => exact Store.previous_of_act changed
      | _ => cases changed

theorem changesOf_append (reference : Reference) (earlier later : List ServiceStep) :
    changesOf reference (earlier ++ later) =
      changesOf reference earlier ++ changesOf reference later := by
  simp [changesOf]

theorem changesOf_singleton (reference : Reference) (step : ServiceStep) :
    changesOf reference [step] = (changeAt step).toList.filter (·.current.reference = reference) := by
  cases changed : changeAt step <;> simp [changesOf, changed]

theorem Leads.changesOf_eq {may : Nat → ServiceMoment → Action → Prop} {who : Nat → Prop}
    {start now : ServiceMoment} (leads : Leads World.perform may who start now)
    (reference : Reference) :
    ∃ steps, now.past = start.past ++ steps ∧
      changesOf reference steps = Change.through (start.state.store.find? reference)
        (worldAccess.recordsOf reference steps) := by
  induction leads with
  | refl => exact ⟨[], by simp, rfl⟩
  | @step now client action choice reached _ _ ih =>
      obtain ⟨steps, grown, chained⟩ := ih
      obtain ⟨steps', grown', _, lineage⟩ := reached.lineage worldAccess.toStoreView reference
      have same : steps' = steps := List.append_cancel_left (grown'.symm.trans grown)
      subst same
      refine ⟨steps' ++ [now.step World.perform client choice action], ?_, ?_⟩
      · simp only [Moment.next, grown, List.append_assoc]
      rw [changesOf_append, changesOf_singleton, worldAccess.recordsOf_append,
        worldAccess.recordsOf_singleton, record?_eq, chained]
      cases changed : changeAt (now.step World.perform client choice action) with
      | none => simp
      | some change =>
          by_cases own : change.current.reference = reference
          · have previous := changeAt_step changed
            rw [own] at previous
            have last : ((start.state.store.find? reference).toList ++
                worldAccess.recordsOf reference steps').getLast? =
              now.state.store.find? reference := lineage.last
            simp only [Option.toList_some, Option.map_some, Store.recordsOf, own, decide_true,
              List.filter_cons_of_pos, List.filter_nil]
            rw [Change.through_concat, last, ← previous]
          · simp [Store.recordsOf, own]

section

variable {world : World} {operations : List Operation} {turns : List (Nat × Circumstances)}

theorem run_keeps {may : Nat → ServiceTalk → Action → Prop}
    {goal : Nat → ServiceTalk → Answer → Prop}
    (keeps : ∀ client operation, operations[client]? = some operation →
      Keeps (may client) (goal client) operation.workflow []) (world : World)
    (turns : List (Nat × Circumstances)) :
    Kept World.perform (allowedBy may) (metBy goal) (operationsOn world operations).moment
      ((operationsOn world operations).run World.perform turns) := by
  refine Pool.run_keeps ?_ turns
  intro client workflow found
  simp only [operationsOn, List.getElem?_map, Option.map_eq_some_iff] at found
  obtain ⟨operation, known, rfl⟩ := found
  exact keeps client operation known

theorem run_reports (world : World) (operations : List Operation)
    (turns : List (Nat × Circumstances)) :
    Kept World.perform (allowedBy fun client => mayReport (originOf operations client))
      (metBy fun client talk (_ : Answer) => Reported (originOf operations client) talk)
      (operationsOn world operations).moment
      ((operationsOn world operations).run World.perform turns) := by
  refine run_keeps (fun client operation known => ?_) world turns
  have isOrigin : originOf operations client = operation.origin := by simp [originOf, known]
  rw [isOrigin]
  exact Operation.keeps operation

theorem past_of_run (world : World) (operations : List Operation)
    (turns : List (Nat × Circumstances)) :
    let past := ((operationsOn world operations).run World.perform turns).moment.past
    (past.map fun step => (step.client, step.choice)).Sublist turns ∧
      ∀ step ∈ past, step.client < operations.length := by
  obtain ⟨steps, grown, taken, known⟩ :=
    @Pool.past_run _ _ _ _ _ World.perform (operationsOn world operations) turns
  have whole : ((operationsOn world operations).run World.perform turns).moment.past = steps :=
    grown
  rw [whole]
  exact ⟨taken, by simpa [operationsOn] using known⟩

theorem lineage_of_reached {may : Nat → ServiceMoment → Action → Prop} {who : Nat → Prop}
    {now : ServiceMoment} (reached : Leads World.perform may who ⟨world, []⟩ now)
    (reference : Reference) :
    Payment.Lineage (world.store.find? reference) (worldAccess.recordsOf reference now.past)
      (now.state.store.find? reference) :=
  reached.lineage_past worldAccess.toStoreView reference

/-- All commits of a run to one reference lead from what is stored at first to what is stored then. -/
theorem lineage_of_run (world : World) (operations : List Operation)
    (turns : List (Nat × Circumstances)) (reference : Reference) :
    let now := ((operationsOn world operations).run World.perform turns).moment
    changesOf reference now.past = Change.through (world.store.find? reference)
        (worldAccess.recordsOf reference now.past) ∧
      Payment.Lineage (world.store.find? reference) (worldAccess.recordsOf reference now.past)
        (now.state.store.find? reference) := by
  intro now
  have reached : Leads World.perform _ _ _ now := (operationsOn world operations).run_leads turns
  obtain ⟨steps, grown, chained⟩ := reached.changesOf_eq reference
  have whole : now.past = steps := grown
  rw [← whole] at chained
  exact ⟨chained, lineage_of_reached reached reference⟩

theorem past_of_more (world : World) (operations : List Operation)
    (turns more : List (Nat × Circumstances)) :
    ∃ steps, pastOf world operations (turns ++ more) = pastOf world operations turns ++ steps := by
  rw [pastOf, Pool.run_append]
  obtain ⟨steps, grown, _⟩ := @Pool.past_run _ _ _ _ _ World.perform
    ((operationsOn world operations).run World.perform turns) more
  exact ⟨steps, grown⟩

theorem lineage_of_more {more : List (Nat × Circumstances)} {steps : List ServiceStep}
    (grown : pastOf world operations (turns ++ more) = pastOf world operations turns ++ steps)
    (reference : Reference) :
    Payment.Lineage
      (((operationsOn world operations).run World.perform turns).moment.state.store.find? reference)
      (worldAccess.recordsOf reference steps)
      (((operationsOn world operations).run World.perform (turns ++ more)).moment.state.store.find?
        reference) := by
  obtain ⟨steps', grown', _, lineage⟩ :=
    (((operationsOn world operations).run World.perform turns).run_leads more).lineage
      worldAccess.toStoreView reference
  rw [← Pool.run_append] at grown' lineage
  have same : steps' = steps := List.append_cancel_left (grown'.symm.trans grown)
  rwa [same] at lineage

theorem reported_of_atRest
    (rest : ((operationsOn world operations).run World.perform turns).AtRest) (client : Nat) :
    Reported (originOf operations client)
      (talkOf client ((operationsOn world operations).run World.perform turns).moment.past) := by
  by_cases known : client < operations.length
  · have isClient :
        client < ((operationsOn world operations).run World.perform turns).clients.length := by
      rw [Pool.length_clients_run]
      simpa [operationsOn] using known
    rcases (run_reports world operations turns).talk_of_atRest rest isClient with
      silent | ⟨_, reported⟩
    · rw [silent]
      exact reported_nil .nil
    · exact reported
  · rw [talkOf_others fun step member => ?_]
    · exact reported_nil .nil
    · have bound := (past_of_run world operations turns).2 step member
      omega

end

end Interleaving

end Payments
