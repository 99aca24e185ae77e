import Payments.Proofs.Webhook.Delivery

/-!
Payments that are over. Whatever operations are at work, the record of a payment that failed, was
canceled or was refunded stays as it is, and one that succeeded can at most be refunded. Sinks are
only told of commits, so once the commits to such a payment were all reported, no sink hears of it
again.
-/

namespace Payments

namespace Status

def closed : List Status := [.failed, .canceled, .refunded]

variable {source target : Status}

theorem not_canMoveTo_of_closed (final : source ∈ closed) (target : Status) :
    source.canMoveTo target = false := by
  simp only [closed, List.mem_cons, List.not_mem_nil, or_false] at final
  rcases final with rfl | rfl | rfl
  all_goals simp [canMoveTo, isTerminal]

theorem eq_refunded_of_canMoveTo (legal : succeeded.canMoveTo target = true) :
    target = refunded := by
  by_contra other
  simp [canMoveTo, isTerminal, other] at legal

end Status

namespace Payment

variable {payment record : Payment} {records : List Payment} {stored : Option Payment}

theorem Follows.not_closed (follows : Follows (some payment) record) :
    payment.status ∉ Status.closed := by
  intro final
  cases follows with
  | next _ legal _ =>
      rw [Status.not_canMoveTo_of_closed final] at legal
      cases legal

theorem Follows.refunds (follows : Follows (some payment) record)
    (succeeded : payment.status = .succeeded) : record.status = .refunded := by
  cases follows with
  | next _ legal _ =>
      rw [succeeded] at legal
      exact Status.eq_refunded_of_canMoveTo legal

theorem Lineage.of_closed (lineage : Lineage (some payment) records stored)
    (final : payment.status ∈ Status.closed) : records = [] ∧ stored = some payment := by
  generalize present : some payment = start at lineage
  induction lineage with
  | refl => exact ⟨rfl, rfl⟩
  | commit _ follows ih =>
      obtain ⟨_, same⟩ := ih
      rw [same, ← present] at follows
      exact absurd final follows.not_closed

theorem Lineage.of_succeeded (lineage : Lineage (some payment) records stored)
    (succeeded : payment.status = .succeeded) :
    records = [] ∧ stored = some payment ∨
      ∃ refund, records = [refund] ∧ stored = some refund ∧ refund.status = .refunded := by
  generalize present : some payment = start at lineage
  induction lineage with
  | refl => exact .inl ⟨rfl, rfl⟩
  | @commit records stored record _ follows ih =>
      rcases ih with ⟨rfl, same⟩ | ⟨refund, _, rfl, refunded⟩
      · rw [same, ← present] at follows
        exact .inr ⟨record, rfl, rfl, follows.refunds succeeded⟩
      · have final : refund.status ∈ Status.closed := by rw [refunded]; decide
        exact absurd final follows.not_closed

end Payment

def LocalAction.isAbout (reference : Reference) : LocalAction → Bool
  | .evict other _ => other = reference
  | .append commit => commit.payment.reference = reference
  | .index document => document.reference = reference.text
  | .publish event => event.reference = reference.text
  | _ => false

def Action.isReportAbout (reference : Reference) (action : Action) : Bool :=
  action.request?.any (·.isAbout reference)

theorem Commit.isAbout_of_mem {commit : Commit} {request : LocalAction}
    (member : request ∈ commit.requests) (reference : Reference) :
    request.isAbout reference = decide (commit.payment.reference = reference) := by
  simp only [Commit.requests, List.mem_cons, List.not_mem_nil, or_false] at member
  rcases member with rfl | rfl | rfl | rfl
  · rfl
  · rfl
  · exact decide_eq_decide.mpr Reference.text_inj
  · exact decide_eq_decide.mpr Reference.text_inj

namespace World

/-- The audit log, the bus and the search index have heard no more of this payment. -/
structure Unheard (reference : Reference) (before after : World) : Prop where
  audit : after.audit.entries.filter (·.reference = reference.text) =
    before.audit.entries.filter (·.reference = reference.text)
  published : after.published.filter (·.reference = reference.text) =
    before.published.filter (·.reference = reference.text)
  document : after.index.find? reference.text = before.index.find? reference.text

variable {reference : Reference} {before middle after : World}

theorem Unheard.refl (reference : Reference) (world : World) : world.Unheard reference world :=
  ⟨rfl, rfl, rfl⟩

theorem Unheard.trans (first : before.Unheard reference middle)
    (second : middle.Unheard reference after) : before.Unheard reference after :=
  ⟨second.audit.trans first.audit, second.published.trans first.published,
    second.document.trans first.document⟩

theorem perform_unheard {action : Action} (quiet : action.isReportAbout reference = false)
    (circumstances : Circumstances) (world : World) :
    world.Unheard reference (perform circumstances action world).2 := by
  cases action with
  | gateway action => exact .refl reference world
  | here action =>
      cases action with
      | append commit =>
          have other : ¬ commit.payment.reference.text = reference.text := by
            rw [Reference.text_inj]
            simpa [Action.isReportAbout, Action.request?, LocalAction.isAbout] using quiet
          have entry : ¬ (commit.auditEntry circumstances.stamp).reference = reference.text := other
          simp only [perform, act, Outages.guard]
          split
          · exact .refl reference world
          · exact ⟨by simp [AuditLog.append, entry], rfl, rfl⟩
      | index document =>
          have other : ¬ document.reference = reference.text := by
            simpa [Action.isReportAbout, Action.request?, LocalAction.isAbout] using quiet
          simp only [perform, act, Outages.guard]
          split
          · exact .refl reference world
          · exact ⟨rfl, rfl, SearchIndex.find?_upsert_of_ne (Ne.symm other)⟩
      | publish event =>
          have other : ¬ event.reference = reference.text := by
            simpa [Action.isReportAbout, Action.request?, LocalAction.isAbout] using quiet
          simp only [perform, act, Outages.guard]
          split
          · exact .refl reference world
          · exact ⟨rfl, by simp [other], rfl⟩
      | _ =>
          simp only [perform, act, Outages.guard]
          try split
          all_goals exact ⟨rfl, rfl, rfl⟩

end World

namespace Interleaving

def changesAbout (reference : Reference) (talk : ServiceTalk) : List Change :=
  (changesIn talk).filter (·.current.reference = reference)

def requestsAbout (reference : Reference) (talk : ServiceTalk) : List LocalAction :=
  (requestsIn talk).filter (·.isAbout reference)

/-- Nothing about the payment is on its way to a sink: each client has reported all its commits to
it. -/
def Landed (operations : List Operation) (reference : Reference) (past : List ServiceStep) : Prop :=
  ∀ client, requestsAbout reference (talkOf client past) =
    reportsOf (originOf operations client) (changesAbout reference (talkOf client past))

section

variable {reference : Reference} {talk more : ServiceTalk} {origin : Origin}

theorem changesAbout_append :
    changesAbout reference (talk ++ more) =
      changesAbout reference talk ++ changesAbout reference more := by
  simp [changesAbout, changesIn]

theorem requestsAbout_append :
    requestsAbout reference (talk ++ more) =
      requestsAbout reference talk ++ requestsAbout reference more := by
  simp [requestsAbout, requestsIn]

theorem filter_reportsOf (reference : Reference) (origin : Origin) (changes : List Change) :
    (reportsOf origin changes).filter (·.isAbout reference) =
      reportsOf origin (changes.filter (·.current.reference = reference)) := by
  induction changes with
  | nil => rfl
  | cons change changes ih =>
      have about : ∀ request ∈ (change.report origin).requests,
          request.isAbout reference = decide (change.current.reference = reference) :=
        fun request member => Commit.isAbout_of_mem member reference
      rw [reportsOf, List.flatMap_cons, List.filter_append]
      change _ ++ (reportsOf origin changes).filter _ = _
      rw [ih, List.filter_congr about]
      by_cases own : change.current.reference = reference
      · simp [own, reportsOf]
      · simp [own]

theorem Reported.about (reported : Reported origin talk) :
    requestsAbout reference talk = reportsOf origin (changesAbout reference talk) := by
  rw [requestsAbout, reported, filter_reportsOf]
  rfl

theorem mem_changesAbout_talkOf {client : Nat} {past : List ServiceStep} {change : Change}
    (member : change ∈ changesAbout reference (talkOf client past)) :
    change.current.reference = reference ∧
      ∃ step ∈ past, step.client = client ∧ changeAt step = some change := by
  obtain ⟨isChange, about⟩ := List.mem_filter.mp member
  obtain ⟨said, isSaid, changed⟩ := List.mem_filterMap.mp isChange
  obtain ⟨step, isStep, own, rfl⟩ := mem_talkOf.mp isSaid
  exact ⟨of_decide_eq_true about, step, isStep, own, changed⟩

theorem changesAbout_eq_nil {client : Nat} {steps : List ServiceStep}
    (none : worldAccess.recordsOf reference steps = []) :
    changesAbout reference (talkOf client steps) = [] := by
  refine List.eq_nil_iff_forall_not_mem.mpr fun change member => ?_
  obtain ⟨about, step, isStep, _, changed⟩ := mem_changesAbout_talkOf member
  have known := mem_recordsOf_of_changeAt isStep changed
  rw [about, none] at known
  cases known

end

section

variable {world : World} {operations : List Operation} {turns : List (Nat × Circumstances)}
  {reference : Reference} {record : Payment}

theorem mem_reportsOf_of_asked {step : ServiceStep} {request : LocalAction}
    (member : step ∈ pastOf world operations turns)
    (asked : step.action.request? = some request) :
    request ∈ reportsOf (originOf operations step.client)
      (changesIn (talkOf step.client (pastOf world operations turns))) := by
  obtain ⟨earlier, later, split⟩ := List.append_of_mem member
  obtain ⟨_, _, _, permitted⟩ := (run_reports world operations turns).reached.at_step
    earlier step later split (Nat.zero_le _)
  obtain ⟨change, made, isReport⟩ := List.mem_flatMap.mp (permitted request asked)
  refine List.mem_flatMap.mpr ⟨change, ?_, isReport⟩
  rw [split, talkOf_append, changesIn, List.filterMap_append]
  exact List.mem_append_left _ made

theorem landed_of_done
    (done : ∀ step ∈ pastOf world operations turns, worldAccess.commits reference step = true →
      (((operationsOn world operations).run World.perform turns).result? step.client).isSome) :
    Landed operations reference (pastOf world operations turns) := by
  intro client
  cases made : changesAbout reference (talkOf client (pastOf world operations turns)) with
  | cons change changes =>
      obtain ⟨about, step, isStep, rfl, changed⟩ :=
        mem_changesAbout_talkOf (made ▸ List.mem_cons_self)
      have commits : worldAccess.commits reference step = true := by
        simp [StoreView.commits, record?_eq, changed, about]
      obtain ⟨answer, isResult⟩ := Option.isSome_iff_exists.mp (done step isStep commits)
      rw [← made]
      exact ((run_reports world operations turns).talk_of_result? isResult).about
  | nil =>
      refine List.filter_eq_nil_iff.mpr fun request isRequest about => ?_
      obtain ⟨said, isSaid, asked⟩ := List.mem_filterMap.mp isRequest
      obtain ⟨step, isStep, rfl, rfl⟩ := mem_talkOf.mp isSaid
      have reported := List.mem_filter.mpr ⟨mem_reportsOf_of_asked isStep asked, about⟩
      rw [filter_reportsOf] at reported
      change request ∈ reportsOf _ (changesAbout reference _) at reported
      rw [made] at reported
      cases reported

theorem quiet_of_landed
    (stored : ((operationsOn world operations).run World.perform turns).moment.state.store.find?
      reference = some record)
    (final : record.status ∈ Status.closed)
    (landed : Landed operations reference (pastOf world operations turns))
    (more : List (Nat × Circumstances)) {steps : List ServiceStep}
    (grown : pastOf world operations (turns ++ more) = pastOf world operations turns ++ steps) :
    ∀ step ∈ steps, step.action.isReportAbout reference = false := by
  obtain ⟨rest, finished⟩ :=
    ((operationsOn world operations).run World.perform (turns ++ more)).can_finish World.perform
      cooperative
  rw [← Pool.run_append, List.append_assoc] at finished
  obtain ⟨late, grownOn⟩ := past_of_more world operations (turns ++ more) rest
  have whole : pastOf world operations (turns ++ (more ++ rest)) =
      pastOf world operations turns ++ (steps ++ late) := by
    rw [← List.append_assoc, grownOn, grown, List.append_assoc]
  have lineage := lineage_of_more whole reference
  rw [stored] at lineage
  have uncommitted := (lineage.of_closed final).1
  have silent : ∀ client, requestsAbout reference (talkOf client (steps ++ late)) = [] := by
    intro client
    have reported : requestsAbout reference
          (talkOf client (pastOf world operations (turns ++ (more ++ rest)))) =
        reportsOf (originOf operations client) (changesAbout reference
          (talkOf client (pastOf world operations (turns ++ (more ++ rest))))) :=
      (reported_of_atRest finished.atRest client).about
    rw [whole, talkOf_append, requestsAbout_append, changesAbout_append,
      changesAbout_eq_nil uncommitted, List.append_nil, landed client] at reported
    exact List.append_right_eq_self.mp reported
  intro step member
  cases asked : step.action.request? with
  | none => simp [Action.isReportAbout, asked]
  | some request =>
      have isRequest : request ∈ requestsIn (talkOf step.client (steps ++ late)) :=
        List.mem_filterMap.mpr ⟨step.exchange,
          mem_talkOf.mpr ⟨step, List.mem_append_left _ member, rfl, rfl⟩, asked⟩
      have other := List.filter_eq_nil_iff.mp (silent step.client) request isRequest
      simpa [Action.isReportAbout, asked] using other

theorem Leads.unheard {may : Nat → ServiceMoment → Action → Prop} {who : Nat → Prop}
    {start now : ServiceMoment} (leads : Leads World.perform may who start now)
    (reference : Reference) :
    ∃ steps, now.past = start.past ++ steps ∧
      ((∀ step ∈ steps, step.action.isReportAbout reference = false) →
        start.state.Unheard reference now.state) := by
  induction leads with
  | refl => exact ⟨[], by simp, fun _ => .refl reference _⟩
  | @step now client action choice _ _ _ ih =>
      obtain ⟨steps, grown, unheard⟩ := ih
      refine ⟨steps ++ [now.step World.perform client choice action], ?_, fun quiet => ?_⟩
      · simp only [Moment.next, grown, List.append_assoc]
      · have earlier := unheard fun step member => quiet step (List.mem_append_left _ member)
        have last : action.isReportAbout reference = false :=
          quiet (now.step World.perform client choice action) List.mem_concat_self
        exact earlier.trans (World.perform_unheard last choice now.state)

/-- A payment that failed, was canceled or was refunded stays exactly as it is, whatever operations
go on or begin; as soon as the reports that were under way have landed, which is when whoever
committed to it is done, no sink hears of it again. One that succeeded can be moved once more, and
is refunded then. -/
theorem closed_payment_stays (world : World) (operations : List Operation)
    (turns : List (Nat × Circumstances)) (reference : Reference) (record : Payment)
    (stored : ((operationsOn world operations).run World.perform turns).moment.state.store.find?
      reference = some record) :
    let pool := fun more => (operationsOn world operations).run World.perform (turns ++ more)
    let committed := fun past => worldAccess.recordsOf reference past
    let before := committed (pastOf world operations turns)
    (record.status = .failed ∨ record.status = .canceled ∨ record.status = .refunded →
      ∀ more,
        let later := (pool more).moment
        later.state.store.find? reference = some record ∧ committed later.past = before ∧
        (Landed operations reference later.past → ∀ further,
          let last := (pool (more ++ further)).moment
          ∃ steps, last.past = later.past ++ steps ∧
            (∀ step ∈ steps, step.action.isReportAbout reference = false) ∧
            later.state.Unheard reference last.state)) ∧
    (∀ more,
      (∀ step ∈ (pool more).moment.past, worldAccess.commits reference step = true →
        ((pool more).result? step.client).isSome) →
      Landed operations reference (pool more).moment.past) ∧
    (record.status = .succeeded → ∀ more,
      let later := (pool more).moment
      later.state.store.find? reference = some record ∧ committed later.past = before ∨
        ∃ refund, refund.status = .refunded ∧
          later.state.store.find? reference = some refund ∧
          committed later.past = before ++ [refund]) := by
  intro pool committed before
  have onward : ∀ more, ∃ records, committed (pool more).moment.past = before ++ records ∧
      Payment.Lineage (some record) records
        ((pool more).moment.state.store.find? reference) := by
    intro more
    obtain ⟨steps, grown⟩ := past_of_more world operations turns more
    have lineage := lineage_of_more grown reference
    rw [stored] at lineage
    refine ⟨committed steps, ?_, lineage⟩
    exact (congrArg committed grown).trans (worldAccess.recordsOf_append reference _ _)
  refine ⟨?_, fun more done => landed_of_done done, ?_⟩
  · intro isClosed more
    have final : record.status ∈ Status.closed := by simpa [Status.closed] using isClosed
    obtain ⟨records, grown, lineage⟩ := onward more
    obtain ⟨rfl, still⟩ := lineage.of_closed final
    rw [List.append_nil] at grown
    refine ⟨still, grown, fun landed further => ?_⟩
    obtain ⟨steps, longer, unheard⟩ := ((pool more).run_leads further).unheard reference
    rw [← Pool.run_append, List.append_assoc] at longer unheard
    have quiet := quiet_of_landed still final landed further
      (by rw [List.append_assoc]; exact longer)
    exact ⟨steps, longer, quiet, unheard quiet⟩
  · intro succeeded more
    obtain ⟨records, grown, lineage⟩ := onward more
    rcases lineage.of_succeeded succeeded with ⟨rfl, still⟩ | ⟨refund, rfl, held, refunded⟩
    · exact .inl ⟨still, by rw [grown, List.append_nil]⟩
    · exact .inr ⟨refund, refunded, held, grown⟩

end

def declining : Circumstances :=
  { cooperative with
    gateway := fun
      | .call (.confirm _) _ => some (.ok (cardCharge .failed))
      | action => cooperative.gateway action }

/-- A payment is charged and declined. Then the charge is repeated, and the payment reported paid. -/
def reopening : List Operation :=
  [.charge shop shopping ⟨.system, none⟩,
    .confirm shop (cardCharge .processing).reference ⟨.system, none⟩,
    .charge shop shopping ⟨.system, none⟩, .deliver postbox paid]

def untilDeclined : List (Nat × Circumstances) :=
  List.replicate 10 (0, cooperative) ++ List.replicate 10 (1, declining)

def onwards : List (Nat × Circumstances) :=
  List.replicate 7 (2, cooperative) ++ List.replicate 4 (3, cooperative)

theorem closed_payment_stays_declined :
    let declined := ((operationsOn {} reopening).run World.perform untilDeclined).moment.state
    let last := ((operationsOn {} reopening).run World.perform (untilDeclined ++ onwards)).moment.state
    let reference := (cardCharge .processing).reference
    ∃ record, declined.store.find? reference = some record ∧ record.status = .failed ∧
      last.store.find? reference = some record ∧ declined.Unheard reference last := by
  intro declined last reference
  have failed : (declined.store.find? reference).map (·.status) = some .failed := by
    decide +kernel
  obtain ⟨record, stored, status⟩ := Option.map_eq_some_iff.mp failed
  obtain ⟨stays, lands, _⟩ := closed_payment_stays {} reopening untilDeclined reference record stored
  have landed : Landed reopening reference
      ((operationsOn {} reopening).run World.perform (untilDeclined ++ [])).moment.past := by
    apply lands
    decide +kernel
  obtain ⟨_, _, quiet⟩ := stays (.inl status) []
  obtain ⟨_, _, _, unheard⟩ := quiet landed onwards
  obtain ⟨still, _⟩ := stays (.inl status) onwards
  simp only [List.append_nil, List.nil_append] at still unheard
  exact ⟨record, stored, status, still, unheard⟩

end Interleaving

end Payments
