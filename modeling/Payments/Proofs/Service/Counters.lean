import Mathlib.Algebra.BigOperators.Group.List.Basic
import Mathlib.Algebra.GroupWithZero.Nat
import Mathlib.Data.List.Nodup
import Payments.Proofs.Service.Bill
import Payments.Proofs.Service.Session
import Payments.Proofs.Service.Sinks

/-!
The counters of a run, once every operation is done or has not begun. Each charge is counted once,
as accepted or as failed; one is accepted for each record that was created and each that answered a
repeated charge. Each delivery is counted once, under its result, and each failure of a sink once
for the commit that the sink has missed.
-/

namespace Payments

namespace Series

def total (series : Series) : Nat := (series.map (·.2)).sum

def Distinct (series : Series) : Prop := (series.map (·.1)).Nodup

theorem labels_increment (series : Series) (label : String) :
    (series.increment label).map (·.1) = (series.touch label).map (·.1) := by
  rw [increment, List.map_map]
  refine List.map_congr_left fun entry _ => ?_
  by_cases own : entry.1 = label <;> simp [own]

theorem Distinct.touch {series : Series} (distinct : series.Distinct) (label : String) :
    (series.touch label).Distinct := by
  unfold Series.touch
  split
  · exact distinct
  · rename_i new
    have absent : label ∉ series.map (·.1) := by
      simpa [List.any_eq_true] using new
    have extended := (List.nodup_concat _ label).mpr ⟨absent, distinct⟩
    simpa [Distinct] using extended

theorem total_touch (series : Series) (label : String) :
    (series.touch label).total = series.total := by
  unfold touch
  split
  · rfl
  · simp [total]

theorem total_bump {series : Series} (distinct : series.Distinct) (label : String) :
    total (series.map fun entry => if entry.1 = label then (entry.1, entry.2 + 1) else entry) =
      series.total + if series.any (·.1 = label) then 1 else 0 := by
  induction series with
  | nil => rfl
  | cons entry series ih =>
      obtain ⟨apart, distinct⟩ := List.nodup_cons.mp distinct
      have rest := ih distinct
      simp only [total, List.map_cons, List.sum_cons, List.any_cons] at rest ⊢
      rw [rest]
      by_cases own : entry.1 = label
      · have absent : series.any (·.1 = label) = false := by
          refine List.any_eq_false.mpr fun other member => ?_
          have other_ne : other.1 ≠ entry.1 := by
            rintro same
            exact apart (List.mem_map.mpr ⟨other, member, same⟩)
          simpa [← own] using other_ne
        simp only [own, absent, if_true, decide_true, Bool.true_or, Bool.false_eq_true, if_false]
        omega
      · simp only [own, if_false, decide_false, Bool.false_or]
        omega

theorem any_touch (series : Series) (label : String) :
    (series.touch label).any (·.1 = label) = true := by
  unfold touch
  split
  · assumption
  · simp

theorem Distinct.increment {series : Series} (distinct : series.Distinct) (label : String) :
    (series.increment label).Distinct := by
  rw [Distinct, labels_increment]
  exact distinct.touch label

theorem total_increment {series : Series} (distinct : series.Distinct) (label : String) :
    (series.increment label).total = series.total + 1 := by
  rw [Series.increment, total_bump (distinct.touch label), any_touch, if_pos rfl, total_touch]

end Series

structure Metrics.Tallies (metrics : Metrics) (counters : List Counter) : Prop where
  failures : metrics.failures.Distinct
  deliveries : metrics.deliveries.Distinct
  processed : metrics.processed = counters.count .processed
  charged : metrics.processed + metrics.failures.total = counters.countP Counter.ofCharge
  delivered : metrics.deliveries.total = counters.countP Counter.ofDelivery
  labelled : ∀ label, metrics.deliveries.count label = counters.count (.delivery label)
  lost : ∀ sink, metrics.sinkFailures.count sink = counters.count (.sinkFailure sink)

namespace Metrics

theorem Tallies.nil : Tallies {} [] :=
  ⟨List.nodup_nil, List.nodup_nil, rfl, rfl, rfl, fun _ => rfl, fun _ => rfl⟩

theorem Tallies.count {metrics : Metrics} {counters : List Counter}
    (tallies : metrics.Tallies counters) (counter : Counter) :
    (metrics.count counter).Tallies (counters ++ [counter]) := by
  constructor
  case failures =>
    cases counter with
    | failed code => exact tallies.failures.increment code
    | _ => exact tallies.failures
  case deliveries =>
    cases counter with
    | delivery outcome => exact tallies.deliveries.increment outcome
    | _ => exact tallies.deliveries
  case processed =>
    rw [List.count_append, ← tallies.processed]
    cases counter <;> rfl
  case charged =>
    rw [List.countP_append, ← tallies.charged]
    cases counter with
    | processed => exact Nat.add_right_comm ..
    | failed code =>
        exact congrArg (metrics.processed + ·) (Series.total_increment tallies.failures code)
    | _ => rfl
  case delivered =>
    rw [List.countP_append, ← tallies.delivered]
    cases counter with
    | delivery outcome => exact Series.total_increment tallies.deliveries outcome
    | _ => rfl
  case labelled =>
    intro label
    rw [List.count_append, ← tallies.labelled]
    cases counter with
    | delivery outcome =>
        refine (Series.count_increment ..).trans ?_
        by_cases same : label = outcome
        · simp [same]
        · simp [same, Ne.symm same]
    | _ => rfl
  case lost =>
    intro label
    rw [List.count_append, ← tallies.lost]
    cases counter with
    | sinkFailure sink =>
        refine (Series.count_increment ..).trans ?_
        by_cases same : label = sink
        · simp [same]
        · simp [same, Ne.symm same]
    | _ => rfl

end Metrics

theorem Store.length_act (store : Store) (stamp : Stamp) (action : StoreAction) :
    (store.act stamp action).2.payments.length = store.payments.length +
      (action.change? (store.act stamp action).1).toList.countP Change.creates := by
  cases action with
  | create payment =>
      cases found : store.find? payment.reference with
      | some current =>
          rw [act_create_present found]
          rfl
      | none =>
          rw [act_create_absent found]
          exact List.length_append
  | find reference => rfl
  | ofUser userId page => rfl
  | update reference expected update =>
      cases found : store.find? reference with
      | none =>
          rw [act_update_absent found]
          rfl
      | some current =>
          have replaced : ∀ record : Payment,
              (store.replace record).payments.length = store.payments.length :=
            fun record => List.length_map _
          rw [act_update found]
          split
          · split
            · rfl
            · rfl
            · exact replaced _
          · rfl

def World.uncounted (world : World) : World := { world with metrics := {} }

namespace Interleaving

def counterAt (step : ServiceStep) : Option Counter := step.action.counter?

theorem metrics_perform (circumstances : Circumstances) (action : Action) (world : World) :
    (World.perform circumstances action world).2.metrics =
      action.counter?.elim world.metrics world.metrics.count := by
  cases action with
  | gateway action => rfl
  | here action =>
      cases action with
      | count counter => rfl
      | _ =>
          simp only [World.perform, World.act, Outages.guard]
          try split
          all_goals rfl

theorem tallies_of_leads {may : Nat → ServiceMoment → Action → Prop} {who : Nat → Prop}
    {start now : ServiceMoment} (leads : Leads World.perform may who start now)
    (zero : start.state.metrics = {}) :
    ∃ steps, now.past = start.past ++ steps ∧
      now.state.metrics.Tallies (steps.filterMap counterAt) := by
  induction leads with
  | refl => exact ⟨[], by simp, zero ▸ .nil⟩
  | @step now client action choice _ _ _ ih =>
      obtain ⟨steps, grown, tallies⟩ := ih
      refine ⟨steps ++ [now.step World.perform client choice action], ?_, ?_⟩
      · simp only [Moment.next, grown, List.append_assoc]
      have counted : (now.next World.perform client choice action).state.metrics = _ :=
        metrics_perform choice action now.state
      rw [List.filterMap_append, counted]
      cases counts : action.counter? with
      | none => simpa [counterAt, Moment.step, counts] using tallies
      | some counter => simpa [counterAt, Moment.step, counts] using tallies.count counter

theorem length_perform (circumstances : Circumstances) (action : Action) (world : World) :
    (World.perform circumstances action world).2.store.payments.length =
      world.store.payments.length +
        (action.change? (World.perform circumstances action world).1).toList.countP
          Change.creates := by
  cases action with
  | gateway action => rfl
  | here action =>
      cases action with
      | store action => exact world.store.length_act circumstances.stamp action
      | _ =>
          simp only [World.perform, World.act, Outages.guard]
          try split
          all_goals rfl

def createsAt (step : ServiceStep) : Bool := (changeAt step).any Change.creates

theorem length_of_leads {may : Nat → ServiceMoment → Action → Prop} {who : Nat → Prop}
    {start now : ServiceMoment} (leads : Leads World.perform may who start now) :
    ∃ steps, now.past = start.past ++ steps ∧
      now.state.store.payments.length =
        start.state.store.payments.length + steps.countP createsAt := by
  induction leads with
  | refl => exact ⟨[], by simp⟩
  | @step now client action choice _ _ _ ih =>
      obtain ⟨steps, grown, length⟩ := ih
      refine ⟨steps ++ [now.step World.perform client choice action], ?_, ?_⟩
      · simp only [Moment.next, grown, List.append_assoc]
      refine (length_perform choice action now.state).trans ?_
      rw [length, List.countP_append, Nat.add_assoc]
      congr 2
      rw [List.countP_singleton, createsAt, changeAt, Moment.step]
      cases action.change? (World.perform choice action now.state).1 with
      | none => rfl
      | some change => simp [List.countP_singleton]

def lostAt (step : ServiceStep) : Option Sink := step.action.lost? step.reply

def foundAt (step : ServiceStep) : Option Payment := step.action.found? step.reply

/-- A charge that finds a record: its own was refused as a duplicate. -/
def replaysAt (operations : List Operation) (step : ServiceStep) : Bool :=
  operations[step.client]?.any Operation.isCharge && (foundAt step).isSome

def servedOf (operations : List Operation) (pool : OperationPool) (client : Nat) : Option Served :=
  operations[client]?.bind fun operation =>
    ((pool.result? client).filter Answer.isGiven).map fun answer => ⟨operation, answer⟩

def servedIn (operations : List Operation) (pool : OperationPool) : List Served :=
  (List.range operations.length).filterMap (servedOf operations pool)

/-- A commit that the sink has missed: the operation that made it found the sink failing. -/
def missesAt (past : List ServiceStep) (sink : Sink) (step : ServiceStep) : Bool :=
  (lostIn (talkOf step.client past)).contains sink && (changeAt step).isSome

/-- The counters balance: every charge and every delivery is counted once, under what came of it,
and so is every commit that a sink has missed. An operation commits once at most, and tells every
sink of that commit once. Only one that was answered is counted; one that was not has broken down
over the delay before another attempt at the gateway. -/
structure Balanced (world : World) (operations : List Operation) (pool : OperationPool) : Prop where
  charges : pool.moment.state.metrics.processed + pool.moment.state.metrics.failures.total =
    (servedIn operations pool).countP (·.operation.isCharge)
  accepted : pool.moment.state.metrics.processed =
    pool.moment.past.countP createsAt + pool.moment.past.countP (replaysAt operations)
  created : pool.moment.state.store.payments.length =
    world.store.payments.length + pool.moment.past.countP createsAt
  deliveries : pool.moment.state.metrics.deliveries.total =
    (servedIn operations pool).countP (·.operation.isDelivery)
  labelled : ∀ label, pool.moment.state.metrics.deliveries.count label =
    (servedIn operations pool).countP (·.isLabelled label)
  missed : ∀ sink : Sink, pool.moment.state.metrics.sinkFailures.count sink.name =
    pool.moment.past.countP (missesAt pool.moment.past sink)
  once : ∀ client, (changesIn (talkOf client pool.moment.past)).length ≤ 1
  reported : ∀ client, Reported (originOf operations client) (talkOf client pool.moment.past)
  unanswered : ∀ client operation, operations[client]? = some operation →
    pool.result? client = some .nothing → ∃ policy, operation.policy? = some policy ∧
      OutOfRange policy (gatewayTalk (talkOf client pool.moment.past))

section

variable {world : World} {operations : List Operation} {turns : List (Nat × Circumstances)}

theorem countP_steps (past : List ServiceStep) {count : Nat}
    (known : ∀ step ∈ past, step.client < count) (holds : ServiceStep → Bool) :
    past.countP holds =
      ((List.range count).map fun client => (stepsOf client past).countP holds).sum := by
  rw [← (flatMap_stepsOf_perm known).countP_eq holds, List.countP_flatMap]
  rfl

theorem countP_servedIn (pool : OperationPool) (holds : Served → Bool) :
    (servedIn operations pool).countP holds =
      ((List.range operations.length).map fun client =>
        (servedOf operations pool client).toList.countP holds).sum := by
  rw [servedIn, List.filterMap_eq_flatMap_toList, List.countP_flatMap]
  rfl

theorem goal_of_done {goal : Operation → ServiceTalk → Answer → Prop}
    (keeps : ∀ operation, Keeps (fun _ _ => True) (goal operation) operation.workflow [])
    {client : Nat} {operation : Operation} {answer : Answer}
    (known : operations[client]? = some operation)
    (came : ((operationsOn world operations).run World.perform turns).result? client = some answer) :
    goal operation
      (talkOf client ((operationsOn world operations).run World.perform turns).moment.past)
      answer := by
  have kept := run_keeps (fun client operation (known : operations[client]? = some operation) =>
    (keeps operation).mono fun talk answer met =>
      (show ∀ other, operations[client]? = some other → goal other talk answer from fun other found =>
        Option.some.inj (known.symm.trans found) ▸ met)) world turns
  exact kept.talk_of_result? came operation known

theorem billed_of_client (rest : ((operationsOn world operations).run World.perform turns).AtRest)
    {client : Nat} {operation : Operation} (known : operations[client]? = some operation) :
    let pool := (operationsOn world operations).run World.perform turns
    servedOf operations pool client = none ∧ Idle operation (talkOf client pool.moment.past) ∨
      ∃ served, servedOf operations pool client = some served ∧
        Billed served (talkOf client pool.moment.past) := by
  intro pool
  have isClient : client < pool.clients.length := by
    rw [Pool.length_clients_run]
    simpa [operationsOn] using (List.getElem?_eq_some_iff.mp known).1
  cases came : pool.result? client with
  | none =>
      have silent := talkOf_others ((rest client isClient).resolve_left (by simp [pool, came]))
      exact .inl ⟨by simp [servedOf, came], silent ▸ .nil operation⟩
  | some answer =>
      have booked := goal_of_done Operation.booked known came
      unfold Booked at booked
      split at booked
      · rename_i given
        exact .inr ⟨⟨operation, answer⟩, by simp [servedOf, known, came, given], booked⟩
      · rename_i broken
        exact .inl ⟨by simp [servedOf, known, came, broken], booked⟩

theorem fits_of_served (rest : ((operationsOn world operations).run World.perform turns).AtRest)
    {served : Served} (member : served ∈
      servedIn operations ((operationsOn world operations).run World.perform turns)) :
    served.Fits := by
  obtain ⟨client, _, isServed⟩ := List.mem_filterMap.mp member
  obtain ⟨operation, known, _⟩ := Option.bind_eq_some_iff.mp isServed
  rcases billed_of_client rest known with ⟨none, _⟩ | ⟨other, isOther, billed⟩
  · cases none.symm.trans isServed
  · cases isOther.symm.trans isServed
    exact billed.fits

theorem countP_talkOf {β : Type} (client : Nat) (past : List ServiceStep)
    (heard? : Exchange Action.Reply → Option β) (holds : β → Bool) :
    (stepsOf client past).countP (fun step => (heard? step.exchange).any holds) =
      ((talkOf client past).filterMap heard?).countP holds := by
  rw [talkOf, List.filterMap_map, List.countP_filterMap]
  refine congrArg (List.countP · _) (funext fun step => ?_)
  rw [Function.comp_apply]
  cases heard? step.exchange <;> rfl

theorem countP_counted (rest : ((operationsOn world operations).run World.perform turns).AtRest)
    (holds : Counter → Bool) :
    let pool := (operationsOn world operations).run World.perform turns
    (pool.moment.past.filterMap counterAt).countP holds =
      pool.moment.past.countP (fun step => (lostAt step).any fun sink => holds (.ofSink sink)) +
        (servedIn operations pool).countP fun served => served.counter?.any holds := by
  intro pool
  have known := (past_of_run world operations turns).2
  have counters : (pool.moment.past.filterMap counterAt).countP holds =
      pool.moment.past.countP fun step => (counterAt step).any holds := by
    rw [List.countP_filterMap]
    refine congrArg (List.countP · _) (funext fun step => ?_)
    cases counterAt step <;> rfl
  rw [counters, countP_steps _ known, countP_steps _ known, countP_servedIn, ← List.sum_map_add]
  refine congrArg List.sum (List.map_congr_left fun client isClient => ?_)
  have counted : (stepsOf client pool.moment.past).countP _ = _ :=
    countP_talkOf client pool.moment.past (·.action.counter?) holds
  have lost : (stepsOf client pool.moment.past).countP _ = _ :=
    countP_talkOf client pool.moment.past (fun said => said.action.lost? said.reply)
      fun sink => holds (.ofSink sink)
  refine counted.trans (.trans ?_ (congrArg (· + _) lost.symm))
  change (countersIn _).countP holds = (lostIn _).countP _ + _
  rcases billed_of_client rest (List.getElem?_eq_getElem (List.mem_range.mp isClient)) with
    ⟨none, idle⟩ | ⟨served, some, billed⟩
  · rw [none, idle.counters, List.countP_map]
    rfl
  · rw [some, billed.counters, List.countP_append, List.countP_map]
    congr 1
    cases own : served.counter? <;> simp [own]

theorem countP_of_client {β : Type} (client : Nat) (past : List ServiceStep) (chosen : Nat → Bool)
    (heard? : Exchange Action.Reply → Option β) :
    (stepsOf client past).countP
        (fun step => chosen step.client && (heard? step.exchange).isSome) =
      if chosen client then ((talkOf client past).filterMap heard?).length else 0 := by
  have heard := countP_talkOf client past heard? fun _ => true
  rw [List.countP_true] at heard
  split
  · rename_i isChosen
    refine .trans (List.countP_congr fun step member => ?_) heard
    have own : step.client = client := by simpa using (List.mem_filter.mp member).2
    cases hears : heard? step.exchange <;> simp [own, isChosen]
  · rename_i other
    refine List.countP_eq_zero.mpr fun step member => ?_
    have own : step.client = client := by simpa using (List.mem_filter.mp member).2
    simp [own, other]

theorem countP_of_served (rest : ((operationsOn world operations).run World.perform turns).AtRest)
    {holds : Counter → Bool} (own : ∀ sink, holds (.ofSink sink) = false) :
    let pool := (operationsOn world operations).run World.perform turns
    (pool.moment.past.filterMap counterAt).countP holds =
      (servedIn operations pool).countP fun served => served.counter?.any holds := by
  intro pool
  have none : pool.moment.past.countP
      (fun step => (lostAt step).any fun sink => holds (.ofSink sink)) = 0 :=
    List.countP_eq_zero.mpr fun step _ => by simp [own]
  rw [countP_counted rest, none, Nat.zero_add]

theorem operation_of_served {pool : OperationPool} {client : Nat} {served : Served}
    (came : servedOf operations pool client = some served) :
    operations[client]? = some served.operation := by
  obtain ⟨operation, found, answered⟩ := Option.bind_eq_some_iff.mp came
  obtain ⟨answer, _, rfl⟩ := Option.map_eq_some_iff.mp answered
  exact found

theorem countP_accepted (rest : ((operationsOn world operations).run World.perform turns).AtRest) :
    let pool := (operationsOn world operations).run World.perform turns
    pool.moment.past.countP createsAt + pool.moment.past.countP (replaysAt operations) =
      (servedIn operations pool).countP fun served => served.counter?.any (· = .processed) := by
  intro pool
  have known := (past_of_run world operations turns).2
  rw [countP_steps _ known, countP_steps _ known, countP_servedIn, ← List.sum_map_add]
  refine congrArg List.sum (List.map_congr_left fun client isClient => ?_)
  have isOperation := List.getElem?_eq_getElem (List.mem_range.mp isClient)
  have created : (stepsOf client pool.moment.past).countP createsAt =
      (changesIn (talkOf client pool.moment.past)).countP Change.creates :=
    countP_talkOf client pool.moment.past (fun said => said.action.change? said.reply) _
  have replayed : (stepsOf client pool.moment.past).countP (replaysAt operations) =
      if operations[client]?.any Operation.isCharge then
        (foundIn (talkOf client pool.moment.past)).length else 0 :=
    countP_of_client client pool.moment.past
      (fun client => operations[client]?.any Operation.isCharge)
      fun said => said.action.found? said.reply
  rw [created, replayed]
  rcases billed_of_client rest isOperation with ⟨none, idle⟩ | ⟨served, came, billed⟩
  · rw [none, idle.changes, isOperation, Option.any_some]
    split
    · rename_i isCharge
      rw [idle.found isCharge]
      rfl
    · rfl
  · rw [came, operation_of_served came]
    refine billed.accepted.trans ?_
    cases own : served.counter? <;> simp [own]

end

section

variable {talk : ServiceTalk} {origin : Origin}

def sinkOf : LocalAction → Option Sink
  | .evict _ _ => some .cache
  | .append _ => some .audit
  | .index _ => some .search
  | .publish _ => some .bus
  | _ => none

theorem countP_reportsOf (sink : Sink) (changes : List Change) :
    (reportsOf origin changes).countP (sinkOf · = some sink) = changes.length := by
  induction changes with
  | nil => rfl
  | cons change changes ih =>
      rw [reportsOf, List.flatMap_cons, List.countP_append, ← reportsOf, ih]
      cases sink <;> exact Nat.add_comm 1 _

theorem count_lostIn (reported : Reported origin talk) (sink : Sink) :
    (lostIn talk).count sink ≤ (changesIn talk).length := by
  rw [← @countP_reportsOf origin sink, ← reported, requestsIn, List.countP_filterMap, lostIn,
    List.count_filterMap]
  refine List.countP_mono_left fun said _ lost => ?_
  obtain ⟨action, reply⟩ := said
  simp only [beq_iff_eq] at lost
  unfold Action.lost? at lost
  split at lost <;> cases lost <;> rfl

theorem count_lostIn_eq (reported : Reported origin talk) (once : (changesIn talk).length ≤ 1)
    (sink : Sink) :
    (lostIn talk).count sink =
      if (lostIn talk).contains sink then (changesIn talk).length else 0 := by
  have bound := count_lostIn reported sink
  split
  · rename_i lost
    have some := List.count_pos_iff.mpr (List.contains_iff_mem.mp lost)
    omega
  · rename_i kept
    exact List.count_eq_zero.mpr fun member => kept (List.contains_iff_mem.mpr member)

theorem ofSink_inj {sink other : Sink} :
    Counter.ofSink sink = .sinkFailure other.name ↔ sink = other := by
  cases sink <;> cases other <;> decide

end

section

variable {world : World} {operations : List Operation} {turns : List (Nat × Circumstances)}

theorem commits_once (rest : ((operationsOn world operations).run World.perform turns).AtRest)
    (client : Nat) :
    (changesIn (talkOf client
      ((operationsOn world operations).run World.perform turns).moment.past)).length ≤ 1 := by
  by_cases known : client < operations.length
  · rcases billed_of_client rest (List.getElem?_eq_getElem known) with
      ⟨_, idle⟩ | ⟨served, _, billed⟩
    · rw [idle.changes]
      exact Nat.zero_le 1
    · exact billed.once
  · rw [talkOf_others fun step member => ?_]
    · exact Nat.zero_le 1
    · have bound := (past_of_run world operations turns).2 step member
      omega

theorem countP_missesAt (rest : ((operationsOn world operations).run World.perform turns).AtRest)
    (sink : Sink) :
    let past := ((operationsOn world operations).run World.perform turns).moment.past
    past.countP (fun step => (lostAt step).any (· = sink)) = past.countP (missesAt past sink) := by
  intro past
  have known := (past_of_run world operations turns).2
  rw [countP_steps _ known, countP_steps _ known]
  refine congrArg List.sum (List.map_congr_left fun client _ => ?_)
  have lost : (stepsOf client past).countP (fun step => (lostAt step).any (· = sink)) =
      (lostIn (talkOf client past)).countP (· = sink) :=
    countP_talkOf client past (fun said => said.action.lost? said.reply) _
  have missed : (stepsOf client past).countP (missesAt past sink) =
      if (lostIn (talkOf client past)).contains sink then (changesIn (talkOf client past)).length
      else 0 :=
    countP_of_client client past (fun client => (lostIn (talkOf client past)).contains sink)
      fun said => said.action.change? said.reply
  rw [lost, missed, ← count_lostIn_eq (reported_of_atRest rest client) (commits_once rest client)]
  exact List.countP_congr fun other _ => by simp

/-- Once every operation is done or has not begun, the counters of a service that was just started
balance, whatever its gateway answers and whichever of its sinks fail. -/
theorem counters_balance (world : World) (operations : List Operation)
    (turns : List (Nat × Circumstances))
    (rest : ((operationsOn world.uncounted operations).run World.perform turns).AtRest) :
    Balanced world operations
      ((operationsOn world.uncounted operations).run World.perform turns) := by
  let pool := (operationsOn world.uncounted operations).run World.perform turns
  have reached : Leads World.perform _ _ _ pool.moment :=
    (operationsOn world.uncounted operations).run_leads turns
  obtain ⟨steps, grown, tallies⟩ := tallies_of_leads reached rfl
  have whole : pool.moment.past = steps := grown
  rw [← whole] at tallies
  obtain ⟨steps', grown', length⟩ := length_of_leads reached
  have whole' : pool.moment.past = steps' := grown'
  rw [← whole'] at length
  refine ⟨?_, ?_, length, ?_, ?_, ?_, commits_once rest, reported_of_atRest rest,
    fun client operation known came => goal_of_done Operation.excused known came rfl⟩
  · rw [tallies.charged, countP_of_served rest fun _ => rfl]
    exact List.countP_congr fun served member => by rw [(fits_of_served rest member).charge]
  · rw [tallies.processed, List.count_eq_countP, countP_of_served rest fun _ => rfl,
      countP_accepted rest]
    rfl
  · rw [tallies.delivered, countP_of_served rest fun _ => rfl]
    exact List.countP_congr fun served member => by rw [(fits_of_served rest member).delivery]
  · intro label
    rw [tallies.labelled, List.count_eq_countP, countP_of_served rest fun _ => rfl]
    exact List.countP_congr fun served member => by rw [(fits_of_served rest member).label]; rfl
  · intro sink
    have unserved : (servedIn operations pool).countP
        (fun served => served.counter?.any (· == .sinkFailure sink.name)) = 0 :=
      List.countP_eq_zero.mpr fun served _ => by
        simpa [Option.any_eq_true] using served.counter?_ne_sinkFailure sink.name
    rw [tallies.lost, List.count_eq_countP, countP_counted rest, unserved, ← countP_missesAt rest]
    refine List.countP_congr fun step _ => ?_
    cases lostAt step with
    | none => rfl
    | some lost => simp [ofSink_inj]

end

def brokenBus : Circumstances :=
  { cooperative with outages := fun
      | .bus => some (.unavailable "down")
      | _ => none }

/-- A charge, the same one again, its confirmation, and a delivery that nobody signed. -/
def day : List Operation :=
  [ .charge shop shopping ⟨.system, none⟩, .charge shop shopping ⟨.system, none⟩
  , .confirm shop (cardCharge .processing).reference ⟨.system, none⟩
  , .deliver { endpoint := ⟨"secret", 300⟩ } ⟨[], none, none⟩ ]

def quietDay : OperationPool :=
  (operationsOn (World.uncounted {}) day).run World.perform
    ((List.range 4).flatMap fun client => List.replicate 12 (client, brokenBus))

theorem quietDay_atRest : quietDay.AtRest := by
  intro client bound
  match client with
  | 0 => exact .inl (by decide +kernel)
  | 1 => exact .inl (by decide +kernel)
  | 2 => exact .inl (by decide +kernel)
  | 3 => exact .inl (by decide +kernel)
  | client + 4 =>
      exact absurd bound (by simp [quietDay, Pool.length_clients_run, operationsOn, day])

theorem counters_balance_quietDay :
    quietDay.AtRest ∧ Balanced {} day quietDay ∧
      quietDay.moment.state.metrics.processed = 2 ∧
      quietDay.moment.state.store.payments.length = 1 ∧
      quietDay.moment.state.metrics.deliveries.count "invalid_signature" = 1 ∧
      quietDay.moment.state.metrics.sinkFailures.count "bus" = 2 :=
  ⟨quietDay_atRest, counters_balance {} day _ quietDay_atRest, by decide +kernel,
    by decide +kernel, by decide +kernel, by decide +kernel⟩

end Interleaving

end Payments
