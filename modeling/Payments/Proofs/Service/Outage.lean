import Payments.Proofs.Service.Session

/-!
Two runs of the same operations with the same supply: one while some sinks are down all the time, one
while none is. The two sessions stay alike in everything but those sinks. What the second one has in
its cache is what is stored, except for a change that is not reported yet, so a look-up answers the
same from the cache as from the store.
-/

namespace Payments

namespace World

theorem perform_plain {action : Action} (plain : action.plain = true)
    (circumstances other : Circumstances) (stamp : circumstances.stamp = other.stamp)
    (gateway : circumstances.gateway = other.gateway) {world beside : World}
    (store : world.store = beside.store) :
    (World.perform circumstances action world).1 = (World.perform other action beside).1 ∧
    (World.perform circumstances action world).2.store =
      (World.perform other action beside).2.store := by
  cases action with
  | gateway action => exact ⟨congrFun gateway action, store⟩
  | here action =>
      cases action with
      | store action =>
          simp only [World.perform, World.act, stamp, store, and_self]
      | fresh => exact ⟨congrArg Stamp.id stamp, store⟩
      | time => exact ⟨congrArg (fun stamp : Stamp => Int64.ofInt stamp.now.seconds) stamp, store⟩
      | count counter => exact ⟨rfl, store⟩
      | _ => cases plain

theorem perform_spares {action : Action} (plain : action.plain = true)
    (circumstances : Circumstances) (world : World) :
    let after := (World.perform circumstances action world).2
    after.cache = world.cache ∧ after.audit = world.audit ∧ after.index = world.index ∧
      after.published = world.published ∧
      after.metrics.sinkFailures = world.metrics.sinkFailures := by
  cases action with
  | gateway action => exact ⟨rfl, rfl, rfl, rfl, rfl⟩
  | here action =>
      cases action with
      | count counter =>
          cases counter with
          | sinkFailure sink => cases plain
          | _ => exact ⟨rfl, rfl, rfl, rfl, rfl⟩
      | store action => exact ⟨rfl, rfl, rfl, rfl, rfl⟩
      | fresh => exact ⟨rfl, rfl, rfl, rfl, rfl⟩
      | time => exact ⟨rfl, rfl, rfl, rfl, rfl⟩
      | _ => cases plain

end World

namespace Interleaving

/-- A session with sinks that are down beside one without, with these changes not reported yet. -/
structure Alike (breakdown : Breakdown) (owed : List Change) (hampered smooth : Session) :
    Prop where
  ahead : hampered.ahead = smooth.ahead
  store : hampered.world.store = smooth.world.store
  cache : breakdown.down .cache = false → hampered.world.cache = smooth.world.cache
  audit : breakdown.down .audit = false → hampered.world.audit = smooth.world.audit
  index : breakdown.down .search = false → hampered.world.index = smooth.world.index
  published : breakdown.down .bus = false → hampered.world.published = smooth.world.published
  failures : ∀ sink, hampered.failures sink + (if breakdown.down sink then owed.length else 0) =
    if breakdown.down sink then (changesIn hampered.talk).length else 0
  fresh : ∀ reference payment, smooth.world.cache.get? reference = some payment →
    (∃ change ∈ owed, change.current.reference = reference) ∨
      smooth.world.store.find? reference = some payment

/-- In sessions that are alike the workflow comes to the same, and leaves sessions that are alike. -/
def Indifferent {α : Type} (breakdown : Breakdown) (owed : List Change)
    (workflow : ServiceWorkflow α) (owes : α → List Change) : Prop :=
  ∀ hampered smooth, Alike breakdown owed hampered smooth →
    (hampered.carry breakdown workflow).1 = (smooth.carry .none workflow).1 ∧
    Alike breakdown (owes (hampered.carry breakdown workflow).1)
      (hampered.carry breakdown workflow).2 (smooth.carry .none workflow).2

section

variable {breakdown : Breakdown} {owed : List Change} {hampered smooth : Session} {α β : Type}

theorem Alike.plain {action : Action} (alike : Alike breakdown owed hampered smooth)
    (plain : action.plain = true) :
    hampered.reply breakdown action = smooth.reply .none action ∧
    Alike breakdown (owed ++ (action.change? (hampered.reply breakdown action)).toList)
      (hampered.next breakdown action) (smooth.next .none action) := by
  have reading : hampered.ahead 0 = smooth.ahead 0 := congrFun alike.ahead 0
  obtain ⟨replied, stored⟩ := World.perform_plain plain (hampered.circumstances breakdown)
    (smooth.circumstances .none) (congrArg Reading.stamp reading)
    (congrArg Reading.gateway reading) alike.store
  have replied : hampered.reply breakdown action = smooth.reply .none action := replied
  obtain ⟨cache, audit, index, published, counted⟩ :=
    World.perform_spares plain (hampered.circumstances breakdown) hampered.world
  obtain ⟨cache', audit', index', published', _⟩ :=
    World.perform_spares plain (smooth.circumstances .none) smooth.world
  refine ⟨replied, ?_, stored, ?_, ?_, ?_, ?_, ?_, ?_⟩
  · simp only [Session.next, alike.ahead]
  · exact fun up => cache.trans ((alike.cache up).trans cache'.symm)
  · exact fun up => audit.trans ((alike.audit up).trans audit'.symm)
  · exact fun up => index.trans ((alike.index up).trans index'.symm)
  · exact fun up => published.trans ((alike.published up).trans published'.symm)
  · intro sink
    have before := alike.failures sink
    have same : (hampered.next breakdown action).failures sink = hampered.failures sink :=
      congrArg (·.count sink.name) counted
    rw [same, Session.changesIn_next, List.length_append, List.length_append]
    split
    · rename_i down
      simp only [down, if_true] at before
      omega
    · rename_i up
      simp only [up] at before ⊢
      exact before
  · intro reference payment held
    have commit := smooth.commit_next .none action
    rw [replied]
    rcases alike.fresh reference payment ((congrArg (·.get? reference) cache').symm.trans held) with
      ⟨change, member, own⟩ | current
    · exact .inl ⟨change, List.mem_append_left _ member, own⟩
    · cases changed : action.change? (smooth.reply .none action) with
      | none =>
          rw [changed] at commit
          exact .inr (commit.eq_of_none ▸ current)
      | some change =>
          rw [changed] at commit
          by_cases own : change.current.reference = reference
          · exact .inl ⟨change, List.mem_append_right _ List.mem_cons_self, own⟩
          · refine .inr ((commit.find? reference).trans ?_)
            rw [if_neg own, current]

theorem Indifferent.done {result : α} {owes : α → List Change} (settled : owes result = owed) :
    Indifferent breakdown owed (.done result) owes :=
  fun _ _ alike => ⟨rfl, settled ▸ alike⟩

theorem Indifferent.ask {action : Action} {next : action.Reply → ServiceWorkflow α}
    {owes : α → List Change} (plain : action.plain = true)
    (onward : ∀ reply, Indifferent breakdown (owed ++ (action.change? reply).toList) (next reply)
      owes) :
    Indifferent breakdown owed (.ask action next) owes := by
  intro hampered smooth alike
  obtain ⟨replied, still⟩ := alike.plain plain
  rw [Session.carry_ask, Session.carry_ask, ← replied]
  exact onward _ _ _ still

theorem Indifferent.bind {workflow : ServiceWorkflow β} {next : β → ServiceWorkflow α}
    {owing : β → List Change} {owes : α → List Change}
    (first : Indifferent breakdown owed workflow owing)
    (onward : ∀ result, Indifferent breakdown (owing result) (next result) owes) :
    Indifferent breakdown owed (workflow.bind next) owes := by
  intro hampered smooth alike
  obtain ⟨same, still⟩ := first hampered smooth alike
  rw [Session.carry_bind, Session.carry_bind, ← same]
  exact onward _ _ _ still

theorem Indifferent.locally {action : LocalAction} {next : action.Reply → ServiceWorkflow α}
    {owes : α → List Change} (plain : (Action.here action).plain = true)
    (onward : ∀ reply, Indifferent breakdown
      (owed ++ ((Action.here action).change? reply).toList) (next reply) owes) :
    Indifferent breakdown owed ((ServiceWorkflow.locally action).bind next) owes :=
  .ask plain onward

def Plain {α : Type} (workflow : ServiceWorkflow α) : Prop :=
  Asks (fun action => action.plain = true) workflow

theorem plain_ofGateway (workflow : Gateway.GatewayWorkflow α) :
    Plain (ServiceWorkflow.ofGateway workflow) := asks_ofGateway (fun _ => rfl) workflow

theorem plain_ofStore (workflow : StoreWorkflow α) : Plain (ServiceWorkflow.ofStore workflow) :=
  asks_ofStore (fun _ _ => rfl) (asks_any workflow)

theorem Plain.alike {workflow : ServiceWorkflow α} (plain : Plain workflow)
    (alike : Alike breakdown owed hampered smooth) :
    ∃ more, changesIn (hampered.carry breakdown workflow).2.talk =
        changesIn hampered.talk ++ more ∧
      (hampered.carry breakdown workflow).1 = (smooth.carry .none workflow).1 ∧
      Alike breakdown (owed ++ more) (hampered.carry breakdown workflow).2
        (smooth.carry .none workflow).2 := by
  induction workflow generalizing owed hampered smooth with
  | done result => exact ⟨[], by simpa using alike⟩
  | ask action next ih =>
      obtain ⟨replied, still⟩ := alike.plain plain.1
      obtain ⟨more, made, same, ended⟩ := ih _ (plain.2 _) still
      rw [Session.changesIn_next, List.append_assoc] at made
      rw [List.append_assoc] at ended
      rw [Session.carry_ask, Session.carry_ask, ← replied]
      exact ⟨_, made, same, ended⟩

theorem Plain.indifferent {may : ServiceTalk → Action → Prop} {owes : α → List Change}
    {workflow : ServiceWorkflow α} (plain : Plain workflow)
    (keeps : ∀ talk, Keeps may (fun later result => changesIn later = changesIn talk ++ owes result)
      workflow talk) :
    Indifferent breakdown owed workflow fun result => owed ++ owes result := by
  intro hampered smooth alike
  obtain ⟨more, made, same, ended⟩ := plain.alike alike
  have promised := Session.keeps_carry breakdown (keeps hampered.talk)
  rw [List.append_cancel_left (made.symm.trans promised)] at ended
  exact ⟨same, ended⟩

theorem indifferent_ofGateway (workflow : Gateway.GatewayWorkflow α) :
    Indifferent breakdown owed (ServiceWorkflow.ofGateway workflow) fun _ => owed := by
  have keeps : ∀ talk, Keeps (mayReport ⟨.system, none⟩)
      (fun later _ => changesIn later = changesIn talk ++ []) (ServiceWorkflow.ofGateway workflow)
      talk := by
    intro talk
    refine keeps_ofGateway workflow ⟨rfl, rfl⟩ fun later _ told => ?_
    rw [told.changes, List.append_nil]
  simpa only [List.append_nil] using (plain_ofGateway workflow).indifferent keeps

theorem indifferent_settle (reference : Reference) (update : StatusUpdate) (attempts : Nat) :
    Indifferent breakdown [] (ServiceWorkflow.ofStore (Settlement.settle reference update attempts))
      settledChange := by
  have keeps : ∀ talk, Keeps (mayReport ⟨.system, none⟩)
      (fun later settled => changesIn later = changesIn talk ++ settledChange settled)
      (ServiceWorkflow.ofStore (Settlement.settle reference update attempts)) talk :=
    fun _ => keeps_settle attempts ⟨rfl, rfl⟩ fun _ _ told => told.changes
  exact (plain_ofStore _).indifferent keeps

theorem indifferent_fanOut (change : Change) (origin : Origin) :
    Indifferent breakdown [change] (fanOut (change.report origin)) fun _ => [] := by
  intro hampered smooth alike
  have heard := hampered.heard_fanOut breakdown (change.report origin)
  have heard' := smooth.heard_fanOut .none (change.report origin)
  refine ⟨rfl, ?_, ?_, ?_, ?_, ?_, ?_, ?_, ?_⟩
  · rw [heard.ahead, heard'.ahead, alike.ahead]
  · exact heard.world.store.trans (alike.store.trans heard'.world.store.symm)
  · intro up
    rw [heard.world.cache, heard'.world.cache]
    simp [World.hear, Breakdown.none, up, alike.cache up]
  · intro up
    rw [heard.world.audit, heard'.world.audit]
    simp [World.hear, Breakdown.none, up, alike.audit up, alike.ahead]
  · intro up
    rw [heard.world.index, heard'.world.index]
    simp [World.hear, Breakdown.none, up, alike.index up]
  · intro up
    rw [heard.world.published, heard'.world.published]
    simp [World.hear, Breakdown.none, up, alike.published up]
  · intro sink
    have before := alike.failures sink
    rw [heard.failures, heard.changes, ← before]
    simp
  · intro reference payment held
    have evicted : (smooth.carry .none (fanOut (change.report origin))).2.world.cache =
      smooth.world.cache.evict change.current.reference change.current.version := heard'.world.cache
    rw [evicted] at held
    by_cases own : reference = change.current.reference
    · subst own
      rw [Cache.get?_evict_self] at held
      cases held
    · rw [Cache.get?_evict_of_ne own] at held
      rcases alike.fresh reference payment held with ⟨other, member, isOther⟩ | current
      · rw [List.mem_singleton.mp member] at isOther
        exact absurd isOther.symm own
      · exact .inr ((congrArg (·.find? reference) heard'.world.store).trans current)

theorem Alike.idle {hampered' smooth' : Session} (alike : Alike breakdown owed hampered smooth)
    (first : hampered.Idle hampered') (second : smooth.Idle smooth') :
    Alike breakdown owed hampered' smooth' := by
  refine ⟨?_, ?_, ?_, ?_, ?_, ?_, ?_, ?_⟩
  · rw [first.ahead, second.ahead, alike.ahead]
  · rw [first.world, second.world, alike.store]
  · simpa only [first.world, second.world] using alike.cache
  · simpa only [first.world, second.world] using alike.audit
  · simpa only [first.world, second.world] using alike.index
  · simpa only [first.world, second.world] using alike.published
  · simpa only [Session.failures, first.world, first.changes] using alike.failures
  · simpa only [second.world] using alike.fresh

theorem Alike.fill {payment : Payment} (alike : Alike breakdown owed hampered smooth)
    (stored : smooth.world.store.find? payment.reference = some payment) :
    Alike breakdown owed (hampered.next breakdown (.here (.fill payment)))
      (smooth.next .none (.here (.fill payment))) := by
  have filled : (smooth.next .none (.here (.fill payment))).world =
      { smooth.world with cache := smooth.world.cache.put payment } := Session.world_fill payment
  have changes : changesIn (hampered.next breakdown (.here (.fill payment))).talk =
      changesIn hampered.talk := (Session.changesIn_next _).trans (List.append_nil _)
  refine ⟨alike.ahead, ?_, ?_, ?_, ?_, ?_, ?_, ?_⟩
  · rw [filled, Session.world_fill, apply_ite World.store, ite_self]
    exact alike.store
  · intro up
    rw [filled, Session.world_fill, up, if_neg Bool.false_ne_true, alike.cache up]
  · intro up
    rw [filled, Session.world_fill, apply_ite World.audit, ite_self]
    exact alike.audit up
  · intro up
    rw [filled, Session.world_fill, apply_ite World.index, ite_self]
    exact alike.index up
  · intro up
    rw [filled, Session.world_fill, apply_ite World.published, ite_self]
    exact alike.published up
  · intro sink
    rw [changes, Session.failures, Session.world_fill, apply_ite World.metrics, ite_self]
    exact alike.failures sink
  · intro reference other held
    rw [filled] at held ⊢
    rcases (Cache.Change.fill payment).cached (Cache.slot?_of_get? held) with old | ⟨new, own⟩
    · refine alike.fresh reference other ?_
      rw [Cache.get?, old]
      rfl
    · cases new
      exact .inr (own ▸ stored)

theorem lookUpStored_alike (reference : Reference) (alike : Alike breakdown owed hampered smooth) :
    (hampered.carry breakdown (lookUpStored reference)).1 =
        (smooth.carry .none (lookUpStored reference)).1 ∧
      Alike breakdown owed (hampered.carry breakdown (lookUpStored reference)).2
        (smooth.carry .none (lookUpStored reference)).2 := by
  have read := alike.idle (hampered.idle_find breakdown reference)
    (smooth.idle_find .none reference)
  cases stored : smooth.world.store.find? reference with
  | none =>
      rw [Session.carry_lookUpStored_absent (alike.store ▸ stored),
        Session.carry_lookUpStored_absent stored]
      exact ⟨rfl, read⟩
  | some payment =>
      rw [Session.carry_lookUpStored (alike.store ▸ stored), Session.carry_lookUpStored stored]
      exact ⟨rfl, read.fill (Store.find?_reference stored ▸ stored)⟩

theorem indifferent_lookUp (reference : Reference) :
    Indifferent breakdown [] (lookUp reference) fun _ => [] := by
  intro hampered smooth alike
  have asked := alike.idle (hampered.idle_cached breakdown reference)
    (smooth.idle_cached .none reference)
  rw [lookUp_eq]
  simp only [Session.carry_ask, Session.reply_cached]
  cases held : smooth.world.cache.get? reference with
  | none =>
      have missed := lookUpStored_alike reference asked
      cases down : breakdown.down .cache with
      | true => simpa [Breakdown.none, down] using missed
      | false => simpa [Breakdown.none, down, alike.cache down, held] using missed
  | some payment =>
      cases down : breakdown.down .cache with
      | true =>
          have current := (alike.fresh reference payment held).resolve_left (by simp)
          have found : (hampered.next breakdown (.here (.cached reference))).world.store.find?
              reference = some payment := by
            rw [(hampered.idle_cached breakdown reference).world, alike.store, current]
          have ended := asked.idle (Session.idle_lookUpStored down found) .refl
          rw [Session.carry_lookUpStored found] at ended
          simpa [Breakdown.none, down, Session.carry_lookUpStored found] using ended
      | false => simpa [Breakdown.none, down, alike.cache down, held] using asked

theorem indifferent_putOnRecord (charge : ValidCharge) (result : Gateway.ChargeResult)
    (origin : Origin) : Indifferent breakdown [] (putOnRecord charge result origin) fun _ => [] := by
  refine .ask rfl ?_
  rintro (error | payment)
  · cases error with
    | duplicate reference =>
        refine .ask rfl ?_
        rintro (error | found)
        · exact .done rfl
        · cases found <;> exact .done rfl
    | _ => exact .done rfl
  · exact (indifferent_fanOut ⟨none, payment⟩ origin).bind fun _ => .done rfl

theorem indifferent_charge (service : PaymentService) (request : ChargeRequest) (origin : Origin) :
    Indifferent breakdown [] (service.charge request origin) fun _ => [] := by
  unfold PaymentService.charge
  split
  · exact .done rfl
  · refine .ask rfl fun id => (indifferent_ofGateway _).bind fun answer => ?_
    rcases answer with _ | error | result
    · exact .done rfl
    · exact .done rfl
    · exact (indifferent_putOnRecord _ result origin).bind fun _ => .done rfl

theorem indifferent_process (service : PaymentService) (request : ChargeRequest) (origin : Origin) :
    Indifferent breakdown [] (service.process request origin) fun _ => [] := by
  refine (indifferent_charge service request origin).bind fun result => ?_
  rcases result with _ | error | receipt
  · exact .done rfl
  · exact .ask rfl fun _ => .done rfl
  · exact .ask rfl fun _ => .done rfl

theorem indifferent_follow (service : PaymentService) (reference : Reference)
    (result : Gateway.ChargeResult) (origin : Origin) :
    Indifferent breakdown [] (service.follow reference result origin) fun _ => [] := by
  refine (indifferent_settle reference _ _).bind fun settled => ?_
  cases settled with
  | error error => exact .done rfl
  | ok settled =>
      cases settled with
      | applied previous payment =>
          exact (indifferent_fanOut ⟨some previous, payment⟩ origin).bind fun _ => .done rfl
      | _ => exact .done rfl

theorem indifferent_confirm (service : PaymentService) (reference : Reference) (origin : Origin) :
    Indifferent breakdown [] (service.confirm reference origin) fun _ => [] := by
  refine .ask rfl ?_
  rintro (error | found)
  · exact .done rfl
  cases found with
  | none => exact .done rfl
  | some payment =>
      refine (indifferent_ofGateway _).bind fun answer => ?_
      rcases answer with _ | error | result
      · exact .done rfl
      · exact .done rfl
      · exact (indifferent_follow service reference result origin).bind fun _ => .done rfl

theorem indifferent_handle (receiver : Webhook.Receiver) (delivery : Webhook.Delivery) :
    Indifferent breakdown [] (Webhook.handle receiver delivery) fun _ => [] := by
  have reconciled : Indifferent breakdown [] (Webhook.reconcile receiver delivery) fun _ => [] := by
    refine .locally rfl fun now => ?_
    split
    · exact .done rfl
    · split
      · exact .done rfl
      · refine (indifferent_settle _ _ _).bind fun settled => ?_
        cases settled with
        | error error => exact .done rfl
        | ok settled =>
            cases settled with
            | applied previous payment =>
                exact (indifferent_fanOut ⟨some previous, payment⟩ _).bind fun _ => .done rfl
            | _ => exact .done rfl
  exact reconciled.bind fun result => .ask rfl fun _ => .done rfl

theorem indifferent_operation (operation : Operation) :
    Indifferent breakdown [] operation.workflow fun _ => [] := by
  cases operation with
  | charge service request origin =>
      exact (indifferent_process service request origin).bind fun _ => .done rfl
  | confirm service reference origin =>
      exact (indifferent_confirm service reference origin).bind fun _ => .done rfl
  | lookUp reference => exact (indifferent_lookUp reference).bind fun _ => .done rfl
  | deliver receiver delivery =>
      exact (indifferent_handle receiver delivery).bind fun _ => .done rfl

theorem serve_alike (operations : List Operation) (alike : Alike breakdown [] hampered smooth) :
    (hampered.serve breakdown operations).1 = (smooth.serve .none operations).1 ∧
    Alike breakdown [] (hampered.serve breakdown operations).2
      (smooth.serve .none operations).2 := by
  induction operations generalizing hampered smooth with
  | nil => exact ⟨rfl, alike⟩
  | cons operation operations ih =>
      obtain ⟨answered, still⟩ := indifferent_operation operation hampered smooth alike
      obtain ⟨rest, ended⟩ := ih still
      refine ⟨?_, ended⟩
      simp only [Session.serve, answered, still.store, rest]

/-- Sinks that are down all the time are invisible: with the same supply, every operation answers the
same as while no sink is down, and leaves the same store; the other sinks hold the same; and a sink
that is down is counted once for each commit, the others never. -/
theorem outages_invisible (breakdown : Breakdown) (operations : List Operation)
    (ahead : Nat → Reading) :
    let hampered := Session.serve breakdown operations { ahead }
    let smooth := Session.serve .none operations { ahead }
    hampered.1 = smooth.1 ∧
    (breakdown.down .cache = false → hampered.2.world.cache = smooth.2.world.cache) ∧
    (breakdown.down .audit = false → hampered.2.world.audit = smooth.2.world.audit) ∧
    (breakdown.down .search = false → hampered.2.world.index = smooth.2.world.index) ∧
    (breakdown.down .bus = false → hampered.2.world.published = smooth.2.world.published) ∧
    ∀ sink, hampered.2.world.metrics.sinkFailures.count sink.name =
      if breakdown.down sink then (changesIn hampered.2.talk).length else 0 := by
  intro hampered smooth
  have start : Alike breakdown [] { ahead } { ahead } := by
    refine ⟨rfl, rfl, fun _ => rfl, fun _ => rfl, fun _ => rfl, fun _ => rfl, ?_, ?_⟩
    · intro sink
      cases down : breakdown.down sink <;> simp [Session.failures, Series.count, changesIn]
    · intro reference payment held
      cases held
  obtain ⟨answered, alike⟩ := serve_alike operations start
  refine ⟨answered, alike.cache, alike.audit, alike.index, alike.published, fun sink => ?_⟩
  have counted := alike.failures sink
  simpa [Session.failures] using counted

end

def everySinkDown : Breakdown := ⟨fun _ => true, fun _ _ => .unavailable "maintenance"⟩

def visit : List Operation :=
  [ .charge shop shopping ⟨.system, none⟩
  , .lookUp (cardCharge .processing).reference
  , .confirm shop (cardCharge .processing).reference ⟨.system, none⟩
  , .lookUp (cardCharge .processing).reference ]

def steadySupply : Nat → Reading := fun _ => ⟨default, cooperative.gateway⟩

theorem outages_invisible_visit :
    (Session.serve everySinkDown visit { ahead := steadySupply }).1 =
      (Session.serve .none visit { ahead := steadySupply }).1 ∧
    ∀ sink : Sink,
      (Session.serve everySinkDown visit { ahead := steadySupply }).2.world.metrics.sinkFailures.count
        sink.name = 2 := by
  obtain ⟨answered, _, _, _, _, counted⟩ := outages_invisible everySinkDown visit steadySupply
  have commits : (changesIn
      (Session.serve everySinkDown visit { ahead := steadySupply }).2.talk).length = 2 := by
    decide +kernel
  have down : ∀ sink, everySinkDown.down sink = true := fun _ => rfl
  refine ⟨answered, fun sink => ?_⟩
  rw [counted sink, if_pos (down sink), commits]

end Interleaving

end Payments
