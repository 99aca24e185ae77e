import Payments.Proofs.Gateway.Attempts
import Payments.Proofs.Interleaving.Alone
import Payments.Proofs.Search.Upsert
import Payments.Proofs.Service.Run

/-!
What the parts of an operation come to when nobody else is at work: a settlement, and the fan-out
after a commit. The search index is never ahead of the store, so the document of a version that was
just committed always takes its place there.
-/

namespace Payments

namespace World

/-- Nothing but the counters has changed. -/
structure Untouched (before after : World) : Prop where
  store : after.store = before.store
  cache : after.cache = before.cache
  audit : after.audit = before.audit
  index : after.index = before.index
  published : after.published = before.published

/-- The sinks have heard of one change and of nothing else. -/
structure Announced (before after : World) (change : Change) (origin : Origin) : Prop where
  entry : ∃ entry, after.audit.entries = before.audit.entries ++ [entry] ∧
    entry.reference = change.current.reference.text ∧ entry.eventType = change.eventType ∧
    entry.previousStatus = change.previous.map (·.status) ∧
    entry.newStatus = change.current.status ∧
    entry.actor = origin.actor.text ∧ entry.sourceIp = origin.sourceIp
  event : ∃ event, after.published = before.published ++ [event] ∧
    event.reference = change.current.reference.text ∧ event.eventType = change.eventType ∧
    event.previousStatus = change.previous.map (·.status) ∧ event.status = change.current.status
  evicted : after.cache.get? change.current.reference = none
  cached : ∀ reference, reference ≠ change.current.reference →
    after.cache.get? reference = before.cache.get? reference
  document : after.index.find? change.current.reference.text = some (.ofPayment change.current)
  documents : ∀ text, text ≠ change.current.reference.text →
    after.index.find? text = before.index.find? text

def tell (world : World) (commit : Commit) (stamp : Stamp) : World :=
  { world with
    cache := world.cache.evict commit.payment.reference commit.payment.version
    audit := world.audit.append (commit.auditEntry stamp)
    index := world.index.upsert commit.document
    published := world.published ++ [commit.event] }

/-- No document is newer than the record that it is about. -/
def IndexFollows (world : World) : Prop :=
  ∀ document ∈ world.index.documents, ∃ reference current,
    world.store.find? reference = some current ∧ document.reference = reference.text ∧
      document.version ≤ current.version

theorem Untouched.refl (world : World) : world.Untouched world := ⟨rfl, rfl, rfl, rfl, rfl⟩

theorem Untouched.trans {before middle after : World} (first : before.Untouched middle)
    (second : middle.Untouched after) : before.Untouched after where
  store := second.store.trans first.store
  cache := second.cache.trans first.cache
  audit := second.audit.trans first.audit
  index := second.index.trans first.index
  published := second.published.trans first.published

theorem Announced.untouched {before middle after : World} {change : Change} {origin : Origin}
    (announced : before.Announced middle change origin) (untouched : middle.Untouched after) :
    before.Announced after change origin where
  entry := by simpa only [untouched.audit] using announced.entry
  event := by simpa only [untouched.published] using announced.event
  evicted := by simpa only [untouched.cache] using announced.evicted
  cached := by simpa only [untouched.cache] using announced.cached
  document := by simpa only [untouched.index] using announced.document
  documents := by simpa only [untouched.index] using announced.documents

theorem IndexFollows.newer {world : World} {reference : Reference} {version : Int}
    (follows : world.IndexFollows)
    (above : ∀ current, world.store.find? reference = some current → current.version < version) :
    ∀ document, world.index.find? reference.text = some document → document.version < version := by
  intro document held
  obtain ⟨other, current, found, isOther, bound⟩ :=
    follows document (List.mem_of_find?_eq_some held)
  rw [SearchIndex.find?_reference held, Reference.text_inj] at isOther
  subst isOther
  exact Int.lt_of_le_of_lt bound (above current found)

theorem announced_tell {world : World} {change : Change} (store : Store) (origin : Origin)
    (stamp : Stamp)
    (newer : ∀ document, world.index.find? change.current.reference.text = some document →
      document.version < change.current.version) :
    world.Announced ({ world with store }.tell (change.report origin) stamp) change origin where
  entry := ⟨_, rfl, rfl, rfl, rfl, rfl, rfl, rfl⟩
  event := ⟨_, rfl, rfl, rfl, rfl, rfl⟩
  evicted := Cache.get?_evict_self _ _ _
  cached := fun _ different => Cache.get?_evict_of_ne different
  document := SearchIndex.find?_upsert_newer newer
  documents := fun _ different => SearchIndex.find?_upsert_of_ne different

end World

namespace Interleaving

abbrev ServiceCourse := Course Action.Reply Circumstances World

def Course.Healthy (course : ServiceCourse) : Prop :=
  ∀ n, (course.ahead n).outages = Outages.none

section

variable {course : ServiceCourse} {commit : Commit} {origins : Nat → Origin}

theorem fanOut_alone (healthy : course.Healthy) :
    (alone World.perform (fanOut commit) course).2.moment.state =
      course.moment.state.tell commit (course.ahead 1).stamp := by
  simp [fanOut, ServiceWorkflow.locally, Course.reply, Course.next, Moment.next, World.perform,
    World.act, Outages.guard, healthy _, Outages.none, countFailure, World.tell]

theorem settle_alone (reference : Reference) (update : StatusUpdate) (attempts : Nat) :
    alone World.perform (ServiceWorkflow.ofStore (Settlement.settle reference update attempts))
        course =
      (.ok (.undisturbed (course.moment.state.store.find? reference) update
          (course.ahead 1).stamp.now),
        worldAccess.settled course reference update) :=
  worldAccess.settle_alone course reference update attempts

theorem state_settled (reference : Reference) (update : StatusUpdate) :
    (worldAccess.settled course reference update).moment.state =
      { course.moment.state with
        store := (Settlement.undisturbed (course.moment.state.store.find? reference) update
          (course.ahead 1).stamp.now).commit course.moment.state.store } := by
  have written := worldAccess.store_settled course reference update
  refine (?_ : _ = { course.moment.state with
    store := (worldAccess.settled course reference update).moment.state.store }).trans ?_
  · rw [StoreAccess.settled]
    split <;> rfl
  · exact congrArg (fun store => { course.moment.state with store }) written

theorem Course.Healthy.alone {α : Type} (healthy : course.Healthy) (workflow : ServiceWorkflow α) :
    (alone World.perform workflow course).2.Healthy := by
  obtain ⟨count, onward⟩ := @ahead_alone _ _ _ _ _ World.perform workflow course
  intro n
  rw [onward]
  exact healthy (n + count)

theorem store_next {action : Action} (quiet : ∀ reply, action.committed? reply = none) :
    (course.next World.perform action).moment.state.store = course.moment.state.store := by
  have commit := World.perform_commit (course.ahead 0) action course.moment.state
  rw [quiet] at commit
  exact commit.eq_of_none

theorem untouched_count (counter : Counter) :
    course.moment.state.Untouched
      (course.next World.perform (.here (.count counter))).moment.state := ⟨rfl, rfl, rfl, rfl, rfl⟩

theorem store_countFailure (sink : Sink) (reply : Except SinkError Unit) :
    (alone World.perform (countFailure sink reply) course).2.moment.state.store =
      course.moment.state.store := by
  cases reply <;> rfl

theorem store_fanOut :
    (alone World.perform (fanOut commit) course).2.moment.state.store =
      course.moment.state.store := by
  simp only [fanOut, ServiceWorkflow.locally, Workflow.bind_eq, Workflow.ask_bind,
    Workflow.done_bind, alone_ask, alone_bind, store_countFailure]
  rw [store_next fun _ => rfl, store_next fun _ => rfl, store_next fun _ => rfl,
    store_next fun _ => rfl]

theorem fanOut_settled {reference : Reference} {current : Payment} (update : StatusUpdate)
    (stored : course.moment.state.store.find? reference = some current)
    (legal : current.status.canMoveTo update.status = true) (origin : Origin) :
    let record := current.apply update (course.ahead 1).stamp.now
    let ended := (alone World.perform (fanOut (Change.report ⟨some current, record⟩ origin))
      (worldAccess.settled course reference update)).2
    ended.moment.state.store = course.moment.state.store.replace record ∧
    (course.Healthy → course.moment.state.IndexFollows →
      course.moment.state.Announced ended.moment.state ⟨some current, record⟩ origin) := by
  intro record ended
  have world : (worldAccess.settled course reference update).moment.state =
      { course.moment.state with store := course.moment.state.store.replace record } := by
    rw [state_settled, stored, Settlement.undisturbed_of_canMoveTo legal]
    rfl
  refine ⟨?_, fun healthy follows => ?_⟩
  · exact store_fanOut.trans (congrArg World.store world)
  · have onward := healthy.alone (.ofStore (Settlement.settle reference update 1))
    rw [settle_alone] at onward
    have next : ∀ other, course.moment.state.store.find? current.reference = some other →
        other.version < current.version + 1 := by
      intro other found
      rw [Store.find?_reference stored, stored] at found
      cases found
      exact Int.lt_succ _
    have newer := follows.newer next
    have told := @World.announced_tell _ ⟨some current, record⟩
      (course.moment.state.store.replace record) origin
      ((worldAccess.settled course reference update).ahead 1).stamp newer
    rwa [← world, ← fanOut_alone onward] at told

theorem fanOut_tells {change : Change} {changes : List Change} {requests : List LocalAction}
    {origin : Origin} (told : Tells course.talk changes requests) (member : change ∈ changes) :
    Tells (alone World.perform (fanOut (change.report origin)) course).2.talk changes
      (requests ++ (change.report origin).requests) := by
  have keeps : Keeps (mayReport origin)
      (fun talk _ => Tells talk changes (requests ++ (change.report origin).requests))
      (fanOut (change.report origin)) course.talk := keeps_fanOut told member fun _ told => told
  exact Keeps.alone keeps

theorem settle_tells {changes : List Change} {requests : List LocalAction} (reference : Reference)
    (update : StatusUpdate) (attempts : Nat) (told : Tells course.talk changes requests) :
    let ended := alone World.perform
      (ServiceWorkflow.ofStore (Settlement.settle reference update attempts)) course
    Tells ended.2.talk (changes ++ settledChange ended.1) requests := by
  have keeps : Keeps (mayReport ⟨.system, none⟩)
      (fun talk result => Tells talk (changes ++ settledChange result) requests)
      (ServiceWorkflow.ofStore (Settlement.settle reference update attempts)) course.talk :=
    keeps_settle attempts told fun _ _ told => told
  exact Keeps.alone keeps

theorem mem_documents_next {now : ServiceMoment} {client : Nat} {choice : Circumstances}
    {action : Action} {document : SearchDocument}
    (member : document ∈ (now.next World.perform client choice action).state.index.documents) :
    document ∈ now.state.index.documents ∨ action = .here (.index document) := by
  cases action with
  | gateway action => exact .inl member
  | here action =>
      cases action with
      | index newest =>
          simp only [Moment.next, World.perform, World.act, Outages.guard] at member
          split at member
          · exact .inl member
          · rcases SearchIndex.mem_of_mem_upsert member with old | new
            · exact .inl old
            · exact .inr (by rw [new])
      | _ =>
          simp only [Moment.next, World.perform, World.act, Outages.guard] at member
          try split at member
          all_goals exact .inl member

theorem mem_changesIn_talkOf {client : Nat} {past : List ServiceStep} {change : Change}
    (member : change ∈ changesIn (talkOf client past)) : change ∈ past.filterMap changeAt := by
  obtain ⟨said, isSaid, changed⟩ := List.mem_filterMap.mp member
  obtain ⟨step, isStep, rfl⟩ := List.mem_map.mp isSaid
  exact List.mem_filterMap.mpr ⟨step, (List.mem_filter.mp isStep).1, changed⟩

theorem Leads.documents {who : Nat → Prop} {start now : ServiceMoment}
    (leads : Leads World.perform (allowedBy fun client => mayReport (origins client)) who start now)
    (empty : start.state.index.documents = []) :
    ∀ document ∈ now.state.index.documents,
      ∃ change ∈ now.past.filterMap changeAt, document = .ofPayment change.current := by
  induction leads with
  | refl => simp [empty]
  | @step now client action choice _ _ permitted ih =>
      intro document member
      have earlier : ∀ change ∈ now.past.filterMap changeAt,
          change ∈ (now.next World.perform client choice action).past.filterMap changeAt := by
        intro change held
        rw [Moment.next, List.filterMap_append]
        exact List.mem_append_left _ held
      rcases mem_documents_next member with old | rfl
      · obtain ⟨change, held, isDocument⟩ := ih document old
        exact ⟨change, earlier change held, isDocument⟩
      · obtain ⟨change, reported, asked⟩ := List.mem_flatMap.mp (permitted _ rfl)
        refine ⟨change, earlier change (mem_changesIn_talkOf reported), ?_⟩
        simpa [Commit.requests, Commit.document, Change.report] using asked

theorem Reachable.indexFollows {world : World} (reachable : Reachable world) :
    world.IndexFollows := by
  obtain ⟨operations, turns, rfl⟩ := reachable
  intro document member
  obtain ⟨change, held, rfl⟩ :=
    (run_reports {} operations turns).reached.documents rfl document member
  obtain ⟨step, isStep, changed⟩ := List.mem_filterMap.mp held
  have lineage := (lineage_of_run {} operations turns change.current.reference).2
  have known := mem_recordsOf_of_changeAt isStep changed
  obtain ⟨current, stored, _⟩ := lineage.sameCharge change.current known
  have newest := (lineage.newest change.current (by simpa using known)).1
  rw [stored, Payment.versionOf_some] at newest
  exact ⟨change.current.reference, current, stored, rfl, newest⟩

end

section

open Gateway

def toGateway? : Exchange Action.Reply → Option (Exchange GatewayAction.Reply)
  | ⟨.gateway action, reply⟩ => some ⟨action, reply⟩
  | _ => none

def gatewayTalk (talk : ServiceTalk) : GatewayTalk := talk.filterMap toGateway?

def Offline {α : Type} : ServiceWorkflow α → Prop
  | .done _ => True
  | .ask action next => (∀ asked, action ≠ .gateway asked) ∧ ∀ reply, Offline (next reply)

variable {α β : Type} {talk : ServiceTalk} {course : ServiceCourse}

theorem gatewayTalk_append (said : Exchange Action.Reply) :
    gatewayTalk (talk ++ [said]) = gatewayTalk talk ++ (toGateway? said).toList := by
  rw [gatewayTalk, List.filterMap_append, ← gatewayTalk]
  cases asked : toGateway? said <;> simp [asked]

theorem Offline.bind {workflow : ServiceWorkflow β} {next : β → ServiceWorkflow α}
    (offline : Offline workflow) (onward : ∀ result, Offline (next result)) :
    Offline (workflow.bind next) := by
  induction workflow with
  | done result => exact onward result
  | ask action resume ih => exact ⟨offline.1, fun reply => ih reply (offline.2 reply)⟩

theorem Offline.gatewayTalk {workflow : ServiceWorkflow α} (offline : Offline workflow) :
    gatewayTalk (alone World.perform workflow course).2.talk =
      Interleaving.gatewayTalk course.talk := by
  induction workflow generalizing course with
  | done result => rfl
  | ask action next ih =>
      rw [alone_ask, ih _ (offline.2 _), talk_next, gatewayTalk_append]
      cases action with
      | gateway asked => exact absurd rfl (offline.1 asked)
      | here action => exact List.append_nil _

theorem offline_of_asks {workflow : ServiceWorkflow α}
    (asks : Asks (fun action => ∀ asked, action ≠ .gateway asked) workflow) : Offline workflow := by
  induction workflow with
  | done result => trivial
  | ask action next ih => exact ⟨asks.1, fun reply => ih reply (asks.2 reply)⟩

theorem offline_fanOut (commit : Commit) : Offline (fanOut commit) := by
  refine offline_of_asks ((asks_fanOut commit).mono ?_)
  rintro _ aside asked rfl
  cases aside

theorem keeps_gatewayTalk {may : GatewayTalk → GatewayAction → Prop} {goal : GatewayTalk → α → Prop}
    {workflow : GatewayWorkflow α} (keeps : Keeps may goal workflow (gatewayTalk talk)) :
    Keeps (fun _ _ => True) (fun talk result => goal (gatewayTalk talk) result)
      (ServiceWorkflow.ofGateway workflow) talk := by
  induction workflow generalizing talk with
  | done result => exact keeps
  | ask action next ih =>
      refine ⟨trivial, fun reply => ih reply ?_⟩
      rw [gatewayTalk_append]
      exact keeps.2 reply

theorem state_ofGateway (workflow : GatewayWorkflow α) :
    (alone World.perform (ServiceWorkflow.ofGateway workflow) course).2.moment.state =
      course.moment.state := by
  induction workflow generalizing course with
  | done result => rfl
  | ask action next ih => exact (ih _).trans rfl

theorem retry_alone {policy : RetryPolicy} {call : Call} (quiet : gatewayTalk course.talk = []) :
    let ended := alone World.perform (ServiceWorkflow.ofGateway (Retry.run policy call)) course
    (∃ told, Halts policy (gatewayTalk ended.2.talk) told ended.1) ∧
      ∀ attempt ∈ attemptsIn (gatewayTalk ended.2.talk), attempt.call = call :=
  Keeps.alone (keeps_gatewayTalk (retry_halts quiet))

theorem ofGateway_bind (workflow : GatewayWorkflow β) (next : β → GatewayWorkflow α) :
    ServiceWorkflow.ofGateway (workflow.bind next) =
      (ServiceWorkflow.ofGateway workflow).bind fun result =>
        ServiceWorkflow.ofGateway (next result) := by
  induction workflow with
  | done result => rfl
  | ask action resume ih => exact congrArg (Workflow.ask (Action.gateway action)) (funext ih)

theorem keeps_retry {policy : RetryPolicy} {call : Call} (quiet : gatewayTalk talk = []) :
    Keeps (fun _ _ => True)
      (fun later answer => ∃ told ending, Halts policy (gatewayTalk later) told ending ∧
        answer = ending.map withMoney)
      (ServiceWorkflow.ofGateway ((Retry.run policy call).bind fun ending =>
        .done (ending.map withMoney))) talk := by
  rw [ofGateway_bind]
  refine Keeps.bind ((keeps_gatewayTalk (retry_halts quiet)).mono ?_)
  rintro later ending ⟨⟨told, halts⟩, _⟩
  exact ⟨told, ending, halts, rfl⟩

theorem ofGateway_tells {changes : List Change} {requests : List LocalAction}
    (told : Tells course.talk changes requests) (workflow : GatewayWorkflow α) :
    Tells (alone World.perform (ServiceWorkflow.ofGateway workflow) course).2.talk changes
      requests := by
  have keeps : Keeps (mayReport ⟨.system, none⟩) (fun talk _ => Tells talk changes requests)
      (ServiceWorkflow.ofGateway workflow) course.talk :=
    keeps_ofGateway workflow told fun _ _ told => told
  exact Keeps.alone keeps

theorem offline_ofStore (workflow : StoreWorkflow α) :
    Offline (ServiceWorkflow.ofStore workflow) :=
  offline_of_asks (asks_ofStore (fun _ _ _ => Action.noConfusion) (asks_any workflow))

end

end Interleaving

end Payments
