import Payments.Proofs.Service.Alone

/-!
Operations one after another, while the same sinks are out of order all the time. Identifiers, times
and the gateway's replies come from a supply, of which an action takes only if it needs one. So the
supply stays in step with another run that asks the sinks for more, or for less.
-/

namespace Payments

namespace Action

/-- Whether an action takes from the supply: to make an identifier, to read the clock, or as a call. -/
def draws : Action → Bool
  | .gateway _ => true
  | .here .fresh | .here .time | .here (.append _) => true
  | .here (.store (.create _)) | .here (.store (.update _ _ _)) => true
  | _ => false

def plain : Action → Bool
  | .gateway _ | .here (.store _) | .here .fresh | .here .time => true
  | .here (.count (.sinkFailure _)) => false
  | .here (.count _) => true
  | _ => false

end Action

namespace Series

theorem find?_touch_self (series : Series) (label : String) :
    ∃ entry, (series.touch label).find? (·.1 = label) = some entry ∧ entry.1 = label := by
  have present : (series.touch label).any (·.1 = label) := by
    unfold touch
    split
    · assumption
    · simp
  obtain ⟨entry, found⟩ :=
    Option.isSome_iff_exists.mp (List.find?_isSome.mpr (List.any_eq_true.mp present))
  exact ⟨entry, found, by simpa using List.find?_some found⟩

theorem count_touch (series : Series) (label other : String) :
    (series.touch label).count other = series.count other := by
  unfold touch
  split
  · rfl
  · rw [count, count, List.find?_append]
    cases found : series.find? (·.1 = other) with
    | some entry => rfl
    | none =>
        by_cases own : label = other <;> simp [own]

theorem count_increment (series : Series) (label other : String) :
    (series.increment label).count other =
      series.count other + if other = label then 1 else 0 := by
  have bumped : (series.increment label).find? (·.1 = other) =
      ((series.touch label).find? (·.1 = other)).map fun entry =>
        if entry.1 = label then (entry.1, entry.2 + 1) else entry := by
    rw [increment, List.find?_map]
    congr 2
    funext entry
    by_cases own : entry.1 = label <;> simp [own]
  rw [← count_touch series label other, count, count, bumped]
  by_cases own : other = label
  · subst own
    obtain ⟨entry, found, isOwn⟩ := find?_touch_self series other
    simp [found, isOwn]
  · cases found : (series.touch label).find? (·.1 = other) with
    | none => simp [own]
    | some entry =>
        have isOther : entry.1 = other := by simpa using List.find?_some found
        simp [isOther, own]

end Series

def World.hear (world : World) (down : Sink → Bool) (commit : Commit) (stamp : Stamp) : World :=
  { world with
    cache := if down .cache then world.cache
      else world.cache.evict commit.payment.reference commit.payment.version
    audit := if down .audit then world.audit else world.audit.append (commit.auditEntry stamp)
    index := if down .search then world.index else world.index.upsert commit.document
    published := if down .bus then world.published else world.published ++ [commit.event] }

namespace Interleaving

structure Reading where
  stamp : Stamp
  gateway : (action : Gateway.GatewayAction) → action.Reply

/-- The sinks that fail on every call, and the error that each call meets with. -/
structure Breakdown where
  down : Sink → Bool
  error : ServiceTalk → Sink → SinkError

namespace Breakdown

def none : Breakdown := ⟨fun _ => false, fun _ _ => .unavailable ""⟩

def outages (breakdown : Breakdown) (talk : ServiceTalk) : Outages := fun sink =>
  if breakdown.down sink then some (breakdown.error talk sink) else .none

end Breakdown

structure Session where
  world : World := {}
  ahead : Nat → Reading
  talk : ServiceTalk := []

namespace Session

variable {α β : Type} (breakdown : Breakdown)

def circumstances (session : Session) : Circumstances where
  stamp := (session.ahead 0).stamp
  outages := breakdown.outages session.talk
  gateway := (session.ahead 0).gateway

def reply (session : Session) (action : Action) : action.Reply :=
  (World.perform (session.circumstances breakdown) action session.world).1

def next (session : Session) (action : Action) : Session where
  world := (World.perform (session.circumstances breakdown) action session.world).2
  ahead := if action.draws then fun n => session.ahead (n + 1) else session.ahead
  talk := session.talk ++ [⟨action, session.reply breakdown action⟩]

def carry (workflow : ServiceWorkflow α) (session : Session) : α × Session :=
  workflow.run
    (fun action session => (session.reply breakdown action, session.next breakdown action)) session

/-- The operations one after another, each with its answer and the store that it leaves behind. -/
def serve : List Operation → Session → List (Answer × Store) × Session
  | [], session => ([], session)
  | operation :: operations, session =>
    let (answer, served) := session.carry breakdown operation.workflow
    let (rest, ended) := served.serve operations
    ((answer, served.world.store) :: rest, ended)

variable {breakdown} {session : Session}

@[simp] theorem carry_done (result : α) :
    session.carry breakdown (.done result) = (result, session) := rfl

@[simp] theorem carry_ask (action : Action) (next : action.Reply → ServiceWorkflow α) :
    session.carry breakdown (.ask action next) =
      (session.next breakdown action).carry breakdown (next (session.reply breakdown action)) := rfl

@[simp] theorem carry_bind (workflow : ServiceWorkflow β) (next : β → ServiceWorkflow α) :
    session.carry breakdown (workflow.bind next) =
      (session.carry breakdown workflow).2.carry breakdown
        (next (session.carry breakdown workflow).1) :=
  workflow.run_bind _ next session

theorem keeps_carry (breakdown : Breakdown) {may : ServiceTalk → Action → Prop}
    {goal : ServiceTalk → α → Prop} {workflow : ServiceWorkflow α}
    (keeps : Keeps may goal workflow session.talk) :
    goal (session.carry breakdown workflow).2.talk (session.carry breakdown workflow).1 := by
  induction workflow generalizing session with
  | done result => exact keeps
  | ask action next ih => exact ih _ (keeps.2 _)

def failures (session : Session) (sink : Sink) : Nat :=
  session.world.metrics.sinkFailures.count sink.name

theorem guard_outages {β : Type} (sink : Sink) (talk : ServiceTalk) (world after : World)
    (result : β) :
    (breakdown.outages talk).guard sink world result after =
      if breakdown.down sink then (.error (breakdown.error talk sink), world)
      else (.ok result, after) := by
  cases down : breakdown.down sink <;> simp [Outages.guard, Breakdown.outages, down]

def tally (breakdown : Breakdown) (sink : Sink) (session : Session) : Session :=
  if breakdown.down sink then session.next breakdown (.here (.count (.sinkFailure sink.name)))
  else session

theorem carry_countFailure {sink : Sink} {reply : Except SinkError Unit}
    (answered : ∃ talk, reply =
      if breakdown.down sink then .error (breakdown.error talk sink) else .ok ()) :
    session.carry breakdown (countFailure sink reply) = ((), session.tally breakdown sink) := by
  obtain ⟨talk, rfl⟩ := answered
  cases down : breakdown.down sink with
  | false => simp [tally, down, countFailure]
  | true =>
      simp only [tally, down, if_true, countFailure]
      rfl

end Session

structure Heard (breakdown : Breakdown) (commit : Commit) (before after : Session) : Prop where
  ahead : after.ahead = fun n => before.ahead (n + 1)
  world : (before.world.hear breakdown.down commit (before.ahead 0).stamp).Untouched after.world
  changes : changesIn after.talk = changesIn before.talk
  failures : ∀ sink, after.failures sink =
    before.failures sink + if breakdown.down sink then 1 else 0

namespace Session

variable {breakdown : Breakdown} {session : Session}

theorem changesIn_next (action : Action) :
    changesIn (session.next breakdown action).talk =
      changesIn session.talk ++ (action.change? (session.reply breakdown action)).toList := by
  rw [next, changesIn, List.filterMap_append, ← changesIn]
  cases change : action.change? (session.reply breakdown action) <;> simp [change]

theorem commit_next (breakdown : Breakdown) (session : Session) (action : Action) :
    session.world.store.Commit
      ((action.change? (session.reply breakdown action)).map Change.current)
      (session.next breakdown action).world.store := by
  rw [← Action.committed?_eq]
  exact World.perform_commit (session.circumstances breakdown) action session.world

theorem untouched_tally (sink : Sink) :
    session.world.Untouched (session.tally breakdown sink).world := by
  unfold tally
  split
  · exact ⟨rfl, rfl, rfl, rfl, rfl⟩
  · exact .refl _

theorem ahead_tally (sink : Sink) : (session.tally breakdown sink).ahead = session.ahead := by
  unfold tally
  split <;> rfl

theorem changesIn_tally (sink : Sink) :
    changesIn (session.tally breakdown sink).talk = changesIn session.talk := by
  unfold tally
  split
  · exact (changesIn_next _).trans (List.append_nil _)
  · rfl

theorem failures_tally (sink other : Sink) :
    (session.tally breakdown sink).failures other =
      session.failures other + if breakdown.down other then [sink].count other else 0 := by
  have sameName : other.name = sink.name ↔ sink = other := by
    cases other <;> cases sink <;> decide
  cases down : breakdown.down sink with
  | false =>
      have apart : breakdown.down other = true → sink ≠ other := by
        rintro isDown rfl
        rw [down] at isDown
        cases isDown
      simp +contextual [tally, down, List.count_singleton, apart]
  | true =>
      have counted : (session.tally breakdown sink).failures other =
          (session.world.metrics.sinkFailures.increment sink.name).count other.name := by
        simp only [tally, down, if_true]
        rfl
      rw [counted, Series.count_increment, failures]
      by_cases same : sink = other
      · subst same
        simp [down]
      · simp [sameName, same]

def tallyAll (breakdown : Breakdown) (sinks : List Sink) (session : Session) : Session :=
  sinks.foldl (fun session sink => session.tally breakdown sink) session

theorem untouched_tallyAll (sinks : List Sink) :
    session.world.Untouched (session.tallyAll breakdown sinks).world := by
  induction sinks generalizing session with
  | nil => exact .refl _
  | cons sink sinks ih => exact (untouched_tally sink).trans ih

theorem ahead_tallyAll (sinks : List Sink) :
    (session.tallyAll breakdown sinks).ahead = session.ahead := by
  induction sinks generalizing session with
  | nil => rfl
  | cons sink sinks ih => exact ih.trans (ahead_tally sink)

theorem changesIn_tallyAll (sinks : List Sink) :
    changesIn (session.tallyAll breakdown sinks).talk = changesIn session.talk := by
  induction sinks generalizing session with
  | nil => rfl
  | cons sink sinks ih => exact ih.trans (changesIn_tally sink)

theorem failures_tallyAll (sinks : List Sink) (other : Sink) :
    (session.tallyAll breakdown sinks).failures other =
      session.failures other + if breakdown.down other then sinks.count other else 0 := by
  induction sinks generalizing session with
  | nil => simp [tallyAll]
  | cons sink sinks ih =>
      refine ih.trans ?_
      rw [failures_tally, List.count_cons, List.count_cons, List.count_nil]
      split <;> omega

def told (breakdown : Breakdown) (commit : Commit) (session : Session) : Session :=
  (((session.next breakdown
      (.here (.evict commit.payment.reference commit.payment.version))).next breakdown
      (.here (.append commit))).next breakdown
      (.here (.index commit.document))).next breakdown
      (.here (.publish commit.event))

theorem carry_fanOut (commit : Commit) :
    session.carry breakdown (fanOut commit) =
      ((), (session.told breakdown commit).tallyAll breakdown [.cache, .audit, .search, .bus]) := by
  have answered : ∀ (sink : Sink) (talk : ServiceTalk) (world after : World), ∃ talk',
      ((breakdown.outages talk).guard sink world () after).1 =
        if breakdown.down sink then .error (breakdown.error talk' sink) else .ok () := by
    intro sink talk world after
    exact ⟨talk, by rw [guard_outages, apply_ite Prod.fst]⟩
  simp only [fanOut, ServiceWorkflow.locally, Workflow.bind_eq, Workflow.ask_bind,
    Workflow.done_bind, carry_ask, carry_bind, reply, circumstances, World.perform, World.act]
  rw [carry_countFailure (answered .cache _ _ _), carry_countFailure (answered .audit _ _ _),
    carry_countFailure (answered .search _ _ _), carry_countFailure (answered .bus _ _ _)]
  rfl

theorem world_told (commit : Commit) :
    (session.told breakdown commit).world =
      session.world.hear breakdown.down commit (session.ahead 0).stamp := by
  simp only [told, next, World.perform, World.act, circumstances, guard_outages, apply_ite Prod.snd]
  cases cache : breakdown.down .cache <;> cases audit : breakdown.down .audit <;>
    cases search : breakdown.down .search <;> cases bus : breakdown.down .bus <;>
    simp [World.hear, cache, audit, search, bus, Action.draws]

theorem heard_fanOut (breakdown : Breakdown) (session : Session) (commit : Commit) :
    Heard breakdown commit session (session.carry breakdown (fanOut commit)).2 := by
  rw [carry_fanOut]
  refine ⟨ahead_tallyAll _, ?_, ?_, ?_⟩
  · rw [← world_told]
    exact untouched_tallyAll _
  · simp only [changesIn_tallyAll, told, changesIn_next]
    simp only [Action.change?, Option.toList_none, List.append_nil]
  · intro sink
    have same : (session.told breakdown commit).failures sink = session.failures sink := by
      rw [failures, world_told]
      rfl
    rw [failures_tallyAll, same]
    cases sink <;> rfl

theorem reply_cached (reference : Reference) :
    session.reply breakdown (.here (.cached reference)) =
      if breakdown.down .cache then .error (breakdown.error session.talk .cache)
      else .ok (session.world.cache.get? reference) := by
  simp only [reply, World.perform, World.act, circumstances, guard_outages, apply_ite Prod.fst]

theorem world_fill (payment : Payment) :
    (session.next breakdown (.here (.fill payment))).world =
      if breakdown.down .cache then session.world
      else { session.world with cache := session.world.cache.put payment } := by
  simp only [next, World.perform, World.act, circumstances, guard_outages, apply_ite Prod.snd]

theorem carry_lookUpStored {reference : Reference} {payment : Payment}
    (stored : session.world.store.find? reference = some payment) :
    session.carry breakdown (lookUpStored reference) =
      (.ok payment, (session.next breakdown (.here (.store (.find reference)))).next breakdown
        (.here (.fill payment))) := by
  have found : session.reply breakdown (.here (.store (.find reference))) = .ok (some payment) :=
    congrArg Except.ok stored
  rw [lookUpStored, carry_ask, found]
  rfl

theorem carry_lookUpStored_absent {reference : Reference}
    (absent : session.world.store.find? reference = none) :
    session.carry breakdown (lookUpStored reference) =
      (.error (.notFound reference.text),
        session.next breakdown (.here (.store (.find reference)))) := by
  have found : session.reply breakdown (.here (.store (.find reference))) = .ok none :=
    congrArg Except.ok absent
  rw [lookUpStored, carry_ask, found]
  rfl

structure Idle (before after : Session) : Prop where
  ahead : after.ahead = before.ahead
  world : after.world = before.world
  changes : changesIn after.talk = changesIn before.talk

theorem Idle.refl : session.Idle session := ⟨rfl, rfl, rfl⟩

theorem Idle.trans {middle after : Session} (first : session.Idle middle)
    (second : middle.Idle after) : session.Idle after :=
  ⟨second.ahead.trans first.ahead, second.world.trans first.world,
    second.changes.trans first.changes⟩

theorem idle_cached (breakdown : Breakdown) (session : Session) (reference : Reference) :
    session.Idle (session.next breakdown (.here (.cached reference))) where
  ahead := rfl
  world := by
    simp only [next, World.perform, World.act, circumstances, guard_outages, apply_ite Prod.snd,
      ite_self]
  changes := (changesIn_next _).trans (List.append_nil _)

theorem idle_find (breakdown : Breakdown) (session : Session) (reference : Reference) :
    session.Idle (session.next breakdown (.here (.store (.find reference)))) :=
  ⟨rfl, rfl, (changesIn_next _).trans (List.append_nil _)⟩

theorem idle_lookUpStored {reference : Reference} {payment : Payment}
    (down : breakdown.down .cache = true)
    (stored : session.world.store.find? reference = some payment) :
    session.Idle (session.carry breakdown (lookUpStored reference)).2 := by
  rw [carry_lookUpStored stored]
  have filled : ∀ found : Session, found.Idle (found.next breakdown (.here (.fill payment))) := by
    intro found
    exact ⟨rfl, by rw [world_fill, if_pos down], (changesIn_next _).trans (List.append_nil _)⟩
  exact (session.idle_find breakdown reference).trans (filled _)

end Session

end Interleaving

end Payments
