import Mathlib.Data.List.Perm.Basic
import Payments.Proofs.Service.Run

/-!
What the sinks hear. Each sink hears of a commit in a form of its own. Once every operation is done,
what a sink has heard is what was committed, up to its order; and a sink that was in order all along
holds what it has made of what it heard.
-/

namespace Payments.Interleaving

/-- A sink: which requests it hears, what it hears of a commit, and what it makes of that while it is
in order. -/
structure Listener (β γ : Type) where
  sink : Sink
  hears? : LocalAction → Option β
  told : Commit → β
  hears_requests : ∀ commit : Commit, commit.requests.filterMap hears? = [told commit]
  content : World → γ
  takes : Stamp → γ → β → γ
  content_perform : ∀ circumstances action world, circumstances.outages sink = none →
    content (World.perform circumstances action world).2 =
      (action.request?.bind hears?).elim (content world)
        (takes circumstances.stamp (content world))

def dueAt (operations : List Operation) (step : ServiceStep) : Option Commit :=
  (changeAt step).map (·.report (originOf operations step.client))

theorem past_inTurn {world : World} {operations : List Operation}
    {turns : List (Nat × Circumstances)} (inTurn : InTurn turns) :
    ((operationsOn world operations).run World.perform turns).moment.past.Pairwise
      fun step later => step.client ≤ later.client := by
  have taken := List.Pairwise.sublist (past_of_run world operations turns).1 inTurn
  simpa only [List.pairwise_map] using taken

theorem healthy_of_run {world : World} {operations : List Operation}
    {turns : List (Nat × Circumstances)} {sink : Sink}
    (healthy : ∀ turn ∈ turns, turn.2.outages sink = none) :
    ∀ step ∈ ((operationsOn world operations).run World.perform turns).moment.past,
      step.choice.outages sink = none := by
  intro step member
  have taken := (past_of_run world operations turns).1.subset (List.mem_map_of_mem member)
  exact healthy _ taken

namespace Listener

variable {β γ : Type} (listener : Listener β γ)

def heardAt (step : ServiceStep) : Option β := step.action.request?.bind listener.hears?

def follow (held : γ) (step : ServiceStep) : γ :=
  (listener.heardAt step).elim held (listener.takes step.choice.stamp held)

theorem content_of_leads {may : Nat → ServiceMoment → Action → Prop} {who : Nat → Prop}
    {start now : ServiceMoment} (leads : Leads World.perform may who start now)
    (healthy : ∀ step ∈ now.past, step.choice.outages listener.sink = none) :
    ∃ steps, now.past = start.past ++ steps ∧
      listener.content now.state = steps.foldl listener.follow (listener.content start.state) := by
  induction leads with
  | refl => exact ⟨[], by simp⟩
  | @step now client action choice _ _ _ ih =>
      obtain ⟨steps, grown, held⟩ :=
        ih fun step member => healthy step (List.mem_append_left _ member)
      have inOrder : choice.outages listener.sink = none :=
        healthy (now.step World.perform client choice action) List.mem_concat_self
      refine ⟨steps ++ [now.step World.perform client choice action], ?_, ?_⟩
      · simp only [Moment.next, grown, List.append_assoc]
      · rw [List.foldl_concat, ← held]
        exact listener.content_perform choice action now.state inOrder

theorem filterMap_reportsOf (origin : Origin) (changes : List Change) :
    (reportsOf origin changes).filterMap listener.hears? =
      changes.map fun change => listener.told (change.report origin) := by
  rw [reportsOf, List.filterMap_flatMap, List.map_eq_flatMap]
  exact congrArg (changes.flatMap ·) (funext fun change => listener.hears_requests _)

variable {world : World} {operations : List Operation} {turns : List (Nat × Circumstances)}

theorem heard_of_client (rest : ((operationsOn world operations).run World.perform turns).AtRest)
    (client : Nat) :
    let past := ((operationsOn world operations).run World.perform turns).moment.past
    (stepsOf client past).filterMap listener.heardAt =
      (stepsOf client past).filterMap fun step => (dueAt operations step).map listener.told := by
  intro past
  have reported := congrArg (List.filterMap listener.hears?) (reported_of_atRest rest client)
  rw [filterMap_reportsOf, requestsIn, changesIn, talkOf, List.filterMap_map, List.filterMap_map,
    List.filterMap_filterMap, List.map_filterMap] at reported
  refine reported.trans (List.filterMap_congr fun step member => ?_)
  have own : step.client = client := by simpa using (List.mem_filter.mp member).2
  rw [dueAt, own, Option.map_map]
  rfl

/-- What an operation has changed, each sink has heard of once the operation is done. -/
theorem heard_of_done {client : Nat} {change : Change}
    (finished : (((operationsOn world operations).run World.perform turns).result? client).isSome)
    (changed : change ∈ changesIn
      (talkOf client ((operationsOn world operations).run World.perform turns).moment.past)) :
    listener.told (change.report (originOf operations client)) ∈
      ((operationsOn world operations).run World.perform turns).moment.past.filterMap
        listener.heardAt := by
  obtain ⟨answer, isResult⟩ := Option.isSome_iff_exists.mp finished
  have reported := congrArg (List.filterMap listener.hears?)
    ((run_reports world operations turns).talk_of_result? isResult)
  rw [filterMap_reportsOf] at reported
  have heard := reported ▸ List.mem_map_of_mem changed
  obtain ⟨request, isRequest, hears⟩ := List.mem_filterMap.mp heard
  obtain ⟨said, isSaid, asked⟩ := List.mem_filterMap.mp isRequest
  obtain ⟨step, isStep, _, rfl⟩ := mem_talkOf.mp isSaid
  exact List.mem_filterMap.mpr
    ⟨step, isStep, (congrArg (·.bind listener.hears?) asked).trans hears⟩

theorem heard_perm (rest : ((operationsOn world operations).run World.perform turns).AtRest) :
    let past := ((operationsOn world operations).run World.perform turns).moment.past
    (past.filterMap listener.heardAt).Perm
      (past.filterMap fun step => (dueAt operations step).map listener.told) := by
  intro past
  have whole := flatMap_stepsOf_perm (past_of_run world operations turns).2
  have heard := whole.filterMap listener.heardAt
  have due := whole.filterMap fun step => (dueAt operations step).map listener.told
  rw [List.filterMap_flatMap] at heard due
  refine heard.symm.trans (.trans (.of_eq ?_) due)
  congr 1
  exact funext fun client => listener.heard_of_client rest client

theorem heard_eq (inTurn : InTurn turns)
    (rest : ((operationsOn world operations).run World.perform turns).AtRest) :
    let past := ((operationsOn world operations).run World.perform turns).moment.past
    past.filterMap listener.heardAt =
      past.filterMap fun step => (dueAt operations step).map listener.told := by
  intro past
  have whole := flatMap_stepsOf (past_of_run world operations turns).2 (past_inTurn inTurn)
  have heard := congrArg (List.filterMap listener.heardAt) whole
  have due := congrArg (List.filterMap fun step => (dueAt operations step).map listener.told) whole
  rw [List.filterMap_flatMap] at heard due
  refine heard.symm.trans (.trans ?_ due)
  congr 1
  exact funext fun client => listener.heard_of_client rest client

theorem content_of_run (healthy : ∀ turn ∈ turns, turn.2.outages listener.sink = none) :
    let now := ((operationsOn world operations).run World.perform turns).moment
    listener.content now.state = now.past.foldl listener.follow (listener.content world) := by
  intro now
  have reached : Leads World.perform _ _ _ now := (operationsOn world operations).run_leads turns
  obtain ⟨steps, grown, held⟩ := listener.content_of_leads reached (healthy_of_run healthy)
  have all : now.past = steps := grown
  rw [held, all]
  rfl

theorem foldl_follow_writes {δ : Type} (pages : γ → List δ) {written : Stamp → β → δ}
    (writes : ∀ stamp held heard,
      pages (listener.takes stamp held heard) = pages held ++ [written stamp heard])
    (held : γ) (steps : List ServiceStep) :
    pages (steps.foldl listener.follow held) = pages held ++
      steps.filterMap fun step => (listener.heardAt step).map (written step.choice.stamp) := by
  induction steps generalizing held with
  | nil => exact (List.append_nil _).symm
  | cons step steps ih =>
      rw [List.foldl_cons, ih, follow, List.filterMap_cons]
      cases listener.heardAt step with
      | none => rfl
      | some heard =>
          rw [Option.elim_some, writes]
          exact List.append_assoc ..

end Listener

def busListener : Listener LifecycleEvent (List LifecycleEvent) where
  sink := .bus
  hears? := fun
    | .publish event => some event
    | _ => none
  told := Commit.event
  hears_requests := fun _ => rfl
  content := World.published
  takes := fun _ published event => published ++ [event]
  content_perform := by
    intro circumstances action world healthy
    cases action with
    | gateway action => rfl
    | here action =>
        cases action with
        | publish event =>
            simp [World.perform, World.act, Outages.guard, healthy, Action.request?]
        | _ =>
            simp only [World.perform, World.act, Outages.guard]
            try split
            all_goals rfl

theorem published_of_run {world : World} {operations : List Operation}
    {turns : List (Nat × Circumstances)} (healthy : ∀ turn ∈ turns, turn.2.outages .bus = none) :
    let now := ((operationsOn world operations).run World.perform turns).moment
    now.state.published = world.published ++ now.past.filterMap busListener.heardAt := by
  intro now
  have held : now.state.published = now.past.foldl busListener.follow world.published :=
    busListener.content_of_run healthy
  have written := busListener.foldl_follow_writes id (fun _ _ _ => rfl) world.published now.past
  exact held.trans (written.trans (by simp [Option.map_id']))

/-- A payment is confirmed, and that reported, before its creation is. -/
def lateReport : OperationPool :=
  (operationPool [.charge shop shopping ⟨.system, none⟩,
      .confirm shop (cardCharge .processing).reference ⟨.system, none⟩]).run World.perform
    (List.replicate 5 (0, cooperative) ++ List.replicate 10 (1, cooperative) ++
      List.replicate 5 (0, cooperative))

theorem lateReport_atRest : lateReport.AtRest := by
  intro client bound
  match client with
  | 0 => exact .inl (by decide +kernel)
  | 1 => exact .inl (by decide +kernel)
  | client + 2 => exact absurd bound (by simp [lateReport, Pool.length_clients_run, operationPool])

end Payments.Interleaving
