import Payments.Simulation.State

/-!
Jobs that run at the same time on one simulated service. A job goes on until it has to wait; when
all wait, the clock moves to the next due time, and the jobs due then go on in their order. A job
may have a time limit, after which it is dropped where it stands.
-/

namespace Payments.Simulation

/-- What is to be done: an operation of the service, or something done to the simulation itself. -/
inductive Job (α : Type)
  | operation (limit : Option Duration) (workflow : ServiceWorkflow α)
  | direct (act : State → α × State)

inductive Progress (α : Type)
  | waiting (due : Duration) (limit : Option Duration) (rest : ServiceWorkflow α)
  | finished (result : α)
  | dropped

namespace Progress

variable {α : Type}

def runOn (outages : Outages) (limit : Option Duration) :
    ServiceWorkflow α → State → Progress α × State
  | .done result, state => (.finished result, state)
  | .ask action next, state =>
    let (due, after) := state.act outages action
    if due.time ≤ state.clock then runOn outages limit (next due.reply) after
    else (.waiting due.time limit (next due.reply), after)

def start (outages : Outages) (job : Job α) (state : State) : Progress α × State :=
  match job with
  | .operation limit workflow => runOn outages (limit.map (state.clock + ·)) workflow state
  | .direct act =>
    let (result, state) := act state
    (.finished result, state)

def wakeTime? : Progress α → Option Duration
  | .waiting due limit _ => some (match limit with
      | some limit => min due limit
      | none => due)
  | .finished _ | .dropped => none

def isOver (limit : Option Duration) (clock : Duration) : Bool := limit.any (· ≤ clock)

def wake (outages : Outages) (progress : Progress α) (state : State) : Progress α × State :=
  match progress with
  | .waiting due limit rest =>
    if due ≤ state.clock then
      match runOn outages limit rest state with
      | (.waiting due limit rest, after) =>
        (if isOver limit after.clock then .dropped else .waiting due limit rest, after)
      | other => other
    else if isOver limit state.clock then (.dropped, state)
    else (progress, state)
  | other => (other, state)

def result? : Progress α → Option α
  | .finished result => some result
  | _ => none

end Progress

def thread {α β : Type} (step : α → State → β × State) : List α → State → List β × State
  | [], state => ([], state)
  | item :: items, state =>
    let (result, state) := step item state
    let (results, state) := thread step items state
    (result :: results, state)

def earliest : List Duration → Option Duration
  | [] => none
  | time :: times => some (times.foldl min time)

def runAll {α : Type} (outages : Outages) : Nat → List (Progress α) → State →
    List (Progress α) × State
  | 0, jobs, state => (jobs, state)
  | rounds + 1, jobs, state =>
    match earliest (jobs.filterMap Progress.wakeTime?) with
    | none => (jobs, state)
    | some time =>
      let (jobs, state) := thread (Progress.wake outages) jobs { state with clock := time }
      runAll outages rounds jobs state

/-- Enough rounds for any jobs: a wait is for a scripted reply, for the pause after one, or for the
end of a limit. -/
def roundsFor {α : Type} (jobs : List α) (state : State) : Nat :=
  3 * (state.createReplies.length + state.confirmReplies.length + jobs.length) + 3

def runTogether {α : Type} (outages : Outages) (jobs : List (Job α)) (state : State) :
    List (Option α) × State :=
  let rounds := roundsFor jobs state
  let (started, state) := thread (Progress.start outages) jobs state
  let (ended, state) := runAll outages rounds started state
  (ended.map Progress.result?, state)

def runAlone {α : Type} (outages : Outages) (job : Job α) (state : State) : Option α × State :=
  let (results, state) := runTogether outages [job] state
  (results.head?.join, state)

end Payments.Simulation
