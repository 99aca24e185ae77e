import Payments.Proofs.Gateway.Attempts
import Payments.Proofs.Interleaving.Alone
import Payments.Simulation.State

/-!
Operations at the gateway against an exact clock: waiting ends when it is due, and an answer that is
there in time is taken, also at the last moment. Each call is given what is left of the time for the
whole, so that the operation is over when that time is.
-/

namespace Payments

namespace Gateway

/-- What a call was given and when it was under way. -/
structure TimedCall where
  limit : Duration
  began : Duration
  ended : Duration

variable {policy : RetryPolicy} {started now finished : Duration} {number : Nat}

structure TimedCall.Fits (policy : RetryPolicy) (started now : Duration) (call : TimedCall) :
    Prop where
  began : call.began = now
  limit : call.limit = min policy.callTimeout (policy.totalTimeout - (now - started))
  ended : now ≤ call.ended ∧ call.ended ≤ now + call.limit

theorem TimedCall.Fits.in_time {call : TimedCall} (fits : call.Fits policy started now)
    (begun : started ≤ now) (within : now ≤ started + policy.totalTimeout) :
    started ≤ call.began ∧ call.limit ≤ policy.callTimeout ∧
      call.began + call.limit ≤ started + policy.totalTimeout ∧
      call.ended ≤ started + policy.totalTimeout := by
  obtain ⟨began, limit, _, ended⟩ := fits
  grind

inductive Paced (policy : RetryPolicy) (started : Duration) :
    (number : Nat) → (now : Duration) → List TimedCall → (finished : Duration) → Prop
  | last {number : Nat} {now : Duration} {call : TimedCall} :
      call.Fits policy started now → Paced policy started number now [call] call.ended
  | next {number : Nat} {now finished : Duration} {call : TimedCall} {calls : List TimedCall} :
      call.Fits policy started now →
      call.ended + policy.delayAfter number < started + policy.totalTimeout →
      Paced policy started (number + 1) (call.ended + policy.delayAfter number) calls finished →
      Paced policy started number now (call :: calls) finished

/-- What an exact clock shows of an operation that keeps to its time. -/
structure InTime (policy : RetryPolicy) (started : Duration) (calls : List TimedCall)
    (finished : Duration) : Prop where
  first : calls.head?.map TimedCall.began = some started
  finished : finished ≤ started + policy.totalTimeout
  limits : ∀ call ∈ calls, started ≤ call.began ∧ call.limit ≤ policy.callTimeout ∧
    call.began + call.limit ≤ started + policy.totalTimeout
  retries : ∀ call ∈ calls.tail, call.began < started + policy.totalTimeout
  delays : ∀ number earlier later, calls[number]? = some earlier →
    calls[number + 1]? = some later →
    later.began = earlier.ended + policy.delayAfter (number + 1)

namespace Paced

variable {calls : List TimedCall}

theorem first (paced : Paced policy started number now calls finished) :
    calls.head?.map TimedCall.began = some now := by
  cases paced with
  | last fits => exact congrArg some fits.began
  | next fits _ _ => exact congrArg some fits.began

theorem finished_le (paced : Paced policy started number now calls finished)
    (begun : started ≤ now) (within : now ≤ started + policy.totalTimeout) :
    finished ≤ started + policy.totalTimeout := by
  induction paced with
  | last fits => exact (fits.in_time begun within).2.2.2
  | next fits onward _ ih =>
      have after := fits.ended.1
      exact ih (by grind) (Nat.le_of_lt onward)

theorem limits (paced : Paced policy started number now calls finished)
    (begun : started ≤ now) (within : now ≤ started + policy.totalTimeout) :
    ∀ call ∈ calls, started ≤ call.began ∧ call.limit ≤ policy.callTimeout ∧
      call.began + call.limit ≤ started + policy.totalTimeout := by
  induction paced with
  | last fits =>
      obtain ⟨first, limit, inside, _⟩ := fits.in_time begun within
      simpa using ⟨first, limit, inside⟩
  | next fits onward _ ih =>
      obtain ⟨first, limit, inside, _⟩ := fits.in_time begun within
      have after := fits.ended.1
      intro call member
      rcases List.mem_cons.mp member with rfl | later
      · exact ⟨first, limit, inside⟩
      · exact ih (by grind) (Nat.le_of_lt onward) call later

theorem began_lt (paced : Paced policy started number now calls finished)
    (within : now < started + policy.totalTimeout) :
    ∀ call ∈ calls, call.began < started + policy.totalTimeout := by
  induction paced with
  | last fits => simpa [fits.began] using within
  | next fits onward _ ih =>
      intro call member
      rcases List.mem_cons.mp member with rfl | later
      · rw [fits.began]
        exact within
      · exact ih onward call later

theorem retries (paced : Paced policy started number now calls finished) :
    ∀ call ∈ calls.tail, call.began < started + policy.totalTimeout := by
  cases paced with
  | last _ => simp
  | next _ onward rest => exact rest.began_lt onward

theorem delays (paced : Paced policy started number now calls finished) :
    ∀ position earlier later, calls[position]? = some earlier →
      calls[position + 1]? = some later →
      later.began = earlier.ended + policy.delayAfter (number + position) := by
  induction paced with
  | last _ => simp
  | @next number now finished call calls fits onward rest ih =>
      intro position earlier later isEarlier isLater
      cases position with
      | zero =>
          have began := rest.first
          cases isEarlier
          have same : calls.head? = some later := List.head?_eq_getElem?.trans isLater
          rw [same] at began
          exact Option.some.inj began
      | succ position =>
          have spaced := ih position earlier later isEarlier isLater
          rwa [Nat.add_right_comm] at spaced

theorem inTime (paced : Paced policy started 1 started calls finished) :
    InTime policy started calls finished where
  first := paced.first
  finished := paced.finished_le (Nat.le_refl _) (Nat.le_add_right _ _)
  limits := paced.limits (Nat.le_refl _) (Nat.le_add_right _ _)
  retries := paced.retries
  delays := by
    intro position earlier later isEarlier isLater
    rw [paced.delays position earlier later isEarlier isLater, Nat.add_comm 1]

end Paced

end Gateway

namespace Interleaving

open Gateway Simulation

def punctual (scripted : ScriptedReply) (action : GatewayAction) (now : Duration) :
    action.Reply × Duration :=
  match action with
  | .clock => (now, now)
  | .sleep span => ((), now + span)
  | .call _ limit =>
    match scripted.answer with
    | some answer =>
      if scripted.delay ≤ limit then (some answer, now + scripted.delay) else (none, now + limit)
    | none => (none, now + limit)

theorem punctual_call (scripted : ScriptedReply) (call : Call) (limit now : Duration) :
    now ≤ (punctual scripted (.call call limit) now).2 ∧
      (punctual scripted (.call call limit) now).2 ≤ now + limit := by
  rcases scripted with ⟨_ | answer, delay⟩ <;> simp only [punctual] <;> grind

abbrev TimedStep := Step GatewayAction.Reply ScriptedReply Duration

def timedCall? (step : TimedStep) : Option TimedCall :=
  match step.action with
  | .call _ limit => some ⟨limit, step.before, step.after⟩
  | _ => none

def timedCallsIn (past : List TimedStep) : List TimedCall := past.filterMap timedCall?

section

abbrev TimedCourse := Course GatewayAction.Reply ScriptedReply Duration

theorem timedCallsIn_next (course : TimedCourse) (action : GatewayAction) :
    timedCallsIn (course.next punctual action).moment.past =
      timedCallsIn course.moment.past ++
        (timedCall? (course.moment.step punctual 0 (course.ahead 0) action)).toList := by
  rw [Course.next, Moment.next, timedCallsIn, List.filterMap_append, ← timedCallsIn]
  cases timed : timedCall? (course.moment.step punctual 0 (course.ahead 0) action) <;> simp [timed]

theorem timedCallsIn_clock (course : TimedCourse) :
    timedCallsIn (course.next punctual .clock).moment.past = timedCallsIn course.moment.past :=
  (timedCallsIn_next course .clock).trans (List.append_nil _)

theorem timedCallsIn_sleep (course : TimedCourse) (span : Duration) :
    timedCallsIn (course.next punctual (.sleep span)).moment.past =
      timedCallsIn course.moment.past :=
  (timedCallsIn_next course (.sleep span)).trans (List.append_nil _)

theorem timedCallsIn_call (course : TimedCourse) (call : Call) (limit : Duration) :
    timedCallsIn (course.next punctual (.call call limit)).moment.past =
      timedCallsIn course.moment.past ++
        [⟨limit, course.moment.state, (course.next punctual (.call call limit)).moment.state⟩] :=
  timedCallsIn_next course (.call call limit)

variable (policy : RetryPolicy) (call : Call) (started : Duration)

theorem once_fits (onTransient : Failure → GatewayWorkflow (Option (Except ClientError Charge)))
    (course : TimedCourse) :
    ∃ timed later, timed.Fits policy started course.moment.state ∧
      timedCallsIn later.moment.past = timedCallsIn course.moment.past ++ [timed] ∧
      later.moment.state = timed.ended ∧
      ((alone punctual (Retry.once policy call started onTransient) course).2 = later ∨
        ∃ failure, alone punctual (Retry.once policy call started onTransient) course =
          alone punctual (onTransient failure) later) := by
  let limit := min policy.callTimeout (policy.totalTimeout - (course.moment.state - started))
  let asked := course.next punctual .clock
  let later := asked.next punctual (.call call limit)
  refine ⟨⟨limit, asked.moment.state, later.moment.state⟩, later, ?_, ?_, rfl, ?_⟩
  · exact
      { began := rfl
        limit := rfl
        ended := punctual_call (asked.ahead 0) call limit asked.moment.state }
  · rw [timedCallsIn_call, timedCallsIn_clock]
  · simp only [Retry.once, alone_ask]
    generalize Course.reply punctual (course.next punctual .clock) (.call call _) = reply
    rcases reply with _ | failure | charge
    · exact .inr ⟨_, rfl⟩
    · by_cases again : failure.isTransient = true
      · exact .inr ⟨failure, by simp only [if_pos again]; rfl⟩
      · exact .inl (by simp only [if_neg again, alone_done]; rfl)
    · exact .inl rfl

def Follows (number : Nat) (course later : TimedCourse) : Prop :=
  ∃ calls, timedCallsIn later.moment.past = timedCallsIn course.moment.past ++ calls ∧
    Paced policy started number course.moment.state calls later.moment.state

theorem attempt_follows (more number : Nat) (course : TimedCourse) :
    Follows policy started number course
      (alone punctual (Retry.attempt policy call started more number) course).2 := by
  -- On the attempts that are left: a call fits, and what is left follows when its delay is over.
  induction more generalizing number course with
  | zero =>
      obtain ⟨timed, later, fits, made, ended, closed | ⟨failure, handed⟩⟩ :=
        once_fits policy call started
          (fun failure => .done (some (.error (.exhausted number failure)))) course
      · rw [Retry.attempt, closed]
        exact ⟨[timed], made, ended ▸ .last fits⟩
      · rw [Retry.attempt, handed]
        exact ⟨[timed], made, ended ▸ .last fits⟩
  | succ more ih =>
      obtain ⟨timed, later, fits, made, ended, closed | ⟨failure, handed⟩⟩ :=
        once_fits policy call started _ course
      · rw [Retry.attempt, closed]
        exact ⟨[timed], made, ended ▸ .last fits⟩
      · have told : later.reply punctual .clock = later.moment.state := rfl
        let delay := policy.delayAfter number
        let asked := later.next punctual .clock
        let slept := asked.next punctual (.sleep delay)
        have idle : asked.moment.state = timed.ended := ended
        have woken : slept.moment.state = timed.ended + delay := congrArg (· + delay) ended
        rw [Retry.attempt, handed, alone_ask, told]
        have lastCall : Follows policy started number course asked :=
          ⟨[timed], (timedCallsIn_clock later).trans made, idle ▸ .last fits⟩
        split
        · exact lastCall
        · rename_i spent inRange
          split
          · exact lastCall
          · rename_i early
            obtain ⟨calls, more, paced⟩ := ih (number + 1) slept
            refine ⟨timed :: calls, ?_, .next fits ?_ (woken ▸ paced)⟩
            · rw [timedCallsIn_sleep, timedCallsIn_clock, made, List.append_assoc] at more
              exact more
            · rw [ended, Duration.plus?_eq_some_iff] at inRange
              grind

/-- By an exact clock, an operation at the gateway is over in time, gives no call more than is left,
and makes each further attempt when the delay after the one before is over. It comes back with an
answer unless that delay leads past the longest span of time. -/
theorem retry_inTime (ahead : Nat → ScriptedReply) :
    let ended := alone punctual (Retry.run policy call) (.start started ahead)
    InTime policy started (timedCallsIn ended.2.moment.past) ended.2.moment.state ∧
      (¬OutOfRange policy ended.2.talk → ended.1.isSome) := by
  intro ended
  obtain ⟨calls, made, paced⟩ := attempt_follows policy call started (policy.maxAttempts - 1) 1
    ((Course.start started ahead).next punctual .clock)
  have all : timedCallsIn ended.2.moment.past = calls := made
  have silent : (Course.start started ahead : TimedCourse).talk = [] := rfl
  have keeps := @retry_halts policy call _ silent
  obtain ⟨told, halts⟩ := keeps.alone.1
  refine ⟨all ▸ paced.inTime, fun inRange => ?_⟩
  rw [show ended.1 = some told from halts.answered inRange]
  rfl

/-- A gateway that never answers is given up on at the very end of the time for the whole. -/
example :
    let ended := (alone punctual (Retry.run .charge (.confirm ⟨"pi_1", by decide, by simp [Text.isBlank]⟩))
      (.start 0 fun _ => ⟨none, 0⟩)).2
    (timedCallsIn ended.moment.past).map (fun call => (call.began.seconds, call.limit.seconds)) =
        [(0, 10), (11, 10), (23, 7)] ∧
      ended.moment.state.seconds = 30 := by
  decide +kernel

end

end Interleaving

end Payments
