import Payments.Proofs.Gateway.Deadline

/-!
The outcome of an operation at the gateway, whatever the gateway answers, its clock shows and the
policy allows: one of the attempts made decides it, which is the last one. A create sends one order
under one idempotency key with every attempt. There is no outcome at all where a transient failure
would be tried again, but the delay before that leads past the longest span of time.
-/

namespace Payments

namespace Gateway

/-- The last of so many attempts decides the answer. -/
structure Decides (count : Nat) (last : Attempt) (answer : Except ClientError Charge) : Prop where
  charged : ∀ charge, answer = .ok charge ↔ last.answer = some (.ok charge)
  terminal : ∀ failure, answer = .error (.terminal failure) ↔
    last.failure? = some failure ∧ failure.isTransient = false
  exhausted : ∀ attempts failure, answer = .error (.exhausted attempts failure) ↔
    attempts = count ∧ last.failure? = some failure ∧ failure.isTransient = true

theorem failure?_eq_none_iff {attempt : Attempt} :
    attempt.failure? = none ↔ ∃ charge, attempt.answer = some (.ok charge) := by
  rcases attempt with ⟨call, limit, _ | failure | charge⟩ <;> simp [Attempt.failure?]

theorem verdict_decides (count : Nat) (last : Attempt) :
    Decides count last (verdict count last) := by
  cases failed : last.failure? with
  | none =>
      obtain ⟨charge, answered⟩ := failure?_eq_none_iff.mp failed
      have charged : verdict count last = .ok charge := by rw [verdict, answered]
      rw [charged]
      constructor <;> simp [answered, failed]
  | some failure =>
      have uncharged : ∀ charge, last.answer ≠ some (.ok charge) := by
        intro charge answered
        rw [failure?_eq_none_iff.mpr ⟨charge, answered⟩] at failed
        cases failed
      rw [verdict_of_failure failed]
      constructor
      · simp [uncharged]
      · grind
      · grind

theorem Concludes.earlier_transient {attempts : List Attempt} {answer : Except ClientError Charge}
    (concludes : Concludes attempts answer) :
    ∀ attempt ∈ attempts.dropLast, attempt.Transient := by
  cases concludes <;> rwa [List.dropLast_concat]

end Gateway

namespace Interleaving

open Gateway

/-- The course of an operation that makes one call until it is settled: `talk` is all that was said,
`ending` what the caller is told, if anything. -/
structure Resolution (policy : RetryPolicy) (call : Call) (talk : GatewayTalk)
    (ending : Option (Except ClientError Charge)) : Prop where
  same : ∀ attempt ∈ attemptsIn talk, attempt.call = call
  bounded : 1 ≤ (attemptsIn talk).length ∧ (attemptsIn talk).length ≤ max 1 policy.maxAttempts
  earlier : ∀ attempt ∈ (attemptsIn talk).dropLast, attempt.Transient
  decided : ∃ last, (attemptsIn talk).getLast? = some last ∧
    (¬OutOfRange policy talk → ∃ answer, ending = some answer ∧
      Decides (attemptsIn talk).length last answer ∧
      (last.Transient → policy.maxAttempts ≤ (attemptsIn talk).length ∨ OutOfTime policy talk)) ∧
    (OutOfRange policy talk →
      ending = none ∧ last.Transient ∧ (attemptsIn talk).length < policy.maxAttempts)

theorem Halts.resolution {policy : RetryPolicy} {call : Call} {talk : GatewayTalk}
    {told : Except ClientError Charge} {ending : Option (Except ClientError Charge)}
    (halts : Halts policy talk told ending) (same : ∀ attempt ∈ attemptsIn talk, attempt.call = call) :
    Resolution policy call talk ending := by
  obtain ⟨last, isLast, isTold⟩ := halts.concludes.eq_verdict
  have decides : Decides (attemptsIn talk).length last told :=
    isTold ▸ verdict_decides (attemptsIn talk).length last
  have made : 1 ≤ (attemptsIn talk).length :=
    List.length_pos_of_mem (List.mem_of_getLast? isLast)
  refine
    { same, bounded := ⟨made, halts.bounded⟩, earlier := halts.concludes.earlier_transient
      decided := ⟨last, isLast, fun inRange => ⟨told, halts.answered inRange, decides, ?_⟩, ?_⟩ }
  · rintro ⟨failure, failed, again⟩
    rcases halts.spent _ failure ((decides.exhausted _ _).mpr ⟨rfl, failed, again⟩) with
      full | late | broken
    · exact .inl full
    · exact .inr late
    · exact absurd broken inRange
  · intro broken
    obtain ⟨unanswered, left, count, failure, exhausted⟩ := halts.broken broken
    obtain ⟨_, failed, again⟩ := (decides.exhausted count failure).mp exhausted
    exact ⟨unanswered, ⟨failure, failed, again⟩, left⟩

section

variable {Choice σ : Type} (perform : Choice → (action : GatewayAction) → σ → action.Reply × σ)

theorem retry_resolved (policy : RetryPolicy) (call : Call) (state : σ) (ahead : Nat → Choice) :
    let ended := alone perform (Retry.run policy call) (.start state ahead)
    Resolution policy call ended.2.talk ended.1 := by
  have silent : (Course.start state ahead : Course GatewayAction.Reply Choice σ).talk = [] := rfl
  have keeps := @retry_halts policy call _ silent
  obtain ⟨⟨told, halts⟩, same⟩ := keeps.alone
  exact halts.resolution same

/-- Whatever the surroundings do, an operation at the gateway is resolved by its last attempt;
every attempt of a create sends the same order under the same key. -/
theorem operations_resolved (state : σ) (ahead : Nat → Choice) :
    (∀ policy call,
      let ended := alone perform (Retry.run policy call) (.start state ahead)
      Resolution policy call ended.2.talk ended.1) ∧
    (∀ (client : Client) charge id,
      let ended := alone perform (client.submit charge id) (.start state ahead)
      ∃ ending, ended.1 = ending.map withMoney ∧
        Resolution client.chargePolicy (.create (orderOf charge) (idempotencyKey id))
          ended.2.talk ending) ∧
    (∀ (client : Client) reference,
      let ended := alone perform (client.confirm reference) (.start state ahead)
      ∃ ending, ended.1 = ending.map withMoney ∧
        Resolution client.confirmPolicy (.confirm reference) ended.2.talk ending) := by
  refine ⟨fun policy call => retry_resolved perform policy call state ahead, ?_, ?_⟩
  · intro client charge id ended
    have asked : ended = _ := alone_bind _ _ _
    rw [asked]
    exact ⟨_, rfl, retry_resolved perform _ _ state ahead⟩
  · intro client reference ended
    have asked : ended = _ := alone_bind _ _ _
    rw [asked]
    exact ⟨_, rfl, retry_resolved perform _ _ state ahead⟩

end

def endlessDelay : RetryPolicy :=
  { RetryPolicy.charge with maxAttempts := 2, baseDelay := Duration.longest, multiplier := 1 }

def lostConnection : Failure := ⟨.connection, "reset by peer"⟩

/-- A failure that comes a moment after the start is not reported when the delay after it is the
longest there is, although it was the last attempt that there was time for. -/
theorem endlessDelay_unanswered :
    let ended := alone punctual
      (Retry.run endlessDelay (.confirm ⟨"pi_1", by decide, by simp [Text.isBlank]⟩))
      (.start 0 fun _ => ⟨some (.error lostConnection), Duration.ofMillis 1⟩)
    (attemptsIn ended.2.talk).map Attempt.failure? = [some lostConnection] ∧
      lostConnection.isTransient = true ∧
      endlessDelay.totalTimeout ≤ ended.2.moment.state + endlessDelay.delayAfter 1 ∧
      ended.1 ≠ some (.error (.exhausted 1 lostConnection)) ∧ ended.1 = none := by
  decide +kernel

end Interleaving

end Payments
