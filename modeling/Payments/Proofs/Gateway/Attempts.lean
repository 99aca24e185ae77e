import Payments.Gateway.Client
import Payments.Proofs.Interleaving.Conversation

/-!
The attempts of one operation at the gateway, and what they come to. All attempts but the last have
failed for the moment; the last one is answered with a charge, fails for good, or is one too many.
That is the answer of the operation, unless it breaks down over the delay before another attempt.
-/

namespace Payments

namespace Gateway

/-- A call that was made, how long an answer was waited for, and the answer. -/
structure Attempt where
  call : Call
  limit : Duration
  answer : Option (Except Failure Charge)

def Attempt.failure? (attempt : Attempt) : Option Failure :=
  match attempt.answer with
  | some (.ok _) => none
  | some (.error failure) => some failure
  | none => some (noResponse attempt.limit)

def Attempt.Transient (attempt : Attempt) : Prop :=
  ∃ failure, attempt.failure? = some failure ∧ failure.isTransient = true

/-- What a list of attempts comes to. -/
inductive Concludes : List Attempt → Except ClientError Charge → Prop
  | charged {earlier : List Attempt} {call : Call} {limit : Duration} {charge : Charge} :
      (∀ attempt ∈ earlier, attempt.Transient) →
      Concludes (earlier ++ [⟨call, limit, some (.ok charge)⟩]) (.ok charge)
  | terminal {earlier : List Attempt} {last : Attempt} {failure : Failure} :
      (∀ attempt ∈ earlier, attempt.Transient) → last.failure? = some failure →
      failure.isTransient = false →
      Concludes (earlier ++ [last]) (.error (.terminal failure))
  | exhausted {earlier : List Attempt} {last : Attempt} {failure : Failure} :
      (∀ attempt ∈ earlier, attempt.Transient) → last.failure? = some failure →
      failure.isTransient = true →
      Concludes (earlier ++ [last]) (.error (.exhausted (earlier.length + 1) failure))

def verdict (count : Nat) (last : Attempt) : Except ClientError Charge :=
  match last.answer with
  | some (.ok charge) => .ok charge
  | some (.error failure) =>
      .error (if failure.isTransient then .exhausted count failure else .terminal failure)
  | none => .error (.exhausted count (noResponse last.limit))

theorem verdict_of_failure {count : Nat} {last : Attempt} {failure : Failure}
    (failed : last.failure? = some failure) :
    verdict count last =
      .error (if failure.isTransient then .exhausted count failure else .terminal failure) := by
  rcases last with ⟨call, limit, _ | _ | _⟩ <;> cases failed <;> rfl

theorem Concludes.eq_verdict {attempts : List Attempt} {answer : Except ClientError Charge}
    (concludes : Concludes attempts answer) :
    ∃ last, attempts.getLast? = some last ∧ answer = verdict attempts.length last := by
  cases concludes with
  | charged _ => exact ⟨_, List.getLast?_concat, rfl⟩
  | terminal _ failed final =>
      exact ⟨_, List.getLast?_concat, by rw [verdict_of_failure failed, final]; rfl⟩
  | exhausted _ failed again =>
      exact ⟨_, List.getLast?_concat, by
        rw [verdict_of_failure failed, again, List.length_append, List.length_singleton]; rfl⟩

theorem Concludes.unique {attempts : List Attempt} {answer other : Except ClientError Charge}
    (first : Concludes attempts answer) (second : Concludes attempts other) : answer = other := by
  obtain ⟨last, isLast, rfl⟩ := first.eq_verdict
  obtain ⟨same, isSame, rfl⟩ := second.eq_verdict
  rw [Option.some.inj (isLast.symm.trans isSame)]

end Gateway

namespace Interleaving

open Gateway

abbrev GatewayTalk := List (Exchange GatewayAction.Reply)

def attempt? : Exchange GatewayAction.Reply → Option Attempt
  | ⟨.call call limit, answer⟩ => some ⟨call, limit, answer⟩
  | _ => none

def attemptsIn (talk : GatewayTalk) : List Attempt := talk.filterMap attempt?

def mayCall (call : Call) (_ : GatewayTalk) : GatewayAction → Prop
  | .call other _ => other = call
  | _ => True

section

variable {policy : RetryPolicy} {call : Call} {started : Duration} {talk : GatewayTalk}
  {earlier : List Attempt} {α : Type}

theorem attemptsIn_append (said : Exchange GatewayAction.Reply) :
    attemptsIn (talk ++ [said]) = attemptsIn talk ++ (attempt? said).toList := by
  rw [attemptsIn, List.filterMap_append, ← attemptsIn]
  cases attempt : attempt? said <;> simp [attempt]

theorem attemptsIn_quiet {said : Exchange GatewayAction.Reply} (quiet : attempt? said = none) :
    attemptsIn (talk ++ [said]) = attemptsIn talk := by
  rw [attemptsIn_append, quiet, Option.toList_none, List.append_nil]

/-- By the clock as it was read first and last, the delay before another attempt would lead so far
from the start of the operation; to no span at all, if none is that long. -/
def LeadsTo (policy : RetryPolicy) (talk : GatewayTalk) (spent : Option Duration) : Prop :=
  ∃ started now, talk.head? = some ⟨.clock, started⟩ ∧ talk.getLast? = some ⟨.clock, now⟩ ∧
    spent = Duration.plus? (now - started) (policy.delayAfter (attemptsIn talk).length)

def OutOfTime (policy : RetryPolicy) (talk : GatewayTalk) : Prop :=
  ∃ spent, LeadsTo policy talk (some spent) ∧ policy.totalTimeout ≤ spent

def OutOfRange (policy : RetryPolicy) (talk : GatewayTalk) : Prop := LeadsTo policy talk none

/-- How an operation halts whose attempts come to `told`. There are no more attempts than allowed,
and no fewer unless time ran out. An operation that is out of range has no answer, any other one is
answered with what its attempts come to. -/
structure Halts (policy : RetryPolicy) (talk : GatewayTalk) (told : Except ClientError Charge)
    (ending : Option (Except ClientError Charge)) : Prop where
  concludes : Concludes (attemptsIn talk) told
  bounded : (attemptsIn talk).length ≤ max 1 policy.maxAttempts
  spent : ∀ count last, told = .error (.exhausted count last) →
    policy.maxAttempts ≤ (attemptsIn talk).length ∨ OutOfTime policy talk ∨ OutOfRange policy talk
  broken : OutOfRange policy talk → ending = none ∧
    (attemptsIn talk).length < policy.maxAttempts ∧ ∃ count last, told = .error (.exhausted count last)
  answered : ¬OutOfRange policy talk → ending = some told

theorem LeadsTo.unique {spent other : Option Duration} (leads : LeadsTo policy talk spent)
    (again : LeadsTo policy talk other) : spent = other := by
  obtain ⟨started, now, first, last, rfl⟩ := leads
  obtain ⟨_, _, first', last', rfl⟩ := again
  cases first.symm.trans first'
  cases last.symm.trans last'
  rfl

theorem not_leadsTo_call (limit : Duration) (answer : Option (Except Failure Charge))
    (spent : Option Duration) :
    ¬LeadsTo policy (talk ++ [⟨.call call limit, answer⟩]) spent := by
  rintro ⟨_, _, _, last, _⟩
  rw [List.getLast?_concat] at last
  cases last

theorem Halts.of_settled {told : Except ClientError Charge}
    (concludes : Concludes (attemptsIn talk) told)
    (bounded : (attemptsIn talk).length ≤ max 1 policy.maxAttempts)
    (settled : ¬OutOfRange policy talk)
    (spent : ∀ count last, told = .error (.exhausted count last) →
      policy.maxAttempts ≤ (attemptsIn talk).length ∨ OutOfTime policy talk) :
    Halts policy talk told (some told) where
  concludes := concludes
  bounded := bounded
  spent := fun count last exhausted => (spent count last exhausted).imp_right .inl
  broken := fun broken => absurd broken settled
  answered := fun _ => rfl

theorem Halts.ending_of_charged {told : Except ClientError Charge}
    {ending : Option (Except ClientError Charge)} {charge : Charge}
    (halts : Halts policy talk told ending) (charged : Concludes (attemptsIn talk) (.ok charge)) :
    ending = some (.ok charge) := by
  obtain rfl := halts.concludes.unique charged
  refine halts.answered fun broken => ?_
  obtain ⟨_, _, _, _, failed⟩ := halts.broken broken
  cases failed

theorem Halts.outOfRange {told : Except ClientError Charge} (halts : Halts policy talk told none) :
    OutOfRange policy talk := by
  by_contra inRange
  cases halts.answered inRange

theorem Halts.eq_of_answered {told answer : Except ClientError Charge}
    {ending : Option (Except ClientError Charge)} (halts : Halts policy talk told ending)
    (answered : ending = some answer) : answer = told := by
  have inRange : ¬OutOfRange policy talk := fun broken =>
    Option.some_ne_none answer (answered.symm.trans (halts.broken broken).1)
  exact Option.some.inj (answered.symm.trans (halts.answered inRange))

theorem once_keeps {onTransient : Failure → GatewayWorkflow (Option (Except ClientError Charge))}
    (tried : ∀ attempt ∈ attemptsIn talk, attempt.Transient)
    (room : (attemptsIn talk).length < max 1 policy.maxAttempts)
    (onward : ∀ talk' last failure, talk <+: talk' → attemptsIn talk' = attemptsIn talk ++ [last] →
      ¬OutOfRange policy talk' → last.failure? = some failure → failure.isTransient = true →
      Keeps (mayCall call) (fun talk ending => ∃ told, Halts policy talk told ending)
        (onTransient failure) talk') :
    Keeps (mayCall call) (fun talk ending => ∃ told, Halts policy talk told ending)
      (Retry.once policy call started onTransient) talk := by
  refine ⟨trivial, fun now => ⟨rfl, ?_⟩⟩
  have grown : ∀ limit answer,
      talk <+: talk ++ [⟨.clock, now⟩] ++ [⟨.call call limit, answer⟩] := by
    intro limit answer
    rw [List.append_assoc]
    exact List.prefix_append _ _
  have made : ∀ limit answer, attemptsIn (talk ++ [⟨.clock, now⟩] ++ [⟨.call call limit, answer⟩]) =
      attemptsIn talk ++ [⟨call, limit, answer⟩] := by
    intro limit answer
    rw [attemptsIn_append, attemptsIn_quiet rfl]
    rfl
  have bounded : ∀ limit answer,
      (attemptsIn (talk ++ [⟨.clock, now⟩] ++ [⟨.call call limit, answer⟩])).length ≤
        max 1 policy.maxAttempts := by
    intro limit answer
    rw [made, List.length_append]
    exact room
  have settled : ∀ limit answer,
      ¬OutOfRange policy (talk ++ [⟨.clock, now⟩] ++ [⟨.call call limit, answer⟩]) :=
    fun limit answer => not_leadsTo_call limit answer none
  rintro (_ | failure | charge)
  · exact onward _ _ _ (grown _ none) (made _ none) (settled _ none) rfl rfl
  · simp only
    split
    · rename_i again
      exact onward _ _ _ (grown _ _) (made _ (some (.error failure))) (settled _ _) rfl again
    · rename_i final
      refine ⟨_, .of_settled (made _ (some (.error failure)) ▸ .terminal tried rfl ?_) (bounded _ _)
        (settled _ _) (by simp)⟩
      simpa using final
  · exact ⟨_, .of_settled (made _ (some (.ok charge)) ▸ .charged tried) (bounded _ _) (settled _ _)
      (by simp)⟩

theorem attempt_keeps (more number : Nat) (count : number = (attemptsIn talk).length + 1)
    (left : number + more = max 1 policy.maxAttempts) (begun : talk.head? = some ⟨.clock, started⟩)
    (tried : ∀ attempt ∈ attemptsIn talk, attempt.Transient) :
    Keeps (mayCall call) (fun talk ending => ∃ told, Halts policy talk told ending)
      (Retry.attempt policy call started more number) talk := by
  -- On the attempts that are left: those before have all failed for the moment and are numbered.
  induction more generalizing talk number with
  | zero =>
      refine once_keeps tried (by omega) fun talk' last failure _ made settled failed again => ?_
      have length : (attemptsIn talk').length = number := by
        rw [made, List.length_append, List.length_singleton, count]
      refine ⟨.error (.exhausted number failure), .of_settled ?_ (by omega) settled
        fun _ _ _ => .inl (by omega)⟩
      rw [made, count]
      exact .exhausted tried failed again
  | succ more ih =>
      refine once_keeps tried (by omega) fun talk' last failure grown made _ failed again =>
        ⟨trivial, fun now => ?_⟩
      have still : attemptsIn (talk' ++ [⟨.clock, now⟩]) = attemptsIn talk ++ [last] :=
        (attemptsIn_quiet rfl).trans made
      have length : (attemptsIn (talk' ++ [⟨.clock, now⟩])).length = number := by
        rw [still, List.length_append, List.length_singleton, count]
      have first : (talk' ++ [⟨.clock, now⟩] : GatewayTalk).head? = some ⟨.clock, started⟩ := by
        obtain ⟨rest, rfl⟩ := grown
        rw [List.append_assoc, List.head?_append, begun, Option.some_or]
      have leads : LeadsTo policy (talk' ++ [⟨.clock, now⟩])
          (Duration.plus? (now - started) (policy.delayAfter number)) :=
        ⟨started, now, first, List.getLast?_concat, by rw [length]⟩
      have concludes : Concludes (attemptsIn (talk' ++ [⟨.clock, now⟩]))
          (.error (.exhausted number failure)) := by
        rw [still, count]
        exact .exhausted tried failed again
      simp only
      split
      · rename_i long
        rw [long] at leads
        exact ⟨_,
          { concludes, bounded := by omega
            spent := fun _ _ _ => .inr (.inr leads)
            broken := fun _ => ⟨rfl, by omega, number, failure, rfl⟩
            answered := fun settled => absurd leads settled }⟩
      · rename_i spent short
        rw [short] at leads
        have settled : ¬OutOfRange policy (talk' ++ [⟨.clock, now⟩]) := fun broken =>
          Option.some_ne_none spent (leads.unique broken)
        split
        · rename_i late
          exact ⟨_, .of_settled concludes (by omega) settled
            fun _ _ _ => .inr ⟨spent, leads, late⟩⟩
        · refine ⟨trivial, fun woken => ih _ ?_ (by omega) ?_ ?_⟩
          · rw [attemptsIn_quiet rfl, length]
          · rw [List.head?_append, first, Option.some_or]
          · intro attempt member
            rw [attemptsIn_quiet rfl, still] at member
            rcases List.mem_append.mp member with old | new
            · exact tried attempt old
            · rw [List.mem_singleton.mp new]
              exact ⟨failure, failed, again⟩

theorem keeps_calls {workflow : GatewayWorkflow α} {goal : GatewayTalk → α → Prop}
    (keeps : Keeps (mayCall call) goal workflow talk)
    (same : ∀ attempt ∈ attemptsIn talk, attempt.call = call) :
    Keeps (mayCall call)
      (fun talk result => goal talk result ∧ ∀ attempt ∈ attemptsIn talk, attempt.call = call)
      workflow talk := by
  induction workflow generalizing talk with
  | done result => exact ⟨keeps, same⟩
  | ask action next ih =>
      refine ⟨keeps.1, fun reply => ih reply (keeps.2 reply) fun attempt member => ?_⟩
      rw [attemptsIn_append] at member
      rcases List.mem_append.mp member with old | new
      · exact same attempt old
      · cases action with
        | call other limit =>
            rw [Option.mem_toList] at new
            cases new
            exact keeps.1
        | sleep _ => cases new
        | clock => cases new

/-- An operation at the gateway makes one call again and again until it ends. -/
theorem retry_halts (silent : talk = []) :
    Keeps (mayCall call)
      (fun talk ending => (∃ told, Halts policy talk told ending) ∧
        ∀ attempt ∈ attemptsIn talk, attempt.call = call)
      (Retry.run policy call) talk := by
  subst silent
  refine keeps_calls ⟨trivial, fun started => ?_⟩ (by simp [attemptsIn])
  exact attempt_keeps _ 1 rfl (by omega) rfl (by simp [attemptsIn, attempt?])

def Makes (call : Call) (action : GatewayAction) : Prop :=
  ∀ other limit, action = .call other limit → other = call

theorem makes_once {onTransient : Failure → GatewayWorkflow (Option (Except ClientError Charge))}
    (onward : ∀ failure, Asks (Makes call) (onTransient failure)) :
    Asks (Makes call) (Retry.once policy call started onTransient) := by
  refine ⟨fun _ _ => GatewayAction.noConfusion, fun now => ⟨?_, ?_⟩⟩
  · rintro other limit ⟨⟩
    rfl
  · rintro (_ | failure | charge)
    · exact onward _
    · simp only
      split
      · exact onward _
      · trivial
    · trivial

theorem makes_attempt (started : Duration) (more number : Nat) :
    Asks (Makes call) (Retry.attempt policy call started more number) := by
  induction more generalizing number with
  | zero => exact makes_once fun _ => trivial
  | succ more ih =>
      refine makes_once fun failure => ⟨fun _ _ => GatewayAction.noConfusion, fun now => ?_⟩
      simp only
      split
      · trivial
      · split
        · trivial
        · exact ⟨fun _ _ => GatewayAction.noConfusion, fun _ => ih _⟩

theorem makes_retry : Asks (Makes call) (Retry.run policy call) :=
  ⟨fun _ _ => GatewayAction.noConfusion, fun started => makes_attempt started _ _⟩

end

end Interleaving

end Payments
