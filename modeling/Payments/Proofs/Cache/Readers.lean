import Payments.Proofs.Cache.Coherence
import Payments.Service.Charging

/-!
Clients of the cache: readers that look a payment up, and writers that carry out one store action
and evict afterwards what it committed.
-/

namespace Payments.Interleaving

def storedAnswer (store : Store) (reference : Reference) : Except PaymentError Payment :=
  match store.find? reference with
  | some payment => .ok payment
  | none => .error (.notFound reference.text)

/-- What a reader was told, by what happened before its first step and from there to its last. -/
structure Told (store : Store) (reference : Reference) (told : Except PaymentError Payment)
    (before during : List ServiceStep) : Prop where
  known : ∀ payment, told = .ok payment → Known store (before ++ during) reference payment
  fresh : ∀ version, Evicted before reference version →
    ∃ payment, told = .ok payment ∧ version ≤ payment.version
  exact : (∀ seen, seen <+: during → ¬ Outstanding (before ++ seen) reference) →
    ∀ last, during.getLast? = some last → told = storedAnswer last.after.store reference

inductive CacheUser
  | reader (reference : Reference)
  | writer (action : StoreAction)

abbrev CachePool :=
  Pool Action Action.Reply Circumstances World (Option (Except PaymentError Payment))

namespace CacheUser

def workflow : CacheUser → ServiceWorkflow (Option (Except PaymentError Payment))
  | .reader reference => (lookUp reference).bind fun told => .done (some told)
  | .writer action => .ask (.here (.store action)) fun reply =>
    match action.committed? reply with
    | some record => .ask (.here (.evict record.reference record.version)) fun _ => .done none
    | none => .done none

def pool (users : List CacheUser) (store : Store) : CachePool :=
  { clients := users.map workflow, moment := ⟨{ store }, []⟩ }

end CacheUser

def lookUpStored (reference : Reference) : ServiceWorkflow (Except PaymentError Payment) :=
  .ask (.here (.store (.find reference))) fun
    | .error error => .done (.error (.store error))
    | .ok none => .done (.error (.notFound reference.text))
    | .ok (some payment) => .ask (.here (.fill payment)) fun _ => .done (.ok payment)

theorem lookUp_eq (reference : Reference) :
    lookUp reference = .ask (.here (.cached reference)) fun
      | .ok (some payment) => .done (.ok payment)
      | .ok none | .error _ => lookUpStored reference := by
  rfl

def Reads (store : Store) (client : Nat) (reference : Reference)
    (told : Except PaymentError Payment) (past : List ServiceStep) : Prop :=
  ∃ before during after, Span client past before during after ∧
    Told store reference told before during

section

variable {store : Store} {client : Nat} {reference : Reference} {now : ServiceMoment}
  {told : Except PaymentError Payment} {before past steps : List ServiceStep}

theorem Reads.others (reads : Reads store client reference told past)
    (others : ∀ step ∈ steps, step.client ≠ client) :
    Reads store client reference told (past ++ steps) := by
  obtain ⟨before, during, after, span, isTold⟩ := reads
  exact ⟨before, during, after ++ steps, span.others others, isTold⟩

theorem reads_of_ends {first last : ServiceStep} {middle : List ServiceStep}
    (quiet : ∀ step ∈ before, step.client ≠ client) (begins : first.client = client)
    (ends : last.client = client)
    (isTold : Told store reference told before (first :: middle ++ [last])) :
    Reads store client reference told (before ++ (first :: middle ++ [last])) :=
  ⟨before, _, [], span_of_ends quiet begins ends, isTold⟩

theorem Leads.reached {who : Nat → Prop} {later : ServiceMoment}
    (leads : Leads World.perform (permits store) who now later) (reached : Reached store now) :
    Reached store later :=
  Leads.trans reached (leads.mono fun _ _ => trivial)

theorem Reached.evicted_le (reached : Reached store now) {version : Int}
    (landed : Evicted now.past reference version) :
    ∃ current, now.state.store.find? reference = some current ∧ version ≤ current.version := by
  obtain ⟨payment, known, rfl⟩ := (coherent_of_reached reached).evicted reference version landed
  obtain ⟨current, stored, older, _⟩ := reached.newest known
  exact ⟨current, stored, older⟩

theorem fill_abides {first : ServiceStep} {middle : List ServiceStep} {payment : Payment}
    (reached : Reached store now) (split : now.past = before ++ first :: middle)
    (own : first.client = client) (quiet : ∀ step ∈ before, step.client ≠ client)
    (stored : now.state.store.find? reference = some payment)
    (fresh : ∀ version, Evicted before reference version → version ≤ payment.version) :
    Abides World.perform (permits store) client
      (fun told later => Reads store client reference told later.past)
      (.ask (.here (.fill payment)) fun _ => .done (.ok payment)) now := by
  intro filling others
  obtain ⟨steps, grown, _, lineage⟩ := others.lineage worldAccess.toStoreView reference
  have reachedFilling := others.reached reached
  have known := reached.known_stored stored
  refine ⟨?_, fun choice => ?_⟩
  · change Known store filling.past payment.reference payment
    rw [Store.find?_reference stored, grown]
    exact known.append
  · have ended : (filling.next World.perform client choice (.here (.fill payment))).past =
        before ++ (first :: (middle ++ steps) ++
          [filling.step World.perform client choice (.here (.fill payment))]) := by
      rw [Moment.next, grown, split]
      simp
    change Reads store client reference _ _
    rw [ended]
    refine reads_of_ends quiet own rfl ⟨?_, ?_, ?_⟩
    · intro found same
      cases same
      rw [← ended, Moment.next, grown]
      exact known.append.append
    · intro version landed
      exact ⟨payment, rfl, fresh version landed⟩
    · intro settled last isLast
      rw [List.getLast?_concat] at isLast
      cases isLast
      have still : worldAccess.recordsOf reference steps = [] := by
        refine quiet_of_settled reachedFilling (split ▸ grown) fun seen early => ?_
        rw [List.append_assoc]
        refine settled _ ?_
        obtain ⟨rest, rfl⟩ := early
        exact ⟨rest ++ [filling.step World.perform client choice (.here (.fill payment))], by simp⟩
      rw [still] at lineage
      have same : filling.state.store.find? reference = some payment :=
        lineage.eq_of_nil.trans stored
      have unchanged : (filling.step World.perform client choice
          (.here (.fill payment))).after.store = filling.state.store :=
        (World.perform_commit choice (.here (.fill payment)) filling.state).eq_of_none
      rw [unchanged, storedAnswer, same]

theorem lookUpStored_abides {first : ServiceStep} (reached : Reached store now)
    (split : now.past = before ++ [first]) (own : first.client = client)
    (quiet : ∀ step ∈ before, step.client ≠ client) :
    Abides World.perform (permits store) client
      (fun told later => Reads store client reference told later.past)
      (lookUpStored reference) now := by
  intro finding others
  refine ⟨trivial, fun choice => ?_⟩
  have reachedFinding := others.reached reached
  obtain ⟨steps, grown, _⟩ := others.past
  rw [split] at grown
  have landed : ∀ version, Evicted before reference version →
      Evicted finding.past reference version := by
    intro version landed
    rw [grown, List.append_assoc, evicted_append]
    exact .inl landed
  have ended : (finding.next World.perform client choice (.here (.store (.find reference)))).past =
      before ++ (first :: steps ++
        [finding.step World.perform client choice (.here (.store (.find reference)))]) := by
    rw [Moment.next, grown]
    simp
  have replied : (World.perform choice (.here (.store (.find reference))) finding.state).1 =
    .ok (finding.state.store.find? reference) := rfl
  rw [replied]
  cases stored : finding.state.store.find? reference with
  | none =>
      change Reads store client reference _ _
      rw [ended]
      refine reads_of_ends quiet own rfl ⟨?_, ?_, ?_⟩
      · intro payment found
        cases found
      · intro version early
        obtain ⟨current, held, _⟩ := reachedFinding.evicted_le (landed version early)
        rw [stored] at held
        cases held
      · intro _ last isLast
        rw [List.getLast?_concat] at isLast
        cases isLast
        change _ = storedAnswer finding.state.store reference
        rw [storedAnswer, stored]
  | some payment =>
      refine fill_abides (reachedFinding.step choice trivial trivial) ended own quiet stored ?_
      intro version early
      obtain ⟨current, held, newer⟩ := reachedFinding.evicted_le (landed version early)
      rw [stored] at held
      cases held
      exact newer

theorem lookUp_abides (reached : Reached store now)
    (quiet : ∀ step ∈ now.past, step.client ≠ client) :
    Abides World.perform (permits store) client
      (fun told later => Reads store client reference told later.past) (lookUp reference) now := by
  rw [lookUp_eq]
  intro looking others
  refine ⟨trivial, fun choice => ?_⟩
  have reachedLooking := others.reached reached
  have coherent := coherent_of_reached reachedLooking
  have quietLooking : ∀ step ∈ looking.past, step.client ≠ client := by
    obtain ⟨steps, grown, foreign⟩ := others.past
    intro step member
    rw [grown] at member
    rcases List.mem_append.mp member with old | new
    · exact quiet step old
    · exact (foreign step new).1
  have reachedNext : Reached store
      (looking.next World.perform client choice (.here (.cached reference))) :=
    reachedLooking.step choice trivial trivial
  have missed : Abides World.perform (permits store) client
      (fun told later => Reads store client reference told later.past) (lookUpStored reference)
      (looking.next World.perform client choice (.here (.cached reference))) :=
    lookUpStored_abides reachedNext rfl rfl quietLooking
  rw [World.perform_cached]
  cases outage : choice.outages .cache with
  | some error => exact missed
  | none =>
      cases held : looking.state.cache.get? reference with
      | none => exact missed
      | some payment =>
          have slot := Cache.slot?_of_get? held
          have known := coherent.cached reference payment slot
          refine ⟨looking.past, [looking.step World.perform client choice
            (.here (.cached reference))], [], span_of_step quietLooking rfl, ?_, ?_, ?_⟩
          · intro found same
            cases same
            exact known.append
          · intro version early
            obtain ⟨kept, heldKept, newer⟩ := coherent.floor reference version early
            rw [slot] at heldKept
            cases heldKept
            exact ⟨payment, rfl, newer⟩
          · intro settled last isLast
            rw [List.getLast?_singleton] at isLast
            cases isLast
            have nothing := settled [] List.nil_prefix
            rw [List.append_nil] at nothing
            have stored := coherent.current reachedLooking nothing slot
            have unchanged : (looking.step World.perform client choice
                (.here (.cached reference))).after.store = looking.state.store :=
              (World.perform_commit choice (.here (.cached reference)) looking.state).eq_of_none
            rw [unchanged, storedAnswer, stored]

namespace CacheUser

theorem write_abides (action : StoreAction) :
    Abides World.perform (permits store) client (fun told _ => told = none)
      (CacheUser.writer action).workflow now := by
  intro writing others
  refine ⟨trivial, fun choice => ?_⟩
  have recorded : worldAccess.record? (worldAccess.step writing client choice action) =
    action.committed? (World.perform choice (.here (.store action)) writing.state).1 := rfl
  beta_reduce
  split
  · rename_i record committed
    rw [committed] at recorded
    intro evicting others'
    refine ⟨⟨record, ?_, rfl⟩, fun _ => rfl⟩
    obtain ⟨steps, grown, _⟩ := others'.past
    rw [grown]
    refine Known.append (List.mem_append_right _ ?_)
    exact worldAccess.mem_recordsOf.mpr ⟨⟨_, List.mem_concat_self, recorded⟩, rfl⟩
  · rfl

def Promise (store : Store) (users : List CacheUser) (client : Nat)
    (told : Option (Except PaymentError Payment)) (now : ServiceMoment) : Prop :=
  ∀ reference, users[client]? = some (.reader reference) →
    ∃ answer, told = some answer ∧ Reads store client reference answer now.past

theorem run_kept (users : List CacheUser) (store : Store) (turns : List (Nat × Circumstances)) :
    Kept World.perform (permits store) (Promise store users) (pool users store).moment
      ((pool users store).run World.perform turns) := by
  refine Pool.run_kept ?_ turns
  intro client workflow found
  simp only [pool, List.getElem?_map, Option.map_eq_some_iff] at found
  obtain ⟨user, known, rfl⟩ := found
  cases user with
  | reader reference =>
      refine Abides.bind (Abides.mono ?_ (lookUp_abides .refl ?_))
      · intro told now reads other isReader
        rw [known] at isReader
        cases isReader
        exact ⟨told, rfl, reads⟩
      · intro step member
        cases member
  | writer action =>
      refine Abides.mono ?_ (write_abides action)
      intro told now _ other isReader
      rw [known] at isReader
      cases isReader

/-- Readers and writers around one cache, which starts out empty, interleaved action by action
while sinks fail as they like. No slot goes back to an older version, the cache holds only versions
that the store has held, and none older than one whose eviction has reached it. What a reader is
told was held by the store too, is no older than any version evicted before it began, and is what
is stored unless an eviction was outstanding while it was reading. -/
theorem run_coherent (users : List CacheUser) (store : Store)
    (turns more : List (Nat × Circumstances)) :
    let pool := (pool users store).run World.perform turns
    (∀ reference slot, pool.moment.state.cache.slot? reference = some slot →
      ∃ next, (pool.run World.perform more).moment.state.cache.slot? reference = some next ∧
        slot.version ≤ next.version) ∧
    (∀ reference payment, pool.moment.state.cache.get? reference = some payment →
      Known store pool.moment.past reference payment ∧
      ∀ version, Evicted pool.moment.past reference version → version ≤ payment.version) ∧
    (∀ (client : Nat) reference told, users[client]? = some (.reader reference) →
      pool.result? client = some told →
      ∃ answer before during after, told = some answer ∧
        Span client pool.moment.past before during after ∧
        Told store reference answer before during) := by
  intro pool
  have kept := run_kept users store turns
  have coherent := coherent_of_reached kept.reached
  refine ⟨?_, ?_, ?_⟩
  · intro reference slot held
    exact version_le_of_leads (pool.run_leads more) held
  · intro reference payment held
    have slot := Cache.slot?_of_get? held
    refine ⟨coherent.cached reference payment slot, ?_⟩
    intro version landed
    obtain ⟨floor, heldFloor, newer⟩ := coherent.floor reference version landed
    rw [slot] at heldFloor
    cases heldFloor
    exact newer
  · intro client reference told isReader finished
    obtain ⟨moment, _, promise, others⟩ := kept.goal_met finished
    obtain ⟨answer, isAnswer, reads⟩ := promise reference isReader
    obtain ⟨steps, grown, foreign⟩ := others.past
    obtain ⟨before, during, after, span, isTold⟩ :=
      reads.others fun step member => (foreign step member).1
    rw [← grown] at span
    exact ⟨answer, before, during, after, isAnswer, span, isTold⟩

end CacheUser

end

namespace CacheUser

def openCharge : NewPayment where
  reference := ⟨"pi_2", by decide, by simp [Text.isBlank]⟩
  userId := "user"
  planId := "plan"
  money := ⟨.hundred, ⟨"EUR", by simp, by simp⟩⟩
  status := .processing
  receiptUrl := none
  customerId := none
  description := none

def calm : Circumstances where
  stamp := default
  outages := Outages.none
  gateway := fun
    | .call _ _ => none
    | .sleep _ => ()
    | .clock => 0

/-- One reader has read the first version when the second is committed and evicted, and fills in
too late; another one reads after it. -/
def slowFill : CachePool :=
  (pool [.writer (.create openCharge), .reader openCharge.reference,
      .writer (.update openCharge.reference 1 { status := .succeeded }),
      .reader openCharge.reference] {}).run World.perform
    [(0, calm), (1, calm), (1, calm), (2, calm), (2, calm), (1, calm), (3, calm), (3, calm),
      (3, calm)]

theorem run_coherent_slowFill :
    ∃ payment, slowFill.moment.state.cache.get? openCharge.reference = some payment ∧
      2 ≤ payment.version := by
  have evicted : Evicted slowFill.moment.past openCharge.reference 2 :=
    ⟨slowFill.moment.past[4], List.getElem_mem _, rfl⟩
  exact ⟨_, rfl, ((run_coherent _ {} _ []).2.1 openCharge.reference _ rfl).2 2 evicted⟩

end CacheUser

end Payments.Interleaving
