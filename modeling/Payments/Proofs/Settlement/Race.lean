import Payments.Proofs.Settlement.Writers

/-!
Settlements that race to decide an open payment. The first commit decides it for good, so that
there is one winner, and all others find the payment decided.
-/

namespace Payments

namespace Status

def outcomes : List Status := [.succeeded, .canceled, .failed]

theorem not_canMoveTo_outcome :
    ∀ source ∈ outcomes, ∀ target ∈ outcomes, source.canMoveTo target = false := by
  decide

theorem canMoveTo_outcome {source target : Status} (isOpen : source.isTerminal = false)
    (outcome : target ∈ outcomes) : source.canMoveTo target = true := by
  simp only [outcomes, List.mem_cons, List.not_mem_nil, or_false] at outcome
  rcases outcome with rfl | rfl | rfl <;> cases source <;> simp_all [isTerminal, canMoveTo]

end Status

namespace Interleaving.Writer

/-- The settlements of a reference each ask for a final outcome, and may start over once at
least. -/
structure Racing (writers : List Writer) (reference : Reference) : Prop where
  outcome : ∀ (client : Nat) update attempts,
    writers[client]? = some (.settle reference update attempts) → update.status ∈ Status.outcomes
  again : ∀ (client : Nat) update attempts,
    writers[client]? = some (.settle reference update attempts) → 2 ≤ attempts

section

variable {writers : List Writer} {reference : Reference} {store : Store} {initial : Payment}
  {moment : Moment StoreAction.Reply Stamp Store}

theorem Reached.lineage (reached : Reached writers store moment)
    (stored : store.find? reference = some initial) :
    Payment.Lineage (some initial) (storeAccess.recordsOf reference moment.past)
      (moment.state.find? reference) :=
  stored ▸ Leads.lineage_past reached storeAccess.toStoreView reference

theorem settles_of_record (reached : Reached writers store moment)
    (stored : store.find? reference = some initial) {step : StoreStep} {record : Payment}
    (member : step ∈ moment.past) (recorded : storeAccess.record? step = some record)
    (own : record.reference = reference) :
    ∃ update attempts, writers[step.client]? = some (.settle reference update attempts) ∧
      record.status = update.status := by
  obtain ⟨earlier, later, split⟩ := List.append_of_mem member
  obtain ⟨reachedBefore, faithful, _⟩ := reached.at_step earlier step later split (Nat.zero_le _)
  have before : Reached writers store ⟨step.before, earlier⟩ := reachedBefore
  obtain ⟨current, held, _⟩ := (before.lineage stored).stays
  obtain ⟨steps, grown, permitted⟩ := reached.past
  have whole : moment.past = steps := grown
  obtain ⟨_, _, writer, known, may⟩ := permitted step (whole ▸ member)
  rw [faithful] at recorded
  change StoreAction.committed? _ (step.before.act step.choice step.action).1 = some record
    at recorded
  cases writer with
  | create payment =>
      change step.action = _ at may
      rw [may] at recorded
      obtain ⟨absent, rfl⟩ := Store.committed_create recorded
      rw [Payment.reference_record] at own
      rw [own] at absent
      rw [absent] at held
      cases held
  | settle other update attempts =>
      rcases may with find | ⟨read, write⟩
      · rw [find] at recorded
        cases recorded
      · rw [write] at recorded
        obtain ⟨current, found, _, _, rfl⟩ := Store.committed_update recorded
        have same := (Store.find?_reference found).symm.trans own
        subst same
        exact ⟨update, attempts, known, rfl⟩

inductive Placed (initial current : Payment) (client : Nat) (update : StatusUpdate)
    (past : List StoreStep) : Except StoreError Settlement → Prop
  | won {step : StoreStep} : step ∈ past → step.client = client →
      storeAccess.record? step = some current → current.status = update.status →
      Placed initial current client update past (.ok (.applied initial current))
  | agreed : storeAccess.commitsBy client past = [] → current.status = update.status →
      Placed initial current client update past (.ok (.unchanged current))
  | lost : storeAccess.commitsBy client past = [] → current.status ≠ update.status →
      Placed initial current client update past
        (.ok (.rejected current ⟨current.status, update.status⟩))

section

variable (racing : Racing writers reference) (reached : Reached writers store moment)
  (stored : store.find? reference = some initial)

include racing reached stored

theorem record_outcome :
    ∀ record ∈ storeAccess.recordsOf reference moment.past, record.status ∈ Status.outcomes := by
  intro record member
  obtain ⟨⟨step, known, recorded⟩, own⟩ := storeAccess.mem_recordsOf.mp member
  obtain ⟨update, attempts, settles, status⟩ := settles_of_record reached stored known recorded own
  rw [status]
  exact racing.outcome step.client update attempts settles

theorem length_recordsOf_le_one :
    (storeAccess.recordsOf reference moment.past).length ≤ 1 := by
  have decided := record_outcome racing reached stored
  have moves := (reached.lineage stored).moves
  cases records : storeAccess.recordsOf reference moment.past with
  | nil => simp
  | cons first others =>
      cases others with
      | nil => simp
      | cons second others =>
          rw [records] at moves decided
          simp only [Option.toList_some, List.singleton_append, List.isChain_cons_cons] at moves
          have stuck := Status.not_canMoveTo_outcome _ (decided first (by simp)) _
            (decided second (by simp))
          rw [moves.2.1] at stuck
          cases stuck

theorem recordsOf_eq_of_mem {record : Payment}
    (member : record ∈ storeAccess.recordsOf reference moment.past) :
    storeAccess.recordsOf reference moment.past = [record] := by
  have bound := length_recordsOf_le_one racing reached stored
  obtain ⟨only, records⟩ :=
    List.length_eq_one_iff.mp (Nat.le_antisymm bound (List.length_pos_of_mem member))
  rw [records, List.mem_singleton] at member
  rw [records, member]

theorem stored_at_step {earlier later : List StoreStep} {step : StoreStep}
    (split : moment.past = earlier ++ step :: later) :
    storeAccess.stored step.before reference = some initial ∨
    ∃ current, storeAccess.stored step.before reference = some current ∧
      storeAccess.recordsOf reference moment.past = [current] := by
  obtain ⟨reachedBefore, _, _⟩ := reached.at_step earlier step later split (Nat.zero_le _)
  have before : Reached writers store ⟨step.before, earlier⟩ := reachedBefore
  have lineage := before.lineage stored
  obtain ⟨current, held, _⟩ := lineage.stays
  rw [held] at lineage
  rcases lineage.eq_nil_or_mem with ⟨_, same⟩ | committed
  · rw [same]
    exact .inl held
  · refine .inr ⟨current, held, recordsOf_eq_of_mem racing reached stored ?_⟩
    rw [split, StoreView.recordsOf_append]
    exact List.mem_append_left _ committed

theorem eq_initial_of_legal {earlier later : List StoreStep} {step : StoreStep} {found : Payment}
    {target : Status} (split : moment.past = earlier ++ step :: later)
    (held : storeAccess.stored step.before reference = some found)
    (legal : found.status.canMoveTo target = true) (outcome : target ∈ Status.outcomes) :
    found = initial := by
  rcases stored_at_step racing reached stored split with first | ⟨current, decided, records⟩
  · rw [held] at first
    exact Option.some.inj first
  · rw [held] at decided
    cases decided
    have final := record_outcome racing reached stored found (by simp [records])
    rw [Status.not_canMoveTo_outcome _ final _ outcome] at legal
    cases legal

theorem decided_of_illegal {earlier later : List StoreStep} {step : StoreStep} {found : Payment}
    {target : Status} (isOpen : initial.status.isTerminal = false)
    (split : moment.past = earlier ++ step :: later)
    (held : storeAccess.stored step.before reference = some found)
    (illegal : found.status.canMoveTo target = false) (outcome : target ∈ Status.outcomes) :
    storeAccess.recordsOf reference moment.past = [found] := by
  rcases stored_at_step racing reached stored split with first | ⟨current, decided, records⟩
  · rw [held] at first
    cases first
    rw [Status.canMoveTo_outcome isOpen outcome] at illegal
    cases illegal
  · rw [held] at decided
    cases decided
    exact records

theorem contended_le_one {client count : Nat}
    (contended : Contended storeAccess.toStoreView client reference count moment.past) :
    count ≤ 1 := by
  obtain ⟨before, during, after, span, enough⟩ := contended
  have within : during.Sublist moment.past := by
    rw [span.parts]
    exact (List.sublist_append_right before during).trans (List.sublist_append_left _ after)
  calc count
      ≤ during.countP fun step => step.client ≠ client && storeAccess.commits reference step :=
        enough
    _ ≤ during.countP (storeAccess.commits reference) := by
        refine List.countP_mono_left fun step _ counted => ?_
        exact (Bool.and_eq_true_iff.mp counted).2
    _ ≤ moment.past.countP (storeAccess.commits reference) := within.countP_le
    _ ≤ 1 := by
        rw [← storeAccess.length_recordsOf]
        exact length_recordsOf_le_one racing reached stored

theorem placed (isOpen : initial.status.isTerminal = false) {client : Nat} {update : StatusUpdate}
    {attempts : Nat} {written : Written}
    (known : writers[client]? = some (.settle reference update attempts))
    (goal : (Writer.settle reference update attempts).Goal client written moment.past) :
    ∃ current result, written = .settled result ∧
      storeAccess.recordsOf reference moment.past = [current] ∧
      Placed initial current client update moment.past result := by
  have outcome := racing.outcome client update attempts known
  cases written with
  | created result => exact goal.accounted.elim
  | settled result =>
      obtain ⟨earlier, last, later, split, own, _, explains, commits⟩ := goal.accounted
      have member : last ∈ moment.past := by simp [split]
      cases explains with
      | @applied previous _ held legal _ recorded =>
          have same : previous.reference = reference := Store.find?_reference held
          have record := storeAccess.mem_recordsOf.mpr ⟨⟨last, member, recorded⟩, same⟩
          have records := recordsOf_eq_of_mem racing reached stored record
          cases eq_initial_of_legal racing reached stored split held legal outcome
          exact ⟨_, _, rfl, records, .won member own recorded rfl⟩
      | unchanged _ held same _ =>
          have illegal := Status.not_canMoveTo_outcome _ outcome _ outcome
          nth_rewrite 1 [← same] at illegal
          have records :=
            decided_of_illegal racing reached stored isOpen split held illegal outcome
          exact ⟨_, _, rfl, records, .agreed commits same⟩
      | rejected _ held different illegal _ =>
          have records :=
            decided_of_illegal racing reached stored isOpen split held illegal outcome
          exact ⟨_, _, rfl, records, .lost commits different⟩
      | missing _ absent _ =>
          rcases stored_at_step racing reached stored split with first | ⟨current, found, _⟩
          · rw [first] at absent
            cases absent
          · rw [found] at absent
            cases absent
      | conflict _ _ _ _ =>
          have contended := goal.contended reference update attempts _ rfl rfl
          have bound := contended_le_one racing reached stored contended
          have again := racing.again client update attempts known
          omega

theorem placed_as_recorded (isOpen : initial.status.isTerminal = false) {current : Payment}
    (records : storeAccess.recordsOf reference moment.past = [current])
    {client : Nat} {update : StatusUpdate} {attempts : Nat} {written : Written}
    (known : writers[client]? = some (.settle reference update attempts))
    (goal : (Writer.settle reference update attempts).Goal client written moment.past) :
    ∃ result, written = .settled result ∧
      Placed initial current client update moment.past result := by
  obtain ⟨decided, result, isResult, records', placed⟩ :=
    placed racing reached stored isOpen known goal
  rw [records] at records'
  cases records'
  exact ⟨result, isResult, placed⟩

end

theorem eq_of_records {past : List StoreStep} {current record : Payment} {step other : StoreStep}
    (records : storeAccess.recordsOf reference past = [current]) (known : step ∈ past)
    (recorded : storeAccess.record? step = some record) (own : record.reference = reference)
    (known' : other ∈ past) (recorded' : storeAccess.record? other = some record) :
    step = other := by
  have alone : (past.filter (storeAccess.commits reference)).length = 1 := by
    rw [← List.countP_eq_length_filter, ← storeAccess.length_recordsOf, records]
    rfl
  obtain ⟨only, filtered⟩ := List.length_eq_one_iff.mp alone
  have isOnly : ∀ step ∈ past, storeAccess.record? step = some record → step = only := by
    intro step member recorded
    have commits : step ∈ past.filter (storeAccess.commits reference) :=
      List.mem_filter.mpr ⟨member, by simp [StoreView.commits, recorded, own]⟩
    rw [filtered] at commits
    exact List.mem_singleton.mp commits
  rw [isOnly step known recorded, isOnly other known' recorded']

/-- One of the settlements of the reference wrote what it asked for, and all others found that. -/
structure Decides (writers : List Writer) (results : Nat → Option Written) (reference : Reference)
    (initial current : Payment) (winner : Nat) (update : StatusUpdate) : Prop where
  races : ∃ attempts, writers[winner]? = some (.settle reference update attempts)
  won : results winner = some (.settled (.ok (.applied initial current)))
  status : current.status = update.status
  version : current.version = initial.version + 1
  others : ∀ (client : Nat) other attempts,
    writers[client]? = some (.settle reference other attempts) → client ≠ winner →
    results client = some (.settled (.ok
      (if other.status = update.status then .unchanged current
      else .rejected current ⟨update.status, other.status⟩)))

theorem one_winner (racing : Racing writers reference) (reached : Reached writers store moment)
    (stored : store.find? reference = some initial) (isOpen : initial.status.isTerminal = false)
    {results : Nat → Option Written} {racer : Nat} {asked : StatusUpdate} {attempts : Nat}
    (races : writers[racer]? = some (.settle reference asked attempts))
    (done : ∀ (client : Nat) update attempts,
      writers[client]? = some (.settle reference update attempts) →
      ∃ written, results client = some written ∧
        (Writer.settle reference update attempts).Goal client written moment.past) :
    ∃ winner update current, Decides writers results reference initial current winner update ∧
      moment.state.find? reference = some current := by
  obtain ⟨_, _, goal⟩ := done racer asked attempts races
  obtain ⟨current, _, _, records, _⟩ := placed racing reached stored isOpen races goal
  have isRecord : current ∈ storeAccess.recordsOf reference moment.past := by simp [records]
  obtain ⟨⟨step, member, recorded⟩, own⟩ := storeAccess.mem_recordsOf.mp isRecord
  obtain ⟨update, bound, wins, status⟩ := settles_of_record reached stored member recorded own
  have lineage := reached.lineage stored
  rw [records] at lineage
  have final : moment.state.find? reference = some current := lineage.last.symm
  have version := lineage.version
  rw [final] at version
  refine ⟨step.client, update, current, ⟨⟨bound, wins⟩, ?_, status, version, ?_⟩, final⟩
  · obtain ⟨written, finished, goal⟩ := done step.client update bound wins
    obtain ⟨result, rfl, placed⟩ :=
      placed_as_recorded racing reached stored isOpen records wins goal
    have committed : step ∈ storeAccess.commitsBy step.client moment.past :=
      List.mem_filter.mpr ⟨member, by simp [recorded]⟩
    cases placed with
    | won _ _ _ _ => exact finished
    | agreed idle _ => simp [idle] at committed
    | lost idle _ => simp [idle] at committed
  · intro client other attempts known different
    obtain ⟨written, finished, goal⟩ := done client other attempts known
    obtain ⟨result, rfl, placed⟩ :=
      placed_as_recorded racing reached stored isOpen records known goal
    rw [finished]
    cases placed with
    | won member' isClient recorded' _ =>
        have same := eq_of_records records member recorded own member' recorded'
        exact absurd (isClient.symm.trans (congrArg Step.client same.symm)) different
    | agreed _ same =>
        rw [status] at same
        rw [if_pos same.symm]
    | lost _ different =>
        rw [status] at different ⊢
        rw [if_neg (Ne.symm different)]

/-- Settlements that race to decide an open payment, amid creations and settlements of other
payments: once they are all done, one of them won and all others agree with it or are rejected. Any
settlement fails only by conflicts, and only when others committed to its reference as often as it
tried while it was at it. -/
theorem race_decided_once (writers : List Writer) (store : Store) (turns : List (Nat × Stamp)) :
    let pool := (pool writers store).run Store.act turns
    (∀ reference initial, store.find? reference = some initial →
      initial.status.isTerminal = false →
      Racing writers reference →
      (∃ (client : Nat) (update : StatusUpdate) (attempts : Nat),
        writers[client]? = some (.settle reference update attempts)) →
      (∀ (client : Nat) update attempts,
        writers[client]? = some (.settle reference update attempts) →
        (pool.result? client).isSome) →
      ∃ winner update current,
        Decides writers pool.result? reference initial current winner update ∧
        pool.moment.state.find? reference = some current) ∧
    (∀ (client : Nat) reference update attempts error,
      writers[client]? = some (.settle reference update attempts) →
      pool.result? client = some (.settled (.error error)) →
      (∃ read found, error = .conflict reference.text read found) ∧
      Contended storeAccess.toStoreView client reference (max 1 attempts) pool.moment.past) := by
  intro pool
  refine ⟨?_, ?_⟩
  · intro reference initial stored isOpen racing someone done
    obtain ⟨racer, asked, attempts, races⟩ := someone
    refine one_winner racing (run_kept writers store turns).reached stored isOpen races ?_
    intro client update attempts known
    obtain ⟨written, finished⟩ := Option.isSome_iff_exists.mp (done client update attempts known)
    exact ⟨written, finished, goal_of_result known finished⟩
  · intro client reference update attempts error known failed
    have goal := goal_of_result known failed
    refine ⟨?_, goal.contended reference update attempts error rfl rfl⟩
    obtain ⟨_, _, _, _, _, _, explains, _⟩ := goal.accounted
    cases explains with
    | conflict _ _ _ _ => exact ⟨_, _, rfl⟩

end

theorem racing_twoRacers : Racing twoRacers openPayment.reference where
  outcome := by
    intro client update attempts known
    match client with
    | 0 => cases known; decide
    | 1 => cases known; decide
    | client + 2 => simp [twoRacers] at known
  again := by
    intro client update attempts known
    match client with
    | 0 => cases known; decide
    | 1 => cases known; decide
    | client + 2 => simp [twoRacers] at known

theorem race_decided_once_closeRace :
    ∃ winner update current,
      Decides twoRacers closeRace.result? openPayment.reference openPayment current winner update ∧
      closeRace.moment.state.find? openPayment.reference = some current := by
  refine (race_decided_once twoRacers ⟨[openPayment]⟩ _).1 openPayment.reference openPayment rfl rfl
    racing_twoRacers ⟨0, _, _, rfl⟩ ?_
  intro client update attempts known
  refine closeRace_finished client ?_
  simpa [closeRace, Pool.length_clients_run, pool] using (List.getElem?_eq_some_iff.mp known).1

end Interleaving.Writer

end Payments
