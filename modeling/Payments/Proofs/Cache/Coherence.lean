import Payments.Proofs.Interleaving.Service

/-!
Readers that go through the cache, amid writers that evict what they committed at some later time.
The cache only ever holds versions that were committed, none older than one that was evicted, and
while no eviction is outstanding it holds what is stored.
-/

namespace Payments.Interleaving

/-- A version of the reference that the store has held: the one it had at first, or a committed
one. -/
def Known (store : Store) (past : List ServiceStep) (reference : Reference) (payment : Payment) :
    Prop :=
  payment ∈ (store.find? reference).toList ++ worldAccess.recordsOf reference past

/-- The eviction of that version has reached the cache. -/
def Evicted (past : List ServiceStep) (reference : Reference) (version : Int) : Prop :=
  ∃ step ∈ past, step.action.evicted? step.reply = some (reference, version)

/-- Some version of the reference was committed, and its eviction has not reached the cache yet. -/
def Outstanding (past : List ServiceStep) (reference : Reference) : Prop :=
  ∃ record ∈ worldAccess.recordsOf reference past, ¬ Evicted past reference record.version

def permits (store : Store) (_ : Nat) (now : ServiceMoment) : Action → Prop
  | .here (.fill payment) => Known store now.past payment.reference payment
  | .here (.evict reference version) =>
    ∃ payment, Known store now.past reference payment ∧ payment.version = version
  | _ => True

abbrev Reached (store : Store) (now : ServiceMoment) : Prop :=
  Leads World.perform (permits store) (fun _ => True) ⟨{ store }, []⟩ now

section

variable {store : Store} {past steps : List ServiceStep} {reference : Reference} {version : Int}
  {payment : Payment} {now later : ServiceMoment}

theorem Known.append (known : Known store past reference payment) :
    Known store (past ++ steps) reference payment := by
  rw [Known, StoreView.recordsOf_append, ← List.append_assoc]
  exact List.mem_append_left _ known

theorem evicted_append :
    Evicted (past ++ steps) reference version ↔
      Evicted past reference version ∨ Evicted steps reference version := by
  simp only [Evicted, List.mem_append, or_and_right, exists_or]

theorem evicted_singleton {step : ServiceStep} :
    Evicted [step] reference version ↔
      step.action.evicted? step.reply = some (reference, version) := by
  simp [Evicted]

theorem Reached.lineage (reached : Reached store now) (reference : Reference) :
    Payment.Lineage (store.find? reference) (worldAccess.recordsOf reference now.past)
      (now.state.store.find? reference) :=
  Leads.lineage_past reached worldAccess.toStoreView reference

theorem Reached.known_stored (reached : Reached store now)
    (stored : now.state.store.find? reference = some payment) :
    Known store now.past reference payment := by
  have last := (reached.lineage reference).last
  rw [stored] at last
  exact List.mem_of_getLast? last

theorem Reached.newest (reached : Reached store now)
    (known : Known store now.past reference payment) :
    ∃ current, now.state.store.find? reference = some current ∧
      payment.version ≤ current.version ∧
      (payment.version = current.version → payment = current) := by
  have lineage := reached.lineage reference
  obtain ⟨older, equal⟩ := lineage.newest payment known
  have last := lineage.last
  cases stored : now.state.store.find? reference with
  | none =>
      rw [stored, List.getLast?_eq_none_iff] at last
      rw [Known, last] at known
      cases known
  | some current =>
      rw [stored] at older equal
      exact ⟨current, rfl, older, fun same => (Option.some.inj (equal same)).symm⟩

structure Coherent (store : Store) (now : ServiceMoment) : Prop where
  cached : ∀ reference payment, now.state.cache.slot? reference = some (.cached payment) →
    Known store now.past reference payment
  floor : ∀ reference version, Evicted now.past reference version →
    ∃ slot, now.state.cache.slot? reference = some slot ∧ version ≤ slot.version
  evicted : ∀ reference version, Evicted now.past reference version →
    ∃ payment, Known store now.past reference payment ∧ payment.version = version

theorem change_next (now : ServiceMoment) (client : Nat) (choice : Circumstances)
    (action : Action) :
    now.state.cache.Change (action.filled? (now.step World.perform client choice action).reply)
      (action.evicted? (now.step World.perform client choice action).reply)
      (now.next World.perform client choice action).state.cache :=
  World.perform_change choice action now.state

theorem coherent_of_reached (reached : Reached store now) : Coherent store now := by
  induction reached with
  | refl =>
      refine ⟨?_, ?_, ?_⟩
      · intro reference payment held
        cases held
      · rintro reference version ⟨step, member, _⟩
        cases member
      · rintro reference version ⟨step, member, _⟩
        cases member
  | @step now client action choice _ _ permitted ih =>
      have change := change_next now client choice action
      have evicted : ∀ reference version,
          Evicted (now.next World.perform client choice action).past reference version →
          Evicted now.past reference version ∨
            action.evicted? (now.step World.perform client choice action).reply =
              some (reference, version) := by
        intro reference version landed
        rwa [Moment.next, evicted_append, evicted_singleton] at landed
      refine ⟨?_, ?_, ?_⟩
      · intro reference payment held
        rcases change.cached held with before | ⟨filled, rfl⟩
        · exact (ih.cached reference payment before).append
        · rw [Action.eq_of_filled? filled] at permitted
          exact Known.append permitted
      · intro reference version landed
        rcases evicted reference version landed with before | newest
        · obtain ⟨slot, held, older⟩ := ih.floor reference version before
          obtain ⟨next, heldNext, onward⟩ := change.version_le held
          exact ⟨next, heldNext, Int.le_trans older onward⟩
        · rw [newest] at change
          exact change.evicted_le
      · intro reference version landed
        rcases evicted reference version landed with before | newest
        · obtain ⟨payment, known, same⟩ := ih.evicted reference version before
          exact ⟨payment, known.append, same⟩
        · rw [Action.eq_of_evicted? newest] at permitted
          obtain ⟨payment, known, same⟩ := permitted
          exact ⟨payment, known.append, same⟩

theorem version_le_of_leads {may : Nat → ServiceMoment → Action → Prop} {who : Nat → Prop}
    (leads : Leads World.perform may who now later) {slot : CacheSlot}
    (held : now.state.cache.slot? reference = some slot) :
    ∃ next, later.state.cache.slot? reference = some next ∧ slot.version ≤ next.version := by
  induction leads with
  | refl => exact ⟨slot, held, Int.le_refl _⟩
  | @step now client action choice _ _ _ ih =>
      obtain ⟨next, heldNext, older⟩ := ih
      obtain ⟨last, heldLast, onward⟩ := (change_next now client choice action).version_le heldNext
      exact ⟨last, heldLast, Int.le_trans older onward⟩

theorem Coherent.current (coherent : Coherent store now) (reached : Reached store now)
    (settled : ¬ Outstanding now.past reference)
    (held : now.state.cache.slot? reference = some (.cached payment)) :
    now.state.store.find? reference = some payment := by
  have known := coherent.cached reference payment held
  obtain ⟨current, stored, older, equal⟩ := reached.newest known
  have lineage := reached.lineage reference
  rw [stored] at lineage
  rcases lineage.eq_nil_or_mem with ⟨none, same⟩ | committed
  · rw [Known, none, same, List.append_nil, Option.mem_toList] at known
    rw [stored, known]
  · have landed : Evicted now.past reference current.version := by
      by_contra missing
      exact settled ⟨current, committed, missing⟩
    obtain ⟨slot, heldSlot, floor⟩ := coherent.floor reference current.version landed
    rw [held] at heldSlot
    cases heldSlot
    rw [stored, equal (Int.le_antisymm older floor)]

theorem quiet_of_settled (reached : Reached store later) (grown : later.past = past ++ steps)
    (settled : ∀ seen, seen <+: steps → ¬ Outstanding (past ++ seen) reference) :
    worldAccess.recordsOf reference steps = [] := by
  refine List.eq_nil_iff_forall_not_mem.mpr fun record member => ?_
  obtain ⟨⟨step, isStep, recorded⟩, own⟩ := worldAccess.mem_recordsOf.mp member
  obtain ⟨earlier, others, rfl⟩ := List.append_of_mem isStep
  rw [← List.append_assoc] at grown
  obtain ⟨reachedBefore, faithful, _⟩ :=
    reached.at_step (past ++ earlier) step others grown (Nat.zero_le _)
  have before : Reached store ⟨step.before, past ++ earlier⟩ := reachedBefore
  have commit := worldAccess.commit_step ⟨step.before, past ++ earlier⟩ step.client step.choice
    step.action
  rw [← faithful, recorded] at commit
  have version := commit.follows.version
  rw [own] at version
  have landed : Evicted (past ++ (earlier ++ [step])) reference record.version := by
    by_contra missing
    refine settled (earlier ++ [step]) ⟨others, by simp⟩ ⟨record, ?_, missing⟩
    exact worldAccess.mem_recordsOf.mpr ⟨⟨step, by simp, recorded⟩, own⟩
  rw [← List.append_assoc, evicted_append, evicted_singleton] at landed
  rcases landed with known | itself
  · obtain ⟨payment, known, same⟩ := (coherent_of_reached before).evicted reference _ known
    obtain ⟨current, stored, older, _⟩ := before.newest known
    have counted : record.version = current.version + 1 := by
      rw [version]
      exact congrArg (Payment.versionOf · + 1) stored
    omega
  · have nothing : worldAccess.record? step = none := Action.committed?_of_evicted? itself
    rw [nothing] at recorded
    cases recorded

end

end Payments.Interleaving
