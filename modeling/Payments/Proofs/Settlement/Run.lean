import Payments.Proofs.Settlement.Outcome

/-!
One settlement amid any other clients, from its first read to its result. Its result is that of a
single guarded update, carried out at its last call on what was stored at that very moment, and it
gives up only after others committed to its reference as often as it tried.
-/

namespace Payments.Interleaving

variable {Action : Type} {Reply : Action → Type} {Choice σ : Type}
  {perform : Choice → (action : Action) → σ → Reply action × σ}
  {access : StoreAccess perform} {client : Nat} {reference : Reference} {update : StatusUpdate}
  {may : Nat → Moment Reply Choice σ → Action → Prop} {moment : Moment Reply Choice σ}
  {goal : Except StoreError Settlement → Moment Reply Choice σ → Prop}

structure MaySettle (access : StoreAccess perform) (reference : Reference) (update : StatusUpdate)
    (permitted : Moment Reply Choice σ → Action → Prop) : Prop where
  find : ∀ now, permitted now (access.ask (.find reference))
  update : ∀ now read, permitted now (access.ask (.update reference read update))

theorem commitsBy_find {choice : Choice} (idle : access.commitsBy client moment.past = []) :
    access.commitsBy client (access.next moment client choice (.find reference)).past = [] := by
  have own : (access.step moment client choice (.find reference)).client = client := rfl
  rw [access.past_next, commitsBy_append, idle, commitsBy_own own, access.record?_step]
  rfl

theorem once_abides
    {onConflict : StoreError → StoreWorkflow (Except StoreError Settlement)}
    (permits : MaySettle access reference update (may client))
    (idle : access.commitsBy client moment.past = [])
    (settles : ∀ outcome now, Settled access client reference update (.ok outcome) now.past →
      goal (.ok outcome) now)
    (again : ∀ earlier last now conflict, now.past = earlier ++ [last] → last.client = client →
      access.rivals client reference moment.past + 1 ≤ access.rivals client reference now.past →
      Settled access client reference update (.error conflict) now.past →
      Abides perform may client goal (access.within (onConflict conflict)) now) :
    Abides perform may client goal
      (access.within (Settlement.once reference update onConflict)) moment := by
  refine StoreAccess.abides_ask fun reading before => ⟨permits.find reading, fun choice => ?_⟩
  have readIdle := before.commitsBy_eq_nil idle
  have replied : access.reply reading.state choice (.find reference) =
    .ok (access.stored reading.state reference) := rfl
  have unchanged := access.store_next reading client choice (.find reference)
  rw [replied]
  cases stored : access.stored reading.state reference with
  | none =>
      exact settles .missing _
        (access.lastStep_next readIdle (.missing rfl stored unchanged) (by rfl))
  | some read =>
      refine StoreAccess.abides_ask fun writing between => ⟨permits.update writing _, fun now => ?_⟩
      obtain ⟨steps, grown, foreign, lineage⟩ := between.lineage access.toStoreView reference
      have start : access.stored (access.next reading client choice (.find reference)).state
        reference = some read := by
        rw [StoreView.stored, unchanged]
        exact stored
      rw [start] at lineage
      obtain ⟨current, held, _⟩ := lineage.stays
      have answered := update_answered (between.commitsBy_eq_nil (commitsBy_find readIdle)) held now
        read.version update
      generalize access.reply writing.state now (.update reference read.version update) = reply
        at answered
      cases answered with
      | applied version settled => exact settles _ _ settled
      | unchanged version settled => exact settles _ _ settled
      | rejected version settled =>
          have same : current = read := by
            rcases lineage.eq_nil_or with ⟨_, still⟩ | newer
            · rw [held] at still
              exact Option.some.inj still
            · rw [held] at newer
              simp only [Payment.versionOf_some] at newer
              omega
          subst same
          exact settles _ _ settled
      | conflict stale settled =>
          refine again _ _ _ _ (access.past_next ..) rfl ?_ settled
          have committed : 1 ≤ (access.recordsOf reference steps).length := by
            rcases lineage.eq_nil_or with ⟨_, still⟩ | _
            · rw [held] at still
              exact absurd (congrArg Payment.version (Option.some.inj still)) stale
            · have version := lineage.version
              simp only [held, Payment.versionOf_some] at version
              omega
          obtain ⟨waited, grownBefore, _⟩ := before.past
          have own : ∃ step ∈ (access.next reading client choice (.find reference)).past,
              step.client = client := by
            rw [access.past_next]
            exact ⟨_, List.mem_concat_self, rfl⟩
          calc access.rivals client reference moment.past + 1
              ≤ access.rivals client reference
                  (access.next reading client choice (.find reference)).past +
                  (access.recordsOf reference steps).length := by
                refine Nat.add_le_add ?_ committed
                rw [access.past_next, grownBefore, List.append_assoc]
                exact rivals_le_append
            _ = access.rivals client reference writing.past := by
                rw [grown, rivals_append_records own foreign]
            _ ≤ _ := by
                rw [access.past_next]
                exact rivals_le_append

/-- Each attempt that fails is charged to a commit of another client, so that a settlement fails
only when there were as many of these as attempts. -/
theorem attempt_abides (permits : MaySettle access reference update (may client)) (more : Nat)
    (idle : access.commitsBy client moment.past = [])
    (settles : ∀ outcome now, Settled access client reference update (.ok outcome) now.past →
      goal (.ok outcome) now)
    (exhausted : ∀ earlier last now conflict, now.past = earlier ++ [last] →
      last.client = client →
      access.rivals client reference moment.past + more + 1 ≤
        access.rivals client reference now.past →
      Settled access client reference update (.error conflict) now.past →
      goal (.error conflict) now) :
    Abides perform may client goal
      (access.within (Settlement.attempt reference update more)) moment := by
  induction more generalizing moment with
  | zero => exact once_abides permits idle settles exhausted
  | succ more ih =>
      refine once_abides permits idle settles ?_
      intro _ _ retrying conflict _ _ charged settled
      refine ih settled.commits ?_
      intro earlier last now conflict split own further settled
      exact exhausted earlier last now conflict split own (by omega) settled

structure SettleGoal (access : StoreAccess perform) (client : Nat) (reference : Reference)
    (update : StatusUpdate) (attempts : Nat) (result : Except StoreError Settlement)
    (past : List (Step Reply Choice σ)) : Prop where
  settled : Settled access client reference update result past
  contended : ∀ error, result = .error error →
    Contended access.toStoreView client reference (max 1 attempts) past

theorem settle_abides (permits : MaySettle access reference update (may client)) (attempts : Nat)
    (idle : access.commitsBy client moment.past = []) :
    Abides perform may client
      (fun result now => SettleGoal access client reference update attempts result now.past)
      (access.within (Settlement.settle reference update attempts)) moment := by
  refine attempt_abides permits (attempts - 1) idle ?_ ?_
  · intro outcome now settled
    exact ⟨settled, by simp⟩
  · intro earlier last now conflict split own charged settled
    refine ⟨settled, fun error _ => ?_⟩
    rw [split] at charged ⊢
    exact contended_of_rivals own (by omega)

end Payments.Interleaving
