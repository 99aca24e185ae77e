import Payments.Proofs.Store.Lineage

/-!
Any calls on a store that starts out empty, by whomever and in whatever order. For every reference
the committed records form one history that counts its versions up from 1, moves along legal moves
and ends with the stored record; every other call leaves the store as it was.
-/

namespace Payments

namespace Store

structure Call where
  action : StoreAction
  stamp : Stamp

def Call.reply (store : Store) (call : Call) : call.action.Reply :=
  (store.act call.stamp call.action).1

def Call.after (store : Store) (call : Call) : Store := (store.act call.stamp call.action).2

def Call.committed? (store : Store) (call : Call) : Option Payment :=
  call.action.committed? (call.reply store)

def afterCalls (store : Store) (calls : List Call) : Store := calls.foldl Call.after store

def committedBy (store : Store) : List Call → List Payment
  | [] => []
  | call :: calls => (call.committed? store).toList ++ committedBy (call.after store) calls

/-- All records ever committed for a reference by calls on a store that was empty at first. -/
def historyOf (calls : List Call) (reference : Reference) : List Payment :=
  recordsOf reference (committedBy {} calls)

structure IsHistory (reference : Reference) (records : List Payment) : Prop where
  versions : ∀ k (bound : k < records.length), records[k].version = k + 1
  references : ∀ record ∈ records, record.reference = reference
  moves : records.IsChain fun earlier later => earlier.status.canMoveTo later.status = true
  sameCharge : ∀ earlier ∈ records, ∀ later ∈ records, earlier.SameCharge later

theorem Call.commit (store : Store) (call : Call) :
    store.Commit (call.committed? store) (call.after store) :=
  act_commit store call.stamp call.action

theorem afterCalls_append (store : Store) (calls more : List Call) :
    store.afterCalls (calls ++ more) = (store.afterCalls calls).afterCalls more :=
  List.foldl_append

theorem committedBy_append (store : Store) (calls more : List Call) :
    store.committedBy (calls ++ more) =
      store.committedBy calls ++ (store.afterCalls calls).committedBy more := by
  induction calls generalizing store with
  | nil => rfl
  | cons call calls ih =>
      simp only [List.cons_append, committedBy, ih, List.append_assoc]
      rfl

theorem lineage_of_calls (store : Store) (calls : List Call) (reference : Reference) :
    Payment.Lineage (store.find? reference) (recordsOf reference (store.committedBy calls))
      ((store.afterCalls calls).find? reference) := by
  induction calls generalizing store with
  | nil => exact .refl
  | cons call calls ih =>
      rw [committedBy, recordsOf_append]
      exact ((call.commit store).lineage reference).trans (ih (call.after store))

theorem isHistory_of_lineage {reference : Reference} {committed : List Payment}
    {stored : Option Payment}
    (lineage : Payment.Lineage none (recordsOf reference committed) stored) :
    IsHistory reference (recordsOf reference committed) where
  versions := by
    intro k bound
    simpa using lineage.version_getElem k bound
  references := fun record member => (mem_recordsOf.mp member).2
  moves := by simpa using lineage.moves
  sameCharge := by
    intro earlier earlierMember later laterMember
    obtain ⟨current, held, fromEarlier⟩ := lineage.sameCharge earlier earlierMember
    obtain ⟨_, sameHeld, fromLater⟩ := lineage.sameCharge later laterMember
    rw [held] at sameHeld
    cases sameHeld
    exact fromEarlier.trans fromLater.symm

def OnePerReference (store : Store) : Prop := (store.payments.map (·.reference)).Nodup

theorem Commit.onePerReference {store after : Store} {committed : Option Payment}
    (commit : store.Commit committed after) (unique : store.OnePerReference) :
    after.OnePerReference := by
  cases commit with
  | nothing => exact unique
  | @first payment stamp absent =>
      simp only [OnePerReference, List.map_append, List.map_cons, List.map_nil]
      refine List.nodup_append.mpr ⟨unique, by simp, ?_⟩
      intro reference held other isNew same
      obtain ⟨record, member, isReference⟩ := List.mem_map.mp held
      have different := List.find?_eq_none.mp absent record member
      simp only [List.mem_singleton] at isNew
      simp only [decide_eq_true_eq] at different
      exact different (by rw [isReference, same, isNew, Payment.reference_record])
  | @next current update now present legal =>
      rw [OnePerReference, references_replace]
      exact unique

theorem onePerReference_afterCalls {store : Store} (calls : List Call)
    (unique : store.OnePerReference) : (store.afterCalls calls).OnePerReference := by
  induction calls generalizing store with
  | nil => exact unique
  | cons call calls ih => exact ih ((call.commit store).onePerReference unique)

/-- Whatever is called on a store that was empty at first: it holds at most one record for a
reference, which is the last of the history committed for it and never goes away again, and a call
that commits nothing changes nothing. -/
theorem afterCalls_history (calls : List Call) :
    (({} : Store).afterCalls calls).OnePerReference ∧
    (∀ reference, (historyOf calls reference).getLast? =
      (({} : Store).afterCalls calls).find? reference) ∧
    (∀ reference record, (({} : Store).afterCalls calls).find? reference = some record →
      record.reference = reference ∧
      1 ≤ (historyOf calls reference).length ∧
      IsHistory reference (historyOf calls reference) ∧
      ∀ more : List Call, historyOf calls reference <+: historyOf (calls ++ more) reference ∧
        ((({} : Store).afterCalls (calls ++ more)).find? reference).isSome) ∧
    (∀ call : Call, call.committed? (({} : Store).afterCalls calls) = none →
      call.after (({} : Store).afterCalls calls) = ({} : Store).afterCalls calls) := by
  have lineage := fun reference => lineage_of_calls {} calls reference
  have last : ∀ reference, (historyOf calls reference).getLast? =
      (({} : Store).afterCalls calls).find? reference := fun reference => (lineage reference).last
  refine ⟨onePerReference_afterCalls calls List.nodup_nil, last, ?_, ?_⟩
  · intro reference record stored
    refine ⟨find?_reference stored, ?_, isHistory_of_lineage (lineage reference), ?_⟩
    · have present := last reference
      rw [stored] at present
      exact List.length_pos_of_mem (List.mem_of_getLast? present)
    · intro more
      refine ⟨?_, ?_⟩
      · rw [historyOf, historyOf, committedBy_append, recordsOf_append]
        exact List.prefix_append _ _
      · have onward := lineage_of_calls (({} : Store).afterCalls calls) more reference
        rw [stored] at onward
        obtain ⟨current, held, _⟩ := onward.stays
        rw [afterCalls_append, held]
        rfl
  · intro call nothing
    have commit := call.commit (({} : Store).afterCalls calls)
    rw [nothing] at commit
    exact commit.eq_of_none

end Store

end Payments
