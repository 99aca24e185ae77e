import Mathlib.Data.List.Chain
import Payments.Proofs.Store.Commit

/-!
How the record of one reference comes about. A lineage leads from what was stored once to what is
stored later by the records committed in between, each a legal move on from the one before it. Since
every commit counts the version up by one, an equal version means an equal record.
-/

namespace Payments

namespace Payment

/-- What no update changes is the same in both. -/
structure SameCharge (payment other : Payment) : Prop where
  id : payment.id = other.id
  reference : payment.reference = other.reference
  userId : payment.userId = other.userId
  planId : payment.planId = other.planId
  money : payment.money = other.money
  createdAt : payment.createdAt = other.createdAt

theorem SameCharge.refl (payment : Payment) : payment.SameCharge payment :=
  ⟨rfl, rfl, rfl, rfl, rfl, rfl⟩

theorem SameCharge.symm {payment other : Payment} (same : payment.SameCharge other) :
    other.SameCharge payment :=
  ⟨same.id.symm, same.reference.symm, same.userId.symm, same.planId.symm, same.money.symm,
    same.createdAt.symm⟩

theorem SameCharge.trans {payment other third : Payment} (first : payment.SameCharge other)
    (second : other.SameCharge third) : payment.SameCharge third :=
  ⟨first.id.trans second.id, first.reference.trans second.reference,
    first.userId.trans second.userId, first.planId.trans second.planId,
    first.money.trans second.money, first.createdAt.trans second.createdAt⟩

theorem sameCharge_apply (payment : Payment) (update : StatusUpdate) (now : Instant) :
    payment.SameCharge (payment.apply update now) :=
  ⟨rfl, rfl, rfl, rfl, rfl, rfl⟩

def versionOf : Option Payment → Int
  | none => 0
  | some payment => payment.version

@[simp] theorem versionOf_none : versionOf none = 0 := rfl

@[simp] theorem versionOf_some (payment : Payment) : versionOf (some payment) = payment.version :=
  rfl

inductive Follows : Option Payment → Payment → Prop
  | first {record : Payment} : record.version = 1 → Follows none record
  | next {earlier later : Payment} : later.version = earlier.version + 1 →
      earlier.status.canMoveTo later.status = true → earlier.SameCharge later →
      Follows (some earlier) later

theorem Follows.version {stored : Option Payment} {record : Payment}
    (follows : Follows stored record) : record.version = versionOf stored + 1 := by
  cases follows with
  | first version => simpa using version
  | next version legal same => exact version

def firstVersion : Option Payment → Int
  | none => 1
  | some payment => payment.version

/-- The version of what is stored counts how often it went on from a stored record. -/
def Counted (start : Option Payment) (count : Nat) : Option Payment → Prop
  | none => start = none ∧ count = 0
  | some record => record.version = firstVersion start + count

theorem Counted.refl (start : Option Payment) : Counted start 0 start := by
  cases start with
  | none => exact ⟨rfl, rfl⟩
  | some payment => exact (Int.add_zero _).symm

theorem Counted.follows {start stored : Option Payment} {count : Nat} {record : Payment}
    (counted : Counted start count stored) (follows : Follows stored record) :
    Counted start (count + if stored.isSome then 1 else 0) (some record) := by
  cases follows with
  | first version =>
      obtain ⟨rfl, rfl⟩ := counted
      exact version
  | next version _ _ =>
      simp only [Counted] at counted
      simp only [Counted, Option.isSome_some, if_true]
      omega

/-- From `start` to `stored` by the records of one reference committed in between. -/
inductive Lineage (start : Option Payment) : List Payment → Option Payment → Prop
  | refl : Lineage start [] start
  | commit {records : List Payment} {stored : Option Payment} {record : Payment} :
      Lineage start records stored → Follows stored record →
      Lineage start (records ++ [record]) (some record)

namespace Lineage

variable {start middle stored : Option Payment} {records later : List Payment}

theorem trans (first : Lineage start records middle) (second : Lineage middle later stored) :
    Lineage start (records ++ later) stored := by
  induction second with
  | refl => simpa using first
  | commit _ follows ih =>
      rw [← List.append_assoc]
      exact .commit ih follows

theorem last (lineage : Lineage start records stored) :
    (start.toList ++ records).getLast? = stored := by
  induction lineage with
  | refl => cases start <;> rfl
  | commit _ _ _ =>
      rw [← List.append_assoc]
      exact List.getLast?_concat

theorem eq_of_nil (lineage : Lineage start [] stored) : stored = start := by
  rw [← lineage.last]
  cases start <;> rfl

theorem version (lineage : Lineage start records stored) :
    versionOf stored = versionOf start + records.length := by
  induction lineage with
  | refl => simp
  | commit _ follows ih =>
      rw [versionOf_some, follows.version, ih]
      simp only [List.length_append, List.length_singleton]
      omega

theorem version_getElem (lineage : Lineage start records stored) :
    ∀ k (bound : k < records.length), records[k].version = versionOf start + k + 1 := by
  induction lineage with
  | refl =>
      intro k bound
      simp at bound
  | @commit records stored record earlier follows ih =>
      intro k bound
      by_cases old : k < records.length
      · rw [List.getElem_append_left old]
        exact ih k old
      · have newest : k = records.length := by
          simp only [List.length_append, List.length_singleton] at bound
          omega
        subst newest
        rw [List.getElem_concat_length rfl, follows.version, earlier.version]

theorem moves (lineage : Lineage start records stored) :
    (start.toList ++ records).IsChain fun earlier later =>
      earlier.status.canMoveTo later.status = true := by
  induction lineage with
  | refl => cases start <;> simp
  | commit earlier follows ih =>
      rw [← List.append_assoc, List.isChain_append]
      refine ⟨ih, List.isChain_singleton _, ?_⟩
      intro current isLast record isHead
      rw [earlier.last] at isLast
      simp only [List.head?_cons, Option.mem_def, Option.some.injEq] at isHead
      subst isHead
      cases follows with
      | first _ => simp at isLast
      | next _ legal _ =>
          simp only [Option.mem_def, Option.some.injEq] at isLast
          exact isLast ▸ legal

theorem stays {payment : Payment} (lineage : Lineage (some payment) records stored) :
    ∃ current, stored = some current ∧ payment.SameCharge current := by
  generalize present : some payment = start at lineage
  induction lineage with
  | refl => exact ⟨payment, present.symm, .refl payment⟩
  | @commit records stored record _ follows ih =>
      obtain ⟨current, held, same⟩ := ih
      refine ⟨record, rfl, ?_⟩
      subst held
      cases follows with
      | next _ _ onward => exact same.trans onward

theorem sameCharge (lineage : Lineage start records stored) :
    ∀ record ∈ records, ∃ current, stored = some current ∧ record.SameCharge current := by
  induction lineage with
  | refl => simp
  | @commit records stored newest _ follows ih =>
      intro record member
      refine ⟨newest, rfl, ?_⟩
      rcases List.mem_append.mp member with old | new
      · obtain ⟨current, held, same⟩ := ih record old
        subst held
        cases follows with
        | next _ _ onward => exact same.trans onward
      · rw [List.mem_singleton.mp new]
        exact .refl newest

theorem newest (lineage : Lineage start records stored) :
    ∀ record ∈ start.toList ++ records, record.version ≤ versionOf stored ∧
      (record.version = versionOf stored → stored = some record) := by
  induction lineage with
  | refl =>
      intro record member
      cases start with
      | none => simp at member
      | some payment =>
          simp only [Option.toList_some, List.append_nil, List.mem_singleton] at member
          subst member
          simp
  | @commit records stored newest _ follows ih =>
      intro record member
      rw [← List.append_assoc] at member
      have version := follows.version
      simp only [versionOf_some]
      rcases List.mem_append.mp member with old | new
      · have bound := (ih record old).1
        exact ⟨by omega, fun equal => by omega⟩
      · rw [List.mem_singleton.mp new]
        exact ⟨Int.le_refl _, fun _ => rfl⟩

theorem eq_nil_or_mem {current : Payment} (lineage : Lineage start records (some current)) :
    records = [] ∧ start = some current ∨ current ∈ records := by
  cases lineage with
  | refl => exact .inl ⟨rfl, rfl⟩
  | commit _ _ => exact .inr List.mem_concat_self

theorem eq_nil_or (lineage : Lineage start records stored) :
    records = [] ∧ stored = start ∨ versionOf start < versionOf stored := by
  cases lineage with
  | refl => exact .inl ⟨rfl, rfl⟩
  | commit earlier follows =>
      have before := earlier.version
      have after := follows.version
      simp only [versionOf_some]
      exact .inr (by omega)

theorem mem_of_stored {current : Payment} (lineage : Lineage none records (some current)) :
    current ∈ records := List.mem_of_getLast? lineage.last

theorem eq_of_version (lineage : Lineage start records stored) :
    ∀ first ∈ records, ∀ second ∈ records, first.version = second.version → first = second := by
  intro first isFirst second isSecond same
  obtain ⟨k, bound, rfl⟩ := List.mem_iff_getElem.mp isFirst
  obtain ⟨k', bound', rfl⟩ := List.mem_iff_getElem.mp isSecond
  rw [lineage.version_getElem k bound, lineage.version_getElem k' bound'] at same
  congr 1
  omega

end Lineage

end Payment

namespace Store

def recordsOf (reference : Reference) (committed : List Payment) : List Payment :=
  committed.filter (·.reference = reference)

@[simp] theorem recordsOf_nil (reference : Reference) : recordsOf reference [] = [] := rfl

@[simp] theorem recordsOf_append (reference : Reference) (earlier later : List Payment) :
    recordsOf reference (earlier ++ later) =
      recordsOf reference earlier ++ recordsOf reference later :=
  List.filter_append ..

theorem mem_recordsOf {reference : Reference} {committed : List Payment} {record : Payment} :
    record ∈ recordsOf reference committed ↔ record ∈ committed ∧ record.reference = reference := by
  simp [recordsOf]

theorem Commit.follows {store after : Store} {record : Payment}
    (commit : store.Commit (some record) after) :
    Payment.Follows (store.find? record.reference) record := by
  cases commit with
  | first absent =>
      rw [Payment.reference_record, absent]
      exact .first rfl
  | @next current update now present legal =>
      rw [Payment.reference_apply, present]
      exact .next rfl legal (current.sameCharge_apply update now)

theorem Commit.lineage {store after : Store} {committed : Option Payment}
    (commit : store.Commit committed after) (reference : Reference) :
    Payment.Lineage (store.find? reference) (recordsOf reference committed.toList)
      (after.find? reference) := by
  cases committed with
  | none =>
      rw [commit.eq_of_none]
      exact .refl
  | some record =>
      rw [commit.find? reference]
      by_cases own : record.reference = reference
      · have follows := commit.follows
        rw [own] at follows
        simpa [recordsOf, own] using Payment.Lineage.commit .refl follows
      · simpa [recordsOf, own] using Payment.Lineage.refl

end Store

end Payments
