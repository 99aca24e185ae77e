import Payments.Paging
import Payments.Payment.Record

/-!
The store of payments, one record for every reference. After a payment is created only a status
update changes it: it names the version it was made for, must be a legal move, and writes the next
version. Whatever is refused writes nothing.
-/

namespace Payments

inductive StoreError
  | duplicate (reference : String)
  | notFound (reference : String)
  | conflict (reference : String) (expected found : Int)
  | illegalMove (illegal : Status.IllegalMove)
  | database (reason : String)
  | corrupt (reason : String)
deriving DecidableEq, Repr

def StoreError.code : StoreError → String
  | .duplicate _ => "duplicate_reference"
  | .notFound _ => "not_found"
  | .conflict _ _ _ => "conflict"
  | .illegalMove _ => "illegal_transition"
  | .database _ => "database"
  | .corrupt _ => "corrupt"

def StoreError.message : StoreError → String
  | .duplicate reference => "payment with external reference " ++ reference ++ " already exists"
  | .notFound reference => "payment " ++ reference ++ " not found"
  | .conflict reference expected found =>
    "version conflict on " ++ reference ++ ": expected " ++ toString expected ++ ", found " ++
      toString found
  | .illegalMove illegal => illegal.message
  | .database reason => "database: " ++ reason
  | .corrupt reason => "corrupt payment row: " ++ reason

/-- A status read from outside, where an unknown one means a damaged row. -/
def Status.ofStored (text : String) : Except StoreError Status :=
  match Status.ofText? text with
  | some status => .ok status
  | none => .error (.corrupt ("unknown payment status: " ++ text))

inductive UpdateOutcome
  | applied (previous current : Payment)
  | unchanged (payment : Payment)
deriving DecidableEq, Repr

/-- Payments in the order of their creation. -/
structure Store where
  payments : List Payment := []

namespace Store

def find? (store : Store) (reference : Reference) : Option Payment :=
  store.payments.find? (·.reference = reference)

def create (store : Store) (payment : NewPayment) (stamp : Stamp) :
    Except StoreError (Payment × Store) :=
  match store.find? payment.reference with
  | some _ => .error (.duplicate payment.reference.text)
  | none =>
    let record := payment.record stamp
    .ok (record, ⟨store.payments ++ [record]⟩)

def replace (store : Store) (payment : Payment) : Store :=
  ⟨store.payments.map fun p => if p.reference = payment.reference then payment else p⟩

def update (store : Store) (reference : Reference) (expected : Int) (update : StatusUpdate)
    (now : Instant) : Except StoreError (UpdateOutcome × Store) :=
  match store.find? reference with
  | none => .error (.notFound reference.text)
  | some current =>
    if current.version ≠ expected then
      .error (.conflict reference.text expected current.version)
    else
      match current.status.check update.status with
      | .error illegal => .error (.illegalMove illegal)
      | .ok .unchanged => .ok (.unchanged current, store)
      | .ok .advance =>
        let next := current.apply update now
        .ok (.applied current next, store.replace next)

def precedes (x y : Payment) : Bool :=
  match x.createdAt.compareTo y.createdAt with
  | .gt => true
  | .lt => false
  | .eq => x.id.compareTo y.id != .lt

def ofUser (store : Store) (userId : String) (request : PageRequest) : List Payment :=
  request.slice ((store.payments.filter (·.userId = userId)).mergeSort precedes)

end Store

end Payments
