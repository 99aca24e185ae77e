import Payments.Store.Action

/-!
Settling a status: read the record, write the update for the version that was read, and start again
when somebody else was faster, a bounded number of times.
-/

namespace Payments

inductive Settlement
  | applied (previous current : Payment)
  | unchanged (payment : Payment)
  | rejected (payment : Payment) (illegal : Status.IllegalMove)
  | missing
deriving DecidableEq, Repr

abbrev StoreWorkflow := Workflow StoreAction StoreAction.Reply

namespace Settlement

def defaultAttempts : Nat := 5

def once (reference : Reference) (update : StatusUpdate)
    (onConflict : StoreError → StoreWorkflow (Except StoreError Settlement)) :
    StoreWorkflow (Except StoreError Settlement) :=
  .ask (.find reference) fun
    | .error error => .done (.error error)
    | .ok none => .done (.ok .missing)
    | .ok (some read) =>
      .ask (.update reference read.version update) fun
        | .ok (.applied previous current) => .done (.ok (.applied previous current))
        | .ok (.unchanged payment) => .done (.ok (.unchanged payment))
        | .error (.illegalMove illegal) => .done (.ok (.rejected read illegal))
        | .error (.notFound _) => .done (.ok .missing)
        | .error (.conflict reference expected found) =>
          onConflict (.conflict reference expected found)
        | .error error => .done (.error error)

def attempt (reference : Reference) (update : StatusUpdate) :
    Nat → StoreWorkflow (Except StoreError Settlement)
  | 0 => once reference update fun conflict => .done (.error conflict)
  | more + 1 => once reference update fun _ => attempt reference update more

def settle (reference : Reference) (update : StatusUpdate) (attempts : Nat) :
    StoreWorkflow (Except StoreError Settlement) :=
  attempt reference update (attempts - 1)

end Settlement

end Payments
