import Payments.Store.Basic
import Payments.Workflow

/-!
What can be asked of a store, one atomic action at a time.
-/

namespace Payments

inductive StoreAction
  | create (payment : NewPayment)
  | find (reference : Reference)
  | update (reference : Reference) (expected : Int) (update : StatusUpdate)
  | ofUser (userId : String) (page : PageRequest)

namespace StoreAction

abbrev Reply : StoreAction → Type
  | .create _ => Except StoreError Payment
  | .find _ => Except StoreError (Option Payment)
  | .update _ _ _ => Except StoreError UpdateOutcome
  | .ofUser _ _ => Except StoreError (List Payment)

end StoreAction

def keepOnError {ε α σ : Type} (before : σ) : Except ε (α × σ) → Except ε α × σ
  | .ok (result, after) => (.ok result, after)
  | .error error => (.error error, before)

def Store.act (stamp : Stamp) (action : StoreAction) (store : Store) : action.Reply × Store :=
  match action with
  | .create payment => keepOnError store (store.create payment stamp)
  | .find reference => (.ok (store.find? reference), store)
  | .update reference expected update =>
    keepOnError store (store.update reference expected update stamp.now)
  | .ofUser userId page => (.ok (store.ofUser userId page), store)

end Payments
