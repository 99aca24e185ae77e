/-!
The states of a payment and the moves between them. The gateway decides on progress, so an open
payment may move to any other state but `refunded`; a closed one stays as it is, except that a
payment that succeeded may be refunded.
-/

namespace Payments

inductive Status
  | requiresPaymentMethod
  | requiresConfirmation
  | requiresAction
  | processing
  | requiresCapture
  | succeeded
  | canceled
  | failed
  | refunded
deriving DecidableEq, Repr, Inhabited

namespace Status

def all : List Status :=
  [.requiresPaymentMethod, .requiresConfirmation, .requiresAction, .processing, .requiresCapture,
   .succeeded, .canceled, .failed, .refunded]

def name : Status → String
  | .requiresPaymentMethod => "REQUIRES_PAYMENT_METHOD"
  | .requiresConfirmation => "REQUIRES_CONFIRMATION"
  | .requiresAction => "REQUIRES_ACTION"
  | .processing => "PROCESSING"
  | .requiresCapture => "REQUIRES_CAPTURE"
  | .succeeded => "SUCCEEDED"
  | .canceled => "CANCELED"
  | .failed => "FAILED"
  | .refunded => "REFUNDED"

def ofName? (name : String) : Option Status := all.find? (·.name = name)

def ofText? (text : String) : Option Status :=
  all.find? fun status => status.name.toList = text.toList.map Char.toUpper

def isTerminal : Status → Bool
  | .succeeded | .canceled | .failed | .refunded => true
  | _ => false

def canMoveTo (source target : Status) : Bool :=
  if source = target then false
  else if source = .succeeded ∧ target = .refunded then true
  else if source.isTerminal then false
  else target ≠ .refunded

structure IllegalMove where
  source : Status
  target : Status
deriving DecidableEq, Repr

def IllegalMove.message (illegal : IllegalMove) : String :=
  "illegal status transition: " ++ illegal.source.name ++ " → " ++ illegal.target.name

inductive Move
  | unchanged
  | advance
deriving DecidableEq, Repr

def check (source target : Status) : Except IllegalMove Move :=
  if source = target then .ok .unchanged
  else if source.canMoveTo target then .ok .advance
  else .error ⟨source, target⟩

theorem check_eq_unchanged_iff {source target : Status} :
    check source target = .ok .unchanged ↔ source = target := by
  unfold check
  split
  · simp [*]
  · split <;> simp [*]

theorem check_eq_advance_iff {source target : Status} :
    check source target = .ok .advance ↔ source.canMoveTo target = true := by
  unfold check
  split
  · rename_i same
    simp [canMoveTo, same]
  · split <;> simp [*]

theorem check_eq_error_iff {source target : Status} {illegal : IllegalMove} :
    check source target = .error illegal ↔
      source ≠ target ∧ source.canMoveTo target = false ∧ illegal = ⟨source, target⟩ := by
  unfold check
  split
  · simp [*]
  · split
    · simp [*]
    · simp [*, eq_comm]

end Status

end Payments
