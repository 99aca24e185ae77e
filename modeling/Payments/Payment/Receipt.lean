import Payments.Payment.Record

/-!
What a client is told about a payment: the record, and with a fresh charge the gateway's secret and
metadata.
-/

namespace Payments

structure Receipt where
  reference : Reference
  clientSecret : Option String
  money : Money
  status : Status
  receiptUrl : Option String
  metadata : List (String × String)
  createdAt : Instant
deriving DecidableEq, Repr

namespace Receipt

def ofPayment (payment : Payment) : Receipt :=
  { reference := payment.reference
    clientSecret := none
    money := payment.money
    status := payment.status
    receiptUrl := payment.receiptUrl
    metadata := []
    createdAt := payment.createdAt }

def requiresAction (receipt : Receipt) : Bool := receipt.status = .requiresAction

def textMember (name : String) : Option String → List (String × Json)
  | some text => [(name, .str text)]
  | none => []

def json (receipt : Receipt) : Json :=
  .obj (
    [("externalReference", .str receipt.reference.text)] ++
    textMember "clientSecret" receipt.clientSecret ++
    [ ("amount", .str receipt.money.amount.text)
    , ("currency", .str receipt.money.currency.code)
    , ("status", .str receipt.status.name)
    , ("requiresAction", .bool receipt.requiresAction) ] ++
    textMember "receiptUrl" receipt.receiptUrl ++
    (if receipt.metadata.isEmpty then []
      else [("metadata", .obj (receipt.metadata.map fun (name, text) => (name, .str text)))]) ++
    [("createdAt", .str receipt.createdAt.text)])

end Receipt

end Payments
