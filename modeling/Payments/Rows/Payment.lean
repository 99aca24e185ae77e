import Payments.Store.Basic

/-!
Payments as rows of a database table. Amounts are kept with four places; reading a row gives an
amount the places of its currency back.
-/

namespace Payments

structure PaymentRow where
  id : Uuid
  reference : String
  userId : String
  planId : String
  amount : Decimal
  currency : String
  status : String
  receiptUrl : Option String
  customerId : Option String
  description : Option String
  createdAt : Instant
  updatedAt : Instant
  version : Int
deriving DecidableEq, Repr

namespace PaymentRow

/-- The columns that a payment is written to, if its amount is one of four places. -/
def ofPayment? (payment : Payment) : Option PaymentRow := do
  let amount ← payment.money.amount.atPlaces? 4
  return {
    amount
    id := payment.id
    reference := payment.reference.text
    userId := payment.userId
    planId := payment.planId
    currency := payment.money.currency.code
    status := payment.status.name
    receiptUrl := payment.receiptUrl
    customerId := payment.customerId
    description := payment.description
    createdAt := payment.createdAt
    updatedAt := payment.updatedAt
    version := payment.version }

def payment (row : PaymentRow) : Except StoreError Payment := do
  let currency ← (Currency.ofText row.currency).mapError fun refusal =>
    .corrupt (row.reference ++ ": " ++ refusal.message)
  let reference ← (Reference.ofText row.reference).mapError fun refusal =>
    .corrupt refusal.message
  let status ← Status.ofStored row.status
  return {
    reference, status
    id := row.id
    userId := row.userId
    planId := row.planId
    money := ⟨row.amount.roundTo currency.places, currency⟩
    receiptUrl := row.receiptUrl
    customerId := row.customerId
    description := row.description
    createdAt := row.createdAt
    updatedAt := row.updatedAt
    version := row.version }

end PaymentRow

end Payments
