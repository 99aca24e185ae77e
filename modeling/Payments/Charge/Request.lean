import Payments.Money

/-!
A charge as a client asks for it. Whatever the client leaves out is empty, so that validation names
what is missing.
-/

namespace Payments

structure ChargeRequest where
  userId : String := ""
  planId : String := ""
  paymentMethod : String := ""
  email : String := ""
  amount : Decimal := .zero
  currency : String := ""
  savePaymentMethod : Bool := false
deriving DecidableEq, Repr

namespace ChargeRequest

open Json in
def reader : Reader ChargeRequest :=
  Reader.record
    [ .defaulted "userId" Reader.string fun x draft => { draft with userId := x }
    , .defaulted "planId" Reader.string fun x draft => { draft with planId := x }
    , .defaulted "paymentMethodRef" Reader.string fun x draft => { draft with paymentMethod := x }
    , .defaulted "email" Reader.string fun x draft => { draft with email := x }
    , .defaulted "amount" Reader.decimal fun x draft => { draft with amount := x }
    , .defaulted "currency" Reader.string fun x draft => { draft with currency := x }
    , .defaulted "savePaymentMethod" Reader.bool fun x draft =>
        { draft with savePaymentMethod := x } ]
    {} some

end ChargeRequest

end Payments
