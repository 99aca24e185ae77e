import Payments.Currency
import Payments.Json.Record
import Payments.Json.Scalars

/-!
Amounts of money: a decimal and its currency, as text and as a JSON object.
-/

namespace Payments

structure Money where
  amount : Decimal
  currency : Currency
deriving DecidableEq, Repr

namespace Money

def ofMinor (minor : Int64) (currency : Currency) : Money := ⟨currency.ofMinor minor, currency⟩

def minor (money : Money) : Except Refusal Int64 := money.currency.toMinor money.amount

def text (money : Money) : String := money.amount.text ++ " " ++ money.currency.code

def json (money : Money) : Json :=
  .obj [("amount", .str money.amount.text), ("currency", .str money.currency.code)]

def currencyReader : Json.Reader Currency :=
  Json.Reader.filterMap (fun text => (Currency.ofText text).toOption) Json.Reader.string

def reader : Json.Reader Money :=
  Json.Reader.record
    [ .of "amount" Json.Reader.decimal fun amount draft => (some amount, draft.2)
    , .of "currency" currencyReader fun currency draft => (draft.1, some currency) ]
    (none, none)
    fun draft => do return ⟨← draft.1, ← draft.2⟩

end Money

end Payments
