import Payments.Stripe.Shape
import Payments.Stripe.Vocabulary

/-!
Where somebody is to be found: addresses, contacts for bills and for deliveries. Amounts that are
given in several currencies are kept by currency.
-/

namespace Payments.Stripe.Shape

def currency : Shape := .word currencyWords

def byCurrency (entry : Shape) : Shape := .tableOf currencyWords entry

def address : Shape := texts ["city", "country", "line1", "line2", "postal_code", "state"]

def billingDetails : Shape :=
  .record [may address "address", may .text "email", may .text "name", may .text "phone"]

def shipping : Shape :=
  .record
    [ may address "address", may .text "carrier", may .text "name", may .text "phone"
    , may .text "tracking_number" ]

def birthday : Shape := .record [may .int64 "day", may .int64 "month", may .int64 "year"]

def consent : Shape := .record [may .int64 "date", may .text "ip", may .text "user_agent"]

end Payments.Stripe.Shape
