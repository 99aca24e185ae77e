import Payments.Search.Document
import Payments.Text.LowerCase

/-!
Questions to the search index. Free text is looked for in the description, the reference, the user
and the plan, letter case apart; the other filters look at one field each.
-/

namespace Payments

structure SearchQuery where
  text : Option String := none
  minAmount : Option Decimal := none
  maxAmount : Option Decimal := none
  status : Option Status := none
  userId : Option String := none
deriving DecidableEq, Repr

namespace SearchQuery

def texts (document : SearchDocument) : List String :=
  [document.description, document.reference, document.userId, document.planId]

def acceptsText (text : String) (document : SearchDocument) : Bool :=
  let needle := (Text.lower (Text.trim text)).toList
  needle.isEmpty || (texts document).any fun field =>
    Text.occursIn needle (Text.lower field).toList

def accepts (query : SearchQuery) (document : SearchDocument) : Bool :=
  query.text.all (acceptsText · document) && query.minAmount.all (·.le document.amount) &&
    query.maxAmount.all document.amount.le && query.status.all (· = document.status) &&
    query.userId.all (· = document.userId)

end SearchQuery

end Payments
