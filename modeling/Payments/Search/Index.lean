import Payments.Paging
import Payments.Search.Query

/-!
The search index: one document for every reference. A document replaces only an older version, so
that documents may come in any order. Answers are sorted, newest first.
-/

namespace Payments

structure SearchIndex where
  documents : List SearchDocument := []

structure SearchPage where
  items : List SearchDocument
  total : Nat
  page : Nat
  size : Nat

namespace SearchIndex

def find? (index : SearchIndex) (reference : String) : Option SearchDocument :=
  index.documents.find? (·.reference = reference)

def upsert (index : SearchIndex) (document : SearchDocument) : SearchIndex :=
  match index.find? document.reference with
  | some existing =>
    if document.version ≤ existing.version then index
    else ⟨index.documents.map fun d => if d.reference = document.reference then document else d⟩
  | none => ⟨index.documents ++ [document]⟩

def precedes (x y : SearchDocument) : Bool :=
  match x.createdAt.compareTo y.createdAt with
  | .gt => true
  | .lt => false
  | .eq => decide (y.reference ≤ x.reference)

def hits (index : SearchIndex) (query : SearchQuery) : List SearchDocument :=
  (index.documents.filter query.accepts).mergeSort precedes

def search (index : SearchIndex) (query : SearchQuery) (request : PageRequest) : SearchPage :=
  let hits := index.hits query
  { items := request.slice hits
    total := hits.length
    page := request.page
    size := request.limit }

def count (index : SearchIndex) (status : Status) : Nat :=
  index.documents.countP (·.status = status)

end SearchIndex

def SearchPage.json (page : SearchPage) : Json :=
  .obj
    [ ("items", .arr (page.items.map (·.json)))
    , ("total", .ofNat page.total)
    , ("page", .ofNat page.page)
    , ("size", .ofNat page.size) ]

end Payments
