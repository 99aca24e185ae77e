import Payments.Json.Record

/-!
Pages of a list. A page holds between one and a hundred items, whatever size was asked for.
-/

namespace Payments

structure PageRequest where
  page : Nat := 0
  size : Nat := 10
deriving DecidableEq, Repr

namespace PageRequest

def maxSize : Nat := 100

def limit (request : PageRequest) : Nat := max 1 (min request.size maxSize)

def offset (request : PageRequest) : Nat := request.page * request.limit

def slice {α : Type} (request : PageRequest) (items : List α) : List α :=
  (items.drop request.offset).take request.limit

open Json in
def natBelow (bound : Nat) : Reader Nat := Int.toNat <$> Reader.int 0 (bound - 1)

open Json in
def reader : Reader PageRequest :=
  Reader.record
    [ .defaulted "page" (natBelow (2 ^ 32)) fun x draft => { draft with page := x }
    , .defaulted "size" (natBelow (2 ^ 32)) fun x draft => { draft with size := x } ]
    {} some

end PageRequest

end Payments
