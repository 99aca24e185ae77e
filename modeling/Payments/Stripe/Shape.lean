import Payments.Json.Basic

/-!
Shapes of JSON values: what a value has to look like before an object is read from it. A record is
written as an object, where unknown members do not matter, or as the array of its members in order.
A word may be written alone or as the only member of an object that holds null.
-/

namespace Payments.Stripe

inductive ObjectKind
  | account | application | applicationFee | balanceTransaction | bankAccount | card | charge
  | coupon | customer | discount | dispute | feeRefund | file | fileLink | invoice | invoiceItem
  | mandate | paymentError | paymentIntent | paymentMethod | paymentSource | payout | plan | price
  | product | promotionCode | quote | refund | review | schedule | setupAttempt | setupIntent
  | source | subscription | taxId | testClock | topup | transfer | transferReversal
deriving DecidableEq, Repr

inductive Presence
  | required
  /-- The member may be absent or null. -/
  | optional
  /-- The member may be absent but is never null. -/
  | defaulted
deriving DecidableEq, Repr

inductive Shape
  | anything
  | bool
  | int64
  | nat (bits : Nat)
  | real
  | text
  | word (words : List String)
  | id (starts : List String)
  | idOrNone (starts : List String)
  | list (element : Shape)
  | table (entry : Shape)
  | tableOf (names : List String) (entry : Shape)
  | record (members : List (String × Presence × Shape))
  | oneOf (shapes : List Shape)
  /-- The named member of an object, or the first one of an array, is the word that tells which of
  the shapes the value has. -/
  | tagged (name : String) (cases : List (String × Shape))
  | object (kind : ObjectKind)

namespace Shape

abbrev Member := String × Presence × Shape

def need (shape : Shape) (name : String) : Member := (name, .required, shape)

def may (shape : Shape) (name : String) : Member := (name, .optional, shape)

def usual (shape : Shape) (name : String) : Member := (name, .defaulted, shape)

def related (starts : List String) (kind : ObjectKind) : Shape :=
  .oneOf [.id starts, .object kind]

def page (element : Shape) : Shape :=
  .record
    [ need (.list element) "data", need .bool "has_more", may (.nat 64) "total_count"
    , need .text "url" ]

def empty : Shape := .record []

def texts (names : List String) : Shape := .record (names.map (may .text))

def metadata : Shape := .table .text

def wordOf? : Json → Option String
  | .str name => some name
  | .obj [(name, .null)] => some name
  | _ => none

/-- The word that a value stands for inside an object that was told by its kind, where an empty
object does for null. -/
def taggedWordOf? : Json → Option String
  | .obj [(name, .obj [])] => some name
  | value => wordOf? value

def isInt (low high : Int) : Json → Bool
  | .num (.int n) => decide (low ≤ n ∧ n ≤ high)
  | _ => false

def fitsText (accepts : String → Bool) (value : Json) : Bool := value.str?.any accepts

/-- The members of an array in their places; those left out at the end must have a default. -/
def fitsInOrder (fits : Presence → Shape → Json → Bool) : List Member → List Json → Bool
  | [], items => items.isEmpty
  | members, [] => members.all fun (_, presence, _) => presence = .defaulted
  | (_, presence, shape) :: members, item :: items =>
    fits presence shape item && fitsInOrder fits members items

def startsWithAny (starts : List String) (id : String) : Bool :=
  starts.any fun start => start.toList.isPrefixOf id.toList

def untag? (name : String) : Json → Option (String × Json)
  | .arr (tag :: items) => do return (← tag.str?, .arr items)
  | value => do return (← (← value.get? name).str?, value)

/-- Whether a value has a shape. The number bounds how many shapes may be entered one inside the
other; `byKind` says that the value is part of an object that was told by its kind. -/
def fitsWithin (resolve : ObjectKind → Shape) : Nat → Bool → Shape → Json → Bool
  | 0, _, _, _ => false
  | fuel + 1, byKind, shape, value =>
    let fits := fitsWithin resolve fuel
    let fitsMember (presence : Presence) (shape : Shape) (value : Json) : Bool :=
      match presence, value with
      | .optional, .null => true
      | _, value => fits byKind shape value
    match shape, value with
    | .anything, _ => true
    | .bool, .bool _ => true
    | .int64, value => isInt (-2 ^ 63) (2 ^ 63 - 1) value
    | .nat bits, value => isInt 0 (2 ^ bits - 1) value
    | .real, .num _ => true
    | .text, .str _ => true
    | .word words, value =>
      (if byKind then taggedWordOf? value else wordOf? value).any words.contains
    | .id starts, value => fitsText (startsWithAny starts) value
    | .idOrNone _, .null => true
    | .idOrNone starts, value => fitsText (fun id => id = "" || startsWithAny starts id) value
    | .list element, .arr items => items.all (fits byKind element)
    | .table entry, .obj members => members.all fun (_, value) => fits byKind entry value
    | .tableOf names entry, .obj members =>
      members.all fun (name, value) => names.contains name && fits byKind entry value
    | .record members, .obj found => members.all fun (name, presence, shape) =>
        match Json.get? name (.obj found) with
        | none => presence != .required
        | some value => fitsMember presence shape value
    | .record members, .arr items => fitsInOrder fitsMember members items
    | .oneOf shapes, value => shapes.any fun shape => fits false shape value
    | .tagged name cases, value =>
      (untag? name value).any fun (found, value) =>
        cases.any fun (tag, shape) => tag = found && fits true shape value
    | .object kind, value => fits byKind (resolve kind) value
    | _, _ => false

def member? (shape : Shape) (name : String) (value : Json) : Option Json :=
  match shape, value with
  | .record members, .arr items => items[members.findIdx (·.1 = name)]?
  | _, value => value.get? name

end Shape

end Payments.Stripe
