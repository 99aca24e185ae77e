import Payments.Binary64.Shortest

/-!
JSON values. A number is a whole number within 64 bits or a floating-point number; an object keeps
its members in order.
-/

namespace Payments

inductive Json.Number
  | int (n : Int)
  | float (x : Binary64)
deriving DecidableEq, Repr

inductive Json
  | null
  | bool (b : Bool)
  | num (n : Json.Number)
  | str (s : String)
  | arr (items : List Json)
  | obj (members : List (String × Json))
deriving Repr

namespace Json

instance : Inhabited Json := ⟨.null⟩

def ofInt (n : Int) : Json := .num (.int n)

def ofNat (n : Nat) : Json := .num (.int n)

def ofOption {α : Type} (encode : α → Json) : Option α → Json
  | some x => encode x
  | none => .null

def ofText? (s : Option String) : Json := ofOption .str s

/-- The member of that name; of several the last. -/
def get? (name : String) : Json → Option Json
  | .obj members => (members.reverse.find? (·.1 = name)).map (·.2)
  | _ => none

def str? : Json → Option String
  | .str s => some s
  | _ => none

end Json

end Payments
