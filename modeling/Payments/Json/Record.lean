import Payments.Json.Reader

/-!
Records in JSON. A record is an object, or an array of the fields in their order. Unknown members
are passed over, a known member may come once, and a field may be left out where the record has a
value to put there.
-/

namespace Payments.Json

structure Field (δ : Type) where
  name : String
  read : Reader (δ → δ)
  /-- An array may end before this field. -/
  mayEnd : Bool := false

namespace Field

variable {δ α : Type}

def of (name : String) (reader : Reader α) (put : α → δ → δ) : Field δ :=
  { name, read := put <$> reader }

def defaulted (name : String) (reader : Reader α) (put : α → δ → δ) : Field δ :=
  { name, read := put <$> reader, mayEnd := true }

end Field

namespace Reader

variable {δ α : Type}

def fieldMembers (fields : List (Field δ)) : Nat → Bool → List String → δ → Reader δ
  | 0, _, _, _ => malformed
  | fuel + 1, first, seen, draft => do
    if ← another '\x7d' first then
      let name ← key
      match fields.find? (·.name = name) with
      | none => colon; skip; fieldMembers fields fuel false seen draft
      | some field =>
        if name ∈ seen then throw .mismatch
        colon
        fieldMembers fields fuel false (name :: seen) ((← field.read) draft)
    else advance; return draft

def fieldItems : List (Field δ) → Bool → δ → Reader δ
  | [], _, draft => do
    match ← peek with
    | some ']' => advance; return draft
    | _ => malformed
  | field :: fields, first, draft => do
    if ← another ']' first then fieldItems fields false ((← field.read) draft)
    else if (field :: fields).all (·.mayEnd) then advance; return draft
    else throw .mismatch

/-- Fills a draft field by field; `finish` says whether enough was there. -/
def record (fields : List (Field δ)) (draft : δ) (finish : δ → Option α) : Reader α := do
  match ← peek with
  | some '\x7b' => filterMap finish (enter do fieldMembers fields (← room) true [] draft)
  | some '[' => filterMap finish (enter do fieldItems fields true draft)
  | _ => mismatch

end Reader

end Payments.Json
