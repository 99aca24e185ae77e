import Payments.Text.Split
import Payments.Text.Utf8
import Payments.Uuid

/-!
Query strings and percent signs. A query is a list of names and values; each may be given once
where a parameter is read from it.
-/

namespace Payments.Http

/-- The bytes that a text with percent signs stands for; a percent sign without two hexadecimal
digits after it stands for itself. -/
def percentDecode : List Char → List UInt8
  | '%' :: a :: b :: rest =>
    match Uuid.digit? a, Uuid.digit? b with
    | some high, some low => UInt8.ofNat (high * 16 + low) :: percentDecode rest
    | _, _ => 0x25 :: percentDecode (a :: b :: rest)
  | c :: rest => String.utf8EncodeChar c ++ percentDecode rest
  | [] => []

def formText (chars : List Char) : String :=
  Text.ofBytesLossy (percentDecode (chars.map fun c => if c = '+' then ' ' else c))

def formPair (piece : List Char) : String × String :=
  match Text.cut? '=' piece with
  | some (name, value) => (formText name, formText value)
  | none => (formText piece, "")

def formPairs (query : String) : List (String × String) :=
  ((Text.pieces '&' query.toList).filter (!·.isEmpty)).map formPair

/-- A parameter that may be left out; nothing when it is given twice or cannot be read. -/
def parameter? {α : Type} (pairs : List (String × String)) (name : String)
    (read : String → Option α) : Option (Option α) :=
  match pairs.filter (·.1 = name) with
  | [] => some none
  | [pair] => (read pair.2).map some
  | _ => none

def nat32? (text : String) : Option Nat :=
  let digits := match text.toList with
    | '+' :: rest => rest
    | chars => chars
  if digits.isEmpty || !digits.all Char.isDigit then none
  else
    let n := digits.foldl (fun n c => n * 10 + (c.toNat - '0'.toNat)) 0
    if n < 2 ^ 32 then some n else none

end Payments.Http
