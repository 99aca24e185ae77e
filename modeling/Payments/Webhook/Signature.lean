import Payments.Digest.Hmac
import Payments.Power
import Payments.Text.Blank
import Payments.Text.Split
import Payments.Text.Utf8

/-!
Signatures of webhook deliveries. A header holds a time and one or more keyed digests, as
`t=<seconds>,v1=<hex>`; a digest covers the time, a point and the payload. A delivery is genuine if
its time is near enough and one of the digests is right.
-/

namespace Payments.Webhook

inductive SignatureFault
  | missing
  | timestamp
  | format
  | expired
  | mismatch
deriving DecidableEq, Repr

def SignatureFault.message : SignatureFault → String
  | .missing => "missing Stripe-Signature header"
  | .timestamp => "invalid timestamp in signature header"
  | .format => "invalid signature header format"
  | .expired => "timestamp outside tolerance window"
  | .mismatch => "no matching v1 signature"

def int64? (chars : List Char) : Option Int64 := do
  let (negative, digits) := match chars with
    | '-' :: rest => (true, rest)
    | '+' :: rest => (false, rest)
    | _ => (false, chars)
  if digits.isEmpty || !digits.all Char.isDigit then none
  else
    let magnitude := digits.foldl (fun n c => n * 10 + (c.toNat - '0'.toNat)) 0
    let value : Int := if negative then -(magnitude : Int) else magnitude
    if -2 ^ 63 ≤ value ∧ value < 2 ^ 63 then some (Int64.ofInt value) else none

structure SignatureHeader where
  timestamp : Option Int64 := none
  digests : List (List Char) := []

namespace SignatureHeader

/-- Adds what one piece of a header says; of several times the last counts, and a piece that is
neither a time nor a digest says nothing. -/
def add (header : SignatureHeader) (piece : List Char) : Except SignatureFault SignatureHeader :=
  match Text.cut? '=' (Text.trimEnd (Text.trimStart piece)) with
  | some (['t'], value) =>
    match int64? value with
    | some time => .ok { header with timestamp := some time }
    | none => .error .timestamp
  | some (['v', '1'], value) => .ok { header with digests := header.digests ++ [value] }
  | _ => .ok header

def parse (text : String) : Except SignatureFault (Int64 × List (List Char)) := do
  let header ← (Text.pieces ',' text.toList).foldlM add {}
  match header.timestamp, header.digests with
  | some time, digest :: digests => .ok (time, digest :: digests)
  | _, _ => .error .format

end SignatureHeader

def signedMessage (time : Int64) (payload : List UInt8) : List UInt8 :=
  Text.bytesOf (toString time.toInt) ++ 0x2E :: payload

def digest (secret : String) (time : Int64) (payload : List UInt8) : List Char :=
  Digest.hex (Digest.hmac (Text.bytesOf secret) (signedMessage time payload))

def verify (payload : List UInt8) (header secret : String) (tolerance now : Int64) :
    Except SignatureFault Unit := do
  let (time, digests) ← SignatureHeader.parse header
  if max tolerance.toInt 0 < (now.toInt - time.toInt).natAbs then throw .expired
  unless digests.contains (digest secret time payload) do throw .mismatch

def signatureHeader (payload : List UInt8) (secret : String) (time : Int64) : String :=
  "t=" ++ toString time.toInt ++ ",v1=" ++ String.ofList (digest secret time payload)

end Payments.Webhook
