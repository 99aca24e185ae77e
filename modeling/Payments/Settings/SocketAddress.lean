import Payments.Power

/-!
Addresses to listen on: an IPv4 or IPv6 address and a port, read from text and written in the
shortest form.
-/

namespace Payments.Settings

inductive IpAddress
  | v4 (octets : List Nat)
  | v6 (groups : List Nat) (zone : Nat)
deriving DecidableEq, Repr

structure SocketAddress where
  address : IpAddress
  port : Nat
deriving DecidableEq, Repr

namespace SocketAddress

def digitIn? (radix : Nat) (c : Char) : Option Nat :=
  let value :=
    if c.isDigit then some (c.toNat - '0'.toNat)
    else if 'a' ≤ c && c ≤ 'f' then some (c.toNat - 'a'.toNat + 10)
    else if 'A' ≤ c && c ≤ 'F' then some (c.toNat - 'A'.toNat + 10)
    else none
  value.filter (· < radix)

def number (radix bound : Nat) (most : Option Nat) (leadingZero : Bool) (chars : List Char) :
    Option (Nat × List Char) :=
  let digits := chars.takeWhile fun c => (digitIn? radix c).isSome
  let value := digits.foldl (fun n c => n * radix + (digitIn? radix c).getD 0) 0
  if digits.isEmpty || most.any (· < digits.length) || bound ≤ value ||
      (!leadingZero && digits.head? = some '0' && 1 < digits.length) then none
  else some (value, chars.drop digits.length)

def mark (c : Char) : List Char → Option (List Char)
  | d :: rest => if d = c then some rest else none
  | [] => none

def octet (chars : List Char) : Option (Nat × List Char) := number 10 256 (some 3) false chars

def ipv4 (chars : List Char) : Option (List Nat × List Char) := do
  let (a, chars) ← octet chars
  let (b, chars) ← octet (← mark '.' chars)
  let (c, chars) ← octet (← mark '.' chars)
  let (d, chars) ← octet (← mark '.' chars)
  return ([a, b, c, d], chars)

/-- Hexadecimal groups between colons, at most `room` of them, the last two of which may be written
as an IPv4 address; says whether they were. -/
def groups (first : Bool) : Nat → List Char → List Nat × Bool × List Char
  | 0, chars => ([], false, chars)
  | room + 1, chars =>
    match if first then some chars else mark ':' chars with
    | none => ([], false, chars)
    | some start =>
      match if room = 0 then none else ipv4 start with
      | some ([a, b, c, d], rest) => ([a * 256 + b, c * 256 + d], true, rest)
      | _ =>
        match number 16 65536 (some 4) true start with
        | none => ([], false, chars)
        | some (group, rest) =>
          let (others, ended, rest) :=
            if room = 0 then ([], false, rest) else groups false room rest
          (group :: others, ended, rest)

def ipv6 (chars : List Char) : Option (List Nat × List Char) := do
  let (head, ended, rest) := groups true 8 chars
  if head.length = 8 then return (head, rest)
  else if ended then none
  else
    let rest ← mark ':' (← mark ':' rest)
    let (tail, _, rest) := groups true (7 - head.length) rest
    return (head ++ List.replicate (8 - head.length - tail.length) 0 ++ tail, rest)

def portMark (chars : List Char) : Option (Nat × List Char) := do
  number 10 65536 none true (← mark ':' chars)

def zoneMark (chars : List Char) : Option (Nat × List Char) :=
  match chars with
  | '%' :: rest => number 10 (2 ^ 32) none true rest
  | _ => some (0, chars)

def socket4 (chars : List Char) : Option (SocketAddress × List Char) := do
  let (octets, chars) ← ipv4 chars
  let (port, chars) ← portMark chars
  return (⟨.v4 octets, port⟩, chars)

def socket6 (chars : List Char) : Option (SocketAddress × List Char) := do
  let (groups, chars) ← ipv6 (← mark '[' chars)
  let (zone, chars) ← zoneMark chars
  let (port, chars) ← portMark (← mark ']' chars)
  return (⟨.v6 groups zone, port⟩, chars)

def ofText? (text : String) : Option SocketAddress :=
  match (socket4 text.toList).orElse fun () => socket6 text.toList with
  | some (address, []) => some address
  | _ => none

def decimal (n : Nat) : List Char := Nat.toDigits 10 n

def ipv4Text (octets : List Nat) : List Char := ['.'].intercalate (octets.map decimal)

def groupsText (groups : List Nat) : List Char := [':'].intercalate (groups.map (Nat.toDigits 16))

def longestZeros (groups : List Nat) : Nat × Nat :=
  (List.range groups.length).foldl (fun best start =>
    let length := ((groups.drop start).takeWhile (· = 0)).length
    if best.2 < length then (start, length) else best) (0, 0)

def ipv6Text (groups : List Nat) : List Char :=
  match groups with
  | [0, 0, 0, 0, 0, 0xFFFF, high, low] =>
    "::ffff:".toList ++ ipv4Text [high / 256, high % 256, low / 256, low % 256]
  | _ =>
    let (start, length) := longestZeros groups
    if length ≤ 1 then groupsText groups
    else groupsText (groups.take start) ++ [':', ':'] ++ groupsText (groups.drop (start + length))

def text (socket : SocketAddress) : String :=
  String.ofList (
    (match socket.address with
      | .v4 octets => ipv4Text octets
      | .v6 groups zone =>
        '[' :: ipv6Text groups ++ (if zone = 0 then [] else '%' :: decimal zone) ++ [']']) ++
    ':' :: decimal socket.port)

end SocketAddress

end Payments.Settings
