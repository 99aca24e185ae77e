import Payments.Json.Numeral
import Payments.Text.Utf8

/-!
Readers of JSON text. A reader takes a value of one shape from the front of a byte string and tells
two faults apart: text that is no JSON, and JSON of another shape. Containers may be nested 127
deep, except in values that are passed over.
-/

namespace Payments.Json

inductive Fault
  | malformed
  | mismatch
deriving DecidableEq, Repr

/-- The environment counts the containers that may still be entered. -/
abbrev Reader := ReaderT Nat (StateT (List UInt8) (Except Fault))

namespace Reader

def malformed {α : Type} : Reader α := throw .malformed

def isSpace (b : UInt8) : Bool := b == 0x20 || b == 0x0A || b == 0x0D || b == 0x09

def isDigit (b : UInt8) : Bool := 0x30 ≤ b && b ≤ 0x39

def peek : Reader (Option Char) := do
  modify (·.dropWhile isSpace)
  return (← get).head?.map fun b => Char.ofNat b.toNat

def advance : Reader Unit := modify List.tail

def literal (word : String) : Reader Unit := do
  let bytes := Text.bytesOf word
  if bytes.isPrefixOf (← get) then modify (·.drop bytes.length) else malformed

def next (c : Char) : Reader Bool := do
  match ← get with
  | b :: rest => if b.toNat = c.toNat then set rest; return true else return false
  | [] => return false

def digits : Reader (List Nat) := do
  let found := (← get).takeWhile isDigit
  modify (·.drop found.length)
  return found.map (·.toNat - 0x30)

def digits1 : Reader (List Nat) := do
  let found ← digits
  if found.isEmpty then malformed else return found

def numeral : Reader Numeral := do
  let negative ← next '-'
  let whole ← digits1
  if whole.head? = some 0 && whole.length ≠ 1 then malformed
  let fraction ← if ← next '.' then digits1 else pure []
  let marked ← if ← next 'e' then pure true else next 'E'
  if marked then
    let minus ← next '-'
    unless minus do discard (next '+')
    return ⟨negative, whole, fraction, some (minus, ← digits1)⟩
  else return ⟨negative, whole, fraction, none⟩

def number : Reader Number := do
  match (← numeral).number? with
  | some n => return n
  | none => malformed

def hexDigit? (b : UInt8) : Option Nat :=
  if isDigit b then some (b.toNat - 0x30)
  else if 0x61 ≤ b && b ≤ 0x66 then some (b.toNat - 0x57)
  else if 0x41 ≤ b && b ≤ 0x46 then some (b.toNat - 0x37)
  else none

def hex4? (a b c d : UInt8) : Option Nat := do
  return (((← hexDigit? a) * 16 + (← hexDigit? b)) * 16 + (← hexDigit? c)) * 16 + (← hexDigit? d)

def unescape? (b : UInt8) : Option UInt8 :=
  match Char.ofNat b.toNat with
  | '"' => some 0x22
  | '\\' => some 0x5C
  | '/' => some 0x2F
  | 'b' => some 0x08
  | 'f' => some 0x0C
  | 'n' => some 0x0A
  | 'r' => some 0x0D
  | 't' => some 0x09
  | _ => none

def stringBytes (read : List UInt8) : List UInt8 → Option (List UInt8 × List UInt8)
  | [] => none
  | 0x22 :: rest => some (read.reverse, rest)
  | 0x5C :: 0x75 :: a :: b :: c :: d :: rest =>
    match hex4? a b c d with
    | none => none
    | some unit =>
      if 0xDC00 ≤ unit && unit ≤ 0xDFFF then none
      else if 0xD800 ≤ unit && unit ≤ 0xDBFF then
        match rest with
        | 0x5C :: 0x75 :: e :: f :: g :: h :: rest =>
          match hex4? e f g h with
          | none => none
          | some low =>
            if 0xDC00 ≤ low && low ≤ 0xDFFF then
              let c := Char.ofNat (0x10000 + (unit - 0xD800) * 0x400 + (low - 0xDC00))
              stringBytes ((String.utf8EncodeChar c).reverse ++ read) rest
            else none
        | _ => none
      else stringBytes ((String.utf8EncodeChar (Char.ofNat unit)).reverse ++ read) rest
  | 0x5C :: b :: rest =>
    match unescape? b with
    | some b => stringBytes (b :: read) rest
    | none => none
  | b :: rest => if b < 0x20 || b = 0x5C then none else stringBytes (b :: read) rest

def afterString : List UInt8 → Option (List UInt8)
  | [] => none
  | 0x22 :: rest => some rest
  | 0x5C :: 0x75 :: a :: b :: c :: d :: rest =>
    if (hex4? a b c d).isSome then afterString rest else none
  | 0x5C :: b :: rest => if (unescape? b).isSome then afterString rest else none
  | b :: rest => if b < 0x20 || b = 0x5C then none else afterString rest

def quoted : Reader String := do
  match stringBytes [] (← get).tail with
  | none => malformed
  | some (bytes, rest) =>
    match Text.ofBytes? bytes with
    | none => malformed
    | some text => set rest; return text

def skipQuoted : Reader Unit := do
  match afterString (← get).tail with
  | none => malformed
  | some rest => set rest

def startsNumber (c : Char) : Bool := c = '-' || c.isDigit

/-- Another shape than the one asked for. What stands there is read first unless it is a container,
so that broken text is still told apart. -/
def mismatch {α : Type} : Reader α := do
  match ← peek with
  | none => malformed
  | some c =>
    match c with
    | 'n' => literal "null"
    | 't' => literal "true"
    | 'f' => literal "false"
    | '"' => discard quoted
    | '[' | '\x7b' => pure ()
    | c => if startsNumber c then discard number else malformed
    throw .mismatch

def enter {α : Type} (inside : Reader α) : Reader α := do
  match ← read with
  | 0 => malformed
  | budget + 1 => advance; withReader (fun _ => budget) inside

def another (close : Char) (first : Bool) : Reader Bool := do
  match ← peek with
  | none => malformed
  | some c =>
    if c = close then return false
    else if first then return true
    else if c = ',' then
      advance
      match ← peek with
      | none => malformed
      | some c => if c = close then malformed else return true
    else malformed

def elements {α : Type} (element : Reader α) : Nat → Bool → List α → Reader (List α)
  | 0, _, _ => malformed
  | fuel + 1, first, read => do
    if ← another ']' first then elements element fuel false ((← element) :: read)
    else advance; return read.reverse

def key : Reader String := do
  match ← peek with
  | some '"' => quoted
  | _ => malformed

def colon : Reader Unit := do
  match ← peek with
  | some ':' => advance
  | _ => malformed

def members {α : Type} (member : String → Reader α) : Nat → Bool → List α → Reader (List α)
  | 0, _, _ => malformed
  | fuel + 1, first, read => do
    if ← another '\x7d' first then
      let name ← key
      colon
      members member fuel false ((← member name) :: read)
    else advance; return read.reverse

def room : Reader Nat := return (← get).length + 1

def lastOfEach (members : List (String × Json)) : List (String × Json) :=
  members.foldr (fun m later => if later.any (·.1 = m.1) then later else m :: later) []

def valueWithin : Nat → Reader Json
  | 0 => scalar
  | depth + 1 => do
    match ← peek with
    | some '[' => advance; return .arr (← elements (valueWithin depth) (← room) true [])
    | some '\x7b' =>
      advance
      let found ← members (fun name => return (name, ← valueWithin depth)) (← room) true []
      return .obj (lastOfEach found)
    | _ => scalar
where
  scalar : Reader Json := do
    match ← peek with
    | some 'n' => literal "null"; return .null
    | some 't' => literal "true"; return .bool true
    | some 'f' => literal "false"; return .bool false
    | some '"' => return .str (← quoted)
    | some c => if startsNumber c then return .num (← number) else malformed
    | none => malformed

def value : Reader Json := do valueWithin (← read)

/-- Passes over one value; the list holds the brackets that close the containers it is in. -/
def skipWithin : Nat → Bool → List Char → Reader Unit
  | 0, _, _ => malformed
  | fuel + 1, true, outer => do
    match ← peek with
    | some '[' =>
      advance
      match ← peek with
      | some ']' => skipWithin fuel false (']' :: outer)
      | _ => skipWithin fuel true (']' :: outer)
    | some '\x7b' =>
      advance
      match ← peek with
      | some '\x7d' => skipWithin fuel false ('\x7d' :: outer)
      | some '"' => skipQuoted; colon; skipWithin fuel true ('\x7d' :: outer)
      | _ => malformed
    | some '"' => skipQuoted; skipWithin fuel false outer
    | some 'n' => literal "null"; skipWithin fuel false outer
    | some 't' => literal "true"; skipWithin fuel false outer
    | some 'f' => literal "false"; skipWithin fuel false outer
    | some c => if startsNumber c then discard numeral; skipWithin fuel false outer else malformed
    | none => malformed
  | _ + 1, false, [] => return
  | fuel + 1, false, close :: outer => do
    match ← peek with
    | some ',' =>
      advance
      if close = ']' then skipWithin fuel true (close :: outer)
      else
        match ← peek with
        | some '"' => skipQuoted; colon; skipWithin fuel true (close :: outer)
        | _ => malformed
    | some c => if c = close then advance; skipWithin fuel false outer else malformed
    | none => malformed

def skip : Reader Unit := do skipWithin (2 * (← room)) true []

def string : Reader String := do
  match ← peek with
  | some '"' => quoted
  | _ => mismatch

def bool : Reader Bool := do
  match ← peek with
  | some 't' => literal "true"; return true
  | some 'f' => literal "false"; return false
  | _ => mismatch

def int (low high : Int) : Reader Int := do
  match ← peek with
  | some c =>
    if startsNumber c then
      match ← number with
      | .int n => if low ≤ n ∧ n ≤ high then return n else throw .mismatch
      | .float _ => throw .mismatch
    else mismatch
  | none => malformed

def optional {α : Type} (reader : Reader α) : Reader (Option α) := do
  match ← peek with
  | some 'n' => literal "null"; return none
  | _ => some <$> reader

def filterMap {α β : Type} (decode : α → Option β) (reader : Reader α) : Reader β := do
  match decode (← reader) with
  | some x => return x
  | none => throw .mismatch

def word {α : Type} (decode : String → Option α) : Reader α := do
  match ← peek with
  | some '"' => filterMap decode quoted
  | some '\x7b' =>
    enter do
      let x ← filterMap decode string
      colon
      match ← peek with
      | some 'n' => literal "null"
      | _ => mismatch
      match ← peek with
      | some '\x7d' => advance; return x
      | _ => malformed
  | _ => malformed

def maxDepth : Nat := 127

/-- Reads a whole document: nothing but spaces may follow the value. -/
def parse {α : Type} (reader : Reader α) (bytes : List UInt8) : Except Fault α := do
  let (x, rest) ← (reader.run maxDepth).run bytes
  if rest.all isSpace then return x else throw .malformed

def parseText {α : Type} (reader : Reader α) (text : String) : Except Fault α :=
  parse reader (Text.bytesOf text)

end Reader

end Payments.Json
