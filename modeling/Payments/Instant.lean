import Payments.Power
import Payments.Text.Blank

/-!
Points in time, to the nanosecond, and their text: a date and a time of day in UTC, with the
fraction of the second in no, three, six or nine digits.
-/

namespace Payments

/-- Seconds since 1970 began, and nanoseconds into the second. A leap second is the second before
it with a nanosecond count from `10 ^ 9` on. -/
structure Instant where
  seconds : Int
  nanos : Nat
deriving DecidableEq, Repr, Inhabited

namespace Instant

def compareTo (x y : Instant) : Ordering :=
  (compare x.seconds y.seconds).then (compare x.nanos y.nanos)

def le (x y : Instant) : Bool := x.compareTo y != .gt

structure Date where
  year : Int
  month : Nat
  day : Nat

def isLeap (year : Int) : Bool := year % 4 == 0 && (year % 100 != 0 || year % 400 == 0)

def monthLength (year : Int) (month : Nat) : Nat :=
  if month = 2 then (if isLeap year then 29 else 28)
  else if month = 4 ∨ month = 6 ∨ month = 9 ∨ month = 11 then 30
  else 31

/-- Days from 1970-01-01, counting years from March. -/
def Date.dayNumber (date : Date) : Int :=
  let year := if date.month ≤ 2 then date.year - 1 else date.year
  let era := year.fdiv 400
  let yearOfEra := year - era * 400
  let monthFromMarch : Int := ((date.month + 9) % 12 : Nat)
  let dayOfYear := (153 * monthFromMarch + 2).fdiv 5 + date.day - 1
  era * 146097 + (yearOfEra * 365 + yearOfEra.fdiv 4 - yearOfEra.fdiv 100 + dayOfYear) - 719468

def Date.ofDayNumber (days : Int) : Date :=
  let shifted := days + 719468
  let era := shifted.fdiv 146097
  let dayOfEra := shifted - era * 146097
  let yearOfEra :=
    (dayOfEra - dayOfEra.fdiv 1460 + dayOfEra.fdiv 36524 - dayOfEra.fdiv 146096).fdiv 365
  let dayOfYear := dayOfEra - (365 * yearOfEra + yearOfEra.fdiv 4 - yearOfEra.fdiv 100)
  let monthFromMarch := (5 * dayOfYear + 2).fdiv 153
  let day := dayOfYear - (153 * monthFromMarch + 2).fdiv 5 + 1
  let month := if monthFromMarch < 10 then monthFromMarch + 3 else monthFromMarch - 9
  let year := yearOfEra + era * 400 + (if month ≤ 2 then 1 else 0)
  ⟨year, month.toNat, day.toNat⟩

def padded (width n : Nat) : List Char :=
  let digits := Nat.toDigits 10 n
  List.replicate (width - digits.length) '0' ++ digits

def yearText (year : Int) : List Char :=
  if 0 ≤ year ∧ year ≤ 9999 then padded 4 year.toNat
  else (if year < 0 then '-' else '+') :: padded 4 year.natAbs

def fractionText (nanos : Nat) : List Char :=
  if nanos = 0 then []
  else if nanos % 1000000 = 0 then '.' :: padded 3 (nanos / 1000000)
  else if nanos % 1000 = 0 then '.' :: padded 6 (nanos / 1000)
  else '.' :: padded 9 nanos

def text (x : Instant) : String :=
  let date := Date.ofDayNumber (x.seconds.fdiv 86400)
  let second := (x.seconds.fmod 86400).toNat
  let leap := x.nanos / 1000000000
  String.ofList (yearText date.year ++ '-' :: padded 2 date.month ++ '-' :: padded 2 date.day ++
    'T' :: padded 2 (second / 3600) ++ ':' :: padded 2 (second / 60 % 60) ++
    ':' :: padded 2 (second % 60 + leap) ++ fractionText (x.nanos % 1000000000) ++ ['Z'])

/-! Reading is lenient: blanks may stand before a number or a separator, a number may have fewer
digits, and a space may stand for the `T`. -/

def digitsUpTo (most : Nat) (chars : List Char) : Option (Nat × List Char) :=
  let digits := (chars.take most).takeWhile Char.isDigit
  if digits.isEmpty then none
  else some (digits.foldl (fun n c => n * 10 + (c.toNat - '0'.toNat)) 0, chars.drop digits.length)

def field (chars : List Char) : Option (Nat × List Char) := digitsUpTo 2 (Text.trimStart chars)

def mark (c : Char) (chars : List Char) : Option (List Char) :=
  match Text.trimStart chars with
  | d :: rest => if d = c then some rest else none
  | [] => none

def yearField (chars : List Char) : Option (Int × List Char) :=
  match Text.trimStart chars with
  | '-' :: rest => (digitsUpTo rest.length rest).map fun (n, rest) => (-(n : Int), rest)
  | '+' :: rest => (digitsUpTo rest.length rest).map fun (n, rest) => ((n : Int), rest)
  | rest => (digitsUpTo 4 rest).map fun (n, rest) => ((n : Int), rest)

def fraction : List Char → Option (Nat × List Char)
  | '.' :: rest =>
    (digitsUpTo 9 rest).map fun (n, after) =>
      (n * 10 ^ (9 - (rest.length - after.length)), after.dropWhile Char.isDigit)
  | chars => some (0, chars)

def twoDigits : List Char → Option (Nat × List Char)
  | a :: b :: rest =>
    if a.isDigit && b.isDigit then
      some ((a.toNat - '0'.toNat) * 10 + (b.toNat - '0'.toNat), rest)
    else none
  | _ => none

def zone (chars : List Char) : Option (Int × List Char) :=
  match chars with
  | 'Z' :: rest | 'z' :: rest => some (0, rest)
  | a :: b :: c :: rest =>
    if [a, b, c].map Char.toUpper = ['U', 'T', 'C'] then some (0, rest)
    else if a = '+' ∨ a = '-' ∨ a = '−' then do
      let (hours, rest) ← twoDigits (b :: c :: rest)
      let (minutes, rest) ← twoDigits (rest.dropWhile fun c => c = ':' || Text.isBlank c)
      if minutes < 60 ∧ hours < 24 then
        let offset : Int := (hours * 3600 + minutes * 60 : Nat)
        some (if a = '+' then offset else -offset, rest)
      else none
    else none
  | _ => none

def Date.inRange (date : Date) : Bool := decide (-262143 ≤ date.year ∧ date.year ≤ 262142)

/-- Both the date as written and the date in UTC have to be in range. -/
def ofFields? (date : Date) (hour minute second nanos : Nat) (offset : Int) : Option Instant :=
  if date.inRange ∧ 1 ≤ date.month ∧ date.month ≤ 12 ∧ 1 ≤ date.day ∧
      date.day ≤ monthLength date.year date.month ∧ hour < 24 ∧ minute < 60 ∧ second ≤ 60 then
    let ofDay : Int := (hour * 3600 + minute * 60 + min second 59 : Nat)
    let seconds := date.dayNumber * 86400 + ofDay - offset
    if (Date.ofDayNumber (seconds.fdiv 86400)).inRange then
      some ⟨seconds, if second = 60 then nanos + 1000000000 else nanos⟩
    else none
  else none

def ofChars? (chars : List Char) : Option Instant := do
  let (year, chars) ← yearField chars
  let (month, chars) ← field (← mark '-' chars)
  let (day, chars) ← field (← mark '-' chars)
  let chars ← match chars with
    | 'T' :: rest | 't' :: rest | ' ' :: rest => some rest
    | _ => none
  let (hour, chars) ← field chars
  let (minute, chars) ← field (← mark ':' chars)
  let (second, chars) ← field (← mark ':' chars)
  let (nanos, chars) ← fraction chars
  let (offset, chars) ← zone (Text.trimStart chars)
  if (Text.trimStart chars).isEmpty then
    ofFields? ⟨year, month, day⟩ hour minute second nanos offset
  else none

def ofText? (text : String) : Option Instant := ofChars? text.toList

end Instant

end Payments
