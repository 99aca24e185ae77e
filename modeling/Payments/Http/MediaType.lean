/-!
Media types of request bodies: a type, a subtype with or without a suffix, and parameters, which
have to be well formed but do not matter here.
-/

namespace Payments.Http

def isTokenChar (c : Char) : Bool :=
  c.isAlphanum || "!#$%&'*+-.^_|~".toList.contains c || c.toNat = 0x60

def isQuotable (c : Char) : Bool := 0x20 ≤ c.toNat && c.toNat ≠ 0x7F

inductive Place
  | beforeName
  | name
  | beforeValue
  | value
  | openQuote
  | quoted
  | closed

namespace Place

def next : Place → Char → Option Place
  | .beforeName, c =>
    if c = ' ' then some .beforeName else if isTokenChar c then some .name else none
  | .name, c => if c = '=' then some .beforeValue else if isTokenChar c then some .name else none
  | .beforeValue, c =>
    if c = '"' then some .openQuote else if isTokenChar c then some .value else none
  | .value, c => if c = ';' then some .beforeName else if isTokenChar c then some .value else none
  | .openQuote, c => if isQuotable c then some .quoted else none
  | .quoted, c => if c = '"' then some .closed else if isQuotable c then some .quoted else none
  | .closed, c => if c = ';' then some .beforeName else if c = ' ' then some .closed else none

def mayEnd : Place → Bool
  | .beforeName | .beforeValue | .value | .closed => true
  | .name | .openQuote | .quoted => false

end Place

def areParameters (chars : List Char) : Bool :=
  (chars.foldlM Place.next .beforeName).any Place.mayEnd

def splitSuffix (subtype : List Char) : List Char × Option (List Char) :=
  let suffix := (subtype.reverse.takeWhile (· ≠ '+')).reverse
  let base := subtype.take (subtype.length - suffix.length - 1)
  if base.isEmpty then (subtype, none) else (base, some suffix)

/-- The type is `application`, and the subtype or its suffix is `json`. -/
def isJsonMediaType (text : String) : Bool :=
  let chars := text.toList.map Char.toLower
  let essence := chars.takeWhile (· ≠ ';')
  match essence.dropWhile (· ≠ '/') with
  | '/' :: subtype =>
    let (base, suffix) := splitSuffix subtype
    essence.takeWhile (· ≠ '/') = "application".toList && subtype.all isTokenChar &&
      (base = "json".toList || suffix = some "json".toList) &&
      areParameters ((chars.dropWhile (· ≠ ';')).drop 1)
  | _ => false

end Payments.Http
