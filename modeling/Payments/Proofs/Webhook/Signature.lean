import Mathlib.Algebra.Order.Ring.Int
import Payments.Proofs.Text.Split
import Payments.Webhook.Signature

/-!
Which deliveries are taken for genuine. A header is cut at its commas, and each piece, without the
blanks at its ends, at its first equals sign. The times and the digests it gives decide, with the
payload, the secret and the clock; nothing else in it does.
-/

namespace Payments.Webhook

/-- A text of decimal digits denotes a number, with or without a sign in front. -/
inductive Denotes : List Char → Int → Prop
  | plain {digits : List Char} : digits ≠ [] → (∀ c ∈ digits, c.isDigit) →
      Denotes digits (Nat.ofDigitChars 10 digits 0)
  | plus {digits : List Char} : digits ≠ [] → (∀ c ∈ digits, c.isDigit) →
      Denotes ('+' :: digits) (Nat.ofDigitChars 10 digits 0)
  | minus {digits : List Char} : digits ≠ [] → (∀ c ∈ digits, c.isDigit) →
      Denotes ('-' :: digits) (-(Nat.ofDigitChars 10 digits 0 : Int))

theorem Denotes.plus_iff {digits : List Char} {n : Int} :
    Denotes ('+' :: digits) n ↔
      digits ≠ [] ∧ (∀ c ∈ digits, c.isDigit) ∧ n = Nat.ofDigitChars 10 digits 0 := by
  constructor
  · intro denotes
    cases denotes with
    | plain _ digital => exact absurd (digital '+' (by simp)) (by decide)
    | plus some digital => exact ⟨some, digital, rfl⟩
  · rintro ⟨some, digital, rfl⟩
    exact .plus some digital

theorem Denotes.minus_iff {digits : List Char} {n : Int} :
    Denotes ('-' :: digits) n ↔
      digits ≠ [] ∧ (∀ c ∈ digits, c.isDigit) ∧ n = -(Nat.ofDigitChars 10 digits 0 : Int) := by
  constructor
  · intro denotes
    cases denotes with
    | plain _ digital => exact absurd (digital '-' (by simp)) (by decide)
    | minus some digital => exact ⟨some, digital, rfl⟩
  · rintro ⟨some, digital, rfl⟩
    exact .minus some digital

theorem Denotes.plain_iff {chars : List Char} {n : Int} (noMinus : ∀ rest, chars ≠ '-' :: rest)
    (noPlus : ∀ rest, chars ≠ '+' :: rest) :
    Denotes chars n ↔
      chars ≠ [] ∧ (∀ c ∈ chars, c.isDigit) ∧ n = Nat.ofDigitChars 10 chars 0 := by
  constructor
  · intro denotes
    cases denotes with
    | plain some digital => exact ⟨some, digital, rfl⟩
    | plus => exact absurd rfl (noPlus _)
    | minus => exact absurd rfl (noMinus _)
  · rintro ⟨some, digital, rfl⟩
    exact .plain some digital

theorem foldl_digits (digits : List Char) :
    digits.foldl (fun n c => n * 10 + (c.toNat - '0'.toNat)) 0 = Nat.ofDigitChars 10 digits 0 := by
  rw [Nat.ofDigitChars_eq_foldl]
  simp only [Nat.mul_comm]

theorem ofInt_of_range {value : Int} {n : Int64} :
    (if -2 ^ 63 ≤ value ∧ value < 2 ^ 63 then some (Int64.ofInt value) else none) = some n ↔
      n.toInt = value := by
  have lower := n.le_toInt
  have upper := n.toInt_lt
  constructor
  · intro made
    split at made
    · rename_i range
      cases made
      exact Int64.toInt_ofInt_of_le range.1 range.2
    · cases made
  · rintro rfl
    rw [if_pos ⟨lower, upper⟩, Int64.ofInt_toInt]

theorem signed_eq_some_iff {negative : Bool} {digits : List Char} {n : Int64} :
    (if digits.isEmpty || !digits.all Char.isDigit then none
      else
        let magnitude := digits.foldl (fun n c => n * 10 + (c.toNat - '0'.toNat)) 0
        let value : Int := if negative then -(magnitude : Int) else magnitude
        if -2 ^ 63 ≤ value ∧ value < 2 ^ 63 then some (Int64.ofInt value) else none) = some n ↔
      digits ≠ [] ∧ (∀ c ∈ digits, c.isDigit) ∧
        n.toInt = if negative then -(Nat.ofDigitChars 10 digits 0 : Int)
          else Nat.ofDigitChars 10 digits 0 := by
  by_cases digital : digits ≠ [] ∧ ∀ c ∈ digits, c.isDigit
  · have accepted : ¬(digits.isEmpty || !digits.all Char.isDigit) := by simpa using digital
    simp only [if_neg accepted, foldl_digits, ofInt_of_range]
    exact ⟨fun value => ⟨digital.1, digital.2, value⟩, fun all => all.2.2⟩
  · have refused : digits.isEmpty || !digits.all Char.isDigit := by
      by_contra accepted
      exact digital (by simpa using accepted)
    simp only [if_pos refused, reduceCtorEq, false_iff]
    exact fun all => digital ⟨all.1, all.2.1⟩

theorem int64?_eq_some_iff {chars : List Char} {n : Int64} :
    int64? chars = some n ↔ Denotes chars n.toInt := by
  unfold int64?
  split
  · rename_i negative digits sign
    split at sign
    · rename_i rest
      cases sign
      exact signed_eq_some_iff.trans Denotes.minus_iff.symm
    · rename_i rest
      cases sign
      exact signed_eq_some_iff.trans Denotes.plus_iff.symm
    · rename_i noMinus noPlus
      cases sign
      exact signed_eq_some_iff.trans (Denotes.plain_iff noMinus noPlus).symm

namespace SignatureHeader

def piecesOf (header : String) : List (List Char) := header.toList.splitOn ','

def ofPieces (pieces : List (List Char)) : String := String.ofList ([','].intercalate pieces)

def field? (piece : List Char) : Option (List Char × List Char) :=
  Text.cut? '=' (Text.trimEnd (Text.trimStart piece))

def valuesOf (key : List Char) (pieces : List (List Char)) : List (List Char) :=
  ((pieces.filterMap field?).filter (·.1 = key)).map (·.2)

theorem field?_eq_some_iff {piece key value : List Char} :
    field? piece = some (key, value) ↔
      Text.trimEnd (Text.trimStart piece) = key ++ '=' :: value ∧ '=' ∉ key :=
  Text.cut?_eq_some_iff

theorem piecesOf_ofPieces {pieces : List (List Char)} (some : pieces ≠ [])
    (clear : ∀ piece ∈ pieces, ',' ∉ piece) : piecesOf (ofPieces pieces) = pieces := by
  rw [piecesOf, ofPieces, String.toList_ofList, List.splitOn_intercalate ',' clear some]

theorem clear_of_mem {header : String} {piece : List Char} (member : piece ∈ piecesOf header) :
    ',' ∉ piece := by
  rw [piecesOf, ← Text.pieces_eq_splitOn] at member
  exact Text.separator_notMem_of_mem_pieces member

theorem valuesOf_append (key : List Char) (before after : List (List Char)) :
    valuesOf key (before ++ after) = valuesOf key before ++ valuesOf key after := by
  simp [valuesOf]

theorem valuesOf_cons (key piece : List Char) (rest : List (List Char)) :
    valuesOf key (piece :: rest) = valuesOf key [piece] ++ valuesOf key rest :=
  valuesOf_append key [piece] rest

theorem mem_valuesOf {key value : List Char} {pieces : List (List Char)} :
    value ∈ valuesOf key pieces ↔ ∃ piece ∈ pieces, field? piece = some (key, value) := by
  simp [valuesOf]

/-- A piece that gives neither a time nor a digest. -/
def Silent (piece : List Char) : Prop :=
  ∀ key value, field? piece = some (key, value) → key ≠ ['t'] ∧ key ≠ ['v', '1']

theorem silent_or (piece : List Char) :
    (∃ value, field? piece = some (['t'], value)) ∨
      (∃ value, field? piece = some (['v', '1'], value)) ∨ Silent piece := by
  by_cases time : ∃ value, field? piece = some (['t'], value)
  · exact .inl time
  · by_cases digest : ∃ value, field? piece = some (['v', '1'], value)
    · exact .inr (.inl digest)
    · refine .inr (.inr fun key value given => ⟨?_, ?_⟩)
      · rintro rfl
        exact time ⟨value, given⟩
      · rintro rfl
        exact digest ⟨value, given⟩

theorem valuesOf_of_field {key own value piece : List Char}
    (given : field? piece = some (own, value)) :
    valuesOf key [piece] = if own = key then [value] else [] := by
  by_cases same : own = key
  · simp [valuesOf, given, same]
  · simp [valuesOf, given, same]

theorem Silent.valuesOf {piece : List Char} (silent : Silent piece) :
    valuesOf ['t'] [piece] = [] ∧ valuesOf ['v', '1'] [piece] = [] := by
  constructor
  · refine List.eq_nil_iff_forall_not_mem.mpr fun value member => ?_
    obtain ⟨_, isPiece, given⟩ := mem_valuesOf.mp member
    rw [List.mem_singleton.mp isPiece] at given
    exact (silent _ _ given).1 rfl
  · refine List.eq_nil_iff_forall_not_mem.mpr fun value member => ?_
    obtain ⟨_, isPiece, given⟩ := mem_valuesOf.mp member
    rw [List.mem_singleton.mp isPiece] at given
    exact (silent _ _ given).2 rfl

theorem add_time {header : SignatureHeader} {piece value : List Char} {time : Int64}
    (given : field? piece = some (['t'], value)) (read : int64? value = some time) :
    add header piece = .ok { header with timestamp := some time } := by
  unfold field? at given
  simp [add, given, read]

theorem add_wrong_time {header : SignatureHeader} {piece value : List Char}
    (given : field? piece = some (['t'], value)) (unread : int64? value = none) :
    add header piece = .error .timestamp := by
  unfold field? at given
  simp [add, given, unread]

theorem add_digest {header : SignatureHeader} {piece value : List Char}
    (given : field? piece = some (['v', '1'], value)) :
    add header piece = .ok { header with digests := header.digests ++ [value] } := by
  unfold field? at given
  simp [add, given]

theorem add_silent {header : SignatureHeader} {piece : List Char} (silent : Silent piece) :
    add header piece = .ok header := by
  unfold add
  split
  · rename_i value given
    exact absurd rfl (silent _ _ given).1
  · rename_i value given
    exact absurd rfl (silent _ _ given).2
  · rfl

theorem getLast?_of_read {value : List Char} {later : List (List Char)} {time : Int64}
    (read : int64? value = some time) (readable : ∀ value ∈ later, (int64? value).isSome) :
    (value :: later).getLast?.bind int64? = (later.getLast?.bind int64?).or (some time) := by
  rw [List.getLast?_cons]
  cases last : later.getLast? with
  | none => simp [read]
  | some final =>
      obtain ⟨other, found⟩ :=
        Option.isSome_iff_exists.mp (readable final (List.mem_of_getLast? last))
      simp [found]

theorem foldlM_add_eq_ok_iff {pieces : List (List Char)} {header result : SignatureHeader} :
    pieces.foldlM add header = .ok result ↔
      (∀ value ∈ valuesOf ['t'] pieces, (int64? value).isSome) ∧
        result =
          { timestamp := ((valuesOf ['t'] pieces).getLast?.bind int64?).or header.timestamp
            digests := header.digests ++ valuesOf ['v', '1'] pieces } := by
  induction pieces generalizing header with
  | nil =>
      simp only [valuesOf, List.filterMap_nil, List.filter_nil, List.map_nil, List.append_nil,
        List.getLast?_nil, Option.bind_none, Option.none_or, List.not_mem_nil, false_implies,
        implies_true, true_and]
      exact ⟨fun read => (Except.ok.inj read).symm, fun same => congrArg Except.ok same.symm⟩
  | cons piece rest ih =>
      rw [List.foldlM_cons, valuesOf_cons ['t'], valuesOf_cons ['v', '1']]
      rcases silent_or piece with ⟨value, given⟩ | ⟨value, given⟩ | silent
      · rw [valuesOf_of_field given, valuesOf_of_field given, if_pos rfl, if_neg (by decide)]
        cases read : int64? value with
        | none =>
            rw [add_wrong_time given read]
            simp [bind, Except.bind, read]
        | some time =>
            rw [add_time given read]
            refine ih.trans ?_
            simp only [List.singleton_append, List.nil_append, List.forall_mem_cons, read,
              Option.isSome_some, true_and]
            refine and_congr_right fun readable => ?_
            rw [getLast?_of_read read readable, Option.or_assoc, Option.some_or]
      · rw [valuesOf_of_field given, valuesOf_of_field given, if_pos rfl, if_neg (by decide),
          add_digest given]
        refine ih.trans ?_
        rw [List.nil_append, List.append_assoc]
      · rw [silent.valuesOf.1, silent.valuesOf.2, add_silent silent]
        exact ih

theorem parse_eq_ok_iff {header : String} {time : Int64} {digests : List (List Char)} :
    parse header = .ok (time, digests) ↔
      (∀ value ∈ valuesOf ['t'] (piecesOf header), (int64? value).isSome) ∧
        (valuesOf ['t'] (piecesOf header)).getLast?.bind int64? = some time ∧
        valuesOf ['v', '1'] (piecesOf header) = digests ∧ digests ≠ [] := by
  have folded (result : SignatureHeader) :
      (piecesOf header).foldlM add {} = .ok result ↔ _ := foldlM_add_eq_ok_iff
  simp only [Option.or_none, List.nil_append] at folded
  unfold parse
  rw [Text.pieces_eq_splitOn, ← piecesOf]
  constructor
  · intro parsed
    cases read : (piecesOf header).foldlM add {} with
    | error fault =>
        rw [read] at parsed
        cases parsed
    | ok result =>
        obtain ⟨readable, rfl⟩ := (folded result).mp read
        rw [read] at parsed
        simp only [bind, Except.bind] at parsed
        split at parsed
        · rename_i last some
          cases parsed
          exact ⟨readable, last, some, by simp⟩
        · cases parsed
  · rintro ⟨readable, last, rfl, some⟩
    rw [(folded _).mpr ⟨readable, rfl⟩, last]
    obtain ⟨digest, digests, found⟩ := List.exists_cons_of_ne_nil some
    rw [found]
    rfl

theorem parse_insert {header : String} {before after : List (List Char)} {piece : List Char}
    (cut : piecesOf header = before ++ after) (clear : ',' ∉ piece) (silent : Silent piece) :
    parse (ofPieces (before ++ piece :: after)) = parse header := by
  have clearPieces : ∀ other ∈ before ++ piece :: after, ',' ∉ other := by
    intro other member
    by_cases inserted : other = piece
    · exact inserted ▸ clear
    · have present : other ∈ piecesOf header := by
        rw [cut]
        simpa [inserted] using member
      exact clear_of_mem present
  unfold parse
  rw [Text.pieces_eq_splitOn, Text.pieces_eq_splitOn, ← piecesOf, ← piecesOf,
    piecesOf_ofPieces (by simp) clearPieces, cut, List.foldlM_append, List.foldlM_append]
  simp only [List.foldlM_cons, add_silent silent]
  rfl

end SignatureHeader

open SignatureHeader

def rightDigest? (payload : List UInt8) (header secret : String) : Option (List Char) :=
  ((valuesOf ['t'] (piecesOf header)).getLast?.bind int64?).map fun time =>
    digest secret time payload

def isWrong (right : Option (List Char)) (piece : List Char) : Bool :=
  match field? piece with
  | some (['v', '1'], value) => right != some value
  | _ => false

theorem isWrong_iff {right : Option (List Char)} {piece : List Char} :
    isWrong right piece = true ↔
      ∃ value, field? piece = some (['v', '1'], value) ∧ right ≠ some value := by
  unfold isWrong
  split
  · rename_i value given
    simp [given]
  · rename_i other
    simp only [Bool.false_eq_true, false_iff]
    rintro ⟨value, given, _⟩
    exact other value given

theorem valuesOf_time_filter (right : Option (List Char)) (pieces : List (List Char)) :
    valuesOf ['t'] (pieces.filter (!isWrong right ·)) = valuesOf ['t'] pieces := by
  induction pieces with
  | nil => rfl
  | cons piece rest ih =>
      rw [List.filter_cons, valuesOf_cons ['t'] piece rest, ← ih]
      by_cases wrong : isWrong right piece = true
      · obtain ⟨value, given, _⟩ := isWrong_iff.mp wrong
        rw [if_neg (by simp [wrong]), valuesOf_of_field given, if_neg (by decide), List.nil_append]
      · rw [if_pos (by simp [wrong]), valuesOf_cons]

theorem mem_valuesOf_digest_filter {right : List Char} {pieces : List (List Char)} :
    right ∈ valuesOf ['v', '1'] (pieces.filter (!isWrong (some right) ·)) ↔
      right ∈ valuesOf ['v', '1'] pieces := by
  simp only [mem_valuesOf, List.mem_filter, Bool.not_eq_true']
  constructor
  · rintro ⟨piece, ⟨member, _⟩, given⟩
    exact ⟨piece, member, given⟩
  · rintro ⟨piece, member, given⟩
    exact ⟨piece, ⟨member, by simp [isWrong, given]⟩, given⟩

theorem verify_of_parsed {payload : List UInt8} {header secret : String}
    {tolerance now time : Int64} {digests : List (List Char)}
    (parsed : parse header = .ok (time, digests)) :
    verify payload header secret tolerance now =
      if |now.toInt - time.toInt| ≤ max tolerance.toInt 0 then
        if digest secret time payload ∈ digests then .ok () else .error .mismatch
      else .error .expired := by
  rw [verify, parsed, ← Int.natCast_natAbs]
  simp only [bind, Except.bind, List.contains_iff_mem]
  by_cases late : max tolerance.toInt 0 < (now.toInt - time.toInt).natAbs
  · rw [if_neg (not_le.mpr late), if_pos late]
    rfl
  · rw [if_pos (not_lt.mp late), if_neg late]
    rfl

theorem verify_eq_ok_iff {payload : List UInt8} {header secret : String} {tolerance now : Int64} :
    verify payload header secret tolerance now = .ok () ↔
      ∃ time digests, parse header = .ok (time, digests) ∧
        |now.toInt - time.toInt| ≤ max tolerance.toInt 0 ∧
        digest secret time payload ∈ digests := by
  constructor
  · intro accepted
    cases parsed : parse header with
    | error fault =>
        rw [verify, parsed] at accepted
        cases accepted
    | ok found =>
        rcases found with ⟨time, digests⟩
        rw [verify_of_parsed parsed] at accepted
        split at accepted
        · rename_i inWindow
          split at accepted
          · rename_i matched
            exact ⟨time, digests, rfl, inWindow, matched⟩
          · cases accepted
        · cases accepted
  · rintro ⟨time, digests, parsed, inWindow, matched⟩
    rw [verify_of_parsed parsed, if_pos inWindow, if_pos matched]

theorem verify_insert {payload : List UInt8} {header secret : String} {tolerance now : Int64}
    {before after : List (List Char)} {piece : List Char}
    (cut : piecesOf header = before ++ after) (clear : ',' ∉ piece) (silent : Silent piece) :
    verify payload (ofPieces (before ++ piece :: after)) secret tolerance now =
      verify payload header secret tolerance now := by
  rw [verify, verify, parse_insert cut clear silent]

/-- A header is judged by its times and by whether it holds the right digest. -/
theorem verify_eq_ok_iff_values {payload : List UInt8} {header secret : String}
    {tolerance now : Int64} :
    verify payload header secret tolerance now = .ok () ↔
      (∀ value ∈ valuesOf ['t'] (piecesOf header), (int64? value).isSome) ∧
        ∃ time, (valuesOf ['t'] (piecesOf header)).getLast?.bind int64? = some time ∧
          |now.toInt - time.toInt| ≤ max tolerance.toInt 0 ∧
          digest secret time payload ∈ valuesOf ['v', '1'] (piecesOf header) := by
  rw [verify_eq_ok_iff]
  constructor
  · rintro ⟨time, digests, parsed, inWindow, matched⟩
    obtain ⟨readable, last, rfl, _⟩ := parse_eq_ok_iff.mp parsed
    exact ⟨readable, time, last, inWindow, matched⟩
  · rintro ⟨readable, time, last, inWindow, matched⟩
    exact ⟨time, _, parse_eq_ok_iff.mpr ⟨readable, last, rfl, List.ne_nil_of_mem matched⟩,
      inWindow, matched⟩

theorem verify_congr_of_wrong {payload : List UInt8} {header other secret : String}
    {tolerance now : Int64}
    (same : (piecesOf header).filter (!isWrong (rightDigest? payload header secret) ·) =
      (piecesOf other).filter (!isWrong (rightDigest? payload header secret) ·)) :
    verify payload header secret tolerance now = .ok () ↔
      verify payload other secret tolerance now = .ok () := by
  have times : valuesOf ['t'] (piecesOf header) = valuesOf ['t'] (piecesOf other) := by
    rw [← valuesOf_time_filter (rightDigest? payload header secret), same, valuesOf_time_filter]
  rw [verify_eq_ok_iff_values, verify_eq_ok_iff_values, ← times]
  refine and_congr_right fun _ => exists_congr fun time => and_congr_right fun last =>
    and_congr_right fun _ => ?_
  have right : rightDigest? payload header secret = some (digest secret time payload) := by
    rw [rightDigest?, last, Option.map_some]
  rw [right] at same
  rw [← mem_valuesOf_digest_filter, same, mem_valuesOf_digest_filter]

/-- Which headers are accepted; a piece that gives neither a time nor a digest may stand anywhere, and
wrong digests make no difference. -/
theorem signature_accepted_exactly :
    (∀ (payload : List UInt8) (header secret : String) (tolerance now : Int64),
      verify payload header secret tolerance now = .ok () ↔
        (∀ value ∈ valuesOf ['t'] (piecesOf header),
          ∃ time : Int64, Denotes value time.toInt) ∧
        valuesOf ['v', '1'] (piecesOf header) ≠ [] ∧
        ∃ time : Int64,
          (∃ last, (valuesOf ['t'] (piecesOf header)).getLast? = some last ∧
            Denotes last time.toInt) ∧
          |now.toInt - time.toInt| ≤ max tolerance.toInt 0 ∧
          Digest.hex (Digest.hmac (Text.bytesOf secret)
            (Text.bytesOf (toString time.toInt) ++ 0x2E :: payload)) ∈
              valuesOf ['v', '1'] (piecesOf header)) ∧
    (∀ (payload : List UInt8) (header secret : String) (tolerance now : Int64)
        (before after : List (List Char)) (piece : List Char),
      piecesOf header = before ++ after → ',' ∉ piece → Silent piece →
        verify payload (ofPieces (before ++ piece :: after)) secret tolerance now =
          verify payload header secret tolerance now) ∧
    (∀ (payload : List UInt8) (header other secret : String) (tolerance now : Int64),
      (piecesOf header).filter (!isWrong (rightDigest? payload header secret) ·) =
          (piecesOf other).filter (!isWrong (rightDigest? payload header secret) ·) →
        (verify payload header secret tolerance now = .ok () ↔
          verify payload other secret tolerance now = .ok ())) := by
  refine ⟨fun payload header secret tolerance now => ?_,
    fun payload header secret tolerance now before after piece cut clear silent =>
      verify_insert cut clear silent,
    fun payload header other secret tolerance now same => verify_congr_of_wrong same⟩
  rw [verify_eq_ok_iff_values]
  have readable_iff (value : List Char) :
      (int64? value).isSome ↔ ∃ time : Int64, Denotes value time.toInt := by
    rw [Option.isSome_iff_exists]
    exact exists_congr fun time => int64?_eq_some_iff
  have last_iff (time : Int64) :
      (valuesOf ['t'] (piecesOf header)).getLast?.bind int64? = some time ↔
        ∃ last, (valuesOf ['t'] (piecesOf header)).getLast? = some last ∧
          Denotes last time.toInt := by
    rw [Option.bind_eq_some_iff]
    exact exists_congr fun last => and_congr_right fun _ => int64?_eq_some_iff
  constructor
  · rintro ⟨readable, time, last, inWindow, matched⟩
    exact ⟨fun value member => (readable_iff value).mp (readable value member),
      List.ne_nil_of_mem matched, time, (last_iff time).mp last, inWindow, matched⟩
  · rintro ⟨readable, _, time, last, inWindow, matched⟩
    exact ⟨fun value member => (readable_iff value).mpr (readable value member), time,
      (last_iff time).mpr last, inWindow, matched⟩

def signed : String :=
  "t=7,v1=090e75997482def63d77f90180d7e721ad65941aeea4d3036e05a12b29f0825e"

def signedTwice : String :=
  "t=7,v1=00,v1=090e75997482def63d77f90180d7e721ad65941aeea4d3036e05a12b29f0825e, v1=11"

theorem signature_accepted_exactly_signed :
    verify [0x7B, 0x7D] signed "whsec" 300 10 = .ok () ∧
      verify [0x7B, 0x7D] (ofPieces (" spare ".toList :: piecesOf signed)) "whsec" 300 10 = .ok () ∧
      verify [0x7B, 0x7D] signedTwice "whsec" 300 10 = .ok () := by
  obtain ⟨exactly, inserted, wrong⟩ := signature_accepted_exactly
  have seven : Denotes ['7'] (Int64.toInt 7) :=
    .plain (by simp) (List.forall_mem_singleton.mpr rfl)
  have times : valuesOf ['t'] (piecesOf signed) = [['7']] := by decide +kernel
  have accepted : verify [0x7B, 0x7D] signed "whsec" 300 10 = .ok () := by
    refine (exactly _ _ _ _ _).mpr ⟨?_, by decide +kernel, 7, ⟨['7'], ?_, seven⟩,
      by decide +kernel, by decide +kernel⟩
    · intro value member
      rw [times, List.mem_singleton] at member
      exact ⟨7, member ▸ seven⟩
    · rw [times]
      rfl
  have silent : Silent " spare ".toList := by
    intro key value given
    cases given
  refine ⟨accepted, ?_, ?_⟩
  · exact (inserted _ _ _ _ _ [] _ _ rfl (by decide) silent).trans accepted
  · exact (wrong _ signed signedTwice _ _ _ (by decide +kernel)).mp accepted

end Payments.Webhook
