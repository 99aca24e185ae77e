import Mathlib.Data.List.Nodup
import Payments.Json.Record
import Payments.Proofs.Json.Spelling

/-!
Members of records as they are spelled. A known member is read by its field, and the value of any
other is passed over, whatever it is. The members may come in any order.
-/

namespace Payments.Json.Reader

section

variable {depth : Nat} {text rest : List UInt8}

theorem afterString_of_pieces {bytes : List UInt8} (pieces : Pieces text bytes rest) :
    afterString text = some rest := by
  induction pieces with
  | close => rfl
  | plain printable noQuote noSlash _ ih => simp [afterString, printable, noSlash, ih]
  | @escape b c text bytes rest stands _ ih =>
      have noUnit : b ≠ 0x75 := by
        rintro rfl
        cases stands
      simp [afterString, stands, noUnit, ih]
  | unit isUnit _ _ ih => simp [afterString, isUnit, ih]
  | pair isHigh _ isLow _ _ ih => simp [afterString, isHigh, isLow, ih]

theorem reads_skipQuoted {s : String} (quotes : Quoted text s rest) :
    Reads skipQuoted depth text () rest := by
  obtain ⟨inside, bytes, rfl, pieces, _⟩ := quotes
  refine Reads.bind (rfl : Reads MonadState.get depth _ _ _) ?_
  have found : afterString (0x22 :: inside).tail = some rest := afterString_of_pieces pieces
  rw [found]
  rfl

variable {outer : List Char} {final : List UInt8}

/-- The text can be passed over up to the end of what is around it. The flag tells whether a value
stands in front. Values are passed over in one loop that holds the open brackets on a list, so the
lemmas below all go from what follows a value to the value. -/
def Passes (depth : Nat) (before : Bool) (outer : List Char) (text final : List UInt8) : Prop :=
  ∀ fuel, text.length < fuel → Reads (skipWithin fuel before outer) depth text () final

theorem passes_of_succ {before : Bool}
    (step : ∀ fuel, text.length ≤ fuel →
      Reads (skipWithin (fuel + 1) before outer) depth text () final) :
    Passes depth before outer text final := by
  intro fuel room
  obtain ⟨fuel, rfl⟩ := Nat.exists_eq_succ_of_ne_zero (Nat.ne_zero_of_lt room)
  exact step fuel (Nat.le_of_lt_succ room)

theorem passes_scalar {value : Json} (spelled : Scalar text value rest)
    (onward : Passes depth false outer rest final) : Passes depth true outer text final := by
  refine passes_of_succ fun fuel room => ?_
  have shorter := spelled.length_lt
  have onward := onward fuel (by omega)
  cases spelled with
  | null =>
      refine Reads.bind (reads_peek (spaceless_cons (b := 0x6E) rfl)) ?_
      exact Reads.bind (reads_literal "null") onward
  | yes =>
      refine Reads.bind (reads_peek (spaceless_cons (b := 0x74) rfl)) ?_
      exact Reads.bind (reads_literal "true") onward
  | no =>
      refine Reads.bind (reads_peek (spaceless_cons (b := 0x66) rfl)) ?_
      exact Reads.bind (reads_literal "false") onward
  | num spelled isNumber =>
      obtain ⟨b, after, rfl, isFirst, starts⟩ := spelled.head
      refine Reads.bind (reads_peek (spaceless_cons (noSpace_of_begins isFirst))) ?_
      have passed : Reads (discard numeral >>= fun _ => skipWithin fuel false outer) depth
        (b :: after) () final := Reads.bind (reads_numeral spelled).discard onward
      generalize Char.ofNat b.toNat = c at starts
      split
      case h_7 _ same =>
        cases same
        rw [if_pos starts]
        exact passed
      all_goals
        rename_i same
        cases same
      all_goals cases starts
  | str quotes =>
      obtain ⟨inside, _, rfl, _⟩ := id quotes
      refine Reads.bind (reads_peek (spaceless_cons rfl)) ?_
      exact Reads.bind (reads_skipQuoted quotes) onward

theorem Passes.spaces (passes : Passes depth true outer (spaceless text) final) :
    Passes depth true outer text final := by
  refine passes_of_succ fun fuel room => ?_
  have roomLeft := (length_spaceless_le text).trans room
  exact Reads.spaces (passes (fuel + 1) (Nat.lt_succ_of_le roomLeft))

theorem passes_close {close : UInt8} {c : Char} (start : spaceless text = close :: rest)
    (isClose : close = 0x5D ∧ c = ']' ∨ close = 0x7D ∧ c = '\x7d')
    (onward : Passes depth false outer rest final) :
    Passes depth false (c :: outer) text final := by
  refine passes_of_succ fun fuel room => ?_
  have bound := length_spaceless_le text
  rw [start, List.length_cons] at bound
  have onward := onward fuel (by omega)
  rcases isClose with ⟨rfl, rfl⟩ | ⟨rfl, rfl⟩
  · exact Reads.bind (reads_peek start) (Reads.bind reads_advance onward)
  · exact Reads.bind (reads_peek start) (Reads.bind reads_advance onward)

def PassesEach (levels depth : Nat) (final : List UInt8) : Prop :=
  ∀ {text value rest outer}, Value levels text value rest →
    Passes depth false outer rest final → Passes depth true outer text final

section

variable {levels : Nat} {inside : List UInt8}

theorem passes_elements {items : List Json} {first : Bool}
    (each : PassesEach levels depth final)
    (spelled : Items 0x5D (Value levels) first text items rest) (later : first = false)
    (onward : Passes depth false outer rest final) :
    Passes depth false (']' :: outer) text final := by
  induction spelled with
  | close start => exact passes_close start (.inl ⟨rfl, rfl⟩) onward
  | @next first text start middle rest x items goes isItem _ ih =>
      subst later
      have goes : spaceless text = 0x2C :: start := goes
      have bound := length_spaceless_le text
      rw [goes, List.length_cons] at bound
      refine passes_of_succ fun fuel room => ?_
      have passes := (each isItem (ih rfl onward)).spaces fuel (by omega)
      exact Reads.bind (reads_peek goes) (Reads.bind reads_advance passes)

theorem reads_memberStart {member : String × Json}
    (each : PassesEach levels depth final)
    (spelled : Member (Value levels) text member rest)
    (onward : Passes depth false ('\x7d' :: outer) rest final) (fuel : Nat)
    (room : text.length < fuel) :
    Reads (skipQuoted >>= fun _ => colon >>= fun _ => skipWithin fuel true ('\x7d' :: outer)) depth
      text () final := by
  obtain ⟨afterName, inner, quotes, isColon, isValue⟩ := spelled
  have afterShorter := quotes.length_lt
  have innerShorter := length_spaceless_le afterName
  rw [isColon, List.length_cons] at innerShorter
  have parted : Reads colon depth afterName () inner :=
    Reads.bind (reads_peek isColon) reads_advance
  have passes := (each isValue onward).spaces fuel (by omega)
  exact Reads.bind (reads_skipQuoted quotes) (Reads.bind parted passes)

theorem passes_members {members : List (String × Json)} {first : Bool}
    (each : PassesEach levels depth final)
    (spelled : Items 0x7D (Member (Value levels)) first text members rest) (later : first = false)
    (onward : Passes depth false outer rest final) :
    Passes depth false ('\x7d' :: outer) text final := by
  induction spelled with
  | close start => exact passes_close start (.inr ⟨rfl, rfl⟩) onward
  | @next first text start middle rest x items goes isItem _ ih =>
      subst later
      have goes : spaceless text = 0x2C :: start := goes
      have bound := length_spaceless_le text
      have startShorter := length_spaceless_le start
      rw [goes, List.length_cons] at bound
      refine passes_of_succ fun fuel room => ?_
      have passes := reads_memberStart each isItem (ih rfl onward) fuel (by omega)
      obtain ⟨_, _, ⟨inside, _, isQuote, _⟩, _⟩ := isItem
      rw [isQuote] at passes
      refine Reads.bind (reads_peek goes) (Reads.bind reads_advance ?_)
      exact Reads.bind (reads_peek isQuote) passes

theorem passes_array {items : List Json} (each : PassesEach levels depth final)
    (spelled : Items 0x5D (Value levels) true inside items rest)
    (onward : Passes depth false outer rest final) :
    Passes depth true outer (0x5B :: inside) final := by
  refine passes_of_succ fun fuel room => ?_
  have bound := length_spaceless_le inside
  rw [List.length_cons] at room
  refine Reads.bind (reads_peek (spaceless_cons rfl)) (Reads.bind reads_advance ?_)
  cases spelled with
  | close start =>
      rw [start] at bound
      refine Reads.bind (reads_peek start) ?_
      exact passes_close (spaceless_cons rfl) (.inl ⟨rfl, rfl⟩) onward fuel (by omega)
  | next goes isItem spelled =>
      cases goes
      obtain ⟨b, after, isNext, isFirst⟩ := isItem.head
      have passes := each isItem (passes_elements each spelled rfl onward) fuel (by omega)
      rw [isNext] at passes
      refine Reads.bind (reads_peek isNext) ?_
      split
      · rename_i same
        exact absurd (Option.some.inj same) (ofNat_ne_of_begins isFirst).1
      · exact passes

theorem passes_object {members : List (String × Json)} (each : PassesEach levels depth final)
    (spelled : Items 0x7D (Member (Value levels)) true inside members rest)
    (onward : Passes depth false outer rest final) :
    Passes depth true outer (0x7B :: inside) final := by
  refine passes_of_succ fun fuel room => ?_
  have bound := length_spaceless_le inside
  rw [List.length_cons] at room
  refine Reads.bind (reads_peek (spaceless_cons rfl)) (Reads.bind reads_advance ?_)
  cases spelled with
  | close start =>
      rw [start] at bound
      refine Reads.bind (reads_peek start) ?_
      exact passes_close (spaceless_cons rfl) (.inr ⟨rfl, rfl⟩) onward fuel (by omega)
  | next goes isMember spelled =>
      cases goes
      have passes := reads_memberStart each isMember (passes_members each spelled rfl onward) fuel
        (by omega)
      obtain ⟨_, _, ⟨_, _, isQuote, _⟩, _⟩ := isMember
      rw [isQuote] at passes
      exact Reads.bind (reads_peek isQuote) passes

theorem passes_value {value : Json} (spelled : Value levels text value rest)
    (onward : Passes depth false outer rest final) : Passes depth true outer text final := by
  induction levels generalizing text value rest outer with
  | zero => exact passes_scalar spelled onward
  | succ levels ih =>
      rcases spelled with spelled | ⟨inside, items, rfl, rfl, spelled⟩ |
        ⟨inside, found, rfl, rfl, spelled⟩
      · exact passes_scalar spelled onward
      · exact passes_array ih spelled onward
      · exact passes_object ih spelled onward

end

theorem reads_skip {levels : Nat} {value : Json}
    (spelled : Value levels (spaceless text) value rest) : Reads skip depth text () rest := by
  have ended : Passes depth false [] rest rest := by
    refine passes_of_succ fun fuel room => ?_
    rfl
  refine Reads.bind (rfl : Reads room depth text (text.length + 1) text) ?_
  exact (passes_value spelled ended).spaces _ (by omega)

def Anything (text : List UInt8) (value : Json) (rest : List UInt8) : Prop :=
  ∃ levels, Value levels text value rest

theorem Anything.length_lt {value : Json} (spelled : Anything text value rest) :
    rest.length < text.length := by
  obtain ⟨levels, spelled⟩ := spelled
  exact spelled.length_lt

def only (own : String) (grammar : List UInt8 → Json → List UInt8 → Prop) (name : String) :
    List UInt8 → Json → List UInt8 → Prop :=
  if name = own then grammar else Anything

theorem only_length_lt {own name : String} {grammar : List UInt8 → Json → List UInt8 → Prop}
    {value : Json}
    (shorter : ∀ {text value rest}, grammar text value rest → rest.length < text.length)
    (spelled : only own grammar name text value rest) : rest.length < text.length := by
  unfold only at spelled
  split at spelled
  · exact shorter spelled
  · exact spelled.length_lt

/-- A record with these members, where each name has its own grammar of values. -/
def Record (grammar : String → List UInt8 → Json → List UInt8 → Prop) (text : List UInt8)
    (members : List (String × Json)) (rest : List UInt8) : Prop :=
  ∃ inside, text = 0x7B :: inside ∧
    Items 0x7D (fun text member => Member (grammar member.1) text member) true inside members rest

variable {δ α : Type} {fields : List (Field δ)} {seen : List String}
  {grammar : String → List UInt8 → Json → List UInt8 → Prop} {members : List (String × Json)}
  {effect : String × Json → δ → δ}

def Takes (fields : List (Field δ)) (depth : Nat) (name : String) (put : δ → δ)
    (text rest : List UInt8) : Prop :=
  match fields.find? (·.name = name) with
  | none => put = id ∧ Reads skip depth text () rest
  | some field => Reads field.read depth text put rest

theorem Takes.other {name : String} {value : Json} (isOther : name ∉ fields.map Field.name)
    (spelled : Anything (spaceless text) value rest) : Takes fields depth name id text rest := by
  have unknown : fields.find? (·.name = name) = none :=
    List.find?_eq_none.mpr fun field isField same =>
      isOther (List.mem_map.mpr ⟨field, isField, of_decide_eq_true same⟩)
  obtain ⟨levels, spelled⟩ := spelled
  unfold Takes
  rw [unknown]
  exact ⟨rfl, reads_skip spelled⟩

def Effects (fields : List (Field δ)) (depth : Nat)
    (grammar : String → List UInt8 → Json → List UInt8 → Prop) (effect : String × Json → δ → δ)
    (members : List (String × Json)) : Prop :=
  ∀ member ∈ members, ∀ text rest, grammar member.1 (spaceless text) member.2 rest →
    Takes fields depth member.1 (effect member) text rest

theorem Record.length_lt {members : List (String × Json)}
    (shorter : ∀ name {text value rest}, grammar name text value rest → rest.length < text.length)
    (spelled : Record grammar text members rest) : rest.length < text.length := by
  obtain ⟨inside, rfl, spelled⟩ := spelled
  have inside := Items.length_lt (fun isMember => Member.length_lt (shorter _) isMember) spelled
  exact inside.trans (Nat.lt_succ_self _)

def namesAmong (names : List String) (members : List (String × Json)) : List String :=
  (members.map Prod.fst).filter (· ∈ names)

theorem namesAmong_cons_of_mem {names : List String} {member : String × Json}
    (among : member.1 ∈ names) :
    namesAmong names (member :: members) = member.1 :: namesAmong names members :=
  List.filter_cons_of_pos (by simpa using among)

theorem namesAmong_cons_of_not_mem {names : List String} {member : String × Json}
    (other : member.1 ∉ names) :
    namesAmong names (member :: members) = namesAmong names members :=
  List.filter_cons_of_neg (by simpa using other)

theorem mem_namesAmong {names : List String} {name : String} {value : Json} (isName : name ∈ names)
    (among : (name, value) ∈ members) : name ∈ namesAmong names members :=
  List.mem_filter.mpr ⟨List.mem_map_of_mem among, by simpa using isName⟩

theorem eq_of_once {names : List String} (once : (namesAmong names members).Nodup) {name : String}
    (isName : name ∈ names) {value other : Json} (among : (name, value) ∈ members)
    (otherAmong : (name, other) ∈ members) : value = other := by
  rw [namesAmong, List.filter_map] at once
  have same := List.inj_on_of_nodup_map once
    (List.mem_filter.mpr ⟨among, by simpa using isName⟩)
    (List.mem_filter.mpr ⟨otherAmong, by simpa using isName⟩) rfl
  exact congrArg Prod.snd same

section

variable {β : Type} {names : List String} {x : β}

theorem foldl_of_absent (get : δ → β) {name : String}
    (others : ∀ other draft, other.1 ≠ name → get (effect other draft) = get draft)
    (absent : ∀ other ∈ members, other.1 ≠ name) (draft : δ) :
    get (members.foldl (fun draft member => effect member draft) draft) = get draft := by
  induction members generalizing draft with
  | nil => rfl
  | cons first members ih =>
      have absentLater := fun other among => absent other (List.mem_cons_of_mem first among)
      rw [List.foldl_cons, ih absentLater, others first draft (absent first List.mem_cons_self)]

theorem foldl_of_mem (get : δ → β) {name : String} {value : Json}
    (own : ∀ draft, get (effect (name, value) draft) = x)
    (others : ∀ other draft, other.1 ≠ name → get (effect other draft) = get draft)
    (isName : name ∈ names) (among : (name, value) ∈ members)
    (once : (namesAmong names members).Nodup) (draft : δ) :
    get (members.foldl (fun draft member => effect member draft) draft) = x := by
  induction members generalizing draft with
  | nil => cases among
  | cons first members ih =>
      rcases List.mem_cons.mp among with rfl | among
      · rw [namesAmong_cons_of_mem isName] at once
        have absent : ∀ other ∈ members, other.1 ≠ name := by
          rintro ⟨_, held⟩ later rfl
          exact (List.nodup_cons.mp once).1 (mem_namesAmong isName later)
        rw [List.foldl_cons, foldl_of_absent get others absent, own]
      · refine ih among (once.sublist ?_) (effect first draft)
        exact ((List.sublist_cons_self first members).map Prod.fst).filter _

end

theorem reads_fieldMembers {first : Bool}
    (each : Effects fields depth grammar effect members)
    (shorter : ∀ name {text value rest}, grammar name text value rest → rest.length < text.length)
    (spelled : Items 0x7D (fun text member => Member (grammar member.1) text member) first text
      members rest)
    (once : (namesAmong (fields.map Field.name) members ++ seen).Nodup) {fuel : Nat}
    (room : text.length < fuel) (draft : δ) :
    Reads (fieldMembers fields fuel first seen draft) depth text
      (members.foldl (fun draft member => effect member draft) draft) rest := by
  induction spelled generalizing fuel seen draft with
  | close start =>
      obtain ⟨fuel, rfl⟩ := Nat.exists_eq_succ_of_ne_zero (Nat.ne_zero_of_lt room)
      exact Reads.bind (reads_another_close start rfl) (Reads.bind reads_advance (reads_pure _))
  | @next first text start middle rest member members goes isMember spelled ih =>
      obtain ⟨fuel, rfl⟩ := Nat.exists_eq_succ_of_ne_zero (Nat.ne_zero_of_lt room)
      have fewer : middle.length < fuel := by
        have startShorter := length_start_le goes
        have memberShorter := Member.length_lt (shorter member.1) isMember
        have bound := length_spaceless_le start
        omega
      obtain ⟨afterName, inner, quotes, isColon, isValue⟩ := isMember
      have takes := each member List.mem_cons_self _ _ isValue
      have each : Effects fields depth grammar effect members :=
        fun other among => each other (List.mem_cons_of_mem member among)
      obtain ⟨inside, _, isQuote, _⟩ := id quotes
      have named : Reads key depth (0x22 :: inside) member.1 afterName :=
        Reads.bind (reads_peek (spaceless_cons rfl)) (isQuote ▸ reads_quoted quotes)
      have parted : Reads colon depth afterName () inner :=
        Reads.bind (reads_peek isColon) reads_advance
      refine Reads.bind (reads_another_next (by decide) goes isQuote (by decide)) ?_
      refine Reads.bind named ?_
      unfold Takes at takes
      cases found : fields.find? (·.name = member.1) with
      | none =>
          simp only [found] at takes
          have other : member.1 ∉ fields.map Field.name := by
            rintro isName
            obtain ⟨field, isField, same⟩ := List.mem_map.mp isName
            exact absurd (decide_eq_true same) (List.find?_eq_none.mp found field isField)
          rw [namesAmong_cons_of_not_mem other] at once
          refine Reads.bind parted (Reads.bind takes.2 ?_)
          rw [List.foldl_cons, takes.1]
          exact ih each once fewer draft
      | some field =>
          simp only [found] at takes
          have isName : member.1 ∈ fields.map Field.name :=
            List.mem_map.mpr ⟨field, List.mem_of_find?_eq_some found,
              by simpa using List.find?_some found⟩
          rw [namesAmong_cons_of_mem isName] at once
          have isNew := (List.nodup_cons.mp once).1
          have onward : (namesAmong (fields.map Field.name) members ++ member.1 :: seen).Nodup :=
            List.nodup_middle.mpr once
          dsimp only
          rw [if_neg fun among => isNew (List.mem_append_right _ among)]
          exact Reads.bind parted (Reads.bind takes (ih each onward fewer (effect member draft)))

theorem Reads.filterMap {β γ : Type} {reader : Reader β} {decode : β → Option γ} {x : β} {y : γ}
    (reads : Reads reader depth text x rest) (decodes : decode x = some y) :
    Reads (filterMap decode reader) depth text y rest := by
  refine Reads.bind reads ?_
  rw [decodes]
  exact reads_pure y

/-- A record is read from its members in turn, where each known name comes once at most. -/
theorem reads_record (effect : String × Json → δ → δ) {draft : δ} {finish : δ → Option α} {x : α}
    (each : Effects fields depth grammar effect members)
    (shorter : ∀ name {text value rest}, grammar name text value rest → rest.length < text.length)
    (spelled : Record grammar (spaceless text) members rest)
    (once : (namesAmong (fields.map Field.name) members).Nodup)
    (finishes : finish (members.foldl (fun draft member => effect member draft) draft) = some x) :
    Reads (record fields draft finish) (depth + 1) text x rest := by
  obtain ⟨inside, start, spelled⟩ := spelled
  refine Reads.bind (reads_peek start) (Reads.filterMap ?_ finishes)
  refine Reads.bind (rfl : Reads MonadReader.read (depth + 1) _ _ _) ?_
  refine Reads.bind reads_advance ?_
  have filled : Reads (room >>= fun fuel => fieldMembers fields fuel true [] draft) depth inside
      (members.foldl (fun draft member => effect member draft) draft) rest := by
    refine Reads.bind (rfl : Reads room depth inside (inside.length + 1) inside) ?_
    refine reads_fieldMembers each shorter spelled ?_ (Nat.lt_succ_self _) draft
    rwa [List.append_nil]
  exact filled

theorem parse_of_reads {β : Type} {reader : Reader β} {x : β}
    (reads : Reads reader maxDepth text x rest)
    (ended : rest.all isSpace = true) : parse reader text = .ok x := by
  have inTurn : parse reader text = ((reader.run maxDepth).run text).bind fun read =>
    if read.2.all isSpace then .ok read.1 else .error .malformed := rfl
  rw [inTurn, reads]
  exact if_pos ended

theorem Reads.map {β γ : Type} {reader : Reader β} {f : β → γ} {x : β}
    (reads : Reads reader depth text x rest) : Reads (f <$> reader) depth text (f x) rest := by
  have inTurn : ((f <$> reader : Reader γ).run depth).run text =
    ((reader.run depth).run text).bind fun read => .ok (f read.1, read.2) := rfl
  rw [Reads, inTurn, reads]
  rfl

theorem Value.scalar {levels : Nat} {value : Json} (spelled : Value levels text value rest)
    (noArray : ∀ items, value ≠ .arr items) (noObject : ∀ members, value ≠ .obj members) :
    Scalar text value rest := by
  cases levels with
  | zero => exact spelled
  | succ levels =>
      rcases spelled with spelled | ⟨_, items, _, isArray, _⟩ | ⟨_, members, _, isObject, _⟩
      · exact spelled
      · exact absurd isArray (noArray items)
      · exact absurd isObject (noObject _)

theorem reads_string {s : String} (spelled : Anything (spaceless text) (.str s) rest) :
    Reads string depth text s rest := by
  obtain ⟨levels, spelled⟩ := spelled
  generalize start : spaceless text = front at spelled
  cases spelled.scalar nofun nofun with
  | str quotes =>
      obtain ⟨inside, _, rfl, _⟩ := id quotes
      exact Reads.bind (reads_peek start) (reads_quoted quotes)

theorem reads_bool {b : Bool} (spelled : Anything (spaceless text) (.bool b) rest) :
    Reads bool depth text b rest := by
  obtain ⟨levels, spelled⟩ := spelled
  generalize start : spaceless text = front at spelled
  cases spelled.scalar nofun nofun with
  | yes => exact Reads.bind (reads_peek start) (Reads.bind (reads_literal "true") (reads_pure _))
  | no => exact Reads.bind (reads_peek start) (Reads.bind (reads_literal "false") (reads_pure _))

theorem reads_int {low high n : Int} (spelled : Anything (spaceless text) (.num (.int n)) rest)
    (inRange : low ≤ n ∧ n ≤ high) : Reads (int low high) depth text n rest := by
  obtain ⟨levels, spelled⟩ := spelled
  generalize start : spaceless text = front at spelled
  cases spelled.scalar nofun nofun with
  | num spelled isNumber =>
      obtain ⟨b, after, rfl, _, starts⟩ := spelled.head
      refine Reads.bind (reads_peek start) ?_
      simp only [starts, if_true]
      refine Reads.bind (reads_number spelled isNumber) ?_
      simp only [inRange, and_self, if_true]
      exact reads_pure n

end

section

variable {text : List Char} {rest : List UInt8}

def Plain (text : List Char) : Prop :=
  ∀ c ∈ text, 0x20 ≤ c.toNat ∧ c.toNat < 0x80 ∧ c ≠ '"' ∧ c ≠ '\\'

instance (text : List Char) : Decidable (Plain text) := List.decidableBAll _ text

def quotedBytes (text : String) : List UInt8 := 0x22 :: Text.bytesOf text ++ [0x22]

theorem encode_of_small {c : Char} (small : c.toNat < 0x80) :
    String.utf8EncodeChar c = [UInt8.ofNat c.toNat] := by
  have small : c.val.toNat ≤ 127 := Nat.le_of_lt_succ small
  simp only [String.utf8EncodeChar, small, if_true]
  rfl

theorem toNat_of_small {c : Char} (small : c.toNat < 0x80) :
    (UInt8.ofNat c.toNat).toNat = c.toNat :=
  UInt8.toNat_ofNat_of_lt' (small.trans (by decide))

theorem decodePieces_of_plain (plain : Plain text) :
    Text.decodePieces (text.flatMap String.utf8EncodeChar) = text.map some := by
  induction text with
  | nil => simp [Text.decodePieces]
  | cons c text ih =>
      have small := (plain c List.mem_cons_self).2.1
      have isByte := toNat_of_small small
      have ascii : UInt8.ofNat c.toNat < 0x80 := by
        rw [UInt8.lt_iff_toNat_lt, isByte]
        exact small
      rw [List.flatMap_cons, encode_of_small small, List.singleton_append, Text.decodePieces,
        if_pos ascii, isByte, Char.ofNat_toNat,
        ih fun d later => plain d (List.mem_cons_of_mem c later)]
      rfl

theorem pieces_of_plain (plain : Plain text) :
    Pieces (text.flatMap String.utf8EncodeChar ++ 0x22 :: rest)
      (text.flatMap String.utf8EncodeChar) rest := by
  induction text with
  | nil => exact .close
  | cons c text ih =>
      obtain ⟨printable, small, noQuote, noSlash⟩ := plain c List.mem_cons_self
      have isByte := toNat_of_small small
      have other : ∀ {d : Char}, d.toNat < 0x80 → c ≠ d →
          UInt8.ofNat c.toNat ≠ UInt8.ofNat d.toNat := by
        intro d isSmall different same
        have same := congrArg UInt8.toNat same
        rw [isByte, toNat_of_small isSmall] at same
        exact different (Char.toNat_inj.mp same)
      rw [List.flatMap_cons, encode_of_small small]
      refine .plain ?_ (other (by decide) noQuote) (other (by decide) noSlash)
        (ih fun d later => plain d (List.mem_cons_of_mem c later))
      rw [UInt8.le_iff_toNat_le, isByte]
      exact printable

theorem quoted_of_plain {text : String} (plain : Plain text.toList) :
    Quoted (quotedBytes text ++ rest) text rest := by
  have isText : Text.ofBytes? (Text.bytesOf text) = some text := by
    have whole : (text.toList.map some).mapM id = some text.toList := by
      rw [List.mapM_map]
      exact (List.mapM_pure (m := Option) ..).trans (by simp)
    rw [Text.ofBytes?, Text.bytesOf, decodePieces_of_plain plain, whole, Option.map_some,
      String.ofList_toList]
  refine ⟨Text.bytesOf text ++ 0x22 :: rest, Text.bytesOf text, ?_, pieces_of_plain plain, isText⟩
  simp [quotedBytes]

theorem spaceless_quotedBytes (text : String) :
    spaceless (quotedBytes text ++ rest) = quotedBytes text ++ rest := spaceless_cons rfl

theorem anything_of_plain {text : String} (plain : Plain text.toList) :
    Anything (spaceless (quotedBytes text ++ rest)) (.str text) rest := by
  rw [spaceless_quotedBytes]
  exact ⟨0, .str (quoted_of_plain plain)⟩

theorem member_of_plain {grammar : List UInt8 → Json → List UInt8 → Prop} {name : String}
    {value : Json} {inner : List UInt8} (plain : Plain name.toList)
    (spelled : grammar (spaceless inner) value rest) :
    Member grammar (spaceless (quotedBytes name ++ 0x3A :: inner)) (name, value) rest := by
  rw [spaceless_quotedBytes]
  exact ⟨_, inner, quoted_of_plain plain, spaceless_cons rfl, spelled⟩

end

end Payments.Json.Reader
