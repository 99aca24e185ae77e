import Payments.Proofs.Json.Values
import Payments.Proofs.Webhook.Payloads
import Payments.Proofs.Webhook.Signing

/-!
What a delivery is decoded to. The signature is looked at first, then the envelope of the event, and
last the object inside, which may be any JSON value: where it names no payment the event carries no
change. A payment or a customer may be named by its identifier or by an object that holds it.
-/

namespace Payments

theorem Reference.ofText_eq_some_iff {text : String} {reference : Reference} :
    (Reference.ofText text).toOption = some reference ↔ reference.text = text := by
  rw [← Reference.ofText_eq_ok_iff]
  cases Reference.ofText text <;> simp [Except.toOption]

namespace Json

def withMember (object : Json) (name : String) (value : Json) : Json :=
  match object with
  | .obj members =>
    .obj (members.map fun member => (member.1, if member.1 = name then value else member.2))
  | other => other

theorem get?_withMember (object : Json) (name : String) (value : Json) (other : String) :
    (object.withMember name value).get? other =
      (object.get? other).map fun held => if other = name then value else held := by
  cases object with
  | obj members =>
      simp only [withMember, get?, ← List.map_reverse, List.find?_map, Option.map_map]
      change (members.reverse.find? (·.1 = other)).map _ = (members.reverse.find? _).map _
      cases found : members.reverse.find? (·.1 = other) with
      | none => rfl
      | some member =>
          have own : member.1 = other := by simpa using List.find?_some found
          simp [own]
  | _ => rfl

theorem get?_withMember_of_ne {name other : String} (different : other ≠ name)
    (object value : Json) : (object.withMember name value).get? other = object.get? other := by
  rw [get?_withMember]
  simp [different]

end Json

namespace Webhook

theorem EventKind.ofName?_eq_some_iff {name : String} {kind : EventKind} :
    EventKind.ofName? name = some kind ↔ kind.name = name := by
  constructor
  · intro found
    simpa using List.find?_some found
  · rintro rfl
    cases kind <;> decide

/-- A payment or a customer as an event may name it: by its identifier, or by an object that holds
the identifier. -/
inductive Expands : Json → String → Prop
  | text (id : String) : Expands (.str id) id
  | object {members : List (String × Json)} {id : String} :
      (Json.obj members).get? "id" = some (.str id) → Expands (.obj members) id

/-- Where an event of some kind names its payment. -/
def Names (kind : EventKind) (object : Json) (text : String) : Prop :=
  match kind with
  | .chargeRefunded => ∃ value, object.get? "payment_intent" = some value ∧ Expands value text
  | _ => object.get? "id" = some (.str text)

def Receipts (kind : EventKind) (object : Json) (url : String) : Prop :=
  match kind with
  | .chargeRefunded => object.get? "receipt_url" = some (.str url)
  | _ => ∃ charge, object.get? "latest_charge" = some charge ∧
      charge.get? "receipt_url" = some (.str url)

structure Describes (kind : EventKind) (object : Json) (change : StatusChange) : Prop where
  reference : Names kind object change.reference.text
  status : change.update.status = kind.target
  receipt : ∀ url, change.update.receiptUrl = some url ↔ Receipts kind object url
  customer : ∀ id, change.update.customerId = some id ↔
    ∃ value, object.get? "customer" = some value ∧ Expands value id
  description : change.update.description = none

section

variable {kind : EventKind} {object value : Json} {text : String} {change : StatusChange}

theorem str?_eq_some_iff : value.str? = some text ↔ value = .str text := by
  cases value <;> simp [Json.str?]

theorem textField?_eq_some_iff {name : String} :
    textField? object name = some text ↔ object.get? name = some (.str text) := by
  simp [textField?, Option.bind_eq_some_iff, str?_eq_some_iff]

theorem expandableId?_eq_some_iff : expandableId? value = some text ↔ Expands value text := by
  constructor
  · intro read
    cases value with
    | str id =>
        cases read
        exact .text _
    | obj members =>
        obtain ⟨id, found, isText⟩ := Option.bind_eq_some_iff.mp read
        rw [str?_eq_some_iff] at isText
        exact .object (isText ▸ found)
    | _ => cases read
  · rintro (_ | found)
    · rfl
    · simp [expandableId?, found, Json.str?]

theorem subject?_names : (subject? kind object).1 = some text ↔ Names kind object text := by
  cases kind
  case chargeRefunded => simp [subject?, Names, Option.bind_eq_some_iff, expandableId?_eq_some_iff]
  all_goals exact textField?_eq_some_iff

theorem subject?_receipts : (subject? kind object).2 = some text ↔ Receipts kind object text := by
  cases kind
  case chargeRefunded => exact textField?_eq_some_iff
  all_goals simp [subject?, Receipts, Option.bind_eq_some_iff, textField?_eq_some_iff]

theorem change?_eq :
    change? kind object = ((subject? kind object).1.bind fun text =>
      (Reference.ofText text).toOption).map fun reference =>
        { reference
          update :=
            { status := kind.target
              receiptUrl := (subject? kind object).2
              customerId := (object.get? "customer").bind expandableId? } } := by
  unfold change?
  rcases subject? kind object with ⟨_ | text, receipt⟩
  · rfl
  · change ((Reference.ofText text).toOption.bind fun reference => some _) = _
    rw [Option.bind_some]
    cases (Reference.ofText text).toOption <;> rfl

theorem change?_describes (changed : change? kind object = some change) :
    Describes kind object change := by
  rw [change?_eq] at changed
  obtain ⟨reference, found, rfl⟩ := Option.map_eq_some_iff.mp changed
  obtain ⟨text, named, isReference⟩ := Option.bind_eq_some_iff.mp found
  obtain rfl := Reference.ofText_eq_some_iff.mp isReference
  refine ⟨subject?_names.mp named, rfl, fun url => subject?_receipts, fun id => ?_, rfl⟩
  simp [Option.bind_eq_some_iff, expandableId?_eq_some_iff]

theorem Describes.eq {other : StatusChange} (describes : Describes kind object change)
    (describesOther : Describes kind object other) : change = other := by
  have reference : change.reference = other.reference := Reference.text_inj.mp <|
    Option.some.inj <| (subject?_names.mpr describes.reference).symm.trans
      (subject?_names.mpr describesOther.reference)
  have receipt : change.update.receiptUrl = other.update.receiptUrl :=
    Option.ext fun url => (describes.receipt url).trans (describesOther.receipt url).symm
  have customer : change.update.customerId = other.update.customerId :=
    Option.ext fun id => (describes.customer id).trans (describesOther.customer id).symm
  have status := describes.status.trans describesOther.status.symm
  have description := describes.description.trans describesOther.description.symm
  obtain ⟨_, ⟨_, _, _, _⟩⟩ := change
  obtain ⟨_, ⟨_, _, _, _⟩⟩ := other
  simp only at reference status receipt customer description
  simp only [reference, status, receipt, customer, description]

theorem change?_isSome_iff :
    (change? kind object).isSome ↔ ∃ text, Names kind object text ∧ text ≠ "" ∧
      ∀ c ∈ text.toList, Text.isBlank c = false := by
  rw [change?_eq, Option.isSome_map]
  constructor
  · intro present
    obtain ⟨reference, found⟩ := Option.isSome_iff_exists.mp present
    obtain ⟨text, named, isReference⟩ := Option.bind_eq_some_iff.mp found
    obtain rfl := Reference.ofText_eq_some_iff.mp isReference
    exact ⟨_, subject?_names.mp named, reference.ne_empty, reference.not_blank⟩
  · rintro ⟨text, named, ne_empty, not_blank⟩
    rw [subject?_names.mpr named, Option.bind_some,
      Reference.ofText_eq_some_iff.mpr (rfl : Reference.text ⟨text, ne_empty, not_blank⟩ = text)]
    rfl

theorem change?_eq_some_iff : change? kind object = some change ↔ Describes kind object change := by
  refine ⟨change?_describes, fun describes => ?_⟩
  have present := change?_isSome_iff.mpr
    ⟨_, describes.reference, change.reference.ne_empty, change.reference.not_blank⟩
  obtain ⟨other, changed⟩ := Option.isSome_iff_exists.mp present
  rw [changed, (change?_describes changed).eq describes]

end

/-- The delivery is signed with the secret of the endpoint, near enough in time. -/
def Verified (endpoint : Endpoint) (payload : List UInt8) (header : Option String) (now : Int64) :
    Prop :=
  ∃ text, header = some text ∧ verify payload text endpoint.secret endpoint.tolerance now = .ok ()

/-- The event of an envelope: it has the identifier and the type given there, and a change if it is
of a known kind and its object names a payment. -/
structure Opens (envelope : Envelope) (event : Event) : Prop where
  id : event.id.text = envelope.id
  type : event.type = envelope.type
  change : ∀ change, event.change = some change ↔
    ∃ kind : EventKind, kind.name = envelope.type ∧ Describes kind envelope.object change
  changed : event.change.isSome ↔
    ∃ (kind : EventKind) (text : String), kind.name = envelope.type ∧
      Names kind envelope.object text ∧ text ≠ "" ∧ ∀ c ∈ text.toList, Text.isBlank c = false

/-- What decoding a delivery comes to. -/
structure Decodes (endpoint : Endpoint) (payload : List UInt8) (header : Option String)
    (now : Int64) (result : Except DeliveryError Event) : Prop where
  signature : (∃ reason, result = .error (.signature reason)) ↔
    ¬ Verified endpoint payload header now
  malformed : Verified endpoint payload header now →
    ((∃ reason, result = .error (.payload reason)) ↔
      (∃ fault, Json.Reader.parse Envelope.reader payload = .error fault) ∨
      ∃ envelope, Json.Reader.parse Envelope.reader payload = .ok envelope ∧
        ¬ "evt_".toList <+: envelope.id.toList)
  event : Verified endpoint payload header now → ∀ envelope,
    Json.Reader.parse Envelope.reader payload = .ok envelope →
    "evt_".toList <+: envelope.id.toList → ∃ event, result = .ok event ∧ Opens envelope event

section

variable {endpoint : Endpoint} {payload : List UInt8} {header : Option String} {now : Int64}
  {envelope : Envelope}

theorem EventId.ofText_eq_ok {text : String} (starts : "evt_".toList <+: text.toList) :
    ∃ id : EventId, EventId.ofText text = .ok id ∧ id.text = text := by
  have holds := List.isPrefixOf_iff_prefix.mpr starts
  exact ⟨⟨text, holds⟩, dif_pos holds, rfl⟩

theorem EventId.ofText_eq_error {text : String} (other : ¬ "evt_".toList <+: text.toList) :
    EventId.ofText text = .error (.invalidReference text) :=
  dif_neg fun holds => other (List.isPrefixOf_iff_prefix.mp holds)

theorem event_of_id (starts : "evt_".toList <+: envelope.id.toList) :
    ∃ event, envelope.event = .ok event ∧ Opens envelope event := by
  obtain ⟨id, isId, same⟩ := EventId.ofText_eq_ok starts
  have opened : envelope.event = .ok
      ⟨id, envelope.type, (EventKind.ofName? envelope.type).bind (change? · envelope.object)⟩ := by
    unfold Envelope.event
    rw [isId]
    rfl
  refine ⟨_, opened, same, rfl, fun change => ?_, ?_⟩
  · simp only [Option.bind_eq_some_iff, EventKind.ofName?_eq_some_iff, change?_eq_some_iff]
  · simp only [Option.isSome_iff_exists, Option.bind_eq_some_iff, EventKind.ofName?_eq_some_iff]
    constructor
    · rintro ⟨change, kind, isKind, changed⟩
      obtain ⟨text, names⟩ := change?_isSome_iff.mp (Option.isSome_of_eq_some changed)
      exact ⟨kind, text, isKind, names⟩
    · rintro ⟨kind, text, isKind, names⟩
      obtain ⟨change, changed⟩ :=
        Option.isSome_iff_exists.mp (change?_isSome_iff.mpr ⟨text, names⟩)
      exact ⟨change, kind, isKind, changed⟩

theorem event_of_wrong_id (other : ¬ "evt_".toList <+: envelope.id.toList) :
    envelope.event = .error (.invalidReference envelope.id) := by
  unfold Envelope.event
  rw [EventId.ofText_eq_error other]
  rfl

theorem decode_of_not_verified (unverified : ¬ Verified endpoint payload header now) :
    ∃ reason, decode endpoint payload header now = .error (.signature reason) := by
  cases header with
  | none => exact ⟨_, rfl⟩
  | some text =>
      cases verdict : verify payload text endpoint.secret endpoint.tolerance now with
      | ok _ => exact absurd ⟨text, rfl, verdict⟩ unverified
      | error fault => exact ⟨fault.message, by simp only [decode, verdict]⟩

theorem decode_of_fault {fault : Json.Fault} (verified : Verified endpoint payload header now)
    (parsed : Json.Reader.parse Envelope.reader payload = .error fault) :
    decode endpoint payload header now = .error (.payload (faultReason fault)) := by
  obtain ⟨text, rfl, verified⟩ := verified
  simp only [decode, verified, parsed]

theorem decode_of_envelope (verified : Verified endpoint payload header now)
    (parsed : Json.Reader.parse Envelope.reader payload = .ok envelope) :
    decode endpoint payload header now =
      envelope.event.mapError fun refusal => .payload refusal.message := by
  obtain ⟨text, rfl, verified⟩ := verified
  simp only [decode, verified, parsed]
  cases envelope.event <;> rfl

theorem decode_decodes (endpoint : Endpoint) (payload : List UInt8) (header : Option String)
    (now : Int64) : Decodes endpoint payload header now (decode endpoint payload header now) := by
  by_cases verified : Verified endpoint payload header now
  · cases parsed : Json.Reader.parse Envelope.reader payload with
    | error fault =>
        rw [decode_of_fault verified parsed]
        constructor <;> simp [verified, parsed]
    | ok envelope =>
        have decoded := decode_of_envelope verified parsed
        by_cases starts : "evt_".toList <+: envelope.id.toList
        · obtain ⟨event, opened, opens⟩ := event_of_id starts
          rw [opened] at decoded
          rw [show decode endpoint payload header now = .ok event from decoded]
          constructor
          · simp [verified]
          · simpa [parsed] using fun _ => starts
          · rintro _ other same _
            cases parsed.symm.trans same
            exact ⟨event, rfl, opens⟩
        · rw [event_of_wrong_id starts] at decoded
          rw [show decode endpoint payload header now = .error (.payload _) from decoded]
          constructor
          · simp [verified]
          · simpa [parsed] using fun _ => starts
          · rintro _ other same holds
            cases parsed.symm.trans same
            exact absurd holds starts
  · obtain ⟨reason, refused⟩ := decode_of_not_verified verified
    rw [refused]
    have unreached {claim : Prop} (holds : Verified endpoint payload header now) : claim :=
      absurd holds verified
    exact ⟨by simp [verified], unreached, unreached⟩

end

/-- Where a text names a payment or a customer, an object that holds the text under `id`. -/
structure Expansion (object expanded : Json) : Prop where
  expands : ∃ name id value, (name = "payment_intent" ∨ name = "customer") ∧
    object.get? name = some (.str id) ∧ Expands value id ∧ expanded = object.withMember name value

section

variable {object expanded : Json}

theorem Expansion.field (expansion : Expansion object expanded) (name : String) :
    (expanded.get? name).bind expandableId? = (object.get? name).bind expandableId? := by
  obtain ⟨own, id, value, _, named, expands, rfl⟩ := expansion
  rw [Json.get?_withMember]
  by_cases same : name = own
  · subst same
    rw [named, Option.map_some, if_pos rfl, Option.bind_some, Option.bind_some]
    exact expandableId?_eq_some_iff.mpr expands
  · simp [same]

theorem Expansion.get?_of_ne (expansion : Expansion object expanded) {name : String}
    (noPayment : name ≠ "payment_intent") (noCustomer : name ≠ "customer") :
    expanded.get? name = object.get? name := by
  obtain ⟨own, id, value, isField, _, _, rfl⟩ := expansion
  refine Json.get?_withMember_of_ne ?_ object value
  rcases isField with rfl | rfl
  · exact noPayment
  · exact noCustomer

theorem Expansion.subject? (expansion : Expansion object expanded) (kind : EventKind) :
    subject? kind expanded = Webhook.subject? kind object := by
  have id : expanded.get? "id" = _ := expansion.get?_of_ne (by decide) (by decide)
  have receipt : expanded.get? "receipt_url" = _ := expansion.get?_of_ne (by decide) (by decide)
  have charge : expanded.get? "latest_charge" = _ := expansion.get?_of_ne (by decide) (by decide)
  cases kind <;>
    simp only [Webhook.subject?, textField?, id, receipt, charge, expansion.field "payment_intent"]

theorem Expansion.change? (expansion : Expansion object expanded) (kind : EventKind) :
    change? kind expanded = Webhook.change? kind object := by
  rw [change?_eq, change?_eq, expansion.subject?, expansion.field "customer"]

end

/-- Deliveries are decoded by their signature, their envelope and their object, in this order. Any
object will do that can be read at all, and it does not matter whether a payment or a customer is
expanded. -/
theorem decode_exactly :
    (∀ endpoint payload header now,
      Decodes endpoint payload header now (decode endpoint payload header now)) ∧
    (∀ endpoint payload header now envelope, Verified endpoint payload header now →
      envelope.SpelledBy payload → "evt_".toList <+: envelope.id.toList →
      ∃ event, decode endpoint payload header now = .ok event ∧ Opens envelope event) ∧
    Json.Reader.TakesAll Json.Reader.value ∧
    ∀ object expanded, Expansion object expanded →
      (∀ kind, change? kind expanded = change? kind object) ∧
      ∀ id type endpoint payload payload' header header' now now',
        Verified endpoint payload header now → Verified endpoint payload' header' now' →
        Json.Reader.parse Envelope.reader payload = .ok ⟨id, type, object⟩ →
        Json.Reader.parse Envelope.reader payload' = .ok ⟨id, type, expanded⟩ →
        decode endpoint payload' header' now' = decode endpoint payload header now := by
  refine ⟨decode_decodes, ?_, Json.Reader.takesAll_value, fun object expanded expansion => ?_⟩
  · intro endpoint payload header now envelope verified spelled starts
    have parsed := parse_of_spelledBy spelled
    exact (decode_decodes endpoint payload header now).event verified envelope parsed starts
  refine ⟨expansion.change?, ?_⟩
  intro id type endpoint payload payload' header header' now now' verified verified' parsed parsed'
  rw [decode_of_envelope verified parsed, decode_of_envelope verified' parsed']
  simp only [Envelope.event, funext expansion.change?]

def eventOf (id type : String) (object : List UInt8) : List UInt8 :=
  let quoted := Json.Reader.quotedBytes
  0x7B :: (quoted "id" ++ 0x3A :: (quoted id ++ 0x2C :: (quoted "type" ++ 0x3A ::
    (quoted type ++ 0x2C :: (quoted "data" ++ 0x3A :: 0x7B :: (quoted "object" ++ 0x3A ::
      (object ++ [0x7D, 0x7D])))))))

def greatNumber : List UInt8 := Text.bytesOf "1e999"

def greatDelivery : List UInt8 := eventOf "evt_1" "x" greatNumber

/-- A number that no floating-point number comes near cannot be held, so an object that is such a
number makes the delivery malformed. -/
theorem decode_greatDelivery :
    Json.Reader.Spelled greatNumber ⟨false, [1], [], some (false, [9, 9, 9])⟩ [] ∧
    ∃ header, Verified ⟨"whsec", 300⟩ greatDelivery header 0 ∧
      decode ⟨"whsec", 300⟩ greatDelivery header 0 =
        .error (.payload (faultReason .malformed)) := by
  have whole : Json.Reader.Digits greatNumber [1] (0x65 :: Text.bytesOf "999") := by
    refine ⟨nofun, by decide, by decide +kernel, ?_⟩
    rintro b ⟨⟩
    rfl
  have exponent : Json.Reader.Digits (Text.bytesOf "999") [9, 9, 9] [] :=
    ⟨nofun, by decide, by decide +kernel, nofun⟩
  have noPoint : Json.Reader.NotNext [0x2E] (0x65 :: Text.bytesOf "999") := by
    simp [Json.Reader.NotNext]
  have verified : Verified ⟨"whsec", 300⟩ greatDelivery
      (some (signatureHeader greatDelivery "whsec" 0)) 0 :=
    ⟨_, rfl, verify_stamped.mpr ⟨by decide, rfl⟩⟩
  refine ⟨⟨⟨_, _, _, rfl, whole, .none noPoint, .plain (.inl rfl) exponent⟩, nofun⟩, _, verified, ?_⟩
  decide +kernel

end Webhook

end Payments
