import Payments.Http.ErrorBody
import Payments.Http.Form
import Payments.Http.MediaType
import Payments.Service.Charging
import Payments.Webhook.Reconcile

/-!
The HTTP interface: which requests there are, how their parts are read, and how results are
answered. A request that cannot be read gets a bare status; an error of the service gets a body;
where an operation of the service breaks down, there is no response.
-/

namespace Payments.Http

open ServiceWorkflow

structure Request where
  method : String
  path : String
  query : String
  headers : List (String × String)
  body : List UInt8

/-- Of a JSON body the value is left out when only its media type is told. -/
inductive Body
  | empty
  | json (value : Option Json)
  | text (mediaType content : String)

structure Response where
  status : Nat
  body : Body

namespace Response

def bare (status : Nat) : Response := ⟨status, .empty⟩

def json (status : Nat) (value : Json) : Response := ⟨status, .json (some value)⟩

/-- A number that is no status at all counts as an internal error. -/
def statusCode (status : Nat) : Nat := if 100 ≤ status ∧ status ≤ 999 then status else 500

def error (error : ApiError) : Response := json (statusCode error.body.status) error.body.json

/-- The answer to a `HEAD` request: the content is left out, its media type is still told. -/
def withoutContent (response : Response) : Response :=
  match response.body with
  | .empty => response
  | .json _ => { response with body := .json none }
  | .text mediaType _ => { response with body := .text mediaType "" }

end Response

namespace Request

def afterScheme? : List Char → Option (List Char)
  | ':' :: '/' :: '/' :: rest => some rest
  | c :: rest =>
    if c.isAlphanum || c = '+' || c = '-' || c = '.' then afterScheme? rest else none
  | [] => none

def localPart (target : List Char) : List Char :=
  match afterScheme? target with
  | none => target
  | some rest =>
    match rest.dropWhile fun c => c ≠ '/' ∧ c ≠ '?' ∧ c ≠ '#' with
    | '/' :: path => '/' :: path
    | query => '/' :: query

def splitTarget (target : String) : String × String :=
  let chars := (localPart target.toList).takeWhile (· ≠ '#')
  match Text.cut? '?' chars with
  | some (path, query) => (String.ofList path, String.ofList query)
  | none => (String.ofList chars, "")

def sameName (x y : String) : Bool := x.toList.map Char.toLower = y.toList.map Char.toLower

/-- The first header of that name, if all of it is printable ASCII. -/
def header? (request : Request) (name : String) : Option String :=
  match request.headers.find? (sameName ·.1 name) with
  | some (_, value) =>
    if value.toList.all fun c => (0x20 ≤ c.toNat && c.toNat < 0x7F) || c = '\t' then some value
    else none
  | none => none

/-- The first address that the request was forwarded for. -/
def clientIp (request : Request) : Option String := do
  let hops ← request.header? "X-Forwarded-For"
  Text.nonBlank? (String.ofList ((Text.pieces ',' hops.toList).headD []))

def segments (request : Request) : List (List Char) := (Text.pieces '/' request.path.toList).drop 1

def pairs (request : Request) : List (String × String) := formPairs request.query

end Request

inductive Endpoint
  | root
  | charge
  | search
  | statistics
  | ofUser (user : List Char)
  | payment (reference : List Char)
  | confirm (reference : List Char)
  | audit
  | webhook
  | metrics

namespace Endpoint

def ofSegments? : List (List Char) → Option Endpoint
  | [segment] =>
    if segment = [] then some .root
    else if segment = "metrics".toList then some .metrics
    else none
  | api :: first :: rest =>
    if api ≠ "api".toList then none
    else
      match rest with
      | [] =>
        if first = "payments".toList then some .charge
        else if first = "audit".toList then some .audit
        else none
      | [second] =>
        if first = "webhooks".toList then
          if second = "stripe".toList then some .webhook else none
        else if first ≠ "payments".toList ∨ second = [] then none
        else if second = "search".toList then some .search
        else if second = "stats".toList then some .statistics
        else some (.payment second)
      | [second, third] =>
        if first ≠ "payments".toList then none
        else if second = "user".toList ∧ third ≠ [] then some (.ofUser third)
        else if third = "confirm".toList then some (.confirm second)
        else none
      | _ => none
  | [] => none

def isPost : Endpoint → Bool
  | .charge | .confirm _ | .webhook => true
  | _ => false

def allows (endpoint : Endpoint) (method : String) : Bool :=
  if endpoint.isPost then method = "POST" else method = "GET" || method = "HEAD"

end Endpoint

structure Api where
  payments : PaymentService
  receiver : Webhook.Receiver

namespace Api

def maxBody : Nat := 64 * 1024

def chargeRequest (request : Request) : Except Nat ChargeRequest :=
  if !(request.header? "content-type").any isJsonMediaType then .error 415
  else if maxBody < request.body.length then .error 413
  else
    match Json.Reader.parse ChargeRequest.reader request.body with
    | .ok charge => .ok charge
    | .error .malformed => .error 400
    | .error .mismatch => .error 422

def respond {α : Type} (status : Nat) (json : α → Json) : Except PaymentError α → Response
  | .ok result => .json status (json result)
  | .error error => .error (.payment error)

def charge (api : Api) (request : Request) : ServiceWorkflow (Option Response) :=
  match chargeRequest request with
  | .error status => return some (.bare status)
  | .ok charge => do
    let origin : Origin := ⟨.user (Text.trim charge.userId), request.clientIp⟩
    return (← api.payments.process charge origin).map (respond 201 Receipt.json)

def pathText? (segment : List Char) : Option String := Text.ofBytes? (percentDecode segment)

def withReference (segment : List Char) (next : Reference → ServiceWorkflow (Option Response)) :
    ServiceWorkflow (Option Response) :=
  match pathText? segment with
  | none => return some (.bare 400)
  | some text =>
    match Reference.ofText text with
    | .error refusal => return some (.error (.payment (.refused refusal)))
    | .ok reference => next reference

def receipt (payment : Payment) : Json := (Receipt.ofPayment payment).json

def pageRequest? (pairs : List (String × String)) : Option PageRequest := do
  let page ← parameter? pairs "page" nat32?
  let size ← parameter? pairs "size" nat32?
  let default : PageRequest := {}
  return ⟨page.getD default.page, size.getD default.size⟩

def decimal? (text : String) : Option Decimal := (Decimal.ofText text).toOption

def searchQuery? (pairs : List (String × String)) : Option SearchQuery := do
  return {
    text := ← parameter? pairs "text" some
    minAmount := ← parameter? pairs "minAmount" decimal?
    maxAmount := ← parameter? pairs "maxAmount" decimal?
    status := ← parameter? pairs "status" Status.ofName?
    userId := ← parameter? pairs "userId" some }

def auditQuery? (pairs : List (String × String)) : Option AuditQuery := do
  return {
    reference := ← parameter? pairs "reference" some
    actor := ← parameter? pairs "actor" some
    start := ← parameter? pairs "from" Instant.ofText?
    stop := ← parameter? pairs "to" Instant.ofText? }

def ofSink {α : Type} (json : α → Json) : Except SinkError α → Response
  | .ok result => .json 200 (json result)
  | .error error => .error (.sink error)

def search (request : Request) : ServiceWorkflow Response :=
  match searchQuery? request.pairs, pageRequest? request.pairs with
  | some query, some page => do return ofSink SearchPage.json (← locally (.search query page))
  | _, _ => return .bare 400

def statistics (count : Status → Nat) : Json :=
  .obj (Status.all.map fun status => (status.name, .ofNat (count status)))

def ofUser (segment : List Char) (request : Request) : ServiceWorkflow Response :=
  match pathText? segment, pageRequest? request.pairs with
  | some user, some page => do
    return respond 200 (fun payments => .arr (payments.map receipt)) (← paymentsOf user page)
  | _, _ => return .bare 400

def audit (request : Request) : ServiceWorkflow Response :=
  match auditQuery? request.pairs with
  | some query => do
    return ofSink (fun entries => .arr (entries.map (·.json))) (← locally (.auditTrail query))
  | none => return .bare 400

def webhook (api : Api) (request : Request) : ServiceWorkflow Response :=
  if maxBody < request.body.length then return .bare 413
  else do
    let delivery : Webhook.Delivery :=
      ⟨request.body, request.header? "Stripe-Signature", request.clientIp⟩
    match ← Webhook.handle api.receiver delivery with
    | .ok outcome => return .json 200 (.obj [("status", .str outcome.name)])
    | .error error => return .error (.delivery error)

def metricsType : String := "text/plain; version=0.0.4"

def serve (api : Api) (request : Request) : Endpoint → ServiceWorkflow (Option Response)
  | .root => return some ⟨200, .text "text/plain; charset=utf-8" "ok"⟩
  | .charge => api.charge request
  | .search => do return some (← search request)
  | .statistics => do return some (ofSink statistics (← locally .statusCount))
  | .ofUser user => do return some (← ofUser user request)
  | .payment reference =>
    withReference reference fun reference => do
      return some (respond 200 receipt (← lookUp reference))
  | .confirm reference =>
    withReference reference fun reference => do
      return (← api.payments.confirm reference ⟨.system, request.clientIp⟩).map
        (respond 200 Receipt.json)
  | .audit => do return some (← audit request)
  | .webhook => do return some (← api.webhook request)
  | .metrics => do return some ⟨200, .text metricsType (← locally .exposition)⟩

def handle (api : Api) (request : Request) : ServiceWorkflow (Option Response) :=
  match Endpoint.ofSegments? request.segments with
  | none => return some (.bare 404)
  | some endpoint =>
    if endpoint.allows request.method then do
      let response? ← api.serve request endpoint
      return response?.map fun response =>
        if request.method = "HEAD" then response.withoutContent else response
    else return some (.bare 405)

/-- A request that takes longer is given up with status 408. -/
def timeLimit : Duration := Duration.ofSeconds 45

end Api

end Payments.Http
