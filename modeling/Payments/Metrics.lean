/-!
Counters of the payment service and their text exposition: families by name, and in a family one
line for every label, both sorted.
-/

namespace Payments

/-- Counts by label; a label has a series from its first use on. -/
abbrev Series := List (String × Nat)

namespace Series

def count (series : Series) (label : String) : Nat :=
  ((series.find? (·.1 = label)).map (·.2)).getD 0

def touch (series : Series) (label : String) : Series :=
  if series.any (·.1 = label) then series else series ++ [(label, 0)]

def increment (series : Series) (label : String) : Series :=
  (series.touch label).map fun entry =>
    if entry.1 = label then (entry.1, entry.2 + 1) else entry

end Series

inductive Counter
  | processed
  | failed (code : String)
  | sinkFailure (sink : String)
  | delivery (outcome : String)
deriving DecidableEq, Repr

structure Metrics where
  processed : Nat := 0
  failures : Series := []
  sinkFailures : Series := []
  deliveries : Series := []

namespace Metrics

def count (metrics : Metrics) : Counter → Metrics
  | .processed => { metrics with processed := metrics.processed + 1 }
  | .failed code => { metrics with failures := metrics.failures.increment code }
  | .sinkFailure sink => { metrics with sinkFailures := metrics.sinkFailures.increment sink }
  | .delivery outcome => { metrics with deliveries := metrics.deliveries.increment outcome }

def escapeLabel (label : String) : String :=
  String.ofList (label.toList.flatMap fun c =>
    if c = '\n' then ['\\', 'n'] else if c = '"' ∨ c = '\\' then ['\\', c] else [c])

structure Family where
  name : String
  help : String
  samples : List String

def labelled (name label : String) (series : Series) : List String :=
  (series.mergeSort fun x y => decide (x.1 ≤ y.1)).map fun (value, count) =>
    name ++ "\x7b" ++ label ++ "=\"" ++ escapeLabel value ++ "\"\x7d " ++ toString count

/-- The families in the order of their names; one without samples is left out. -/
def families (metrics : Metrics) : List Family :=
  [ ⟨"payment_errors_total", "Failed charge attempts by error code",
      labelled "payment_errors_total" "code" metrics.failures⟩
  , ⟨"payment_side_effect_failures_total", "Post-commit sink failures by sink",
      labelled "payment_side_effect_failures_total" "sink" metrics.sinkFailures⟩
  , ⟨"payment_webhook_events_total", "Webhook deliveries by reconcile outcome",
      labelled "payment_webhook_events_total" "outcome" metrics.deliveries⟩
  , ⟨"payments_processed_total", "Charges accepted by the gateway and persisted",
      ["payments_processed_total " ++ toString metrics.processed]⟩ ].filter
    fun family => !family.samples.isEmpty

def Family.lines (family : Family) : List String :=
  ("# HELP " ++ family.name ++ " " ++ family.help) ::
    ("# TYPE " ++ family.name ++ " counter") :: family.samples

def samples (metrics : Metrics) : List String := metrics.families.flatMap (·.samples)

def text (metrics : Metrics) : String :=
  String.join ((metrics.families.flatMap (·.lines)).map (· ++ "\n"))

end Metrics

end Payments
