/-!
The sinks that hear of every committed change. A failing sink never undoes the change.
-/

namespace Payments

inductive Sink
  | cache
  | audit
  | search
  | bus
deriving DecidableEq, Repr

def Sink.name : Sink → String
  | .cache => "cache"
  | .audit => "audit"
  | .search => "search"
  | .bus => "bus"

inductive SinkError
  | unavailable (reason : String)
  | database (reason : String)
  | serialization (reason : String)
  | corrupt (reason : String)
deriving DecidableEq, Repr

def SinkError.code : SinkError → String
  | .unavailable _ => "unavailable"
  | .database _ => "database"
  | .serialization _ => "serialization"
  | .corrupt _ => "corrupt"

def SinkError.message : SinkError → String
  | .unavailable reason => "sink unavailable: " ++ reason
  | .database reason => "database: " ++ reason
  | .serialization reason => "serialization: " ++ reason
  | .corrupt reason => "corrupt row: " ++ reason

end Payments
