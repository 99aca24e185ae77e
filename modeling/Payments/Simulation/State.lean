import Payments.Service.World

/-!
A service under simulation: its surroundings in memory, a gateway that follows a script, a store
that can be told to fail or to let another writer in, and a clock that only moves while something
waits.
-/

namespace Payments.Simulation

/-- An answer of the gateway after a delay; without an answer it stays silent. -/
structure ScriptedReply where
  answer : Option (Except Gateway.Failure Gateway.Charge)
  delay : Duration := 0

inductive CreateFault
  | corrupt
  | duplicate

inductive FindFault
  | pass
  | corrupt
  | missing
  /-- Another writer commits an update between this read and its answer. -/
  | race (update : StatusUpdate)

inductive UpdateFault
  | conflict
  | notFound
  | corrupt
  /-- Another writer commits an update just before this one. -/
  | interleave (update : StatusUpdate)

structure MadeCall where
  call : Gateway.Call
  time : Duration

structure State where
  world : World := {}
  createReplies : List ScriptedReply := []
  confirmReplies : List ScriptedReply := []
  createFaults : List CreateFault := []
  findFaults : List FindFault := []
  updateFaults : List UpdateFault := []
  userFaults : Nat := 0
  clock : Duration := 0
  stamps : Nat := 0
  calls : List MadeCall := []
  writes : Nat := 0

def epoch : Nat := 1767225600

def stamp (n : Nat) : Stamp := ⟨Uuid.ofTime (epoch * 1000) n, ⟨epoch, n⟩⟩

def scriptedCorruption : StoreError := .corrupt "scripted"

def MadeCall.key? (made : MadeCall) : Option String :=
  match made.call with
  | .create _ key => some key
  | .confirm _ => none

namespace State

def keys (state : State) : List String := (state.calls.filterMap MadeCall.key?).eraseDups

def nextStamp (state : State) : Stamp × State :=
  (stamp state.stamps, { state with stamps := state.stamps + 1 })

def storeStep (action : StoreAction) (state : State) : action.Reply × State :=
  let (stamp, state) := state.nextStamp
  let (reply, store) := state.world.store.act stamp action
  (reply, { state with world := { state.world with store } })

def otherWriter (reference : Reference) (update : StatusUpdate) (state : State) :
    Option Payment × State :=
  match state.world.store.find? reference with
  | none => (none, state)
  | some current =>
    match state.storeStep (.update reference current.version update) with
    | (.ok (.applied _ next), state) => (some next, state)
    | (_, state) => (none, state)

def evict (reference : Reference) (version : Int) (state : State) : State :=
  { state with
    world := { state.world with cache := state.world.cache.evict reference version } }

def storeAction (action : StoreAction) (state : State) : action.Reply × State :=
  match action with
  | .create payment =>
    match state.createFaults with
    | [] => state.storeStep (.create payment)
    | fault :: faults =>
      let state := { state with createFaults := faults }
      match fault with
      | .corrupt => (.error scriptedCorruption, state)
      | .duplicate => (.error (.duplicate payment.reference.text), state)
  | .find reference =>
    match state.findFaults with
    | [] => state.storeStep (.find reference)
    | fault :: faults =>
      let state := { state with findFaults := faults }
      match fault with
      | .pass => state.storeStep (.find reference)
      | .corrupt => (.error scriptedCorruption, state)
      | .missing => (.ok none, state)
      | .race update =>
        let (read, state) := state.storeStep (.find reference)
        match state.otherWriter reference update with
        | (some next, state) => (read, state.evict reference next.version)
        | (none, state) => (read, state)
  | .update reference expected update =>
    let state := { state with writes := state.writes + 1 }
    match state.updateFaults with
    | [] => state.storeStep (.update reference expected update)
    | fault :: faults =>
      let state := { state with updateFaults := faults }
      match fault with
      | .conflict => (.error (.conflict reference.text expected (expected + 1)), state)
      | .notFound => (.error (.notFound reference.text), state)
      | .corrupt => (.error scriptedCorruption, state)
      | .interleave other =>
        (state.otherWriter reference other).2.storeStep (.update reference expected update)
  | .ofUser userId page =>
    if state.userFaults = 0 then state.storeStep (.ofUser userId page)
    else (.error scriptedCorruption, { state with userFaults := state.userFaults - 1 })

def unscripted : ScriptedReply :=
  { answer := some (.error ⟨.invalidRequest, "unscripted gateway call"⟩) }

def takeReply (call : Gateway.Call) (state : State) : ScriptedReply × State :=
  match call with
  | .create _ _ =>
    match state.createReplies with
    | reply :: rest => (reply, { state with createReplies := rest })
    | [] => (unscripted, state)
  | .confirm _ =>
    match state.confirmReplies with
    | reply :: rest => (reply, { state with confirmReplies := rest })
    | [] => (unscripted, state)

structure Due (α : Type) where
  time : Duration
  reply : α

def gatewayAction (action : Gateway.GatewayAction) (state : State) : Due action.Reply × State :=
  match action with
  | .clock => (⟨state.clock, state.clock⟩, state)
  | .sleep span => (⟨state.clock + span, ()⟩, state)
  | .call call limit =>
    let made := { state with calls := state.calls ++ [MadeCall.mk call state.clock] }
    let (scripted, made) := made.takeReply call
    match scripted.answer with
    | some answer =>
      if scripted.delay ≤ limit then (⟨state.clock + scripted.delay, some answer⟩, made)
      else (⟨state.clock + limit, none⟩, made)
    | none => (⟨state.clock + limit, none⟩, made)

def act (outages : Outages) (action : Action) (state : State) : Due action.Reply × State :=
  match action with
  | .gateway action => state.gatewayAction action
  | .here (.store action) =>
    let (reply, after) := state.storeAction action
    (⟨state.clock, reply⟩, after)
  | .here action =>
    let (stamp, after) := state.nextStamp
    let (reply, world) := after.world.act outages stamp action
    (⟨state.clock, reply⟩, { after with world })

end State

end Payments.Simulation
