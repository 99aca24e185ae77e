import Payments.Proofs.Cache.Change
import Payments.Proofs.Interleaving.Stored
import Payments.Service.World

/-!
Interleavings of the service's own workflows over its surroundings in memory. Each action meets
with circumstances of its own: a stamp, the sinks that are out of order, and what the gateway
answers.
-/

namespace Payments

structure Circumstances where
  stamp : Stamp
  outages : Outages
  gateway : (action : Gateway.GatewayAction) → action.Reply

def World.perform (circumstances : Circumstances) (action : Action) (world : World) :
    action.Reply × World :=
  match action with
  | .gateway action => (circumstances.gateway action, world)
  | .here action => world.act circumstances.outages circumstances.stamp action

namespace Action

def committed? : (action : Action) → action.Reply → Option Payment
  | .here (.store action), reply => action.committed? reply
  | _, _ => none

def filled? : (action : Action) → action.Reply → Option Payment
  | .here (.fill payment), .ok () => some payment
  | _, _ => none

def evicted? : (action : Action) → action.Reply → Option (Reference × Int)
  | .here (.evict reference version), .ok () => some (reference, version)
  | _, _ => none

theorem eq_of_filled? {action : Action} {reply : action.Reply} {payment : Payment}
    (filled : action.filled? reply = some payment) : action = .here (.fill payment) := by
  unfold filled? at filled
  split at filled
  · cases filled
    rfl
  · cases filled

theorem eq_of_evicted? {action : Action} {reply : action.Reply} {reference : Reference}
    {version : Int} (evicted : action.evicted? reply = some (reference, version)) :
    action = .here (.evict reference version) := by
  unfold evicted? at evicted
  split at evicted
  · cases evicted
    rfl
  · cases evicted

theorem committed?_of_evicted? {action : Action} {reply : action.Reply}
    {evicted : Reference × Int} (landed : action.evicted? reply = some evicted) :
    action.committed? reply = none := by
  unfold evicted? at landed
  split at landed
  · rfl
  · cases landed

end Action

namespace World

theorem perform_commit (circumstances : Circumstances) (action : Action) (world : World) :
    world.store.Commit (action.committed? (perform circumstances action world).1)
      (perform circumstances action world).2.store := by
  cases action with
  | gateway action => exact .nothing
  | here action =>
      cases action with
      | store action => exact world.store.act_commit circumstances.stamp action
      | _ =>
          simp only [perform, act, Outages.guard]
          try split
          all_goals exact .nothing

theorem perform_change (circumstances : Circumstances) (action : Action) (world : World) :
    world.cache.Change (action.filled? (perform circumstances action world).1)
      (action.evicted? (perform circumstances action world).1)
      (perform circumstances action world).2.cache := by
  cases action with
  | gateway action => exact .nothing
  | here action =>
      cases action with
      | fill payment =>
          simp only [perform, act, Outages.guard]
          split
          · exact .nothing
          · exact .fill payment
      | evict reference version =>
          simp only [perform, act, Outages.guard]
          split
          · exact .nothing
          · exact .evict reference version
      | _ =>
          simp only [perform, act, Outages.guard]
          try split
          all_goals exact .nothing

theorem perform_cached (circumstances : Circumstances) (reference : Reference) (world : World) :
    perform circumstances (.here (.cached reference)) world =
      (match circumstances.outages .cache with
        | some error => .error error
        | none => .ok (world.cache.get? reference), world) := by
  cases outage : circumstances.outages .cache <;> simp [perform, act, Outages.guard, outage]

end World

namespace Interleaving

def worldAccess : StoreAccess World.perform where
  store := World.store
  committed? := Action.committed?
  commit := World.perform_commit
  stamp := Circumstances.stamp
  ask := fun action => .here (.store action)
  answer := fun _ reply => reply
  asked := fun _ _ _ => rfl
  recorded := fun _ _ => rfl

abbrev ServiceStep := Step Action.Reply Circumstances World

abbrev ServiceMoment := Moment Action.Reply Circumstances World

end Interleaving

end Payments
