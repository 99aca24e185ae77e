import Payments.Proofs.Service.Put

/-!
Workflows that keep to one reference. Whatever is asked about a reference is answered from what is
held of it, and changes nothing else. So two worlds that hold the same of a reference answer such a
workflow alike, and hold the same of it afterwards.
-/

namespace Payments

namespace StoreAction

def about? : StoreAction → Option Reference
  | .create payment => some payment.reference
  | .find reference | .update reference _ _ => some reference
  | .ofUser _ _ => none

end StoreAction

namespace LocalAction

def about? : LocalAction → Option String
  | .store action => action.about?.map Reference.text
  | .cached reference | .evict reference _ => some reference.text
  | .fill payment => some payment.reference.text
  | .append commit => some commit.payment.reference.text
  | .index document => some document.reference
  | .publish event => some event.reference
  | _ => none

end LocalAction

namespace Action

def about? : Action → Option String
  | .here action => action.about?
  | .gateway _ => none

def isBlind : Action → Bool
  | .gateway _ | .here .fresh | .here .time | .here (.count _) => true
  | _ => false

def Within (scope : Option String) (action : Action) : Prop :=
  action.isBlind = true ∨ ∃ text, action.about? = some text ∧ scope = some text

theorem Within.about? {scope : Option String} {action : Action} {text : String}
    (within : action.Within scope) (about : action.about? = some text) : scope = some text := by
  rcases within with blind | ⟨own, isOwn, inScope⟩
  · unfold isBlind at blind
    split at blind
    · cases about
    · cases about
    · cases about
    · cases about
    · cases blind
  · exact inScope.trans (isOwn.symm.trans about)

theorem Within.only {scope : Option String} {action : Action} {text : String}
    (within : action.Within scope) (own : ∀ known, scope = some known → known = text) :
    action.Within (some text) := by
  rcases within with blind | ⟨known, about, inScope⟩
  · exact .inl blind
  · exact .inr ⟨known, about, congrArg some (own known inScope).symm⟩

end Action

namespace Store

theorem about?_of_committed {store : Store} {stamp : Stamp} {action : StoreAction}
    {record : Payment} (committed : action.committed? (store.act stamp action).1 = some record) :
    action.about? = some record.reference := by
  cases action with
  | create payment =>
      obtain ⟨_, rfl⟩ := committed_create committed
      rfl
  | update reference expected update =>
      obtain ⟨current, found, _, _, rfl⟩ := committed_update committed
      exact congrArg some (find?_reference found).symm
  | find reference => cases committed
  | ofUser userId page => cases committed

theorem find?_act_of_ne {action : StoreAction} {reference : Reference}
    (apart : action.about? ≠ some reference) (store : Store) (stamp : Stamp) :
    (store.act stamp action).2.find? reference = store.find? reference := by
  have commit := store.act_commit stamp action
  cases committed : action.committed? (store.act stamp action).1 with
  | none =>
      rw [committed] at commit
      rw [commit.eq_of_none]
  | some record =>
      rw [committed] at commit
      rw [commit.find? reference, if_neg]
      rintro rfl
      exact apart (about?_of_committed committed)

theorem act_of_find? {store other : Store} {action : StoreAction} {reference : Reference}
    (about : action.about? = some reference)
    (same : store.find? reference = other.find? reference) (stamp : Stamp) :
    (store.act stamp action).1 = (other.act stamp action).1 ∧
      (store.act stamp action).2.find? reference = (other.act stamp action).2.find? reference := by
  cases action with
  | create payment =>
      cases about
      cases found : store.find? payment.reference with
      | some current =>
          rw [act_create_present found, act_create_present (same.symm.trans found)]
          exact ⟨rfl, same⟩
      | none =>
          have absent := same.symm.trans found
          rw [act_create_absent found, act_create_absent absent]
          have inserted := @find?_insert store (payment.record stamp) found payment.reference
          have beside := @find?_insert other (payment.record stamp) absent payment.reference
          exact ⟨rfl, inserted.trans (by rw [beside, same])⟩
  | find reference =>
      cases about
      exact ⟨congrArg Except.ok same, same⟩
  | update reference expected update =>
      cases about
      cases found : store.find? reference with
      | none =>
          rw [act_update_absent found, act_update_absent (same.symm.trans found)]
          exact ⟨rfl, same⟩
      | some current =>
          have present := same.symm.trans found
          rw [act_update found, act_update present]
          split
          · split
            · exact ⟨rfl, same⟩
            · exact ⟨rfl, same⟩
            · refine ⟨rfl, ?_⟩
              rw [find?_replace_apply found, find?_replace_apply present, if_pos rfl, if_pos rfl]
          · exact ⟨rfl, same⟩
  | ofUser userId page => cases about

end Store

namespace World

/-- Two worlds hold the same of one reference. -/
structure Agrees (text : String) (world other : World) : Prop where
  stored : ∀ reference : Reference, reference.text = text →
    world.store.find? reference = other.store.find? reference
  slot : ∀ reference : Reference, reference.text = text →
    world.cache.slot? reference = other.cache.slot? reference
  document : world.index.find? text = other.index.find? text
  audit : world.audit.entries.filter (·.reference = text) =
    other.audit.entries.filter (·.reference = text)
  published : world.published.filter (·.reference = text) =
    other.published.filter (·.reference = text)

namespace Agrees

variable {text : String} {world middle other : World}

theorem refl (text : String) (world : World) : world.Agrees text world :=
  ⟨fun _ _ => rfl, fun _ _ => rfl, rfl, rfl, rfl⟩

theorem symm (agrees : world.Agrees text other) : other.Agrees text world :=
  ⟨fun reference own => (agrees.stored reference own).symm,
    fun reference own => (agrees.slot reference own).symm, agrees.document.symm,
    agrees.audit.symm, agrees.published.symm⟩

theorem trans (first : world.Agrees text middle) (second : middle.Agrees text other) :
    world.Agrees text other :=
  ⟨fun reference own => (first.stored reference own).trans (second.stored reference own),
    fun reference own => (first.slot reference own).trans (second.slot reference own),
    first.document.trans second.document, first.audit.trans second.audit,
    first.published.trans second.published⟩

end Agrees

variable {text : String} {world other after afterOther : World} {action : Action}

theorem agrees_guard (agrees : world.Agrees text after) {α : Type} (outages : Outages) (sink : Sink)
    (result : α) : world.Agrees text (outages.guard sink world result after).2 := by
  unfold Outages.guard
  split
  · exact .refl text world
  · exact agrees

theorem Agrees.guard (before : world.Agrees text other) (agrees : after.Agrees text afterOther)
    {α : Type} {result resultOther : α} (same : result = resultOther) (outages : Outages)
    (sink : Sink) :
    (outages.guard sink world result after).1 =
        (outages.guard sink other resultOther afterOther).1 ∧
      (outages.guard sink world result after).2.Agrees text
        (outages.guard sink other resultOther afterOther).2 := by
  unfold Outages.guard
  split
  · exact ⟨rfl, before⟩
  · exact ⟨congrArg Except.ok same, agrees⟩

theorem agrees_perform (apart : action.about? ≠ some text) (circumstances : Circumstances)
    (world : World) : world.Agrees text (perform circumstances action world).2 := by
  have same := Agrees.refl text world
  cases action with
  | gateway action => exact same
  | here action =>
      cases action with
      | store action =>
          refine { same with stored := fun reference own => ?_ }
          refine (Store.find?_act_of_ne (fun about => apart ?_) _ _).symm
          rw [Action.about?, LocalAction.about?, about, ← own]
          rfl
      | fill payment =>
          refine agrees_guard ?_ _ _ _
          refine { same with slot := fun reference own => ?_ }
          refine (Cache.slot?_put_of_ne ?_).symm
          rintro rfl
          exact apart (congrArg some own)
      | evict reference version =>
          refine agrees_guard ?_ _ _ _
          refine { same with slot := fun reference own => ?_ }
          refine (Cache.slot?_evict_of_ne ?_).symm
          rintro rfl
          exact apart (congrArg some own)
      | append commit =>
          have foreign : commit.payment.reference.text ≠ text := fun own =>
            apart (congrArg some own)
          refine agrees_guard ?_ _ _ _
          refine { same with audit := ?_ }
          simp [AuditLog.append, Commit.auditEntry, AuditEntry.ofTransition, foreign]
      | index document =>
          refine agrees_guard ?_ _ _ _
          refine { same with document := (SearchIndex.find?_upsert_of_ne ?_).symm }
          rintro rfl
          exact apart rfl
      | publish event =>
          have foreign : event.reference ≠ text := fun own => apart (congrArg some own)
          refine agrees_guard ?_ _ _ _
          refine { same with published := ?_ }
          simp [foreign]
      | cached _ | search _ _ | statusCount | auditTrail _ => exact agrees_guard same _ _ _
      | fresh | time | exposition => exact same
      | count counter => exact { same with }

theorem Agrees.perform (agrees : world.Agrees text other) (within : action.Within (some text))
    (circumstances : Circumstances) :
    (World.perform circumstances action world).1 = (World.perform circumstances action other).1 ∧
      (World.perform circumstances action world).2.Agrees text
        (World.perform circumstances action other).2 := by
  have own : ∀ known, action.about? = some known → known = text := fun known about =>
    (Option.some.inj (within.about? about)).symm
  cases action with
  | gateway action => exact ⟨rfl, agrees⟩
  | here action =>
      cases action with
      | store action =>
          rcases within with blind | ⟨known, about, inScope⟩
          · cases blind
          obtain ⟨reference, isReference, rfl⟩ := Option.map_eq_some_iff.mp about
          cases inScope
          obtain ⟨replied, stored⟩ := Store.act_of_find? isReference
            (agrees.stored reference rfl) circumstances.stamp
          refine ⟨replied, { agrees with stored := fun asked isOwn => ?_ }⟩
          rw [Reference.text_inj.mp isOwn]
          exact stored
      | cached reference =>
          refine agrees.guard agrees ?_ _ _
          rw [Cache.get?, Cache.get?, agrees.slot reference (own _ rfl)]
      | fill payment =>
          refine agrees.guard ?_ rfl _ _
          refine { agrees with slot := fun reference isOwn => ?_ }
          rw [Reference.text_inj.mp (isOwn.trans (own _ rfl).symm), Cache.slot?_put_self,
            Cache.slot?_put_self, agrees.slot payment.reference (own _ rfl)]
      | evict evicted version =>
          refine agrees.guard ?_ rfl _ _
          refine { agrees with slot := fun reference isOwn => ?_ }
          rw [Reference.text_inj.mp (isOwn.trans (own _ rfl).symm), Cache.slot?_evict_self,
            Cache.slot?_evict_self, agrees.slot evicted (own _ rfl)]
      | append commit =>
          refine agrees.guard ?_ rfl _ _
          refine { agrees with audit := ?_ }
          simp only [AuditLog.append, List.filter_append, agrees.audit]
      | index document =>
          refine agrees.guard ?_ rfl _ _
          refine { agrees with document := ?_ }
          rw [← own document.reference rfl, SearchIndex.find?_upsert_self,
            SearchIndex.find?_upsert_self, own document.reference rfl, agrees.document]
      | publish event =>
          refine agrees.guard ?_ rfl _ _
          refine { agrees with published := ?_ }
          rw [List.filter_append, List.filter_append, agrees.published]
      | fresh | time => exact ⟨rfl, agrees⟩
      | count counter => exact ⟨rfl, { agrees with }⟩
      | search _ _ | statusCount | auditTrail _ | exposition =>
          rcases within with blind | ⟨known, about, _⟩
          · cases blind
          · cases about

end World

namespace Interleaving

open ServiceWorkflow

variable {α β : Type} {scope : Option String} {text : String} {course other : ServiceCourse}

/-- All that a workflow asks for from here on stays within the scope. -/
def Confined (scope : Option String) : ServiceWorkflow α → ServiceCourse → Prop
  | .done _, _ => True
  | .ask action next, course => action.Within scope ∧
      Confined scope (next (course.reply World.perform action)) (course.next World.perform action)

theorem Confined.bind {workflow : ServiceWorkflow β} {next : β → ServiceWorkflow α}
    (confined : Confined scope workflow course)
    (onward : Confined scope (next (alone World.perform workflow course).1)
      (alone World.perform workflow course).2) :
    Confined scope (workflow.bind next) course := by
  induction workflow generalizing course with
  | done result => exact onward
  | ask action resume ih => exact ⟨confined.1, ih _ confined.2 onward⟩

theorem confined_of_asks {workflow : ServiceWorkflow α}
    (asks : Asks (Action.Within scope) workflow) : Confined scope workflow course := by
  induction workflow generalizing course with
  | done result => trivial
  | ask action next ih => exact ⟨asks.1, ih _ (asks.2 _)⟩

structure Course.Beside (text : String) (course other : ServiceCourse) : Prop where
  ahead : course.ahead = other.ahead
  agrees : course.moment.state.Agrees text other.moment.state

theorem Course.Beside.next {action : Action} (beside : course.Beside text other)
    (within : action.Within (some text)) :
    course.reply World.perform action = other.reply World.perform action ∧
      (course.next World.perform action).Beside text (other.next World.perform action) := by
  obtain ⟨replied, agrees⟩ := beside.agrees.perform within (course.ahead 0)
  unfold Course.reply Course.next
  rw [← beside.ahead]
  exact ⟨replied, rfl, agrees⟩

theorem Confined.beside {workflow : ServiceWorkflow α} (confined : Confined scope workflow course)
    (own : ∀ known, scope = some known → known = text) (beside : course.Beside text other) :
    (alone World.perform workflow course).1 = (alone World.perform workflow other).1 ∧
      (alone World.perform workflow course).2.Beside text
        (alone World.perform workflow other).2 := by
  induction workflow generalizing course other with
  | done result => exact ⟨rfl, beside⟩
  | ask action next ih =>
      obtain ⟨replied, onward⟩ := beside.next (confined.1.only own)
      rw [alone_ask, alone_ask, ← replied]
      exact ih _ confined.2 onward

theorem Confined.agrees {workflow : ServiceWorkflow α} (confined : Confined scope workflow course)
    (apart : scope ≠ some text) :
    course.moment.state.Agrees text (alone World.perform workflow course).2.moment.state := by
  induction workflow generalizing course with
  | done result => exact .refl text _
  | ask action next ih =>
      have elsewhere : action.about? ≠ some text := fun about => apart (confined.1.about? about)
      exact (World.agrees_perform elsewhere _ _).trans (ih _ confined.2)

theorem confined_ofGateway (workflow : Gateway.GatewayWorkflow α) :
    Confined scope (ofGateway workflow) course :=
  confined_of_asks (asks_ofGateway (fun _ => .inl rfl) workflow)

theorem confined_fanOut (commit : Commit) :
    Confined (some commit.payment.reference.text) (fanOut commit) course := by
  have counted : ∀ (sink : Sink) (reply : Except SinkError Unit),
      Asks (Action.Within (some commit.payment.reference.text)) (countFailure sink reply) := by
    rintro sink (error | _)
    · exact ⟨.inl rfl, fun _ => trivial⟩
    · trivial
  have own : ∀ action : LocalAction, action.about? = some commit.payment.reference.text →
      Action.Within (some commit.payment.reference.text) (.here action) := fun _ about =>
    .inr ⟨_, about, rfl⟩
  refine confined_of_asks ?_
  refine ⟨own (.evict _ _) rfl, fun cache => ⟨own (.append _) rfl, fun audit => ?_⟩⟩
  refine ⟨own (.index _) rfl, fun search => ⟨own (.publish _) rfl, fun bus => ?_⟩⟩
  refine (counted .cache cache).bind fun _ => (counted .audit audit).bind fun _ => ?_
  exact (counted .search search).bind fun _ => counted .bus bus

theorem confined_settle (reference : Reference) (update : StatusUpdate) (attempts : Nat) :
    Confined (some reference.text) (ofStore (Settlement.settle reference update attempts))
      course := by
  have asks : Asks (fun action : StoreAction => action.about? = some reference)
      (Settlement.settle reference update attempts) := by
    refine asks_attempts ?_ ?_ attempts
    · rfl
    · exact fun _ => rfl
  refine confined_of_asks (asks_ofStore (fun action about => ?_) asks)
  exact .inr ⟨reference.text, congrArg (Option.map Reference.text) about, rfl⟩

theorem Confined.settle {reference : Reference} {update : StatusUpdate} {attempts : Nat}
    {next : Except StoreError Settlement → ServiceWorkflow α}
    (onward : ∀ settlement later,
      (∀ previous current, settlement = .applied previous current → current.reference = reference) →
      Confined (some reference.text) (next (.ok settlement)) later) :
    Confined (some reference.text)
      ((ofStore (Settlement.settle reference update attempts)).bind next) course := by
  refine Confined.bind (confined_settle reference update attempts) ?_
  rw [settle_alone]
  refine onward _ _ fun previous current applied => ?_
  rcases Settlement.undisturbed_cases (course.moment.state.store.find? reference) update
    (course.ahead 1).stamp.now with ⟨_, missing⟩ | ⟨stored, found, unchanged | rejected | moved⟩
  · cases missing.symm.trans applied
  · cases unchanged.2.symm.trans applied
  · cases rejected.2.2.symm.trans applied
  · cases moved.2.symm.trans applied
    exact (Payment.reference_apply _ _ _).trans (Store.find?_reference found)

end Interleaving

end Payments
