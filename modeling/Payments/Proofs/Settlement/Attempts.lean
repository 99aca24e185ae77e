import Payments.Proofs.Interleaving.Alone

/-!
The attempts of one settlement, whatever its store answers: rounds of a read and of a write that
names the version just read, and at the end perhaps a read that no write follows. Every round but
the last has met with a conflict, and there are no more reads than attempts are allowed. A store
that nobody else writes to is asked once.
-/

namespace Payments

namespace StoreError

def isPassedOn : StoreError → Bool
  | .conflict _ _ _ | .notFound _ | .illegalMove _ => false
  | _ => true

end StoreError

namespace Settlement

open Interleaving

abbrev StoreTalk := List (Exchange StoreAction.Reply)

/-- A record that was read, and the answer to the write that names its version. -/
structure Round where
  read : Payment
  answer : Except StoreError UpdateOutcome

namespace Round

def talk (reference : Reference) (update : StatusUpdate) (round : Round) : StoreTalk :=
  [ ⟨.find reference, .ok (some round.read)⟩
  , ⟨.update reference round.read.version update, round.answer⟩ ]

def Conflicts (round : Round) : Prop :=
  ∃ reference expected found, round.answer = .error (.conflict reference expected found)

/-- What the answer to a write comes to; `spent` says that no more attempts are allowed, `stops`
that the settlement ends there, and with what result. -/
structure Judged (round : Round) (spent : Prop) (stops : Except StoreError Settlement → Prop) :
    Prop where
  applied : ∀ previous current, round.answer = .ok (.applied previous current) →
    stops (.ok (.applied previous current))
  unchanged : ∀ payment, round.answer = .ok (.unchanged payment) → stops (.ok (.unchanged payment))
  rejected : ∀ illegal, round.answer = .error (.illegalMove illegal) →
    stops (.ok (.rejected round.read illegal))
  missing : ∀ text, round.answer = .error (.notFound text) → stops (.ok .missing)
  conflict : ∀ text expected found, round.answer = .error (.conflict text expected found) →
    ∀ outcome, stops outcome ↔ spent ∧ outcome = .error (.conflict text expected found)
  failed : ∀ error, round.answer = .error error → error.isPassedOn = true → stops (.error error)

section

variable {round : Round} {spent : Prop} {stops : Except StoreError Settlement → Prop}

theorem Judged.congr {halts : Except StoreError Settlement → Prop}
    (judged : round.Judged spent stops) (same : ∀ outcome, halts outcome ↔ stops outcome) :
    round.Judged spent halts := by
  rw [show halts = stops from funext fun outcome => propext (same outcome)]
  exact judged

theorem Conflicts.judged (conflicts : round.Conflicts) (goesOn : ∀ outcome, ¬ stops outcome)
    (left : ¬ spent) : round.Judged spent stops := by
  obtain ⟨reference, expected, found, refused⟩ := conflicts
  constructor <;> simp [refused, StoreError.isPassedOn, goesOn, left]

end

end Round

def roundsTalk (reference : Reference) (update : StatusUpdate) (rounds : List Round) : StoreTalk :=
  rounds.flatMap (Round.talk reference update)

/-- How a settlement ends: at a read that no write follows, or with the answer to a write. -/
inductive Ending (reference : Reference) (update : StatusUpdate) (spent : Prop) :
    StoreTalk → Except StoreError Settlement → Prop
  | unread {error : StoreError} :
      Ending reference update spent [⟨.find reference, .error error⟩] (.error error)
  | absent : Ending reference update spent [⟨.find reference, .ok none⟩] (.ok .missing)
  | written {round : Round} {result : Except StoreError Settlement} :
      round.Judged spent (· = result) →
      Ending reference update spent (round.talk reference update) result

structure Lost (reference : Reference) (update : StatusUpdate) (attempts : Nat)
    (rounds : List Round) (talk : StoreTalk) : Prop where
  talk : talk = roundsTalk reference update rounds
  conflicts : ∀ round ∈ rounds, round.Conflicts
  room : rounds.length < max 1 attempts

def Ended (reference : Reference) (update : StatusUpdate) (attempts : Nat) (talk : StoreTalk)
    (result : Except StoreError Settlement) : Prop :=
  ∃ lost before ending, talk = before ++ ending ∧ Lost reference update attempts lost before ∧
    Ending reference update (lost.length + 1 = max 1 attempts) ending result

section

variable {reference : Reference} {update : StatusUpdate} {attempts : Nat} {lost : List Round}
  {talk : StoreTalk}

theorem roundsTalk_concat (rounds : List Round) (round : Round) :
    roundsTalk reference update (rounds ++ [round]) =
      roundsTalk reference update rounds ++ round.talk reference update := by
  simp [roundsTalk]

theorem once_keeps {onConflict : StoreError → StoreWorkflow (Except StoreError Settlement)}
    (before : Lost reference update attempts lost talk)
    (again : ∀ (round : Round) text expected found,
      round.answer = .error (.conflict text expected found) →
      Keeps (fun _ _ => True) (Ended reference update attempts)
        (onConflict (.conflict text expected found)) (talk ++ round.talk reference update)) :
    Keeps (fun _ _ => True) (Ended reference update attempts) (once reference update onConflict)
      talk := by
  refine ⟨trivial, ?_⟩
  rintro (error | _ | read)
  · exact ⟨lost, talk, _, rfl, before, .unread⟩
  · exact ⟨lost, talk, _, rfl, before, .absent⟩
  refine ⟨trivial, fun answer => ?_⟩
  have said : talk ++ [⟨.find reference, .ok (some read)⟩] ++
      [⟨.update reference read.version update, answer⟩] =
        talk ++ Round.talk reference update ⟨read, answer⟩ := List.append_assoc ..
  rw [said]
  have ends : ∀ result,
      Round.Judged ⟨read, answer⟩ (lost.length + 1 = max 1 attempts) (· = result) →
      Ended reference update attempts (talk ++ Round.talk reference update ⟨read, answer⟩)
        result :=
    fun result judged => ⟨lost, talk, _, rfl, before, .written judged⟩
  rcases answer with error | outcome
  · cases error with
    | conflict text expected found => exact again ⟨read, _⟩ text expected found rfl
    | _ =>
        refine ends _ ?_
        constructor <;> simp [StoreError.isPassedOn]
  · cases outcome <;>
      exact ends _ (by constructor <;> simp)

theorem attempt_keeps (more : Nat) (left : lost.length + more + 1 = max 1 attempts)
    (before : Lost reference update attempts lost talk) :
    Keeps (fun _ _ => True) (Ended reference update attempts) (attempt reference update more)
      talk := by
  -- On the attempts that are left; those before have all met with a conflict.
  induction more generalizing lost talk with
  | zero =>
      refine once_keeps before fun round text expected found refused => ?_
      have spent : lost.length + 1 = max 1 attempts := left
      refine ⟨lost, talk, _, rfl, before, .written ?_⟩
      constructor <;> simp [refused, StoreError.isPassedOn, spent]
  | succ more ih =>
      refine once_keeps before fun round text expected found refused => ?_
      refine @ih (lost ++ [round]) _ ?_ ⟨?_, ?_, ?_⟩
      · rw [List.length_append, List.length_singleton]
        omega
      · rw [roundsTalk_concat, before.talk]
      · intro other member
        rcases List.mem_append.mp member with old | new
        · exact before.conflicts other old
        · rw [List.mem_singleton.mp new]
          exact ⟨text, expected, found, refused⟩
      · rw [List.length_append, List.length_singleton]
        omega

theorem settle_keeps (silent : talk = []) :
    Keeps (fun _ _ => True) (Ended reference update attempts) (settle reference update attempts)
      talk := by
  subst silent
  have room : (0 : Nat) < max 1 attempts := by omega
  refine @attempt_keeps _ _ _ [] _ (attempts - 1) ?_ ⟨rfl, by simp, room⟩
  rw [List.length_nil]
  omega

end

/-- The rounds of a settlement, and the answer to a last read if no write followed it. -/
structure Rounds (reference : Reference) (update : StatusUpdate) (attempts : Nat)
    (rounds : List Round) (unfollowed : Option (Except StoreError (Option Payment)))
    (talk : StoreTalk) (result : Except StoreError Settlement) : Prop where
  talk : talk = roundsTalk reference update rounds ++
    unfollowed.toList.map (⟨.find reference, ·⟩)
  reads : 1 ≤ rounds.length + unfollowed.toList.length ∧
    rounds.length + unfollowed.toList.length ≤ max 1 attempts
  judged : ∀ earlier round later, rounds = earlier ++ round :: later →
    (∀ before ∈ earlier, before.Conflicts) ∧
    round.Judged (earlier.length + 1 = max 1 attempts) fun outcome =>
      later = [] ∧ unfollowed = none ∧ result = outcome
  unread : ∀ error, unfollowed = some (.error error) → result = .error error
  absent : ∀ found, unfollowed = some (.ok found) → found = none ∧ result = .ok .missing

section

variable {reference : Reference} {update : StatusUpdate} {attempts : Nat} {lost : List Round}
  {before : StoreTalk}

theorem Lost.judged (held : Lost reference update attempts lost before) {earlier later : List Round}
    {round : Round} (within : lost = earlier ++ round :: later)
    {stops : Except StoreError Settlement → Prop} (goesOn : ∀ outcome, ¬ stops outcome) :
    (∀ before ∈ earlier, before.Conflicts) ∧
      round.Judged (earlier.length + 1 = max 1 attempts) stops := by
  have room := held.room
  subst within
  refine ⟨fun before member => held.conflicts before (by simp [member]), ?_⟩
  refine (held.conflicts round (by simp)).judged goesOn ?_
  rw [List.length_append, List.length_cons] at room
  omega

theorem Lost.rounds_of_read (held : Lost reference update attempts lost before)
    (answer : Except StoreError (Option Payment)) {result : Except StoreError Settlement}
    (unread : ∀ error, answer = .error error → result = .error error)
    (absent : ∀ found, answer = .ok found → found = none ∧ result = .ok .missing) :
    Rounds reference update attempts lost (some answer) (before ++ [⟨.find reference, answer⟩])
      result where
  talk := by rw [held.talk]; rfl
  reads := ⟨Nat.le_add_left .., held.room⟩
  judged := fun earlier round later within => held.judged within (by simp)
  unread := fun error same => unread error (Option.some.inj same)
  absent := fun found same => absent found (Option.some.inj same)

theorem Lost.rounds_of_write (held : Lost reference update attempts lost before) {round : Round}
    {result : Except StoreError Settlement}
    (judged : round.Judged (lost.length + 1 = max 1 attempts) (· = result)) :
    Rounds reference update attempts (lost ++ [round]) none (before ++ round.talk reference update)
      result where
  talk := by rw [held.talk, roundsTalk_concat]; simp
  reads := by
    have room := held.room
    simp only [List.length_append, List.length_singleton, Option.toList_none, List.length_nil]
    omega
  judged := by
    intro earlier other later within
    rcases List.eq_nil_or_concat later with rfl | ⟨others, last, rfl⟩
    · obtain ⟨rfl, same⟩ := List.append_inj' within rfl
      obtain rfl : round = other := (List.cons.inj same).1
      exact ⟨held.conflicts, judged.congr fun outcome => by simp [eq_comm]⟩
    · rw [List.concat_eq_append, ← List.cons_append, ← List.append_assoc] at within
      exact held.judged (List.append_inj' within rfl).1 (by simp)
  unread := by simp
  absent := by simp

theorem Ended.rounds {talk : StoreTalk} {result : Except StoreError Settlement}
    (ended : Ended reference update attempts talk result) :
    ∃ rounds unfollowed, Rounds reference update attempts rounds unfollowed talk result := by
  obtain ⟨lost, before, ending, rfl, held, ends⟩ := ended
  cases ends with
  | unread => exact ⟨lost, _, held.rounds_of_read _ (by simp) (by simp)⟩
  | absent => exact ⟨lost, _, held.rounds_of_read _ (by simp) (by simp)⟩
  | written judged => exact ⟨_, none, held.rounds_of_write judged⟩

end

/-- A settlement on a store that nobody else writes to: one read, then one update for the version of
the record that was read; `stamp` is what the update meets with. -/
structure Single (store : Store) (stamp : Stamp) (reference : Reference) (update : StatusUpdate)
    (talk : StoreTalk) (result : Except StoreError Settlement) (after : Store) : Prop where
  decided : result = .ok (undisturbed (store.find? reference) update stamp.now)
  stored : after = (undisturbed (store.find? reference) update stamp.now).commit store
  absent : store.find? reference = none → talk = [⟨.find reference, .ok none⟩]
  atomic : ∀ current, store.find? reference = some current → ∃ answer,
    store.act stamp (.update reference current.version update) = (answer, after) ∧
      talk = Round.talk reference update ⟨current, answer⟩

end Settlement

namespace Interleaving

open Settlement

namespace StoreAccess

variable {Action : Type} {Reply : Action → Type} {Choice σ : Type}
  {perform : Choice → (action : Action) → σ → Reply action × σ} (access : StoreAccess perform)
  (course : Course Reply Choice σ) (reference : Reference) (update : StatusUpdate)

theorem settled_of_absent (absent : access.stored course.moment.state reference = none) :
    access.settled course reference update =
      course.next perform (access.ask (.find reference)) := by
  rw [settled, absent]

theorem settled_of_stored {current : Payment}
    (present : access.stored course.moment.state reference = some current) :
    access.settled course reference update =
      (course.next perform (access.ask (.find reference))).next perform
        (access.ask (.update reference current.version update)) := by
  rw [settled, present]

end StoreAccess

theorem settle_single (store : Store) (ahead : Nat → Stamp) (reference : Reference)
    (update : StatusUpdate) (attempts : Nat) :
    let ended := alone Store.act (settle reference update attempts) (.start store ahead)
    Single store (ahead 1) reference update ended.2.talk ended.1 ended.2.moment.state := by
  let start : Course StoreAction.Reply Stamp Store := .start store ahead
  have ended := storeAccess.settle_alone start reference update attempts
  rw [within_storeAccess] at ended
  rw [ended]
  refine ⟨rfl, storeAccess.store_settled start reference update, ?_, ?_⟩
  · intro absent
    have read : start.reply Store.act (.find reference) = .ok none := congrArg Except.ok absent
    rw [storeAccess.settled_of_absent start reference update absent, talk_next]
    exact congrArg (fun reply => [(⟨.find reference, reply⟩ : Exchange StoreAction.Reply)]) read
  · intro current present
    have read : start.reply Store.act (.find reference) = .ok (some current) :=
      congrArg Except.ok present
    rw [storeAccess.settled_of_stored start reference update present]
    refine ⟨_, Prod.ext rfl rfl, ?_⟩
    rw [talk_next, talk_next]
    exact congrArg (fun reply => (⟨.find reference, reply⟩ : Exchange StoreAction.Reply) :: _) read

section

variable {Choice σ : Type} (perform : Choice → (action : StoreAction) → σ → action.Reply × σ)

/-- Whatever the store answers, a settlement gives up or decides within its attempts; when nobody
else writes, the first attempt decides it. -/
theorem settle_bounded (state : σ) (choices : Nat → Choice) (reference : Reference)
    (update : StatusUpdate) (attempts : Nat) :
    (let ended := alone perform (settle reference update attempts) (.start state choices)
      ∃ rounds unfollowed,
        Rounds reference update attempts rounds unfollowed ended.2.talk ended.1) ∧
    ∀ store ahead,
      let ended := alone Store.act (settle reference update attempts) (.start store ahead)
      Single store (ahead 1) reference update ended.2.talk ended.1 ended.2.moment.state := by
  refine ⟨?_, fun store ahead => settle_single store ahead reference update attempts⟩
  have silent : (Course.start state choices : Course StoreAction.Reply Choice σ).talk = [] := rfl
  have keeps := @settle_keeps reference update attempts _ silent
  exact keeps.alone.rounds

end

end Interleaving

end Payments
