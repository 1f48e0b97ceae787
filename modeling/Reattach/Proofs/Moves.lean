import Reattach.Operation

/-!
# Runs as moves of the registry

Those who follow a registry never change it.  What a run does to the registry is
therefore a list of moves: operations that are done at once, the clock being set, and
timers running out one at a time.  `Watch.exists_follow_run` says so.  Statements about
all lists of moves cover more than all runs: they leave open when the clock moves on, how
far, and which of the timers that are due runs out first.
-/

namespace Reattach

/-- Whether an operation is done at once and to the registry alone. -/
def Operation.isInstant : Operation → Bool
  | .wait _ => false
  | .await _ _ _ => false
  | .cancel _ => false
  | _ => true

/-- The terminus whose life an operation changes without the registry being told. -/
def Operation.direct? : Operation → Option TerminusId
  | .associate terminus _ => some terminus
  | .suspendTerminus terminus => some terminus
  | .expireTerminus terminus _ => some terminus
  | _ => none

/-- Whether an operation is there to change records: those of deliveries and calls to the
store. -/
def Operation.writesRecords : Operation → Bool
  | .noteDelivery _ _ _ => true
  | .settleDelivery _ _ => true
  | .applyPlan _ => true
  | .callStore _ => true
  | _ => false

/-- One thing that happens to a registry. -/
inductive Move where
  /-- An operation that is done at once; any other changes nothing. -/
  | act (operation : Operation)
  /-- The clock is set. -/
  | pass (time : Nat)
  /-- The timer at a place in the list runs out, if it is due. -/
  | fire (index : Nat)

namespace Registry

/-- The registry after an operation that is done at once. -/
def after (registry : Registry) (operation : Operation) : Registry :=
  if operation.isInstant then
    (Watch.perform { registry } operation).2.registry
  else
    registry

/-- The registry without the timer at an index. -/
def dropTimer (registry : Registry) (index : Nat) : Registry :=
  { registry with timers := registry.timers.eraseIdx index }

@[simp] theorem dropTimer_timers (registry : Registry) (index : Nat) :
    (registry.dropTimer index).timers = registry.timers.eraseIdx index := rfl

/-- Let the timer at an index run out, if it is due. -/
def fire (registry : Registry) (index : Nat) : Registry :=
  match registry.timers[index]? with
  | none => registry
  | some timer =>
      if timer.due ≤ registry.now then
        ((registry.dropTimer index).expireEpoch timer.identifier (some timer.epoch)).2
      else
        registry

/-- The registry after one move. -/
def move (registry : Registry) : Move → Registry
  | .act operation => registry.after operation
  | .pass time => { registry with now := time }
  | .fire index => registry.fire index

/-- The registry after moves made one after the other. -/
def follow (registry : Registry) (moves : List Move) : Registry := moves.foldl move registry

@[simp] theorem follow_nil (registry : Registry) : registry.follow [] = registry := rfl

@[simp] theorem follow_cons (registry : Registry) (first : Move) (rest : List Move) :
    registry.follow (first :: rest) = (registry.move first).follow rest := rfl

@[simp] theorem follow_append (registry : Registry) (first second : List Move) :
    registry.follow (first ++ second) = (registry.follow first).follow second :=
  List.foldl_append

/-- That a terminus is in the table under some identifier. -/
def Holds (registry : Registry) (id : TerminusId) : Prop :=
  ∃ key entry, registry.entries.get? key = some entry ∧ entry.terminus = id

end Registry

/-- That a move changes the life of a terminus behind the registry's back only if the
terminus is not in the table. -/
def Move.SparesTable (registry : Registry) : Move → Prop
  | .act operation => ∀ id ∈ operation.direct?, ¬registry.Holds id
  | .pass _ => True
  | .fire _ => True

/-- That all of a list of moves spare the table of their time. -/
def Registry.Sparing (registry : Registry) : List Move → Prop
  | [] => True
  | first :: rest => first.SparesTable registry ∧ (registry.move first).Sparing rest

namespace Registry

/-- Moves that go behind nobody's back spare the table. -/
theorem sparing_of_indirect {registry : Registry} {moves : List Move}
    (indirect : ∀ operation, Move.act operation ∈ moves → operation.direct? = none) :
    registry.Sparing moves := by
  induction moves generalizing registry with
  | nil => trivial
  | cons first rest ih =>
      constructor
      · cases first with
        | act operation => simp [Move.SparesTable, indirect operation List.mem_cons_self]
        | pass _ | fire _ => trivial
      · apply ih
        intro operation member
        exact indirect operation (List.mem_cons_of_mem _ member)

theorem Sparing.append {registry : Registry} {first second : List Move}
    (sparing : registry.Sparing first) (sparingThen : (registry.follow first).Sparing second) :
    registry.Sparing (first ++ second) := by
  induction first generalizing registry with
  | nil => exact sparingThen
  | cons move rest ih => exact ⟨sparing.1, ih sparing.2 sparingThen⟩

theorem Sparing.of_append {registry : Registry} {first second : List Move}
    (sparing : registry.Sparing (first ++ second)) :
    registry.Sparing first ∧ (registry.follow first).Sparing second := by
  induction first generalizing registry with
  | nil => exact ⟨trivial, sparing⟩
  | cons move rest ih =>
      obtain ⟨spares, sparingRest⟩ := sparing
      obtain ⟨before, behind⟩ := ih sparingRest
      exact ⟨⟨spares, before⟩, behind⟩

end Registry

/-! ## Timers, one at a time -/

namespace Registry

@[simp] theorem dropRecords_now (registry : Registry) (identifier : Identifier) :
    (registry.dropRecords identifier).now = registry.now := by
  unfold dropRecords
  split <;> rfl

theorem dropRecords_withTimers (registry : Registry) (timers : List Timer)
    (identifier : Identifier) :
    { registry with timers }.dropRecords identifier =
      { registry.dropRecords identifier with timers } := by
  simp only [dropRecords]
  split <;> rfl

theorem expireTerminus_withTimers (registry : Registry) (timers : List Timer)
    (id : TerminusId) (epoch : Option Nat) :
    ({ registry with timers }.expireTerminus id epoch).2 =
      { (registry.expireTerminus id epoch).2 with timers } := by
  simp only [expireTerminus, moveTerminus]
  split
  · rfl
  · split <;> rfl

@[simp] theorem expireTerminus_now (registry : Registry) (id : TerminusId)
    (epoch : Option Nat) : (registry.expireTerminus id epoch).2.now = registry.now := by
  simp only [expireTerminus, moveTerminus]
  split
  · rfl
  · split <;> rfl

/-- Expiry neither looks at the timers nor touches them. -/
theorem expireEpoch_withTimers (registry : Registry) (timers : List Timer)
    (identifier : Identifier) (epoch : Option Nat) :
    ({ registry with timers }.expireEpoch identifier epoch).2 =
      { (registry.expireEpoch identifier epoch).2 with timers } := by
  simp only [expireEpoch]
  split
  · rfl
  · split
    · split
      · rfl
      · rw [← dropRecords_withTimers, ← expireTerminus_withTimers]
    · rfl

theorem expireEpoch_timers (registry : Registry) (identifier : Identifier)
    (epoch : Option Nat) : (registry.expireEpoch identifier epoch).2.timers = registry.timers := by
  have unchanged :=
    congrArg timers (registry.expireEpoch_withTimers registry.timers identifier epoch)
  exact unchanged

@[simp] theorem expireEpoch_now (registry : Registry) (identifier : Identifier)
    (epoch : Option Nat) : (registry.expireEpoch identifier epoch).2.now = registry.now := by
  simp only [expireEpoch]
  split
  · rfl
  · split
    · split
      · rfl
      · simp
    · rfl

theorem fire_behind {registry : Registry} {passed waiting : List Timer} {timer : Timer}
    (isDue : timer.due ≤ registry.now) :
    { registry with timers := passed ++ timer :: waiting }.fire passed.length =
      { (registry.expireEpoch timer.identifier (some timer.epoch)).2 with
        timers := passed ++ waiting } := by
  simp only [fire, List.getElem?_append_right (Nat.le_refl _), Nat.sub_self,
    List.getElem?_cons_zero, isDue, if_true, dropTimer]
  rw [List.eraseIdx_append_of_length_le (Nat.le_refl _), Nat.sub_self, List.eraseIdx_cons_zero,
    expireEpoch_withTimers]

/-- Timers run out one at a time have the effect of running those that are due at once.
The induction is on the timers that are still to be looked at; those that were passed over are
not due. -/
theorem exists_fires (waiting : List Timer) (registry : Registry) (passed : List Timer) :
    ∃ moves : List Move, (∀ move ∈ moves, ∃ index, move = .fire index) ∧
      { registry with timers := passed ++ waiting }.follow moves =
        (waiting.filter fun timer => timer.due ≤ registry.now).foldl
          (fun registry timer =>
            (registry.expireEpoch timer.identifier (some timer.epoch)).2)
          { registry with
            timers := passed ++ waiting.filter fun timer => !(timer.due ≤ registry.now) } := by
  induction waiting generalizing registry passed with
  | nil => exact ⟨[], by simp, by simp⟩
  | cons timer rest ih =>
      by_cases isDue : timer.due ≤ registry.now
      · let expired := (registry.expireEpoch timer.identifier (some timer.epoch)).2
        obtain ⟨moves, areFires, followed⟩ := ih expired passed
        have sameNow : expired.now = registry.now := expireEpoch_now _ _ _
        refine ⟨.fire passed.length :: moves, ?_, ?_⟩
        · intro move member
          rcases List.mem_cons.1 member with same | inRest
          · exact ⟨_, same⟩
          · exact areFires move inRest
        · rw [follow_cons]
          change ({ registry with timers := passed ++ timer :: rest }.fire passed.length).follow
            moves = _
          rw [fire_behind isDue, followed, sameNow]
          simp only [isDue, decide_true, List.filter_cons, if_true, List.foldl_cons,
            Bool.not_true, Bool.false_eq_true, if_false, expireEpoch_withTimers, expired,
            expireEpoch_now]
      · obtain ⟨moves, areFires, followed⟩ := ih registry (passed ++ [timer])
        refine ⟨moves, areFires, ?_⟩
        simpa [isDue, List.filter_cons, List.append_assoc] using followed

/-- What running the due timers does, as moves. -/
theorem exists_follow_runTimers (registry : Registry) :
    ∃ moves : List Move, (∀ move ∈ moves, ∃ index, move = .fire index) ∧
      registry.follow moves = registry.runTimers := by
  obtain ⟨moves, areFires, followed⟩ := exists_fires registry.timers registry []
  refine ⟨moves, areFires, ?_⟩
  rw [List.nil_append] at followed
  rw [followed, runTimers, List.partition_eq_filter_filter]
  rfl

end Registry

/-! ## Runs -/

/-- That a move is made by time alone. -/
def Move.IsIdle : Move → Prop
  | .act _ => False
  | .pass _ => True
  | .fire _ => True

namespace Watch

/-- An operation that is done at once does the same whoever follows the registry. -/
theorem perform_registry (watch : Watch) {operation : Operation}
    (isInstant : operation.isInstant = true) :
    (watch.perform operation).2.registry = watch.registry.after operation := by
  rw [Registry.after, if_pos isInstant]
  cases operation with
  | wait _ | await _ _ _ | cancel _ => simp [Operation.isInstant] at isInstant
  | failOnSteal id _ =>
      cases known : watch.registry.links[id]? <;>
        simp [perform, onLink, known, withRegistry]
  | noteDelivery id _ _ | settleDelivery id _ | planRecovery id _ =>
      cases known : watch.registry.termini[id]? <;>
        simp [perform, onTerminus, known, withStorage, withRegistry]
  | _ => rfl

theorem exists_follow_catchUp (watch : Watch) :
    ∃ moves : List Move, (∀ move ∈ moves, move.IsIdle) ∧
      watch.registry.follow moves = watch.catchUp.registry := by
  obtain ⟨moves, areFires, followed⟩ := watch.registry.exists_follow_runTimers
  refine ⟨moves, ?_, followed⟩
  intro move member
  obtain ⟨index, rfl⟩ := areFires move member
  trivial

/-- Going from one instant to the next is a list of idle moves. -/
theorem exists_follow_moveTo (instants : List Nat) (watch : Watch) :
    ∃ moves : List Move, (∀ move ∈ moves, move.IsIdle) ∧
      watch.registry.follow moves = (instants.foldl moveTo watch).registry := by
  induction instants generalizing watch with
  | nil => exact ⟨[], by simp, rfl⟩
  | cons time later ih =>
      obtain ⟨fires, firesIdle, fired⟩ :=
        exists_follow_catchUp { watch with registry := { watch.registry with now := time } }
      obtain ⟨rest, restIdle, followed⟩ := ih (watch.moveTo time)
      refine ⟨.pass time :: (fires ++ rest), ?_, ?_⟩
      · intro move member
        rcases List.mem_cons.1 member with rfl | member
        · trivial
        · rcases List.mem_append.1 member with inFires | inRest
          · exact firesIdle move inFires
          · exact restIdle move inRest
      · rw [Registry.follow_cons, Registry.follow_append, List.foldl_cons, ← followed]
        exact congrArg (·.follow rest) fired

/-- Letting time pass is a list of idle moves, wherever the clock stops. -/
theorem exists_follow_sleepPassing (watch : Watch) (passesOver : Nat → Nat → Bool)
    (millis : Nat) :
    ∃ moves : List Move, (∀ move ∈ moves, move.IsIdle) ∧
      watch.registry.follow moves = (watch.sleepPassing passesOver millis).registry := by
  let target := watch.registry.wakeTime millis
  let instants := stops passesOver watch.registry.now (watch.catchUp.instantsBefore target)
  obtain ⟨first, firstIdle, caughtUp⟩ := watch.exists_follow_catchUp
  obtain ⟨between, betweenIdle, moved⟩ := exists_follow_moveTo instants watch.catchUp
  refine ⟨first ++ between ++ [.pass target], ?_, ?_⟩
  · intro move member
    simp only [List.mem_append, List.mem_singleton] at member
    rcases member with (inFirst | inBetween) | rfl
    · exact firstIdle move inFirst
    · exact betweenIdle move inBetween
    · trivial
  · rw [Registry.follow_append, Registry.follow_append, caughtUp, moved]
    rfl

theorem exists_follow_wait (watch : Watch) (millis : Nat) :
    ∃ moves : List Move, (∀ move ∈ moves, move.IsIdle) ∧
      watch.registry.follow moves = (watch.sleep millis).catchUp.registry := by
  obtain ⟨first, firstIdle, slept⟩ := watch.exists_follow_sleepPassing (fun _ _ => false) millis
  obtain ⟨last, lastIdle, done⟩ := (watch.sleep millis).exists_follow_catchUp
  refine ⟨first ++ last, fun move member => ?_, ?_⟩
  · exact (List.mem_append.1 member).elim (firstIdle move) (lastIdle move)
  · rw [Registry.follow_append, slept]
    exact done

/-- One operation is a list of moves: itself if it is done at once, and idle moves
otherwise. -/
theorem exists_follow_step (watch : Watch) (operation : Operation) :
    ∃ moves : List Move, (∀ move ∈ moves, move = .act operation ∨ move.IsIdle) ∧
      watch.registry.follow moves = (watch.step operation).2.registry := by
  by_cases isInstant : operation.isInstant = true
  · refine ⟨[.act operation], by simp, ?_⟩
    exact (watch.perform_registry isInstant).symm
  · cases operation with
    | wait millis =>
        obtain ⟨moves, areIdle, followed⟩ := watch.exists_follow_wait millis
        exact ⟨moves, fun move member => .inr (areIdle move member), followed⟩
    | await _ _ _ | cancel _ => exact ⟨[], by simp, rfl⟩
    | _ => exact absurd rfl isInstant

/-- What a run does to the registry is a list of moves, and all but the idle ones are the
operations of the run. -/
theorem exists_follow_run (watch : Watch) (operations : List Operation) :
    ∃ moves : List Move,
      (∀ move ∈ moves, (∃ operation ∈ operations, move = .act operation) ∨ move.IsIdle) ∧
      watch.registry.follow moves = (watch.run operations).2.registry := by
  induction operations generalizing watch with
  | nil => exact ⟨[], by simp, rfl⟩
  | cons operation rest ih =>
      obtain ⟨first, firstMoves, stepped⟩ := watch.exists_follow_step operation
      obtain ⟨later, laterMoves, followed⟩ := ih (watch.step operation).2
      refine ⟨first ++ later, ?_, ?_⟩
      · intro move member
        rcases List.mem_append.1 member with inFirst | inLater
        · rcases firstMoves move inFirst with rfl | isIdle
          · exact .inl ⟨operation, List.mem_cons_self, rfl⟩
          · exact .inr isIdle
        · rcases laterMoves move inLater with ⟨other, inRest, same⟩ | isIdle
          · exact .inl ⟨other, List.mem_cons_of_mem _ inRest, same⟩
          · exact .inr isIdle
      · rw [Registry.follow_append, stepped, followed]
        rfl

/-- That all operations of a run spare the table of their time. -/
def Sparing (watch : Watch) : List Operation → Prop
  | [] => True
  | first :: rest =>
      (∀ id ∈ first.direct?, ¬watch.registry.Holds id) ∧ (watch.step first).2.Sparing rest

theorem exists_sparing_step (watch : Watch) {operation : Operation}
    (spares : ∀ id ∈ operation.direct?, ¬watch.registry.Holds id) :
    ∃ moves, watch.registry.Sparing moves ∧
      watch.registry.follow moves = (watch.step operation).2.registry := by
  by_cases isInstant : operation.isInstant = true
  · exact ⟨[.act operation], ⟨spares, trivial⟩, (watch.perform_registry isInstant).symm⟩
  · obtain ⟨moves, areMoves, followed⟩ := watch.exists_follow_step operation
    refine ⟨moves, ?_, followed⟩
    apply Registry.sparing_of_indirect
    intro other member
    rcases areMoves _ member with same | isIdle
    · cases same
      cases operation with
      | wait _ | await _ _ _ | cancel _ => rfl
      | _ => exact absurd rfl isInstant
    · cases isIdle

/-- A run that spares the table is a list of moves that does. -/
theorem exists_sparing_run (watch : Watch) {operations : List Operation}
    (sparing : watch.Sparing operations) :
    ∃ moves, watch.registry.Sparing moves ∧
      watch.registry.follow moves = (watch.run operations).2.registry := by
  induction operations generalizing watch with
  | nil => exact ⟨[], trivial, rfl⟩
  | cons operation rest ih =>
      obtain ⟨first, firstSparing, stepped⟩ := watch.exists_sparing_step sparing.1
      obtain ⟨later, laterSparing, followed⟩ := ih (watch.step operation).2 sparing.2
      rw [← stepped] at laterSparing
      refine ⟨first ++ later, firstSparing.append laterSparing, ?_⟩
      rw [Registry.follow_append, stepped, followed]
      rfl

end Watch

/-! ## A small registry to try things on -/

namespace Sample

def identifier : Identifier := ⟨"telemetry", .sender, none, by decide⟩

/-- Settings that ask for an expiry policy and a timeout in seconds. -/
def settings (policy : String) (timeoutSecs : UInt32) : Settings :=
  { name := "telemetry", role := .sender
    source := { expiryPolicy := some policy, timeoutSecs } }

def link (policy : String) (timeoutSecs : UInt32) : Link :=
  { identifier, settings := settings policy timeoutSecs, scope := .ofChannel 1 1 }

def registry : Registry := .create default { store := .memory {} }

end Sample

end Reattach
