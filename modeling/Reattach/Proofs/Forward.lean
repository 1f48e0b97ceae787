import Reattach.Proofs.Operations
import Reattach.Proofs.Rounds

/-!
# Deliveries move forward

Three places write records: a terminus that notes a delivery, a recovery that marks one as
sent again, and the store, which lets a record be replaced only by one that follows from it.
All else that is done takes records out.  So as long as a record is there, its state only
moves on, and its mark stays.
-/

namespace Reattach

namespace State

theorem canAdvanceTo_iff_of_ne {state next : State} (apart : state ≠ next) :
    state.canAdvanceTo next = true ↔ state.isTerminal = false ∧
      (state.isTransactional = true → next.isTransactional = true) ∧
      (state.rank < next.rank ∨ state = received ∧ next = transactionalPending) := by
  rw [canAdvanceTo, if_neg apart]
  cases state.isTerminal <;> cases state.isTransactional <;> cases next.isTransactional <;> simp

/-- A state that moves on does not fall back. -/
theorem rank_le_of_canAdvanceTo {state next : State}
    (advances : state.canAdvanceTo next = true) : state.rank ≤ next.rank := by
  by_cases same : state = next
  · exact same ▸ Nat.le_refl _
  · obtain ⟨_, _, further | ⟨rfl, rfl⟩⟩ := (canAdvanceTo_iff_of_ne same).1 advances
    · exact Nat.le_of_lt further
    · exact Nat.le_refl _

theorem canAdvanceTo_trans {first second third : State}
    (once : first.canAdvanceTo second = true) (twice : second.canAdvanceTo third = true) :
    first.canAdvanceTo third = true := by
  by_cases stays : first = second
  · exact stays ▸ twice
  · by_cases staysThen : second = third
    · exact staysThen ▸ once
    · obtain ⟨undecided, inside, further⟩ := (canAdvanceTo_iff_of_ne stays).1 once
      obtain ⟨_, insideThen, furtherThen⟩ := (canAdvanceTo_iff_of_ne staysThen).1 twice
      have isFurther : first.rank < third.rank := by
        rcases further with further | ⟨rfl, rfl⟩
        · exact Nat.lt_of_lt_of_le further (rank_le_of_canAdvanceTo twice)
        · -- What is pending is not received, so it moves on to a higher rank.
          rcases furtherThen with furtherThen | ⟨isReceived, _⟩
          · exact furtherThen
          · cases isReceived
      have apart : first ≠ third := by
        rintro rfl
        exact Nat.lt_irrefl _ isFurther
      exact (canAdvanceTo_iff_of_ne apart).2
        ⟨undecided, fun isInside => insideThen (inside isInside), .inl isFurther⟩

end State

/-- That a record may have become another one: its state has moved on, if at all, and its mark
has stayed. -/
structure Record.Precedes (record later : Record) : Prop where
  advances : record.state.canAdvanceTo later.state = true
  marked : record.resumed = true → later.resumed = true

namespace Record.Precedes

theorem refl (record : Record) : record.Precedes record :=
  ⟨State.canAdvanceTo_self _, id⟩

theorem trans {first second third : Record} (once : first.Precedes second)
    (twice : second.Precedes third) : first.Precedes third :=
  ⟨State.canAdvanceTo_trans once.advances twice.advances, twice.marked ∘ once.marked⟩

end Record.Precedes

/-! ## What becomes of a ledger -/

namespace Ledger

/-- That the records which are in two ledgers have moved on, if at all. -/
def Advances (before after : Ledger) : Prop :=
  ∀ key record later, before.get? key = some record → after.get? key = some later →
    record.Precedes later

/-- What is left of a ledger if records go or are marked, and nothing else happens. -/
def Dwindles (before after : Ledger) : Prop :=
  ∀ key later, after.get? key = some later →
    ∃ record, before.get? key = some record ∧
      (later = record ∨ later = { record with resumed := true })

theorem Dwindles.refl (ledger : Ledger) : ledger.Dwindles ledger :=
  fun _ later found => ⟨later, found, .inl rfl⟩

theorem Dwindles.trans {first second third : Ledger} (once : first.Dwindles second)
    (twice : second.Dwindles third) : first.Dwindles third := by
  intro key last found
  obtain ⟨between, isBetween, isLast⟩ := twice key last found
  obtain ⟨record, wasFound, rfl | rfl⟩ := once key between isBetween
  · exact ⟨between, wasFound, isLast⟩
  · refine ⟨record, wasFound, .inr ?_⟩
    rcases isLast with rfl | rfl
    · rfl
    · rfl

theorem Dwindles.advances {before after : Ledger} (dwindles : before.Dwindles after) :
    before.Advances after := by
  intro key record later wasFound found
  obtain ⟨same, isSame, isLeft⟩ := dwindles key later found
  rw [wasFound, Option.some.injEq] at isSame
  subst isSame
  rcases isLeft with rfl | rfl
  · exact .refl _
  · exact ⟨State.canAdvanceTo_self _, fun _ => rfl⟩

theorem dwindles_erase (ledger : Ledger) (key : DeliveryKey) :
    ledger.Dwindles (ledger.erase key) :=
  fun _ later found => ⟨later, (SortedMap.get?_erase_eq_some_iff.1 found).2, .inl rfl⟩

theorem dwindles_without (ledger : Ledger) (terminus : Identifier.Key) :
    ledger.Dwindles (ledger.without terminus) := by
  intro key later found
  rw [get?_without] at found
  split at found
  · cases found
  · exact ⟨later, found, .inl rfl⟩

theorem dwindles_of_leaves {before after : Ledger} {changed : DeliveryKey} {step : RecoveryStep}
    (left : ∀ key, after.get? key =
      if key = changed then step.leaves (before.get? key) else before.get? key) :
    before.Dwindles after := by
  intro key later found
  rw [left, RecoveryStep.leaves] at found
  split at found
  · split at found
    · cases found
    · split at found
      · obtain ⟨record, wasFound, rfl⟩ := Option.map_eq_some_iff.1 found
        exact ⟨record, wasFound, .inr rfl⟩
      · exact ⟨later, found, .inl rfl⟩
  · exact ⟨later, found, .inl rfl⟩

/-- A record that follows from the one in its place moves the ledger on. -/
theorem advances_insert {ledger : Ledger} {key : DeliveryKey} {record : Record}
    (follows : ∀ existing, ledger.get? key = some existing → existing.Precedes record) :
    ledger.Advances (ledger.insert key record) := by
  intro other existing later wasFound found
  rcases SortedMap.get?_insert_eq_some_iff.1 found with ⟨rfl, rfl⟩ | ⟨_, isSame⟩
  · exact follows existing wasFound
  · rw [wasFound, Option.some.injEq] at isSame
    exact isSame ▸ .refl _

end Ledger

/-! ## What becomes of a store -/

namespace Storage

/-- What the store has on record for a delivery, whatever outages there are. -/
def HasOnRecord (storage : Storage) (identifier : Identifier) (tag : Tag) (record : Record) :
    Prop :=
  storage.store.retrieve identifier tag = .ok (some record)

/-- That records have gone or been marked, and nothing else has happened to them. -/
def Dwindles (storage left : Storage) : Prop :=
  ∀ ledger, storage.store.Represents ledger →
    ∃ later, left.store.Represents later ∧ ledger.Dwindles later

variable {storage left between : Storage} {identifier : Identifier} {tag : Tag}
variable {ledger : Ledger} {record : Record} {error : StoreError}

theorem hasOnRecord_iff (represents : storage.store.Represents ledger) :
    storage.HasOnRecord identifier tag record ↔
      ledger.get? ⟨identifier.key, tag⟩ = some record := by
  rw [HasOnRecord, represents.retrieve, Except.ok.injEq]

theorem Dwindles.of_store (same : left.store = storage.store) : storage.Dwindles left :=
  fun ledger represents => ⟨ledger, same ▸ represents, .refl ledger⟩

theorem Dwindles.trans (once : storage.Dwindles between) (twice : between.Dwindles left) :
    storage.Dwindles left := by
  intro ledger represents
  obtain ⟨middle, keeps, dwindles⟩ := once ledger represents
  obtain ⟨later, keepsThen, dwindlesThen⟩ := twice middle keeps
  exact ⟨later, keepsThen, dwindles.trans dwindlesThen⟩

theorem dwindles_remove (storage : Storage) (identifier : Identifier) (tag : Tag) :
    storage.Dwindles (storage.remove identifier tag).2 := by
  simp only [remove]
  split
  · exact .of_store rfl
  · exact fun ledger represents =>
      ⟨_, (represents.remove identifier tag).2, ledger.dwindles_erase _⟩

theorem dwindles_removeAll (storage : Storage) (identifier : Identifier) :
    storage.Dwindles (storage.removeAll identifier).2 := by
  simp only [removeAll]
  split
  · exact .of_store rfl
  · exact fun ledger represents =>
      ⟨_, (represents.removeAll identifier).2, ledger.dwindles_without _⟩

/-- A call that records no delivery takes records out at most. -/
theorem dwindles_call {call : StoreCall} (recordsNone : ∀ other record, call ≠ .save other record) :
    storage.Dwindles (storage.call call).2 := by
  cases call with
  | save other record => exact absurd rfl (recordsNone other record)
  | retrieve other tag => exact .of_store (storage.retrieve_store other tag)
  | retrieveAll other => exact .of_store (storage.retrieveAll_store other)
  | remove other tag => exact storage.dwindles_remove other tag
  | removeAll other => exact storage.dwindles_removeAll other

/-- A step of a plan takes a record out or marks it at most, also if it fails. -/
theorem dwindles_carryOut (storage : Storage) (identifier : Identifier) (step : RecoveryStep) :
    storage.Dwindles (storage.carryOut identifier step).2 := by
  rcases outcome : storage.carryOut identifier step with ⟨error | _, left⟩
  · exact .of_store (carryOut_error outcome)
  · intro ledger represents
    obtain ⟨later, keeps, isLeft⟩ := carryOut_leaves represents outcome
    exact ⟨later, keeps, Ledger.dwindles_of_leaves isLeft⟩

/-- So does any plan, whatever it was made from and however far it is carried out. -/
theorem dwindles_carryOutAll (storage : Storage) (identifier : Identifier)
    (steps : List RecoveryStep) :
    storage.Dwindles (storage.carryOutAll identifier steps).2 := by
  induction steps generalizing storage with
  | nil => exact .of_store rfl
  | cons step rest ih =>
      have first := storage.dwindles_carryOut identifier step
      simp only [carryOutAll]
      split
      · next stepFails => rwa [stepFails] at first
      · next after stepDone =>
          rw [stepDone] at first
          have others := ih after
          split
          · next restFails =>
              rw [restFails] at others
              exact first.trans others
          · next restDone =>
              rw [restDone] at others
              exact first.trans others

/-! ### Noting a delivery -/

/-- Saving a record that follows from the one in its place moves the records on, also if it
fails. -/
theorem save_advances (represents : storage.store.Represents ledger)
    (follows : ∀ existing, ledger.get? ⟨identifier.key, record.tag⟩ = some existing →
      existing.Precedes record) :
    ∃ later, (storage.save identifier record).2.store.Represents later ∧
      ledger.Advances later := by
  rcases outcome : storage.save identifier record with ⟨error | _, left⟩
  · have stays := store_save_of_error (congrArg Prod.fst outcome)
    rw [outcome] at stays
    exact ⟨ledger, stays ▸ represents, (Ledger.Dwindles.refl ledger).advances⟩
  · exact ⟨_, represents.of_save (save_ok outcome), Ledger.advances_insert follows⟩

theorem noteDelivery_advances (represents : storage.store.Represents ledger)
    (identifier : Identifier) (tag : Tag) (state : State) :
    ∃ later, (storage.noteDelivery identifier tag state).2.store.Represents later ∧
      ledger.Advances later := by
  have sameStore := storage.retrieve_store identifier tag
  simp only [noteDelivery]
  split <;> rename_i retrieved <;> rw [retrieved] at sameStore <;> rw [← sameStore] at represents
  · exact ⟨ledger, represents, (Ledger.Dwindles.refl ledger).advances⟩
  · have unknown := retrieve_ok retrieved
    rw [← sameStore, represents.retrieve, Except.ok.injEq] at unknown
    apply save_advances represents
    intro existing found
    rw [unknown] at found
    cases found
  · next record after =>
      have known := retrieve_ok retrieved
      rw [← sameStore, represents.retrieve, Except.ok.injEq] at known
      split
      · exact ⟨ledger, represents, (Ledger.Dwindles.refl ledger).advances⟩
      · next moved advanced =>
          obtain ⟨can, rfl⟩ := Record.advance_eq_ok_iff.1 advanced
          obtain rfl : record.tag = tag := represents.filed _ _ known
          apply save_advances represents
          intro existing found
          rw [known, Option.some.injEq] at found
          exact found ▸ ⟨can, id⟩

/-! ### Calls that fail -/

/-- A call that fails leaves the store as it is. -/
theorem store_call_of_error {call : StoreCall}
    (failed : storage.call call = (.error error, left)) : left.store = storage.store := by
  cases call with
  | save identifier record =>
      rcases outcome : storage.save identifier record with ⟨error | _, after⟩
      · have stays := store_save_of_error (congrArg Prod.fst outcome)
        rw [outcome] at stays
        simp only [call, outcome, Prod.map_apply, id, Prod.mk.injEq] at failed
        exact failed.2 ▸ stays
      · simp [call, outcome, Except.map] at failed
  | retrieve identifier tag =>
      have stays := storage.retrieve_store identifier tag
      exact (congrArg (·.2.store) failed).symm.trans stays
  | retrieveAll identifier =>
      have stays := storage.retrieveAll_store identifier
      exact (congrArg (·.2.store) failed).symm.trans stays
  | remove identifier tag =>
      rcases outcome : storage.remove identifier tag with ⟨error | _, after⟩
      · simp only [call, outcome, Prod.map_apply, id, Prod.mk.injEq] at failed
        exact failed.2 ▸ remove_error outcome
      · simp [call, outcome, Except.map] at failed
  | removeAll identifier =>
      simp only [call, removeAll] at failed
      split at failed
      · simp only [Prod.map_apply, id, Prod.mk.injEq] at failed
        rw [← failed.2]
      · simp [Except.map] at failed

/-- So does noting a delivery that is refused, be it by the record or by the store. -/
theorem store_noteDelivery_of_error {state : State}
    (failed : storage.noteDelivery identifier tag state = (.error error, left)) :
    left.store = storage.store := by
  have sameStore := storage.retrieve_store identifier tag
  have saves {after : Storage} {record : Record} (same : after.store = storage.store)
      (saveFails : after.save identifier record = (.error error, left)) :
      left.store = storage.store := by
    have stays := store_save_of_error (congrArg Prod.fst saveFails)
    rw [saveFails] at stays
    exact stays.trans same
  simp only [noteDelivery] at failed
  split at failed <;> rename_i retrieved <;> rw [retrieved] at sameStore
  · cases failed
    exact sameStore
  · exact saves sameStore failed
  · split at failed
    · cases failed
      exact sameStore
    · exact saves sameStore failed

/-- A plan that fails has failed at one of its steps, and what was on record for the delivery
of that step still is. -/
theorem hasOnRecord_of_applyPlan_error {before ready : Storage} {mode : SettleMode}
    {theirs : Unsettled} {plan : RecoveryPlan} (represents : storage.store.Represents ledger)
    (planned : before.planRecovery identifier mode theirs = (.ok plan, ready))
    (fails : storage.applyPlan plan = (.error error, left)) :
    ∃ failing ∈ plan.steps, ∃ reached : Storage,
      reached.carryOut identifier failing = (.error error, left) ∧
        ∀ record, left.HasOnRecord identifier failing.tag record ↔
          storage.HasOnRecord identifier failing.tag record := by
  obtain ⟨_, records, _, rfl⟩ := planRecovery_eq_ok planned
  obtain ⟨done, failing, rest, reached, divided, isDone, stepFails⟩ := carryOutAll_eq_error fails
  refine ⟨failing, divided ▸ by simp, reached, stepFails, fun record => ?_⟩
  rw [RecoveryPlan.steps_ofMaps] at divided
  obtain ⟨doneTags, others, isDivided, rfl, isRest⟩ := List.map_eq_append_iff.1 divided
  obtain ⟨tag, restTags, rfl, rfl, _⟩ := List.map_eq_cons_iff.1 isRest
  -- Each delivery has one step, so the steps before are for other deliveries.
  have distinct := nodup_tagsOfEither records.unsettled theirs
  rw [isDivided] at distinct
  obtain ⟨distinctDone, _, apart⟩ := List.nodup_append.1 distinct
  have unlisted : tag ∉ doneTags := fun member => apart tag member tag (by simp) rfl
  obtain ⟨later, keeps, isLeft⟩ :=
    carryOutAll_leaves distinctDone (fun _ => rfl) represents isDone
  rw [← carryOut_error stepFails] at keeps
  rw [hasOnRecord_iff keeps, hasOnRecord_iff represents, isLeft, if_neg (unlisted ·.2)]

end Storage

/-! ## Runs -/

/-- That a move saves no record past the termini. -/
def Move.SavesThroughTermini : Move → Prop
  | .act (.callStore (.save _ _)) => False
  | _ => True

namespace Registry

variable {operation : Operation} {origin registry later : Registry}
variable {identifier : Identifier} {tag : Tag} {ledger : Ledger}

/-- That a delivery has a record before each of a list of moves and after the last. -/
def KeepsRecord (registry : Registry) (identifier : Identifier) (tag : Tag) : List Move → Prop
  | [] => ∃ record, registry.storage.HasOnRecord identifier tag record
  | first :: rest => (∃ record, registry.storage.HasOnRecord identifier tag record) ∧
      (registry.move first).KeepsRecord identifier tag rest

theorem Changes.dwindles (isReading : operation.writesRecords = false)
    (changes : Changes operation origin registry later) :
    registry.storage.Dwindles later.storage := by
  induction changes with
  | refl => exact .of_store rfl
  | tail _ last ih =>
      refine ih.trans ?_
      cases last with
      | links | create | refresh | direct | enter | reenter | refuse | suspend | setTimer | seed
      | remove => exact .of_store rfl
      | store kept =>
          rcases kept with writes | same
          · rw [isReading] at writes
            cases writes
          · exact .of_store same
      | purge other | expire other => exact Storage.dwindles_removeAll _ other

/-- A move takes records out, marks them or moves them on. -/
theorem Sound.move_advances (sound : registry.Sound)
    (represents : registry.storage.store.Represents ledger) {move : Move}
    (throughTermini : move.SavesThroughTermini) :
    ∃ later, (registry.move move).storage.store.Represents later ∧ ledger.Advances later := by
  have ofDwindles {left : Storage} (dwindles : registry.storage.Dwindles left) :
      ∃ later, left.store.Represents later ∧ ledger.Advances later := by
    obtain ⟨later, keeps, isLeft⟩ := dwindles ledger represents
    exact ⟨later, keeps, isLeft.advances⟩
  cases move with
  | pass time => exact ofDwindles (.of_store rfl)
  | fire index =>
      obtain ⟨unchanged, _⟩ | ⟨timer, _, _, expires⟩ := registry.fire_cases index
      · rw [Registry.move, unchanged]
        exact ofDwindles (.of_store rfl)
      · rw [Registry.move, expires]
        have dwindles : (registry.dropTimer index).storage.Dwindles _ :=
          Changes.dwindles rfl (sound.fired_changes index timer)
        exact ofDwindles dwindles
  | act operation =>
      cases operation with
      | noteDelivery id tag state =>
          simp only [Registry.move, after, Operation.isInstant, if_true, Watch.perform,
            Watch.onTerminus]
          split
          · exact ofDwindles (.of_store rfl)
          · exact Storage.noteDelivery_advances represents _ tag state
      | settleDelivery id tag =>
          simp only [Registry.move, after, Operation.isInstant, if_true, Watch.perform,
            Watch.onTerminus]
          split
          · exact ofDwindles (.of_store rfl)
          · exact ofDwindles (Storage.dwindles_remove _ _ tag)
      | applyPlan plan => exact ofDwindles (Storage.dwindles_carryOutAll _ _ plan.steps)
      | callStore call =>
          refine ofDwindles (Storage.dwindles_call ?_)
          rintro other record rfl
          exact throughTermini
      | _ => exact ofDwindles (Changes.dwindles rfl (sound.after_changes _))

/-- Moves leave a store that keeps a ledger. -/
theorem Sound.represents_follow (sound : registry.Sound)
    (represents : registry.storage.store.Represents ledger) {moves : List Move}
    (throughTermini : ∀ move ∈ moves, move.SavesThroughTermini) :
    ∃ later, (registry.follow moves).storage.store.Represents later := by
  induction moves generalizing registry ledger with
  | nil => exact ⟨ledger, represents⟩
  | cons first rest ih =>
      obtain ⟨between, keeps, _⟩ :=
        sound.move_advances represents (throughTermini first List.mem_cons_self)
      exact ih (sound.move first) keeps fun move member =>
        throughTermini move (List.mem_cons_of_mem _ member)

/-- A record that is there all along moves on, if at all. -/
theorem Sound.precedes_follow (sound : registry.Sound)
    (represents : registry.storage.store.Represents ledger) {moves : List Move}
    (throughTermini : ∀ move ∈ moves, move.SavesThroughTermini)
    (kept : registry.KeepsRecord identifier tag moves) {record last : Record}
    (atFirst : registry.storage.HasOnRecord identifier tag record)
    (atLast : (registry.follow moves).storage.HasOnRecord identifier tag last) :
    record.Precedes last := by
  induction moves generalizing registry ledger record with
  | nil =>
      have same := atFirst.symm.trans atLast
      rw [Except.ok.injEq, Option.some.injEq] at same
      exact same ▸ .refl _
  | cons first rest ih =>
      obtain ⟨later, keeps, advances⟩ :=
        sound.move_advances represents (throughTermini first List.mem_cons_self)
      obtain ⟨between, atBetween⟩ : ∃ between,
          (registry.move first).storage.HasOnRecord identifier tag between := by
        cases rest with
        | nil => exact kept.2
        | cons => exact kept.2.1
      have once : record.Precedes between :=
        advances _ _ _ ((Storage.hasOnRecord_iff represents).1 atFirst)
          ((Storage.hasOnRecord_iff keeps).1 atBetween)
      have others (move : Move) (member : move ∈ rest) : move.SavesThroughTermini :=
        throughTermini move (List.mem_cons_of_mem _ member)
      exact once.trans (ih (sound.move first) keeps others kept.2 atBetween atLast)

/-- Deliveries move forward only.  The store, of either kind, keeps some ledger at first, calls
to it may fail at any time, and all records are saved through termini.  As long as a delivery
has a record, its state moves on, if at all, a decision stays as it is, and so does the mark of
a delivery that was sent again.  Whenever a plan is applied, and whatever it was made from, each
record that is left was there before, and is the same or has been marked.  A call to the store
that fails leaves the store as it is, and so does a delivery that cannot be noted, be it that it
would move back or that the store fails.  If a plan cannot be carried out to its end, what was on
record for the delivery at which it fails still is. -/
theorem deliveries_move_forward (config : Config) {storage : Storage} {ledger : Ledger}
    (represents : storage.store.Represents ledger) (hasTimers : Bool) (moves : List Move)
    (throughTermini : ∀ move ∈ moves, move.SavesThroughTermini) :
    let origin : Registry := { create config storage with hasTimers }
    let reached := (origin.follow moves).storage
    (∀ earlier between rest identifier tag record last, moves = earlier ++ between ++ rest →
      (origin.follow earlier).KeepsRecord identifier tag between →
      (origin.follow earlier).storage.HasOnRecord identifier tag record →
      (origin.follow (earlier ++ between)).storage.HasOnRecord identifier tag last →
        record.state.canAdvanceTo last.state = true ∧
        (record.state.isTerminal = true → last.state = record.state) ∧
        (record.resumed = true → last.resumed = true)) ∧
    (∀ plan identifier tag last, (reached.applyPlan plan).2.HasOnRecord identifier tag last →
      ∃ record, reached.HasOnRecord identifier tag record ∧
        (last = record ∨ last = { record with resumed := true })) ∧
    (∀ call error left, reached.call call = (.error error, left) → left.store = reached.store) ∧
    (∀ identifier tag state error left,
      reached.noteDelivery identifier tag state = (.error error, left) →
        left.store = reached.store) ∧
    ∀ (before ready : Storage) identifier mode theirs plan error left,
      before.planRecovery identifier mode theirs = (.ok plan, ready) →
      reached.applyPlan plan = (.error error, left) →
        ∃ failing ∈ plan.steps, ∃ stopped : Storage,
          stopped.carryOut identifier failing = (.error error, left) ∧
          ∀ record, left.HasOnRecord identifier failing.tag record ↔
            reached.HasOnRecord identifier failing.tag record := by
  intro origin reached
  have soundAtFirst : origin.Sound := Sound.create config storage hasTimers
  obtain ⟨later, keeps⟩ :=
    soundAtFirst.represents_follow (show origin.storage.store.Represents ledger from represents)
      throughTermini
  refine ⟨?_, ?_, ?_, ?_, ?_⟩
  · rintro earlier between rest identifier tag record last rfl kept atFirst atLast
    simp only [List.mem_append] at throughTermini
    obtain ⟨since, keepsSince⟩ :=
      soundAtFirst.represents_follow (show origin.storage.store.Represents ledger from represents)
        fun move member => throughTermini move (.inl (.inl member))
    rw [follow_append] at atLast
    have precedes := (soundAtFirst.follow earlier).precedes_follow keepsSince
      (fun move member => throughTermini move (.inl (.inr member))) kept atFirst atLast
    exact ⟨precedes.advances, fun decided =>
      State.eq_of_canAdvanceTo_of_isTerminal decided precedes.advances, precedes.marked⟩
  · intro plan identifier tag last atLast
    obtain ⟨left, keepsLeft, dwindles⟩ :=
      reached.dwindles_carryOutAll plan.identifier plan.steps later keeps
    obtain ⟨record, isRecord, isLast⟩ :=
      dwindles _ _ ((Storage.hasOnRecord_iff keepsLeft).1 atLast)
    exact ⟨record, (Storage.hasOnRecord_iff keeps).2 isRecord, isLast⟩
  · exact fun call error left failed => Storage.store_call_of_error failed
  · exact fun identifier tag state error left failed =>
      Storage.store_noteDelivery_of_error failed
  · exact fun before ready identifier mode theirs plan error left planned fails =>
      Storage.hasOnRecord_of_applyPlan_error keeps planned fails

end Registry

namespace Sample

/-- A delivery is on record as sent, and nothing more is known. -/
def delivering : List Move :=
  [.act (.openLink (link "link-detach" 1)), .act (.register 0 false),
    .act (.noteDelivery 0 ⟨[1]⟩ .unknown)]

/-- A plan to resume it. -/
def resumption : RecoveryPlan :=
  .ofMaps identifier .onReceive (.ofList [(⟨[1]⟩, .unknown)]) (.ofList [(⟨[1]⟩, .unknown)])

/-- It is decided before the plan is carried out. -/
def decision : Move := .act (.noteDelivery 0 ⟨[1]⟩ (.terminal .accepted))

def deciding : List Move := [decision, .act (.applyPlan resumption)]

end Sample

namespace Registry

/-- The decision and the mark are there in the end, and a delivery that was decided is not noted
as received any more. -/
theorem deliveries_move_forward_sample :
    let before := (Sample.registry.follow Sample.delivering).storage
    let reached := (Sample.registry.follow (Sample.delivering ++ Sample.deciding)).storage
    let first : Record := { tag := ⟨[1]⟩, state := .unknown }
    let last : Record := { tag := ⟨[1]⟩, state := .terminal .accepted, resumed := true }
    before.HasOnRecord Sample.identifier ⟨[1]⟩ first ∧
      reached.HasOnRecord Sample.identifier ⟨[1]⟩ last ∧
      first.state.canAdvanceTo last.state = true ∧
      (reached.noteDelivery Sample.identifier ⟨[1]⟩ .received).1.toOption = none ∧
      (reached.noteDelivery Sample.identifier ⟨[1]⟩ .received).2.store = reached.store := by
  intro before reached first last
  have throughTermini : ∀ move ∈ Sample.delivering ++ Sample.deciding,
      move.SavesThroughTermini := by
    simp [Sample.delivering, Sample.deciding, Sample.decision, Move.SavesThroughTermini]
  have represents : Sample.registry.storage.store.Represents ∅ := MemoryStore.Represents.empty
  obtain ⟨advances, _, _, refused, _⟩ :=
    deliveries_move_forward default represents true _ throughTermini
  have atFirst : before.HasOnRecord Sample.identifier ⟨[1]⟩ first :=
    eq_ok_of_toOption (by decide +kernel)
  have atLast : reached.HasOnRecord Sample.identifier ⟨[1]⟩ last :=
    eq_ok_of_toOption (by decide +kernel)
  have between : ((Sample.registry.follow Sample.delivering).move
      Sample.decision).storage.HasOnRecord Sample.identifier ⟨[1]⟩ { last with resumed := false } :=
    eq_ok_of_toOption (by decide +kernel)
  have kept : (Sample.registry.follow Sample.delivering).KeepsRecord Sample.identifier ⟨[1]⟩
      Sample.deciding :=
    ⟨⟨first, atFirst⟩, ⟨_, between⟩, ⟨last, atLast⟩⟩
  have fails : (reached.noteDelivery Sample.identifier ⟨[1]⟩ .received).1.toOption = none := by
    decide +kernel
  refine ⟨atFirst, atLast, ?_, fails, ?_⟩
  · exact (advances Sample.delivering Sample.deciding [] Sample.identifier ⟨[1]⟩ first last
      (List.append_nil _).symm kept atFirst atLast).1
  · rcases outcome : reached.noteDelivery Sample.identifier ⟨[1]⟩ .received with ⟨error | _, left⟩
    · exact (refused _ _ _ error left outcome).trans (congrArg Storage.store rfl)
    · rw [outcome] at fails
      cases fails

end Registry

end Reattach
