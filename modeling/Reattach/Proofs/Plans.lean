import Reattach.Proofs.Stores
import Reattach.Recovery

/-!
# What plans do

A plan has one step for each delivery that either end knows of.  Carrying out a step drops
the record of its delivery, marks it as sent again or leaves it, and touches no other
delivery; so what a plan does to a record is what the one step for it does.
-/

namespace Reattach

/-! ## The deliveries of a plan -/

theorem get?_ofList_tags (tags : List Tag) (tag : Tag) :
    (SortedMap.ofList (tags.map fun tag => (tag, ()))).get? tag =
      if tag ∈ tags then some () else none := by
  rw [SortedMap.get?_ofList]
  apply SortedMap.lookup_eq_of_mem_iff
  intro value
  simp

theorem mem_tagsOfEither_iff {ours theirs : Unsettled} {tag : Tag} :
    tag ∈ tagsOfEither ours theirs ↔
      (ours.get? tag).isSome = true ∨ (theirs.get? tag).isSome = true := by
  rw [tagsOfEither, SortedMap.mem_keys_iff, SortedMap.contains, get?_ofList_tags]
  simp only [List.mem_append, SortedMap.mem_keys_iff, SortedMap.contains]
  split
  · next known => exact iff_of_true rfl known
  · next unknown => exact iff_of_false Bool.false_ne_true unknown

theorem nodup_tagsOfEither (ours theirs : Unsettled) : (tagsOfEither ours theirs).Nodup :=
  SortedMap.nodup_keys _

theorem tagsOfEither_comm (ours theirs : Unsettled) :
    tagsOfEither ours theirs = tagsOfEither theirs ours := by
  refine congrArg SortedMap.keys (SortedMap.ext_get? fun tag => ?_)
  simp only [get?_ofList_tags, List.mem_append, or_comm]

/-- The step of a plan for one delivery. -/
def RecoveryStep.ofMaps (role : Role) (mode : SettleMode) (ours theirs : Unsettled)
    (tag : Tag) : RecoveryStep where
  tag := tag
  ours := ours.get? tag
  theirs := theirs.get? tag
  decision := decideFor role mode (ours.get? tag) (theirs.get? tag)

theorem RecoveryPlan.steps_ofMaps (identifier : Identifier) (mode : SettleMode)
    (ours theirs : Unsettled) :
    (ofMaps identifier mode ours theirs).steps =
      (tagsOfEither ours theirs).map (.ofMaps identifier.role mode ours theirs) := rfl

theorem filter_filterMap_tag {tags : List Tag} (distinct : tags.Nodup)
    {send : Tag → Option Frame} (own : ∀ tag frame, send tag = some frame → frame.tag = tag)
    (tag : Tag) :
    (tags.filterMap send).filter (·.tag = tag) = if tag ∈ tags then (send tag).toList else [] := by
  induction tags with
  | nil => rfl
  | cons head rest ih =>
      rw [List.nodup_cons] at distinct
      have before := ih distinct.2
      rw [List.filterMap_cons]
      by_cases isHead : tag = head
      · subst isHead
        rw [if_neg distinct.1] at before
        rw [if_pos List.mem_cons_self]
        cases sent : send tag with
        | none => simp [before]
        | some frame => simp [before, own tag frame sent]
      · have member : tag ∈ head :: rest ↔ tag ∈ rest := by simp [isHead]
        simp only [member]
        cases sent : send head with
        | none => exact before
        | some frame =>
            have apart : ¬frame.tag = tag := fun same => isHead (same ▸ own head frame sent)
            simpa [List.filter_cons, apart] using before

theorem RecoveryPlan.eq_ofMaps_of_mem {identifier : Identifier} {mode : SettleMode}
    {ours theirs : Unsettled} {step : RecoveryStep}
    (member : step ∈ (ofMaps identifier mode ours theirs).steps) :
    step = .ofMaps identifier.role mode ours theirs step.tag := by
  rw [steps_ofMaps, List.mem_map] at member
  obtain ⟨tag, _, rfl⟩ := member
  rfl

theorem RecoveryStep.frame?_ofMaps_of_none {ours : Unsettled} {tag : Tag}
    (unknown : ours.get? tag = none) (role : Role) (mode : SettleMode) (theirs : Unsettled) :
    (ofMaps role mode ours theirs tag).frame? = none := by
  cases role with
  | sender => simp [frame?, ofMaps, decideFor, unknown, reconcileInMode, Directive.frame?,
      Directive.flags?]
  | receiver => rfl

theorem RecoveryStep.tag_of_frame? {step : RecoveryStep} {frame : Frame}
    (sent : step.frame? = some frame) : frame.tag = step.tag := by
  simp only [frame?, Directive.frame?] at sent
  split at sent
  · obtain ⟨_, _, rfl⟩ := Option.map_eq_some_iff.1 sent
    rfl
  · cases sent

/-- A plan sends for each delivery what the step for it calls for, once. -/
theorem RecoveryPlan.frames_ofMaps (identifier : Identifier) (mode : SettleMode)
    (ours theirs : Unsettled) (tag : Tag) :
    ((ofMaps identifier mode ours theirs).steps.filterMap (·.frame?)).filter (·.tag = tag) =
      (RecoveryStep.ofMaps identifier.role mode ours theirs tag).frame?.toList := by
  rw [steps_ofMaps, List.filterMap_map, filter_filterMap_tag (nodup_tagsOfEither ours theirs)]
  · split
    · rfl
    · next unlisted =>
        rw [mem_tagsOfEither_iff, not_or, Option.not_isSome_iff_eq_none] at unlisted
        rw [RecoveryStep.frame?_ofMaps_of_none unlisted.1]
        rfl
  · exact fun tag frame sent => RecoveryStep.tag_of_frame? sent

/-! ## Reading -/

theorem eq_ok_of_toOption {Error Value : Type} {outcome : Except Error Value} {value : Value}
    (given : outcome.toOption = some value) : outcome = .ok value := by
  cases outcome with
  | error _ => cases given
  | ok _ => cases given; rfl

namespace Storage

variable {storage left : Storage} {identifier : Identifier} {mode : SettleMode}

theorem unsettled_eq_ok {ours : Unsettled}
    (told : storage.unsettled identifier = (.ok ours, left)) :
    left.store = storage.store ∧
      ∃ records, storage.store.retrieveAll identifier = .ok records ∧ ours = records.unsettled := by
  simp only [unsettled, retrieveAll] at told
  split at told
  · cases told
  · next records after listed =>
      split at listed
      · cases listed
      · cases told
        obtain ⟨isRead, rfl⟩ := Prod.mk.inj listed
        exact ⟨rfl, records, isRead, rfl⟩

theorem planRecovery_of_unsettled {ours : Unsettled} (mode : SettleMode) (theirs : Unsettled)
    (told : storage.unsettled identifier = (.ok ours, left)) :
    storage.planRecovery identifier mode theirs =
      (.ok (.ofMaps identifier mode ours theirs), left) := by
  simp only [planRecovery, told]

theorem planRecovery_eq_ok {theirs : Unsettled} {plan : RecoveryPlan}
    (planned : storage.planRecovery identifier mode theirs = (.ok plan, left)) :
    left.store = storage.store ∧ ∃ records, storage.store.retrieveAll identifier = .ok records ∧
      plan = .ofMaps identifier mode records.unsettled theirs := by
  simp only [planRecovery] at planned
  split at planned
  · cases planned
  · next ours after told =>
      cases planned
      obtain ⟨sameStore, records, isRead, rfl⟩ := unsettled_eq_ok told
      exact ⟨sameStore, records, isRead, rfl⟩

end Storage

/-! ## Carrying out a step -/

/-- Whether a step drops the record of its delivery. -/
def RecoveryStep.drops (step : RecoveryStep) : Bool :=
  step.ours.isSome &&
    match step.decision with
    | .send directive => directive.removesRecord
    | .receive .discard => true
    | .receive (.await _) => false

namespace RecoveryStep

/-- Whether a step marks the record of its delivery as sent again. -/
def marks (step : RecoveryStep) : Bool :=
  match step.decision with
  | .send directive => !directive.removesRecord && directive.flags?.any (·.resume)
  | .receive _ => false

/-- What a step leaves of the record of its delivery. -/
def leaves (step : RecoveryStep) (record : Option Record) : Option Record :=
  if step.drops then none
  else if step.marks then record.map fun record => { record with resumed := true }
  else record

@[simp] theorem leaves_none (step : RecoveryStep) : step.leaves none = none := by
  simp [leaves]

theorem tag_of_leaves {step : RecoveryStep} {found : Option Record} {record : Record}
    (isLeft : step.leaves found = some record) :
    ∃ before, found = some before ∧ record.tag = before.tag := by
  unfold leaves at isLeft
  split at isLeft
  · cases isLeft
  · split at isLeft
    · obtain ⟨before, isBefore, rfl⟩ := Option.map_eq_some_iff.1 isLeft
      exact ⟨before, isBefore, rfl⟩
    · exact ⟨record, isLeft, rfl⟩

theorem map_state_leaves (step : RecoveryStep) (record : Option Record) :
    (step.leaves record).map (·.state) = if step.drops then none else record.map (·.state) := by
  unfold leaves
  split
  · rfl
  · split
    · rw [Option.map_map]
      rfl
    · rfl

/-- A step that has been carried out, and kept the record, leaves it as it is if it is
carried out again. -/
theorem leaves_leaves {step : RecoveryStep} (keeps : step.drops = false)
    (record : Option Record) : step.leaves (step.leaves record) = step.leaves record := by
  cases record with
  | none => simp
  | some record =>
      unfold leaves
      simp only [keeps, Bool.false_eq_true, if_false]
      split <;> rfl

end RecoveryStep

namespace Storage

variable {storage left : Storage} {identifier : Identifier} {step : RecoveryStep}

theorem remove_error {tag : Tag} {error : StoreError}
    (failed : storage.remove identifier tag = (.error error, left)) :
    left.store = storage.store := by
  simp only [remove] at failed
  split at failed <;> cases failed
  rfl

theorem remove_ok {tag : Tag} {found : Bool}
    (removed : storage.remove identifier tag = (.ok found, left)) :
    left.store = (storage.store.remove identifier tag).2 := by
  simp only [remove] at removed
  split at removed <;> cases removed
  rfl

theorem retrieve_store (storage : Storage) (identifier : Identifier) (tag : Tag) :
    (storage.retrieve identifier tag).2.store = storage.store := by
  simp only [retrieve]
  split <;> rfl

theorem retrieve_ok {tag : Tag} {found : Option Record}
    (retrieved : storage.retrieve identifier tag = (.ok found, left)) :
    storage.store.retrieve identifier tag = .ok found := by
  simp only [retrieve] at retrieved
  split at retrieved
  · cases retrieved
  · exact (Prod.mk.inj retrieved).1

theorem save_ok {record : Record} (saved : storage.save identifier record = (.ok (), left)) :
    storage.store.save identifier record = .ok left.store := by
  simp only [save] at saved
  split at saved
  · cases saved
  · split at saved <;> cases saved
    assumption

theorem carryOut_error {error : StoreError}
    (failed : storage.carryOut identifier step = (.error error, left)) :
    left.store = storage.store := by
  have dropFails (fails : storage.dropPlanned identifier step = (.error error, left)) :
      left.store = storage.store := by
    simp only [dropPlanned] at fails
    split at fails
    · cases fails
    · split at fails <;> cases fails
      next removed => exact remove_error removed
  have markFails (fails : storage.markResumed identifier step.tag = (.error error, left)) :
      left.store = storage.store := by
    have sameStore := retrieve_store storage identifier step.tag
    simp only [markResumed] at fails
    split at fails
    · next retrieved =>
        cases fails
        rwa [retrieved] at sameStore
    · cases fails
    · next record after retrieved =>
        have refused :
            (after.save identifier { record with resumed := true }).1 = .error error := by
          rw [fails]
        have stays := store_save_of_error refused
        rw [fails] at stays
        rw [retrieved] at sameStore
        exact stays.trans sameStore
  simp only [carryOut] at failed
  split at failed
  · split at failed
    · exact dropFails failed
    · split at failed
      · exact markFails failed
      · cases failed
  · exact dropFails failed
  · cases failed

theorem carryOut_eq (storage : Storage) (identifier : Identifier) (step : RecoveryStep) :
    storage.carryOut identifier step =
      if step.drops then storage.dropPlanned identifier step
      else if step.marks then storage.markResumed identifier step.tag
      else (.ok (), storage) := by
  have idle (unknown : step.ours = none) :
      storage.dropPlanned identifier step = (.ok (), storage) := by
    simp only [dropPlanned, unknown]
  cases decided : step.decision with
  | receive action =>
      cases action with
      | discard =>
          cases known : step.ours with
          | none =>
              simp [carryOut, RecoveryStep.drops, RecoveryStep.marks, decided, known, idle known]
          | some _ => simp [carryOut, RecoveryStep.drops, decided, known]
      | await _ => simp [carryOut, RecoveryStep.drops, RecoveryStep.marks, decided]
  | send directive =>
      by_cases removes : directive.removesRecord = true
      · cases known : step.ours with
        | none =>
            simp [carryOut, RecoveryStep.drops, RecoveryStep.marks, decided, removes, known,
              idle known]
        | some _ => simp [carryOut, RecoveryStep.drops, decided, removes, known]
      · simp [carryOut, RecoveryStep.drops, RecoveryStep.marks, decided, removes]

/-- All that a step may do: drop the record of its delivery, mark it or leave it. -/
theorem carryOut_cases (done : storage.carryOut identifier step = (.ok (), left)) :
    (step.drops = true ∧ left.store = (storage.store.remove identifier step.tag).2) ∨
    (step.drops = false ∧ left.store = storage.store) ∨
    (step.drops = false ∧ (∃ directive, step.decision = .send directive) ∧
      ∃ record, storage.store.retrieve identifier step.tag = .ok (some record) ∧
        storage.store.save identifier { record with resumed := true } = .ok left.store) := by
  have dropped (drops : step.drops = step.ours.isSome)
      (isDone : storage.dropPlanned identifier step = (.ok (), left)) :
      (step.drops = true ∧ left.store = (storage.store.remove identifier step.tag).2) ∨
      (step.drops = false ∧ left.store = storage.store) := by
    simp only [dropPlanned] at isDone
    split at isDone
    · next unknown =>
        cases isDone
        exact .inr ⟨by rw [drops, unknown]; rfl, rfl⟩
    · next known =>
        split at isDone <;> cases isDone
        next removed => exact .inl ⟨by rw [drops, known]; rfl, remove_ok removed⟩
  simp only [carryOut] at done
  split at done
  · next directive decided =>
      split at done
      · next removes =>
          exact (dropped (by simp [RecoveryStep.drops, decided, removes]) done).imp_right .inl
      · next keeps =>
          have drops : step.drops = false := by simp [RecoveryStep.drops, decided, keeps]
          split at done
          · have sameStore := retrieve_store storage identifier step.tag
            simp only [markResumed] at done
            split at done
            · cases done
            · next retrieved =>
                cases done
                rw [retrieved] at sameStore
                exact .inr (.inl ⟨drops, sameStore⟩)
            · next record after retrieved =>
                rw [retrieved] at sameStore
                have saved := save_ok done
                rw [sameStore] at saved
                exact .inr (.inr
                  ⟨drops, ⟨directive, decided⟩, record, retrieve_ok retrieved, saved⟩)
          · cases done
            exact .inr (.inl ⟨drops, rfl⟩)
  · next decided =>
      exact (dropped (by simp [RecoveryStep.drops, decided]) done).imp_right .inl
  · next decided =>
      cases done
      exact .inr (.inl ⟨by simp [RecoveryStep.drops, decided], rfl⟩)

/-! ## Carrying out one step after the other -/

/-- What is carried out sends what its steps call for. -/
theorem carryOutAll_eq_ok {steps : List RecoveryStep} {frames : List Frame}
    (done : storage.carryOutAll identifier steps = (.ok frames, left)) :
    frames = steps.filterMap (·.frame?) := by
  induction steps generalizing storage frames with
  | nil => cases done; rfl
  | cons step rest ih =>
      simp only [carryOutAll] at done
      split at done
      · cases done
      · split at done <;> cases done
        next later =>
          rw [ih later, List.filterMap_cons]
          cases step.frame? <;> rfl

/-- What fails, fails at one step: those before it are carried out, those after it are not
begun, and the step itself leaves the records as they are. -/
theorem carryOutAll_eq_error {steps : List RecoveryStep} {error : StoreError}
    (failed : storage.carryOutAll identifier steps = (.error error, left)) :
    ∃ done failing rest reached, steps = done ++ failing :: rest ∧
      storage.carryOutAll identifier done = (.ok (done.filterMap (·.frame?)), reached) ∧
      reached.carryOut identifier failing = (.error error, left) := by
  induction steps generalizing storage with
  | nil => cases failed
  | cons step rest ih =>
      simp only [carryOutAll] at failed
      split at failed
      · next stepFailed =>
          cases failed
          exact ⟨[], step, rest, storage, rfl, rfl, stepFailed⟩
      · next after stepDone =>
          split at failed <;> cases failed
          next laterFailed =>
            obtain ⟨done, failing, later, reached, rfl, isDone, stepFailed⟩ := ih laterFailed
            refine ⟨step :: done, failing, later, reached, rfl, ?_, stepFailed⟩
            simp only [carryOutAll, stepDone, isDone, List.filterMap_cons]
            cases step.frame? <;> rfl

end Storage

/-! ## What is left of a ledger -/

/-- The state of a delivery, if it has a record. -/
def Ledger.stateOf (ledger : Ledger) (key : DeliveryKey) : Option State :=
  (ledger.get? key).map (·.state)

/-- Whether one of some steps drops the record of a delivery. -/
def RecoveryStep.anyDrops (steps : List RecoveryStep) (tag : Tag) : Bool :=
  steps.any fun step => step.tag = tag && step.drops

theorem Store.Represents.of_save {store later : Store} {ledger : Ledger} {identifier : Identifier}
    {record : Record}
    (represents : store.Represents ledger)
    (saved : store.save identifier record = .ok later) :
    later.Represents (ledger.insert ⟨identifier.key, record.tag⟩ record) := by
  have saves := represents.save identifier record
  split at saves
  · rw [saves] at saved
    cases saved
  · obtain ⟨_, isSaved, kept⟩ := saves
    rw [isSaved, Except.ok.injEq] at saved
    exact saved ▸ kept

namespace Storage

variable {storage left : Storage} {identifier : Identifier} {ledger : Ledger}

theorem markResumed_represents {tag : Tag} (represents : storage.store.Represents ledger)
    (done : storage.markResumed identifier tag = (.ok (), left)) :
    ∃ later, left.store.Represents later ∧ ∀ key, later.get? key =
      if key = ⟨identifier.key, tag⟩ then
        (ledger.get? key).map fun record => { record with resumed := true }
      else ledger.get? key := by
  have sameStore := retrieve_store storage identifier tag
  simp only [markResumed] at done
  split at done
  · cases done
  · next retrieved =>
      cases done
      rw [retrieved] at sameStore
      have isNone := retrieve_ok retrieved
      rw [represents.retrieve, Except.ok.injEq] at isNone
      refine ⟨ledger, sameStore ▸ represents, fun key => ?_⟩
      split
      · next same => rw [same, isNone, Option.map_none]
      · rfl
  · next record after retrieved =>
      rw [retrieved] at sameStore
      have held := retrieve_ok retrieved
      rw [represents.retrieve, Except.ok.injEq] at held
      obtain rfl : record.tag = tag := represents.filed _ _ held
      have saved := save_ok done
      rw [sameStore] at saved
      refine ⟨_, represents.of_save saved, fun key => ?_⟩
      split
      · next same => rw [same, SortedMap.get?_insert_self, held, Option.map_some]
      · next apart => exact SortedMap.get?_insert_of_ne _ _ apart

/-- A step leaves of its delivery's record what it is to leave, and all other records. -/
theorem carryOut_leaves {step : RecoveryStep} (represents : storage.store.Represents ledger)
    (done : storage.carryOut identifier step = (.ok (), left)) :
    ∃ later, left.store.Represents later ∧ ∀ key, later.get? key =
      if key = ⟨identifier.key, step.tag⟩ then step.leaves (ledger.get? key)
      else ledger.get? key := by
  by_cases drops : step.drops = true
  · obtain ⟨_, isLeft⟩ | ⟨keeps, _⟩ | ⟨keeps, _⟩ := carryOut_cases done
    · refine ⟨ledger.erase ⟨identifier.key, step.tag⟩, ?_, fun key => ?_⟩
      · rw [isLeft]
        exact (represents.remove identifier step.tag).2
      · rw [RecoveryStep.leaves, if_pos drops]
        split
        · next same => rw [same, SortedMap.get?_erase_self]
        · next apart => exact SortedMap.get?_erase_of_ne _ apart
    · simp [drops] at keeps
    · simp [drops] at keeps
  · rw [carryOut_eq, if_neg drops] at done
    by_cases marks : step.marks = true
    · rw [if_pos marks] at done
      obtain ⟨later, kept, isLater⟩ := markResumed_represents represents done
      refine ⟨later, kept, fun key => ?_⟩
      rw [isLater, RecoveryStep.leaves, if_neg drops, if_pos marks]
    · rw [if_neg marks] at done
      cases done
      refine ⟨ledger, represents, fun key => ?_⟩
      rw [RecoveryStep.leaves, if_neg drops, if_neg marks, ite_self]

/-- A step drops a record or leaves its state; other deliveries stay as they are. -/
theorem carryOut_represents {step : RecoveryStep}
    (represents : storage.store.Represents ledger)
    (done : storage.carryOut identifier step = (.ok (), left)) :
    ∃ later, left.store.Represents later ∧ ∀ key, later.stateOf key =
      if key = ⟨identifier.key, step.tag⟩ ∧ step.drops = true then none
      else ledger.stateOf key := by
  obtain ⟨later, keeps, isLeft⟩ := carryOut_leaves represents done
  refine ⟨later, keeps, fun key => ?_⟩
  simp only [Ledger.stateOf, isLeft]
  by_cases same : key = ⟨identifier.key, step.tag⟩
  · simp only [same, if_true, true_and, RecoveryStep.map_state_leaves]
  · simp only [same, if_false, false_and]

/-- What is left of a terminus' records are those that no step dropped, in their states. -/
theorem carryOutAll_represents {steps : List RecoveryStep} {frames : List Frame}
    (represents : storage.store.Represents ledger)
    (done : storage.carryOutAll identifier steps = (.ok frames, left)) :
    ∃ later, left.store.Represents later ∧ ∀ tag, later.stateOf ⟨identifier.key, tag⟩ =
      if RecoveryStep.anyDrops steps tag = true then none
      else ledger.stateOf ⟨identifier.key, tag⟩ := by
  induction steps generalizing storage ledger frames with
  | nil => cases done; exact ⟨ledger, represents, fun tag => rfl⟩
  | cons step rest ih =>
      simp only [carryOutAll] at done
      split at done
      · cases done
      · next stepDone =>
          split at done <;> cases done
          next restDone =>
            obtain ⟨between, keeps, first⟩ := carryOut_represents represents stepDone
            obtain ⟨later, keepsLater, others⟩ := ih keeps restDone
            refine ⟨later, keepsLater, fun tag => ?_⟩
            rw [others tag, first]
            simp only [RecoveryStep.anyDrops, List.any_cons, Bool.or_eq_true, Bool.and_eq_true,
              decide_eq_true_eq, DeliveryKey.mk.injEq, true_and, @eq_comm _ step.tag]
            by_cases isDropped : tag = step.tag ∧ step.drops = true
            · simp [isDropped]
            · simp [isDropped]

end Storage

/-! ## What is left of what a store finds -/

/-- That a store finds these records of a terminus, each under its own tag. -/
structure Store.Finds (store : Store) (identifier : Identifier) (found : Tag → Option Record) :
    Prop where
  retrieve : ∀ tag, store.retrieve identifier tag = .ok (found tag)
  filed : ∀ tag record, found tag = some record → record.tag = tag

theorem Store.Represents.finds {store : Store} {ledger : Ledger}
    (represents : store.Represents ledger) (identifier : Identifier) :
    store.Finds identifier fun tag => ledger.get? ⟨identifier.key, tag⟩ :=
  ⟨represents.retrieve identifier, fun tag => represents.filed ⟨identifier.key, tag⟩⟩

namespace Storage

variable {storage left : Storage} {identifier other : Identifier} {step : RecoveryStep}
variable {ledger : Ledger} {found : Tag → Option Record} {frames : List Frame}

theorem markResumed_finds {tag : Tag} (finds : storage.store.Finds identifier found)
    (done : storage.markResumed identifier tag = (.ok (), left)) (asked : Tag) :
    left.store.retrieve identifier asked = .ok (if asked = tag then
      (found asked).map fun record => { record with resumed := true } else found asked) := by
  have sameStore := retrieve_store storage identifier tag
  simp only [markResumed] at done
  split at done
  · cases done
  · next retrieved =>
      cases done
      rw [retrieved] at sameStore
      have isNone := retrieve_ok retrieved
      rw [finds.retrieve, Except.ok.injEq] at isNone
      rw [sameStore, finds.retrieve]
      split
      · next same => rw [same, isNone, Option.map_none]
      · rfl
  · next record after retrieved =>
      rw [retrieved] at sameStore
      have held := retrieve_ok retrieved
      rw [finds.retrieve, Except.ok.injEq] at held
      obtain rfl : record.tag = tag := finds.filed _ _ held
      have saved := save_ok done
      rw [sameStore] at saved
      rw [Store.retrieve_save saved, finds.retrieve]
      simp only [true_and]
      split
      · next same => rw [same, held, Option.map_some]
      · rfl

/-- A step leaves of the record found for its delivery what it is to leave, and finds all
others as before. -/
theorem carryOut_finds (finds : storage.store.Finds identifier found)
    (done : storage.carryOut identifier step = (.ok (), left)) :
    left.store.Finds identifier fun tag =>
      if tag = step.tag then step.leaves (found tag) else found tag := by
  constructor
  · intro tag
    by_cases drops : step.drops = true
    · obtain ⟨_, isLeft⟩ | ⟨keeps, _⟩ | ⟨keeps, _⟩ := carryOut_cases done
      · rw [isLeft, Store.retrieve_remove, finds.retrieve, RecoveryStep.leaves, if_pos drops]
        simp only [true_and]
        split <;> rfl
      · simp [drops] at keeps
      · simp [drops] at keeps
    · rw [carryOut_eq, if_neg drops] at done
      by_cases marks : step.marks = true
      · rw [if_pos marks] at done
        rw [markResumed_finds finds done, RecoveryStep.leaves, if_neg drops, if_pos marks]
      · rw [if_neg marks] at done
        cases done
        rw [finds.retrieve, RecoveryStep.leaves, if_neg drops, if_neg marks, ite_self]
  · intro tag record isLeft
    split at isLeft
    · obtain ⟨before, isBefore, sameTag⟩ := RecoveryStep.tag_of_leaves isLeft
      rw [sameTag]
      exact finds.filed tag before isBefore
    · exact finds.filed tag record isLeft

/-- So do the steps for deliveries that are listed once each. -/
theorem carryOutAll_finds {tags : List Tag} (distinct : tags.Nodup) {step : Tag → RecoveryStep}
    (own : ∀ tag, (step tag).tag = tag) (finds : storage.store.Finds identifier found)
    (done : storage.carryOutAll identifier (tags.map step) = (.ok frames, left)) :
    left.store.Finds identifier fun tag =>
      if tag ∈ tags then (step tag).leaves (found tag) else found tag := by
  induction tags generalizing storage found frames with
  | nil =>
      cases done
      simpa using finds
  | cons tag rest ih =>
      rw [List.nodup_cons] at distinct
      simp only [List.map_cons, carryOutAll] at done
      split at done
      · cases done
      · next stepDone =>
          split at done <;> cases done
          next restDone =>
            have later := ih distinct.2 (carryOut_finds finds stepDone) restDone
            convert later using 2 with asked
            by_cases isTag : asked = tag
            · simp [isTag, own, distinct.1]
            · simp [isTag, own]

/-- A step leaves the records of other termini. -/
theorem carryOut_agreesOn (apart : other.key ≠ identifier.key)
    (done : storage.carryOut identifier step = (.ok (), left)) :
    storage.store.AgreesOn left.store other := by
  obtain ⟨_, isLeft⟩ | ⟨_, isLeft⟩ | ⟨_, _, record, _, saved⟩ := carryOut_cases done
  · rw [isLeft]
    refine ⟨storage.store.retrieveAll_remove_of_ne apart step.tag, fun tag => ?_⟩
    rw [Store.retrieve_remove, if_neg fun both => apart both.1]
  · exact isLeft ▸ ⟨rfl, fun _ => rfl⟩
  · refine ⟨Store.retrieveAll_save_of_ne apart saved, fun tag => ?_⟩
    rw [Store.retrieve_save saved, if_neg fun both => apart both.1]

theorem carryOutAll_agreesOn {steps : List RecoveryStep} (apart : other.key ≠ identifier.key)
    (done : storage.carryOutAll identifier steps = (.ok frames, left)) :
    storage.store.AgreesOn left.store other := by
  induction steps generalizing storage frames with
  | nil =>
      cases done
      exact ⟨rfl, fun _ => rfl⟩
  | cons step rest ih =>
      simp only [carryOutAll] at done
      split at done
      · cases done
      · next stepDone =>
          split at done <;> cases done
          next restDone =>
            have first := carryOut_agreesOn apart stepDone
            have others := ih restDone
            exact ⟨others.together.trans first.together,
              fun tag => (others.each tag).trans (first.each tag)⟩

/-! ## Plans for a store that works -/

theorem Works.exists_remove (works : storage.Works) (identifier : Identifier) (tag : Tag) :
    ∃ left, storage.remove identifier tag =
        (.ok (storage.store.remove identifier tag).1, left) ∧ left.Works := by
  refine ⟨(storage.remove identifier tag).2, ?_, works.call (.remove identifier tag)⟩
  simp [Storage.remove, Outage.isDue, works.remove]

theorem Works.exists_retrieve (works : storage.Works) (identifier : Identifier) (tag : Tag) :
    ∃ left, storage.retrieve identifier tag = (storage.store.retrieve identifier tag, left) ∧
      left.store = storage.store ∧ left.Works := by
  refine ⟨(storage.retrieve identifier tag).2, ?_, retrieve_store _ _ _,
    works.call (.retrieve identifier tag)⟩
  simp [Storage.retrieve, Outage.isDue, works.retrieve]

theorem Works.exists_retrieveAll (works : storage.Works) (identifier : Identifier) :
    ∃ left, storage.retrieveAll identifier = (storage.store.retrieveAll identifier, left) ∧
      left.store = storage.store ∧ left.Works := by
  refine ⟨(storage.retrieveAll identifier).2, ?_, ?_, works.call (.retrieveAll identifier)⟩ <;>
    simp [Storage.retrieveAll, Outage.isDue, works.retrieveAll]

theorem Works.exists_save (works : storage.Works) {record : Record} {store : Store}
    (saved : storage.store.save identifier record = .ok store) :
    ∃ left, storage.save identifier record = (.ok (), left) ∧ left.Works := by
  refine ⟨(storage.save identifier record).2, ?_, works.call (.save identifier record)⟩
  simp [Storage.save, Outage.isDue, works.save, saved]

theorem exists_save_resumed {store : Store} {record : Record}
    (held : store.retrieve identifier record.tag = .ok (some record)) :
    ∃ later, store.save identifier { record with resumed := true } = .ok later := by
  have allowed : Record.mayReplace (some record) { record with resumed := true } = .ok () := by
    simp [Record.mayReplace, Record.advance, State.canAdvanceTo_self]
  cases store with
  | memory store =>
      simp only [Store.retrieve, Except.ok.injEq, MemoryStore.retrieve] at held
      simp only [Store.save, MemoryStore.save, held, allowed]
      exact ⟨_, rfl⟩
  | rows store =>
      simp only [Store.retrieve] at held
      simp only [Store.save, RowStore.save, held, allowed]
      exact ⟨_, rfl⟩

/-- A step can be carried out. -/
theorem Works.exists_carryOut (works : storage.Works)
    (finds : storage.store.Finds identifier found) (step : RecoveryStep) :
    ∃ left, storage.carryOut identifier step = (.ok (), left) ∧ left.Works := by
  have drops : ∃ left, storage.dropPlanned identifier step = (.ok (), left) ∧ left.Works := by
    obtain ⟨left, removed, stillWorks⟩ := works.exists_remove identifier step.tag
    simp only [dropPlanned, removed]
    split
    · exact ⟨storage, rfl, works⟩
    · exact ⟨left, rfl, stillWorks⟩
  have marks : ∃ left, storage.markResumed identifier step.tag = (.ok (), left) ∧ left.Works := by
    obtain ⟨after, retrieved, sameStore, stillWorks⟩ :=
      works.exists_retrieve identifier step.tag
    rw [finds.retrieve] at retrieved
    simp only [markResumed, retrieved]
    cases held : found step.tag with
    | none => exact ⟨after, rfl, stillWorks⟩
    | some record =>
        have isTag : record.tag = step.tag := finds.filed _ _ held
        have isHeld := finds.retrieve step.tag
        rw [← sameStore, held, ← isTag] at isHeld
        obtain ⟨later, saved⟩ := exists_save_resumed isHeld
        exact stillWorks.exists_save saved
  rw [carryOut_eq]
  split
  · exact drops
  · split
    · exact marks
    · exact ⟨storage, rfl, works⟩

/-- So can all steps, one after the other. -/
theorem Works.exists_carryOutAll (works : storage.Works)
    (finds : storage.store.Finds identifier found) (steps : List RecoveryStep) :
    ∃ left, storage.carryOutAll identifier steps =
      (.ok (steps.filterMap (·.frame?)), left) := by
  induction steps generalizing storage found with
  | nil => exact ⟨storage, rfl⟩
  | cons step rest ih =>
      obtain ⟨after, stepDone, stillWorks⟩ := works.exists_carryOut finds step
      obtain ⟨left, restDone⟩ := ih stillWorks (carryOut_finds finds stepDone)
      refine ⟨left, ?_⟩
      simp only [carryOutAll, stepDone, restDone, List.filterMap_cons]
      cases step.frame? <;> rfl

/-- A terminus can plan if its records can be read, and plans by their states. -/
theorem Works.exists_planRecovery (works : storage.Works) {records : Records}
    (isRead : storage.store.retrieveAll identifier = .ok records) (mode : SettleMode)
    (theirs : Unsettled) :
    ∃ ready, storage.planRecovery identifier mode theirs =
        (.ok (.ofMaps identifier mode records.unsettled theirs), ready) ∧
      ready.store = storage.store ∧ ready.Works := by
  obtain ⟨ready, listed, sameStore, stillWorks⟩ := works.exists_retrieveAll identifier
  refine ⟨ready, ?_, sameStore, stillWorks⟩
  simp only [planRecovery, unsettled, listed, isRead]

end Storage

end Reattach
