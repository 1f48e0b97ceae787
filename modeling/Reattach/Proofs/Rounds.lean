import Mathlib.Data.List.Perm.Basic
import Reattach.Proofs.Interrupted

/-!
# Recovery, round after round

A link may be lost and attached again any number of times, and each time its terminus plans
anew, against what the other end tells it then.  A delivery that is given up or settled in one
round has no record in the next, and without a record nothing is sent.  So the transfer that
ends a delivery is the last one for it, in however many rounds, whatever the other end tells.
-/

namespace Reattach

/-- Whether a transfer ends its delivery: it gives the delivery up or settles it. -/
def Frame.isFinal (frame : Frame) : Bool := frame.flags.aborted || frame.flags.settled

/-- That a terminus plans against what the other end tells, and carries the plan out. -/
def Storage.Recovers (storage : Storage) (identifier : Identifier) (mode : SettleMode)
    (theirs : Unsettled) (sent : List Frame) (left : Storage) : Prop :=
  ∃ plan ready, storage.planRecovery identifier mode theirs = (.ok plan, ready) ∧
    ready.applyPlan plan = (.ok sent, left)

/-- That a terminus recovers in rounds, from one store to another, and what it sends in all.
From round to round the settle mode, the other end's deliveries and the outages of the store
may be others, and between rounds the store may be called for anything but to record a
delivery. -/
inductive Rounds (identifier : Identifier) (first : Store) : List Frame → Store → Prop where
  | start : Rounds identifier first [] first
  | round {storage left : Storage} {mode : SettleMode} {theirs : Unsettled}
      {earlier sent : List Frame} (rounds : Rounds identifier first earlier storage.store)
      (recovers : storage.Recovers identifier mode theirs sent left) :
      Rounds identifier first (earlier ++ sent) left.store
  | call {storage : Storage} {earlier : List Frame} {call : StoreCall}
      (rounds : Rounds identifier first earlier storage.store)
      (recordsNone : ∀ other record, call ≠ .save other record) :
      Rounds identifier first earlier (storage.call call).2.store

/-! ## A step that is made again -/

namespace RecoveryStep

variable {role : Role} {mode : SettleMode} {ours left theirs : Unsettled} {tag : Tag}

/-- A transfer ends its delivery if and only if the record is dropped with it. -/
theorem isFinal_eq_drops {frame : Frame}
    (sent : (ofMaps role mode ours theirs tag).frame? = some frame) :
    frame.isFinal = (ofMaps role mode ours theirs tag).drops := by
  have known : (ours.get? tag).isSome = true := by
    rw [Option.isSome_iff_ne_none]
    intro unknown
    rw [frame?_ofMaps_of_none unknown] at sent
    cases sent
  cases role with
  | receiver => cases sent
  | sender =>
      simp only [frame?, drops, ofMaps, decideFor, known, Bool.true_and, Directive.frame?,
        Option.map_eq_some_iff] at sent ⊢
      obtain ⟨flags, isSent, rfl⟩ := sent
      cases directive : reconcileInMode mode (ours.get? tag) (theirs.get? tag) with
      | skip | skipAndForget => simp [directive, Directive.flags?] at isSent
      | resend others =>
          rw [directive] at isSent
          cases isSent
          rfl

/-- In a second round against the same deliveries a step drops nothing more, and sends again
what did not end the delivery. -/
theorem ofMaps_again
    (isLeft : left.get? tag =
      if (ofMaps role mode ours theirs tag).drops then none else ours.get? tag) :
    (ofMaps role mode left theirs tag).drops = false ∧
      (ofMaps role mode left theirs tag).frame? =
        (ofMaps role mode ours theirs tag).frame?.filter (!·.isFinal) := by
  by_cases dropped : (ofMaps role mode ours theirs tag).drops = true
  · rw [if_pos dropped] at isLeft
    refine ⟨by simp [drops, ofMaps, isLeft], ?_⟩
    rw [frame?_ofMaps_of_none isLeft]
    cases sent : (ofMaps role mode ours theirs tag).frame? with
    | none => rfl
    | some frame =>
        rw [Option.filter_some, isFinal_eq_drops sent]
        simp [dropped]
  · rw [if_neg dropped] at isLeft
    have same : ofMaps role mode left theirs tag = ofMaps role mode ours theirs tag := by
      simp only [ofMaps, isLeft]
    rw [same]
    refine ⟨by simpa using dropped, ?_⟩
    cases sent : (ofMaps role mode ours theirs tag).frame? with
    | none => rfl
    | some frame =>
        rw [Option.filter_some, isFinal_eq_drops sent]
        simp [dropped]

/-- Nor does it change what was left of the record. -/
theorem leaves_ofMaps_again
    (isLeft : left.get? tag =
      if (ofMaps role mode ours theirs tag).drops then none else ours.get? tag)
    (record : Option Record) :
    (ofMaps role mode left theirs tag).leaves ((ofMaps role mode ours theirs tag).leaves record) =
      (ofMaps role mode ours theirs tag).leaves record := by
  by_cases dropped : (ofMaps role mode ours theirs tag).drops = true
  · have isNone : (ofMaps role mode ours theirs tag).leaves record = none := by
      rw [leaves, if_pos dropped]
    rw [isNone, leaves_none]
  · rw [if_neg dropped] at isLeft
    have same : ofMaps role mode left theirs tag = ofMaps role mode ours theirs tag := by
      simp only [ofMaps, isLeft]
    rw [same]
    exact leaves_leaves (by simpa using dropped) record

end RecoveryStep

/-! ## What steps leave of a ledger -/

namespace Storage

variable {storage left : Storage} {identifier : Identifier} {ledger : Ledger}

theorem carryOutAll_leaves {tags : List Tag} (distinct : tags.Nodup) {step : Tag → RecoveryStep}
    (own : ∀ tag, (step tag).tag = tag) {frames : List Frame}
    (represents : storage.store.Represents ledger)
    (done : storage.carryOutAll identifier (tags.map step) = (.ok frames, left)) :
    ∃ later, left.store.Represents later ∧ ∀ key, later.get? key =
      if key.terminus = identifier.key ∧ key.tag ∈ tags then
        (step key.tag).leaves (ledger.get? key)
      else ledger.get? key := by
  induction tags generalizing storage ledger frames with
  | nil =>
      cases done
      exact ⟨ledger, represents, by simp⟩
  | cons tag rest ih =>
      rw [List.nodup_cons] at distinct
      simp only [List.map_cons, carryOutAll] at done
      split at done
      · cases done
      · next stepDone =>
          split at done <;> cases done
          next restDone =>
            obtain ⟨between, keeps, first⟩ := carryOut_leaves represents stepDone
            obtain ⟨later, keepsLater, others⟩ := ih distinct.2 keeps restDone
            refine ⟨later, keepsLater, fun key => ?_⟩
            obtain ⟨terminus, asked⟩ := key
            rw [others, first]
            by_cases isTag : asked = tag
            · subst isTag
              by_cases isOwn : terminus = identifier.key
              · simp [own, isOwn, distinct.1]
              · simp [isOwn]
            · simp [own, isTag]

/-! ## What a round leaves -/

/-- What a terminus sends and leaves when it recovers, delivery by delivery. -/
theorem Recovers.cases {mode : SettleMode} {theirs : Unsettled} {sent : List Frame}
    (recovers : storage.Recovers identifier mode theirs sent left)
    (represents : storage.store.Represents ledger) :
    let ours := (ledger.recordsOf identifier.key).unsettled
    let step := RecoveryStep.ofMaps identifier.role mode ours theirs
    sent = (tagsOfEither ours theirs).filterMap (fun tag => (step tag).frame?) ∧
      ∃ later, left.store.Represents later ∧ ∀ key, later.get? key =
        if key.terminus = identifier.key then (step key.tag).leaves (ledger.get? key)
        else ledger.get? key := by
  intro ours step
  obtain ⟨plan, ready, planned, applied⟩ := recovers
  obtain ⟨sameStore, _, isRead, rfl⟩ := planRecovery_eq_ok planned
  rw [represents.retrieveAll, Except.ok.injEq] at isRead
  subst isRead
  change ready.carryOutAll identifier ((tagsOfEither ours theirs).map step) = _ at applied
  constructor
  · rw [carryOutAll_eq_ok applied, List.filterMap_map]
    rfl
  · rw [← sameStore] at represents
    obtain ⟨later, keeps, isLeft⟩ :=
      carryOutAll_leaves (nodup_tagsOfEither ours theirs) (fun _ => rfl) represents applied
    refine ⟨later, keeps, fun key => ?_⟩
    rw [isLeft]
    by_cases isOwn : key.terminus = identifier.key
    · by_cases listed : key.tag ∈ tagsOfEither ours theirs
      · rw [if_pos ⟨isOwn, listed⟩, if_pos isOwn]
      · -- A delivery that no step is for has no record.
        have unknown : ledger.get? key = none := by
          rw [mem_tagsOfEither_iff, not_or, Option.not_isSome_iff_eq_none,
            Ledger.get?_unsettled, ← isOwn, Ledger.stateOf, Option.map_eq_none_iff] at listed
          exact listed.1
        rw [if_neg (fun both => listed both.2), if_pos isOwn, unknown, RecoveryStep.leaves_none]
    · rw [if_neg (fun both => isOwn both.1), if_neg isOwn]

/-- A terminus whose store works can recover at any time. -/
theorem Works.exists_recovers (works : storage.Works)
    (represents : storage.store.Represents ledger) (identifier : Identifier) (mode : SettleMode)
    (theirs : Unsettled) :
    ∃ left, storage.Recovers identifier mode theirs
      ((RecoveryPlan.ofMaps identifier mode
        (ledger.recordsOf identifier.key).unsettled theirs).steps.filterMap (·.frame?)) left := by
  obtain ⟨ready, planned, sameStore, stillWorks⟩ :=
    works.exists_planRecovery (represents.retrieveAll identifier) mode theirs
  rw [← sameStore] at represents
  obtain ⟨left, applied⟩ := stillWorks.exists_carryOutAll (represents.finds identifier) _
  exact ⟨left, _, ready, planned, applied⟩

end Storage

/-! ## A round made again -/

theorem Record.mayReplace_self (record : Record) : mayReplace (some record) record = .ok () := by
  simp [mayReplace, advance, State.canAdvanceTo_self]

theorem Store.Represents.save_held {store : Store} {ledger : Ledger} {identifier : Identifier}
    {record : Record} (represents : store.Represents ledger)
    (held : ledger.get? ⟨identifier.key, record.tag⟩ = some record) :
    store.save identifier record = .ok store := by
  cases store with
  | memory store =>
      have listed := MemoryStore.Represents.retrieveAll represents identifier
      have found : (store.retrieveAll identifier).get? record.tag = some record := by
        rw [listed, Ledger.get?_recordsOf, held]
      have placed : store.termini.get? identifier.key = some (store.retrieveAll identifier) := by
        rw [MemoryStore.retrieveAll] at found ⊢
        cases place : store.termini.get? identifier.key with
        | none =>
            rw [place] at found
            cases found
        | some _ => rfl
      simp only [Store.save, MemoryStore.save, found, Record.mayReplace_self,
        SortedMap.insert_of_get? found, SortedMap.insert_of_get? placed, Except.map]
  | rows store =>
      have isRow : store.rows.get? (RowKey.of identifier record.tag) =
          some (Row.ofRecord record) := by
        rw [RowStore.Represents.rows represents, held, Option.map_some]
      simp only [Store.save, RowStore.save, RowStore.Represents.retrieve represents, held,
        Record.mayReplace_self, SortedMap.insert_of_get? isRow, Except.map]

namespace Storage

variable {storage left : Storage} {identifier : Identifier} {ledger : Ledger}

/-- A step that drops nothing, and has no record to mark that is not marked, leaves the store as
it is. -/
theorem store_carryOut_of_leaves {step : RecoveryStep}
    (represents : storage.store.Represents ledger) (keeps : step.drops = false)
    (same : step.leaves (ledger.get? ⟨identifier.key, step.tag⟩) =
      ledger.get? ⟨identifier.key, step.tag⟩)
    (done : storage.carryOut identifier step = (.ok (), left)) : left.store = storage.store := by
  rw [carryOut_eq, keeps, if_neg Bool.false_ne_true] at done
  split at done
  · next marks =>
      have sameStore := retrieve_store storage identifier step.tag
      simp only [markResumed] at done
      split at done
      · cases done
      · next retrieved =>
          cases done
          rwa [retrieved] at sameStore
      · next record after retrieved =>
          rw [retrieved] at sameStore
          have held := retrieve_ok retrieved
          rw [represents.retrieve, Except.ok.injEq] at held
          have isTag : record.tag = step.tag := represents.filed _ _ held
          have saved := save_ok done
          rw [held, RecoveryStep.leaves, keeps, if_neg Bool.false_ne_true, if_pos marks,
            Option.map_some, Option.some.injEq] at same
          rw [same, sameStore, represents.save_held (isTag ▸ held), Except.ok.injEq] at saved
          exact saved.symm
  · cases done
    rfl

/-- So do any number of such steps. -/
theorem store_carryOutAll_of_leaves {steps : List RecoveryStep} {frames : List Frame}
    (represents : storage.store.Represents ledger)
    (idle : ∀ step ∈ steps, step.drops = false ∧
      step.leaves (ledger.get? ⟨identifier.key, step.tag⟩) =
        ledger.get? ⟨identifier.key, step.tag⟩)
    (done : storage.carryOutAll identifier steps = (.ok frames, left)) :
    left.store = storage.store := by
  induction steps generalizing storage frames with
  | nil =>
      cases done
      rfl
  | cons step rest ih =>
      simp only [carryOutAll] at done
      split at done
      · cases done
      · next stepDone =>
          split at done <;> cases done
          next restDone =>
            obtain ⟨keeps, same⟩ := idle step List.mem_cons_self
            have sameStore := store_carryOut_of_leaves represents keeps same stepDone
            have others := ih (sameStore ▸ represents)
              (fun other member => idle other (List.mem_cons_of_mem _ member)) restDone
            exact others.trans sameStore

end Storage

/-- If deliveries are gone from one map, the tags that are left are listed as before. -/
theorem tagsOfEither_eq_filter {ours left theirs : Unsettled}
    (fewer : ∀ tag, (left.get? tag).isSome = true → (ours.get? tag).isSome = true) :
    tagsOfEither left theirs =
      (tagsOfEither ours theirs).filter (· ∈ tagsOfEither left theirs) := by
  have antisymmetric (first second : Tag) (below : compare first second = .lt)
      (above : compare second first = .lt) : first = second := by
    rw [Std.OrientedCmp.gt_of_lt below] at above
    cases above
  refine List.Perm.eq_of_pairwise (fun first second _ _ => antisymmetric first second)
    (SortedMap.pairwise_keys _) ((SortedMap.pairwise_keys _).filter _) ?_
  refine (List.perm_ext_iff_of_nodup (nodup_tagsOfEither _ _)
    ((nodup_tagsOfEither _ _).filter _)).2 fun tag => ?_
  rw [List.mem_filter, decide_eq_true_eq]
  refine ⟨fun listed => ⟨?_, listed⟩, fun both => both.2⟩
  exact mem_tagsOfEither_iff.2 ((mem_tagsOfEither_iff.1 listed).imp_left (fewer tag))

theorem RecoveryStep.filterMap_frame?_again {role : Role} {mode : SettleMode}
    {ours left theirs : Unsettled}
    (isLeft : ∀ tag, left.get? tag =
      if (ofMaps role mode ours theirs tag).drops then none else ours.get? tag) :
    (tagsOfEither left theirs).filterMap (fun tag => (ofMaps role mode left theirs tag).frame?) =
      ((tagsOfEither ours theirs).filterMap fun tag =>
        (ofMaps role mode ours theirs tag).frame?).filter (!·.isFinal) := by
  have fewer (tag : Tag) (isThere : (left.get? tag).isSome = true) :
      (ours.get? tag).isSome = true := by
    rw [isLeft] at isThere
    split at isThere
    · cases isThere
    · exact isThere
  rw [List.filter_filterMap, tagsOfEither_eq_filter fewer, List.filterMap_filter]
  apply List.filterMap_congr
  intro tag _
  rw [← (ofMaps_again (isLeft tag)).2]
  split
  · rfl
  · next unlisted =>
      rw [decide_eq_true_eq, mem_tagsOfEither_iff, not_or, Option.not_isSome_iff_eq_none]
        at unlisted
      exact (frame?_ofMaps_of_none unlisted.1 _ _ _).symm

/-- A round that is made again, against the same deliveries and in the same mode, leaves the
store as it is, and sends what did not end a delivery. -/
theorem Storage.Recovers.again {storage left again leftAgain : Storage}
    {identifier : Identifier} {ledger : Ledger} {mode : SettleMode} {theirs : Unsettled}
    {sent sentAgain : List Frame} (represents : storage.store.Represents ledger)
    (first : storage.Recovers identifier mode theirs sent left)
    (sameStore : again.store = left.store)
    (second : again.Recovers identifier mode theirs sentAgain leftAgain) :
    leftAgain.store = again.store ∧ sentAgain = sent.filter (!·.isFinal) := by
  obtain ⟨isSent, later, keeps, isLater⟩ := first.cases represents
  rw [← sameStore] at keeps
  have isLeft (tag : Tag) : (later.recordsOf identifier.key).unsettled.get? tag =
      if (RecoveryStep.ofMaps identifier.role mode (ledger.recordsOf identifier.key).unsettled
        theirs tag).drops then none
      else (ledger.recordsOf identifier.key).unsettled.get? tag := by
    simp only [Ledger.get?_unsettled, Ledger.stateOf, isLater, if_true]
    exact RecoveryStep.map_state_leaves _ _
  constructor
  · obtain ⟨plan, ready, planned, applied⟩ := second
    obtain ⟨sameAgain, _, isRead, rfl⟩ := planRecovery_eq_ok planned
    rw [keeps.retrieveAll, Except.ok.injEq] at isRead
    subst isRead
    rw [← sameAgain] at keeps ⊢
    refine store_carryOutAll_of_leaves keeps (fun step isStep => ?_) applied
    rw [RecoveryPlan.steps_ofMaps, List.mem_map] at isStep
    obtain ⟨tag, _, rfl⟩ := isStep
    have held : later.get? ⟨identifier.key, tag⟩ = (RecoveryStep.ofMaps identifier.role mode
        (ledger.recordsOf identifier.key).unsettled theirs tag).leaves
          (ledger.get? ⟨identifier.key, tag⟩) := by
      rw [isLater, if_pos rfl]
    refine ⟨(RecoveryStep.ofMaps_again (isLeft tag)).1, ?_⟩
    change RecoveryStep.leaves _ (later.get? ⟨identifier.key, tag⟩) =
      later.get? ⟨identifier.key, tag⟩
    rw [held]
    exact RecoveryStep.leaves_ofMaps_again (isLeft tag) _
  · obtain ⟨isSentAgain, _⟩ := second.cases keeps
    rw [isSentAgain, isSent]
    exact RecoveryStep.filterMap_frame?_again isLeft

/-! ## Any number of rounds -/

/-- What is left of a ledger if deliveries go but none comes or moves on. -/
def Ledger.Shrinks (before after : Ledger) : Prop :=
  ∀ key state, after.stateOf key = some state → before.stateOf key = some state

theorem Ledger.Shrinks.trans {first second third : Ledger} (once : first.Shrinks second)
    (twice : second.Shrinks third) : first.Shrinks third := by
  intro key state isState
  exact once key state (twice key state isState)

theorem Ledger.Shrinks.get?_eq_none {before after : Ledger} (shrinks : before.Shrinks after)
    {key : DeliveryKey} (unknown : before.get? key = none) : after.get? key = none := by
  cases found : after.get? key with
  | none => rfl
  | some record =>
      have wasState := shrinks key record.state (by rw [stateOf, found, Option.map_some])
      rw [stateOf, unknown] at wasState
      cases wasState

/-- A call that records no delivery takes records out at most. -/
theorem Storage.call_shrinks {storage : Storage} {ledger : Ledger} {call : StoreCall}
    (represents : storage.store.Represents ledger)
    (recordsNone : ∀ other record, call ≠ .save other record) :
    ∃ later, (storage.call call).2.store.Represents later ∧ ledger.Shrinks later := by
  have unchanged {store : Store} (same : store = storage.store) :
      ∃ later, store.Represents later ∧ ledger.Shrinks later :=
    ⟨ledger, same ▸ represents, fun _ _ isState => isState⟩
  cases call with
  | save other record => exact absurd rfl (recordsNone other record)
  | retrieve other tag => exact unchanged (Storage.retrieve_store storage other tag)
  | retrieveAll other =>
      simp only [Storage.call, Storage.retrieveAll]
      split <;> exact unchanged rfl
  | remove other tag =>
      simp only [Storage.call, Storage.remove]
      split
      · exact unchanged rfl
      · refine ⟨_, (represents.remove other tag).2, fun key state isState => ?_⟩
        rw [Ledger.stateOf, Option.map_eq_some_iff] at isState
        obtain ⟨record, found, rfl⟩ := isState
        rw [Ledger.stateOf, (SortedMap.get?_erase_eq_some_iff.1 found).2, Option.map_some]
  | removeAll other =>
      simp only [Storage.call, Storage.removeAll]
      split
      · exact unchanged rfl
      · refine ⟨_, (represents.removeAll other).2, fun key state isState => ?_⟩
        rw [Ledger.stateOf, Ledger.get?_without] at isState
        split at isState
        · cases isState
        · exact isState

/-- What a round does: it sends only for deliveries with a record, one transfer each, and a
transfer that ends its delivery goes with the record. -/
theorem Storage.Recovers.shrinks {storage left : Storage} {identifier : Identifier}
    {ledger : Ledger} {mode : SettleMode} {theirs : Unsettled} {sent : List Frame}
    (recovers : storage.Recovers identifier mode theirs sent left)
    (represents : storage.store.Represents ledger) :
    ∃ later, left.store.Represents later ∧ ledger.Shrinks later ∧
      (∀ frame ∈ sent, ledger.get? ⟨identifier.key, frame.tag⟩ ≠ none) ∧
      (∀ frame ∈ sent, frame.isFinal = true → later.get? ⟨identifier.key, frame.tag⟩ = none) ∧
      sent.Pairwise fun first second => second.tag ≠ first.tag := by
  obtain ⟨isSent, later, keeps, isLater⟩ := recovers.cases represents
  have ofSent (frame : Frame) (member : frame ∈ sent) :
      (RecoveryStep.ofMaps identifier.role mode (ledger.recordsOf identifier.key).unsettled theirs
        frame.tag).frame? = some frame := by
    rw [isSent, List.mem_filterMap] at member
    obtain ⟨tag, _, sends⟩ := member
    obtain rfl : frame.tag = tag := RecoveryStep.tag_of_frame? sends
    exact sends
  refine ⟨later, keeps, fun key state isState => ?_, fun frame member unknown => ?_,
    fun frame member isFinal => ?_, ?_⟩
  · rw [Ledger.stateOf, isLater] at isState
    split at isState
    · rw [RecoveryStep.map_state_leaves] at isState
      split at isState
      · cases isState
      · exact isState
    · exact isState
  · have sends := ofSent frame member
    rw [RecoveryStep.frame?_ofMaps_of_none] at sends
    · cases sends
    · rw [Ledger.get?_unsettled, Ledger.stateOf, unknown, Option.map_none]
  · rw [isLater, if_pos rfl, RecoveryStep.leaves, ← RecoveryStep.isFinal_eq_drops
      (ofSent frame member), if_pos isFinal]
  · rw [isSent]
    refine List.Pairwise.filterMap _ ?_ (nodup_tagsOfEither _ _)
    intro first second apart frame sends other sendsOther same
    rw [RecoveryStep.tag_of_frame? sends, RecoveryStep.tag_of_frame? sendsOther] at same
    exact apart same.symm

/-- However many rounds there were, a delivery that was ended has no record, and nothing was
sent for it after that. -/
theorem Rounds.ended {identifier : Identifier} {first last : Store} {sent : List Frame}
    {ledger : Ledger} (rounds : Rounds identifier first sent last)
    (represents : first.Represents ledger) :
    ∃ later, last.Represents later ∧ ledger.Shrinks later ∧
      (∀ frame ∈ sent, frame.isFinal = true → later.get? ⟨identifier.key, frame.tag⟩ = none) ∧
      sent.Pairwise fun earlier later => earlier.isFinal = true → later.tag ≠ earlier.tag := by
  induction rounds with
  | start => exact ⟨ledger, represents, fun _ _ isState => isState, by simp, .nil⟩
  | call _ recordsNone ih =>
      obtain ⟨between, keeps, shrinks, isEnded, once⟩ := ih
      obtain ⟨later, keepsLater, shrinksLater⟩ := Storage.call_shrinks keeps recordsNone
      refine ⟨later, keepsLater, shrinks.trans shrinksLater, fun frame member isFinal => ?_, once⟩
      exact shrinksLater.get?_eq_none (isEnded frame member isFinal)
  | round _ recovers ih =>
      obtain ⟨between, keeps, shrinks, isEnded, once⟩ := ih
      obtain ⟨later, keepsLater, shrinksLater, known, ends, apart⟩ := recovers.shrinks keeps
      refine ⟨later, keepsLater, shrinks.trans shrinksLater, fun frame member isFinal => ?_, ?_⟩
      · rcases List.mem_append.1 member with isEarlier | isSent
        · exact shrinksLater.get?_eq_none (isEnded frame isEarlier isFinal)
        · exact ends frame isSent isFinal
      · refine List.pairwise_append.2 ⟨once, ?_, ?_⟩
        · exact apart.imp fun {first second} differs (_ : first.isFinal = true) => differs
        · intro old isOld new isNew isFinal same
          exact known new isNew (same ▸ isEnded old isOld isFinal)

/-- The store is one that holds what some ledger says, as every store does that was filled by
calls (`Storage.Works.callAll_eq`).  In any number of rounds, against whatever the other end
tells and in whatever modes, records go but none comes or changes its state.  Of the transfers for
one delivery one at most gives it up or settles it, and none comes after that one.  A round that
is made once more, with the same deliveries and in the same mode, succeeds if the store works,
leaves the store as it is, and sends those transfers of the first time that neither gave up nor
settled a delivery. -/
theorem final_sent_once {identifier : Identifier} {first last : Store} {sent : List Frame}
    {ledger : Ledger} (represents : first.Represents ledger)
    (rounds : Rounds identifier first sent last) :
    (∃ before after, first.retrieveAll identifier = .ok before ∧
      last.retrieveAll identifier = .ok after ∧ ∀ tag state,
        after.unsettled.get? tag = some state → before.unsettled.get? tag = some state) ∧
    (∀ tag, (sent.filter fun frame => frame.tag = tag && frame.isFinal).length ≤ 1) ∧
    (sent.Pairwise fun earlier later => earlier.isFinal = true → later.tag ≠ earlier.tag) ∧
    ∀ (storage left : Storage) mode theirs frames, storage.store = last →
      storage.Recovers identifier mode theirs frames left →
      ∀ again : Storage, again.store = left.store →
        (∀ framesAgain leftAgain,
          again.Recovers identifier mode theirs framesAgain leftAgain →
            leftAgain.store = left.store ∧ framesAgain = frames.filter (!·.isFinal)) ∧
        (again.Works → ∃ framesAgain leftAgain,
          again.Recovers identifier mode theirs framesAgain leftAgain) := by
  obtain ⟨later, keeps, shrinks, _, once⟩ := rounds.ended represents
  refine ⟨⟨_, _, represents.retrieveAll identifier, keeps.retrieveAll identifier, ?_⟩, ?_, once,
    ?_⟩
  · intro tag state isState
    rw [Ledger.get?_unsettled] at isState ⊢
    exact shrinks _ state isState
  · intro tag
    have onceOf := once.filter fun frame => decide (frame.tag = tag) && frame.isFinal
    cases filtered : sent.filter fun frame => decide (frame.tag = tag) && frame.isFinal with
    | nil => exact Nat.zero_le _
    | cons frame rest =>
        have allOf (other : Frame) (member : other ∈ frame :: rest) :
            other.tag = tag ∧ other.isFinal = true := by
          rw [← filtered, List.mem_filter, Bool.and_eq_true, decide_eq_true_eq] at member
          exact member.2
        cases rest with
        | nil => exact Nat.le_refl _
        | cons second _ =>
            rw [filtered, List.pairwise_cons] at onceOf
            have isFirst := allOf frame (by simp)
            have isSecond := allOf second (by simp)
            exact absurd (isSecond.1.trans isFirst.1.symm) (onceOf.1 second (by simp) isFirst.2)
  · intro storage left mode theirs frames isLast recovers again sameStore
    rw [← isLast] at keeps
    constructor
    · intro framesAgain leftAgain recoversAgain
      obtain ⟨stays, sends⟩ := recovers.again keeps sameStore recoversAgain
      exact ⟨stays.trans sameStore, sends⟩
    · intro works
      obtain ⟨_, keepsAgain, _⟩ := recovers.shrinks keeps
      rw [← sameStore] at keepsAgain
      obtain ⟨leftAgain, recoversAgain⟩ :=
        works.exists_recovers keepsAgain identifier mode theirs
      exact ⟨_, leftAgain, recoversAgain⟩

namespace Sample

/-- The store of the producer, without any outage. -/
def stocked : Storage := (Storage.callAll { store := .memory {} } recorded).2

/-- What the producer sends in a first round. -/
def firstRound : List Frame :=
  [⟨givenUp, ⟨true, true, false, none⟩⟩, ⟨resumed, ⟨true, false, false, none⟩⟩]

end Sample

/-- One delivery is given up in the first round, and only the other one is resumed in the
second. -/
theorem final_sent_once_sample :
    ∃ left, Sample.stocked.Recovers Sample.producer .onReceive Sample.known Sample.firstRound
        left ∧
      (Sample.firstRound.filter fun frame =>
        frame.tag = Sample.givenUp && frame.isFinal).length ≤ 1 ∧
      ∀ (again leftAgain : Storage) framesAgain, again.store = left.store →
        again.Recovers Sample.producer .onReceive Sample.known framesAgain leftAgain →
          leftAgain.store = left.store ∧
            framesAgain = [⟨Sample.resumed, ⟨true, false, false, none⟩⟩] := by
  have works : Sample.stocked.Works := (Storage.works_of_never _).callAll _
  have represents : Sample.stocked.store.Represents (Ledger.answerAll ∅ Sample.recorded).2 :=
    ((Storage.works_of_never (.memory {})).callAll_eq MemoryStore.Represents.empty _).2
  obtain ⟨left, recovers⟩ :=
    works.exists_recovers represents Sample.producer .onReceive Sample.known
  have sent : (RecoveryPlan.ofMaps Sample.producer .onReceive
      (Ledger.recordsOf (Ledger.answerAll ∅ Sample.recorded).2 Sample.producer.key).unsettled
      Sample.known).steps.filterMap (·.frame?) = Sample.firstRound := by
    decide +kernel
  rw [sent] at recovers
  refine ⟨left, recovers, ?_, ?_⟩
  · exact (final_sent_once represents (.round .start recovers)).2.1 Sample.givenUp
  · intro again leftAgain framesAgain sameStore recoversAgain
    have repeated := (final_sent_once represents .start).2.2.2 _ left _ _ _ rfl recovers again
      sameStore
    obtain ⟨stays, sends⟩ := repeated.1 framesAgain leftAgain recoversAgain
    refine ⟨stays, sends.trans ?_⟩
    decide +kernel

end Reattach
