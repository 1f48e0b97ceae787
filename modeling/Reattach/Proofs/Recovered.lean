import Reattach.Proofs.Rounds

/-!
# What a recovery does

A plan is made from the records that a store lists and carried out on those that it finds.
It covers each delivery that either end knows of with one step, and a plan that is carried
out leaves of each record just what the decision for its delivery leaves: a sender what its
directive says, a receiver the records that it can still expect a transfer for.
-/

namespace Reattach

/-! ## What a plan covers -/

/-- That a plan is the one for two maps of unsettled deliveries: it has one step for each
delivery of either map, in the order of the tags, decided by what the maps say of it. -/
structure RecoveryPlan.IsFor (plan : RecoveryPlan) (identifier : Identifier) (mode : SettleMode)
    (ours theirs : Unsettled) : Prop where
  terminus : plan.identifier = identifier
  ordered : plan.steps.Pairwise fun step later => compare step.tag later.tag = .lt
  mem_iff : ∀ step, step ∈ plan.steps ↔
    ((ours.get? step.tag).isSome = true ∨ (theirs.get? step.tag).isSome = true) ∧
      step.ours = ours.get? step.tag ∧ step.theirs = theirs.get? step.tag ∧
      step.decision = decideFor identifier.role mode (ours.get? step.tag) (theirs.get? step.tag)

theorem pairwise_tagsOfEither (ours theirs : Unsettled) :
    (tagsOfEither ours theirs).Pairwise fun tag later => compare tag later = .lt :=
  SortedMap.pairwise_keys _

theorem RecoveryPlan.isFor_ofMaps (identifier : Identifier) (mode : SettleMode)
    (ours theirs : Unsettled) :
    (ofMaps identifier mode ours theirs).IsFor identifier mode ours theirs where
  terminus := rfl
  ordered := by
    rw [steps_ofMaps, List.pairwise_map]
    exact pairwise_tagsOfEither ours theirs
  mem_iff step := by
    rw [steps_ofMaps, List.mem_map]
    constructor
    · rintro ⟨tag, listed, rfl⟩
      exact ⟨mem_tagsOfEither_iff.1 listed, rfl, rfl, rfl⟩
    · rintro ⟨listed, isOurs, isTheirs, decided⟩
      refine ⟨step.tag, mem_tagsOfEither_iff.2 listed, ?_⟩
      cases step
      simp only [RecoveryStep.ofMaps, RecoveryStep.mk.injEq]
      exact ⟨trivial, isOurs.symm, isTheirs.symm, decided.symm⟩

/-! ## What is sent -/

theorem Directive.isSome_frame? (directive : Directive) (tag : Tag) :
    (directive.frame? tag).isSome = directive.emitsFrame := by
  rw [frame?, Option.isSome_map]
  rfl

theorem RecoveryStep.isSome_frame? (step : RecoveryStep) :
    step.frame?.isSome = step.emitsFrame := by
  simp only [frame?, emitsFrame]
  split
  · exact Directive.isSome_frame? _ _
  · rfl

theorem RecoveryPlan.length_frames (plan : RecoveryPlan) :
    (plan.steps.filterMap (·.frame?)).length = plan.frameCount := by
  rw [List.length_filterMap_eq_countP, frameCount]
  simp only [RecoveryStep.isSome_frame?]

theorem RecoveryPlan.IsFor.pairwise_frames {plan : RecoveryPlan} {identifier : Identifier}
    {mode : SettleMode} {ours theirs : Unsettled}
    (isFor : plan.IsFor identifier mode ours theirs) :
    (plan.steps.filterMap (·.frame?)).Pairwise fun frame later =>
      compare frame.tag later.tag = .lt := by
  rw [List.pairwise_filterMap]
  refine isFor.ordered.imp fun {step later} inOrder frame isFrame other isOther => ?_
  rwa [RecoveryStep.tag_of_frame? isFrame, RecoveryStep.tag_of_frame? isOther]

/-- What a sender sends for a delivery is the transfer of its directive. -/
theorem RecoveryPlan.mem_frames_ofMaps_iff {identifier : Identifier}
    (isSender : identifier.role = .sender) {mode : SettleMode} {ours theirs : Unsettled}
    {frame : Frame} :
    frame ∈ (ofMaps identifier mode ours theirs).steps.filterMap (·.frame?) ↔
      (reconcileInMode mode (ours.get? frame.tag) (theirs.get? frame.tag)).frame? frame.tag =
        some frame := by
  have sent := frames_ofMaps identifier mode ours theirs frame.tag
  have isFrame : (RecoveryStep.ofMaps identifier.role mode ours theirs frame.tag).frame? =
      (reconcileInMode mode (ours.get? frame.tag) (theirs.get? frame.tag)).frame? frame.tag := by
    rw [isSender]
    rfl
  rw [← isFrame, ← Option.mem_toList, ← sent, List.mem_filter]
  simp

theorem RecoveryPlan.frames_ofMaps_receiver {identifier : Identifier}
    (isReceiver : identifier.role = .receiver) (mode : SettleMode) (ours theirs : Unsettled) :
    (ofMaps identifier mode ours theirs).steps.filterMap (·.frame?) = [] := by
  rw [steps_ofMaps, List.filterMap_map, List.filterMap_eq_nil_iff, isReceiver]
  exact fun _ _ => rfl

/-! ## What is left of a record -/

/-- What a directive leaves of the record of its delivery: nothing, the record marked as sent
again, or the record as it was. -/
def Directive.leaves (directive : Directive) (record : Record) : Option Record :=
  if directive.removesRecord then none
  else if directive.flags?.any (·.resume) then some { record with resumed := true }
  else some record

/-- A delivery of which both ends hold a record is always sent again. -/
theorem emitsFrame_reconcileHeld (sender receiver : State) :
    (reconcileHeld sender receiver).emitsFrame = true := by
  cases sender <;> cases receiver <;> simp only [reconcileHeld] <;> first | rfl | (split <;> rfl)

/-- A receiver can expect a transfer for a record of its own if the sender has one too, and
has not settled all it sent. -/
theorem emitsFrame_reconcileInMode_iff {mode : SettleMode} {sender : Option State}
    (receiver : State) :
    (reconcileInMode mode sender (some receiver)).emitsFrame = true ↔
      mode ≠ .onSend ∧ sender.isSome = true := by
  cases sender with
  | none => simp [reconcileInMode, Directive.emitsFrame, Directive.flags?]
  | some sender =>
      simp only [reconcileInMode, reconcile, Option.isSome_some, and_true]
      split
      · next onSend => simp [onSend, Directive.emitsFrame, Directive.flags?]
      · next other => simp [other, emitsFrame_reconcileHeld]

namespace RecoveryStep

variable {mode : SettleMode} {ours theirs : Unsettled} {tag : Tag} {found : Option Record}

/-- A sender's step leaves of a record what its directive leaves. -/
theorem leaves_ofMaps_sender (listed : found.isSome = true → (ours.get? tag).isSome = true) :
    (ofMaps .sender mode ours theirs tag).leaves found =
      found.bind (reconcileInMode mode (ours.get? tag) (theirs.get? tag)).leaves := by
  cases found with
  | none => exact leaves_none _
  | some record =>
      have known := listed rfl
      simp only [leaves, drops, marks, ofMaps, decideFor, known, Bool.true_and,
        Option.bind_some, Directive.leaves, Option.map_some]
      split
      · rfl
      · next keeps => simp [keeps]

/-- A receiver's step leaves a record for which a transfer can come. -/
theorem leaves_ofMaps_receiver (listed : found.isSome = true → (ours.get? tag).isSome = true) :
    (ofMaps .receiver mode ours theirs tag).leaves found =
      found.bind fun record =>
        if mode ≠ .onSend ∧ (theirs.get? tag).isSome = true then some record else none := by
  cases found with
  | none => exact leaves_none _
  | some record =>
      obtain ⟨state, known⟩ := Option.isSome_iff_exists.1 (listed rfl)
      simp only [leaves, drops, marks, ofMaps, decideFor, known, receiverAction,
        Option.isSome_some, Bool.true_and, Option.bind_some, ← emitsFrame_reconcileInMode_iff state]
      by_cases emits : (reconcileInMode mode (theirs.get? tag) (some state)).emitsFrame = true
      · simp [emits]
      · simp [emits]

end RecoveryStep

/-! ## What is left of a terminus' records -/

/-- That each record that a store finds stands under its own tag. -/
def Store.IsFiled (store : Store) : Prop :=
  ∀ identifier tag record,
    store.retrieve identifier tag = .ok (some record) → record.tag = tag

/-- So it is in a store of rows, whoever wrote them. -/
theorem Store.isFiled_rows (store : RowStore) : (Store.rows store).IsFiled := by
  intro identifier tag record found
  simp only [retrieve, RowStore.retrieve] at found
  split at found
  · cases found
  · split at found
    · cases found
    · next decoded =>
        cases found
        simp only [Row.decode, RowKey.of, Tag.ofHex, Tag.ofHex?_toHex] at decoded
        split at decoded <;> cases decoded
        rfl

theorem Store.Represents.isFiled {store : Store} {ledger : Ledger}
    (represents : store.Represents ledger) : store.IsFiled := by
  intro identifier tag record found
  rw [represents.retrieve, Except.ok.injEq] at found
  exact represents.filed ⟨identifier.key, tag⟩ record found

theorem Store.IsFiled.exists_finds {store : Store} (filed : store.IsFiled)
    {identifier : Identifier} {records : Records}
    (isRead : store.retrieveAll identifier = .ok records) :
    ∃ found, store.Finds identifier found ∧
      ∀ tag, (found tag).isSome = true → (records.get? tag).isSome = true := by
  choose found isFound using Store.exists_retrieve isRead
  refine ⟨found, ⟨isFound, fun tag record isRecord => ?_⟩, fun tag isThere => ?_⟩
  · exact filed identifier tag record (isRecord ▸ isFound tag)
  · obtain ⟨record, isRecord⟩ := Option.isSome_iff_exists.1 isThere
    exact Store.listed_of_retrieve (isRecord ▸ isFound tag) isRead

/-- That of a terminus' records just that is left which a change leaves of each: of the record
found for each delivery and, if the store has rows of its own only, of the records listed. -/
structure Storage.Leaves (storage left : Storage) (identifier : Identifier)
    (change : Tag → Record → Option Record) : Prop where
  each : ∀ tag, ∃ found, storage.store.retrieve identifier tag = .ok found ∧
    left.store.retrieve identifier tag = .ok (found.bind (change tag))
  together : ∀ ledger, storage.store.Represents ledger →
    ∃ listed, left.held identifier = .ok listed ∧ ∀ tag,
      listed.get? tag = ((ledger.recordsOf identifier.key).get? tag).bind (change tag)

namespace Storage

variable {storage ready left : Storage} {identifier : Identifier} {mode : SettleMode}
variable {theirs : Unsettled} {records : Records} {frames : List Frame}

theorem Recovers.leaves (recovers : storage.Recovers identifier mode theirs frames left)
    (filed : storage.store.IsFiled) (isRead : storage.held identifier = .ok records)
    {change : Tag → Record → Option Record}
    (isChange : ∀ tag found, (found.isSome = true → (records.unsettled.get? tag).isSome = true) →
      (RecoveryStep.ofMaps identifier.role mode records.unsettled theirs tag).leaves found =
        found.bind (change tag)) :
    storage.Leaves left identifier change := by
  have isListed (tag : Tag) :
      (records.unsettled.get? tag).isSome = (records.get? tag).isSome := by
    rw [Records.unsettled, SortedMap.get?_mapValues, Option.isSome_map]
  constructor
  · intro tag
    obtain ⟨found, finds, listed⟩ := filed.exists_finds isRead
    have listedOf := (isListed tag).symm ▸ listed tag
    refine ⟨found tag, finds.retrieve tag, ?_⟩
    obtain ⟨plan, ready, planned, applied⟩ := recovers
    obtain ⟨sameStore, _, isReadAgain, rfl⟩ := planRecovery_eq_ok planned
    obtain rfl : records = _ := Except.ok.inj (isRead.symm.trans isReadAgain)
    rw [← sameStore] at finds
    rw [(carryOutAll_finds (nodup_tagsOfEither _ _) (fun _ => rfl) finds applied).retrieve,
      Except.ok.injEq]
    split
    · exact isChange tag _ listedOf
    · next unlisted =>
        -- A delivery that no step is for has no record.
        rw [mem_tagsOfEither_iff, not_or] at unlisted
        rw [Option.not_isSome_iff_eq_none.1 fun isThere => unlisted.1 (listedOf isThere)]
        rfl
  · intro ledger represents
    obtain ⟨-, later, keeps, isLeft⟩ := recovers.cases represents
    obtain rfl : records = _ := Except.ok.inj (isRead.symm.trans (represents.retrieveAll _))
    refine ⟨later.recordsOf identifier.key, keeps.retrieveAll identifier, fun tag => ?_⟩
    rw [Ledger.get?_recordsOf, isLeft, if_pos rfl, ← Ledger.get?_recordsOf]
    exact isChange tag _ (by rw [isListed]; exact id)

/-- A terminus whose store works can recover if its records can be read. -/
theorem Works.exists_recovers_of_read (works : storage.Works) (filed : storage.store.IsFiled)
    (isRead : storage.held identifier = .ok records) (mode : SettleMode) (theirs : Unsettled) :
    ∃ sent left, storage.Recovers identifier mode theirs sent left := by
  obtain ⟨ready, planned, sameStore, stillWorks⟩ :=
    works.exists_planRecovery isRead mode theirs
  obtain ⟨found, finds, _⟩ := filed.exists_finds isRead
  rw [← sameStore] at finds
  obtain ⟨left, applied⟩ := stillWorks.exists_carryOutAll finds _
  exact ⟨_, left, _, ready, planned, applied⟩

end Storage

/-- A recovery does what it is planned to do, whatever the store holds and the other end
tells.  If the records of the terminus can be read, they are planned for unless the call
itself fails, and a store that works carries the plan out.  The plan has one step for each
delivery that either end knows of, in the order of the tags.  Once it is carried out, a
sender has sent the transfers that its directives call for, as many as the plan counts and in
the order of the tags, and each record is gone, marked or as it was, as its directive has it;
a receiver has sent nothing, and keeps, as they were, the records of the deliveries that the
sender told of, unless the sender settles all it sends.  No record comes to be, and those of
other termini stay. -/
theorem recovery_does_as_planned {storage : Storage} (filed : storage.store.IsFiled)
    (identifier : Identifier) (mode : SettleMode) (theirs : Unsettled) :
    (∀ records, storage.held identifier = .ok records →
      (storage.outages.retrieveAll.isDue = false →
        ∃ plan ready, storage.planRecovery identifier mode theirs = (.ok plan, ready)) ∧
      (storage.Works → ∃ sent left, storage.Recovers identifier mode theirs sent left)) ∧
    ∀ plan ready, storage.planRecovery identifier mode theirs = (.ok plan, ready) →
      ∃ records, storage.held identifier = .ok records ∧
        plan.IsFor identifier mode records.unsettled theirs ∧
        ∀ frames left, ready.applyPlan plan = (.ok frames, left) →
          frames.length = plan.frameCount ∧
          (identifier.role = .sender →
            frames.Pairwise (fun frame later => compare frame.tag later.tag = .lt) ∧
            (∀ frame, frame ∈ frames ↔
              (reconcileInMode mode (records.unsettled.get? frame.tag)
                (theirs.get? frame.tag)).frame? frame.tag = some frame) ∧
            storage.Leaves left identifier fun tag =>
              (reconcileInMode mode (records.unsettled.get? tag) (theirs.get? tag)).leaves) ∧
          (identifier.role = .receiver →
            frames = [] ∧
            storage.Leaves left identifier fun tag record =>
              if mode ≠ .onSend ∧ (theirs.get? tag).isSome = true then some record else none) ∧
          ∀ other : Identifier, other.key ≠ identifier.key →
            storage.store.AgreesOn left.store other := by
  refine ⟨fun records isRead => ⟨fun isUp => ?_, fun works => ?_⟩, fun plan ready planned => ?_⟩
  · have isListed : storage.store.retrieveAll identifier = .ok records := isRead
    have told : storage.unsettled identifier =
        (.ok records.unsettled, (storage.unsettled identifier).2) := by
      simp [Storage.unsettled, Storage.retrieveAll, isUp, isListed]
    exact ⟨_, _, Storage.planRecovery_of_unsettled mode theirs told⟩
  · exact works.exists_recovers_of_read filed isRead mode theirs
  · obtain ⟨sameStore, records, isRead, rfl⟩ := Storage.planRecovery_eq_ok planned
    have isFor := RecoveryPlan.isFor_ofMaps identifier mode records.unsettled theirs
    refine ⟨records, isRead, isFor, fun frames left applied => ?_⟩
    have recovers : storage.Recovers identifier mode theirs frames left :=
      ⟨_, ready, planned, applied⟩
    obtain rfl := Storage.carryOutAll_eq_ok applied
    refine ⟨RecoveryPlan.length_frames _, fun isSender => ⟨isFor.pairwise_frames, ?_, ?_⟩,
      fun isReceiver => ⟨RecoveryPlan.frames_ofMaps_receiver isReceiver _ _ _, ?_⟩, ?_⟩
    · exact fun frame => RecoveryPlan.mem_frames_ofMaps_iff isSender
    · refine recovers.leaves filed isRead fun tag found listed => ?_
      rw [isSender]
      exact RecoveryStep.leaves_ofMaps_sender listed
    · refine recovers.leaves filed isRead fun tag found listed => ?_
      rw [isReceiver]
      exact RecoveryStep.leaves_ofMaps_receiver listed
    · intro other apart
      rw [← sameStore]
      exact Storage.carryOutAll_agreesOn apart applied

namespace Sample

/-- Another terminus with records in the same store. -/
def consumer : Identifier := producer.peer none

/-- A delivery that the other end has not heard of, and one that only the other end has. -/
def unheardOf : Tag := ⟨[3]⟩

def strange : Tag := ⟨[4]⟩

def recovering : Storage :=
  (({ store := .memory {} } : Storage).callAll (recorded ++
    [.save producer { tag := unheardOf, state := .received },
      .save consumer { tag := strange, state := .unknown }])).2

/-- What the other end of the producer tells. -/
def toldToProducer : Unsettled :=
  .ofList [(givenUp, .unknown), (resumed, .unknown), (strange, .received)]

def recoveryPlan : RecoveryPlan :=
  .ofMaps producer .onReceive
    (.ofList [(givenUp, .terminal .accepted), (resumed, .unknown), (unheardOf, .received)])
    toldToProducer

/-- What is sent and left when the plan is carried out. -/
def recovered : Except StoreError (List Frame) × Storage :=
  (recovering.unsettled producer).2.applyPlan recoveryPlan

end Sample

/-- The producer gives one delivery up, resumes one and sends one as new; it gets no record of
the delivery that it does not know, which another terminus of the store has one of. -/
theorem recovery_does_as_planned_sample :
    let left := Sample.recovered.2
    Sample.recovered.1.toOption =
        some [⟨Sample.givenUp, ⟨true, true, false, none⟩⟩,
          ⟨Sample.resumed, ⟨true, false, false, none⟩⟩,
          ⟨Sample.unheardOf, ⟨false, false, false, none⟩⟩] ∧
      Sample.recoveryPlan.frameCount = 3 ∧
      (left.store.retrieve Sample.producer Sample.givenUp).toOption = some none ∧
      (left.store.retrieve Sample.producer Sample.resumed).toOption =
        some (some { tag := Sample.resumed, state := .unknown, resumed := true }) ∧
      (left.store.retrieve Sample.producer Sample.unheardOf).toOption =
        some (some { tag := Sample.unheardOf, state := .received }) ∧
      (left.store.retrieve Sample.producer Sample.strange).toOption = some none ∧
      Sample.recovering.store.AgreesOn left.store Sample.consumer := by
  intro left
  have filed : Sample.recovering.store.IsFiled :=
    ((Storage.works_of_never (.memory {})).callAll_eq MemoryStore.Represents.empty _).2.isFiled
  have planned : Sample.recovering.planRecovery Sample.producer .onReceive Sample.toldToProducer =
      (.ok Sample.recoveryPlan, _) :=
    Storage.planRecovery_of_unsettled .onReceive _
      (Prod.ext (eq_ok_of_toOption (by decide +kernel)) rfl)
  have sent : Sample.recovered.1.toOption = some [⟨Sample.givenUp, ⟨true, true, false, none⟩⟩,
      ⟨Sample.resumed, ⟨true, false, false, none⟩⟩,
      ⟨Sample.unheardOf, ⟨false, false, false, none⟩⟩] := by decide +kernel
  obtain ⟨_, does⟩ :=
    recovery_does_as_planned filed Sample.producer .onReceive Sample.toldToProducer
  obtain ⟨_, _, _, effect⟩ := does _ _ planned
  obtain ⟨counted, _, _, others⟩ := effect _ left (Prod.ext (eq_ok_of_toOption sent) rfl)
  exact ⟨sent, counted.symm, by decide +kernel, by decide +kernel, by decide +kernel,
    by decide +kernel, others Sample.consumer (by decide +kernel)⟩

end Reattach
