import Reattach.Proofs.Plans

/-!
# Both ends recover alike

The two ends of a link plan apart, each from its own records and from what the other tells
it.  They come to the same decisions: what the sender sends is what the receiver waits for,
and nothing else is waited for.
-/

namespace Reattach

/-- What goes over the wire is what arrives. -/
theorem Unsettled.ofWire_toWire (unsettled : Unsettled) : ofWire unsettled.toWire = unsettled := by
  apply SortedMap.ext_get?
  intro tag
  rw [get?_ofWire]
  apply SortedMap.lookup_eq_of_mem_iff
  intro state
  simp [toWire, ← unsettled.mem_toList_iff]

/-! ## What a receiver keeps -/

namespace Storage

variable {storage left : Storage} {identifier : Identifier}

/-- What a receiver finds after a step it found before, and the step did not drop it. -/
theorem retrieve_of_receive {step : RecoveryStep} {action : ReceiverAction}
    (decided : step.decision = .receive action)
    (done : storage.carryOut identifier step = (.ok (), left)) {tag : Tag} {record : Record}
    (found : left.store.retrieve identifier tag = .ok (some record)) :
    storage.store.retrieve identifier tag = .ok (some record) ∧
      (step.tag = tag → step.drops = false) := by
  obtain ⟨_, isLeft⟩ | ⟨keeps, isLeft⟩ | ⟨_, ⟨_, sends⟩, _⟩ := carryOut_cases done
  · rw [isLeft, Store.retrieve_remove] at found
    split at found
    · cases found
    · next apart => exact ⟨found, fun same => absurd ⟨rfl, same.symm⟩ apart⟩
  · exact ⟨isLeft ▸ found, fun _ => keeps⟩
  · rw [decided] at sends
    cases sends

/-- What a receiver finds at the end it found at the beginning, and no step dropped it. -/
theorem retrieve_of_receiveAll {steps : List RecoveryStep} {frames : List Frame}
    (decided : ∀ step ∈ steps, ∃ action, step.decision = .receive action)
    (done : storage.carryOutAll identifier steps = (.ok frames, left)) {tag : Tag}
    {record : Record} (found : left.store.retrieve identifier tag = .ok (some record)) :
    storage.store.retrieve identifier tag = .ok (some record) ∧
      ∀ step ∈ steps, step.tag = tag → step.drops = false := by
  induction steps generalizing storage frames with
  | nil =>
      cases done
      exact ⟨found, fun step member => nomatch member⟩
  | cons step rest ih =>
      rw [List.forall_mem_cons] at decided ⊢
      obtain ⟨⟨action, isAction⟩, decidedRest⟩ := decided
      simp only [carryOutAll] at done
      split at done
      · cases done
      · next stepDone =>
          split at done <;> cases done
          next restDone =>
            obtain ⟨between, keptByRest⟩ := ih decidedRest restDone
            obtain ⟨before, keptByStep⟩ := retrieve_of_receive isAction stepDone between
            exact ⟨before, keptByStep, keptByRest⟩

end Storage

/-! ## The two plans -/

/-- That the steps of a sender and of a receiver for one delivery fit: they see the same two
records, and the receiver waits for just what the sender sends. -/
structure RecoveryStep.Fits (sends receives : RecoveryStep) : Prop where
  tag : sends.tag = receives.tag
  ours : sends.ours = receives.theirs
  theirs : sends.theirs = receives.ours
  decisions : ∃ directive action, sends.decision = .send directive ∧
    receives.decision = .receive action ∧
    (directive.emitsFrame = true ↔ ∃ expected, action = .await expected) ∧
    ∀ expected, action = .await expected → expected = directive

/-- That a receiver's plan waits for one transfer of a delivery, and that this is the only
one among those sent. -/
def RecoveryPlan.Awaits (plan : RecoveryPlan) (frames : List Frame) (tag : Tag) : Prop :=
  ∃ flags, (∃ step ∈ plan.steps, step.tag = tag ∧
      step.decision = .receive (.await (.resend flags))) ∧
    frames.filter (·.tag = tag) = [⟨tag, flags⟩]

theorem receiverAction_eq_await_iff {mode : SettleMode} {receiver sender : Option State}
    {expected : Directive} :
    receiverAction mode receiver sender = .await expected ↔
      (reconcileInMode mode sender receiver).emitsFrame = true ∧
        expected = reconcileInMode mode sender receiver := by
  simp only [receiverAction]
  split
  · next emits => simp [emits, eq_comm]
  · next silent => simp [silent]

theorem RecoveryStep.fits_ofMaps (mode : SettleMode) (ours theirs : Unsettled) (tag : Tag) :
    (ofMaps .sender mode ours theirs tag).Fits (ofMaps .receiver mode theirs ours tag) where
  tag := rfl
  ours := rfl
  theirs := rfl
  decisions := by
    refine ⟨_, _, rfl, rfl, ?_, fun expected waits => (receiverAction_eq_await_iff.1 waits).2⟩
    simp [receiverAction_eq_await_iff]

section

variable {sender receiver : Identifier} {mode : SettleMode} {ours theirs : Unsettled}

theorem RecoveryPlan.fits_ofMaps (isSender : sender.role = .sender)
    (isReceiver : receiver.role = .receiver) :
    List.Forall₂ RecoveryStep.Fits (ofMaps sender mode ours theirs).steps
      (ofMaps receiver mode theirs ours).steps := by
  rw [steps_ofMaps, steps_ofMaps, tagsOfEither_comm theirs ours, isSender, isReceiver,
    List.forall₂_map_left_iff, List.forall₂_map_right_iff, List.forall₂_same]
  exact fun tag _ => RecoveryStep.fits_ofMaps mode ours theirs tag

/-- A record that no step of a receiver's plan drops is one that the plan awaits. -/
theorem RecoveryPlan.awaits_of_kept (isSender : sender.role = .sender)
    (isReceiver : receiver.role = .receiver) {tag : Tag}
    (known : (theirs.get? tag).isSome = true)
    (kept : ∀ step ∈ (ofMaps receiver mode theirs ours).steps,
      step.tag = tag → step.drops = false) :
    (ofMaps receiver mode theirs ours).Awaits
      ((ofMaps sender mode ours theirs).steps.filterMap (·.frame?)) tag := by
  let step := RecoveryStep.ofMaps .receiver mode theirs ours tag
  have member : step ∈ (ofMaps receiver mode theirs ours).steps := by
    rw [steps_ofMaps, isReceiver]
    exact List.mem_map_of_mem (mem_tagsOfEither_iff.2 (.inl known))
  have isKept := kept step member rfl
  simp only [step, RecoveryStep.drops, RecoveryStep.ofMaps, decideFor, known, Bool.true_and]
    at isKept
  cases sent : reconcileInMode mode (ours.get? tag) (theirs.get? tag) with
  | skip | skipAndForget =>
      simp [receiverAction, sent, Directive.emitsFrame, Directive.flags?] at isKept
  | resend flags =>
      refine ⟨flags, ⟨step, member, rfl, ?_⟩, ?_⟩
      · exact congrArg Decision.receive
          (receiverAction_eq_await_iff.2 ⟨by rw [sent]; rfl, sent.symm⟩)
      · rw [frames_ofMaps, isSender]
        simp [RecoveryStep.frame?, RecoveryStep.ofMaps, decideFor, sent, Directive.frame?,
          Directive.flags?]

/-- A record that a receiver still finds at the end is one that its plan awaits. -/
theorem RecoveryPlan.awaits_of_found (isSender : sender.role = .sender)
    (isReceiver : receiver.role = .receiver) {storage left : Storage} {records : Records}
    {received : List Frame} (isRead : storage.store.retrieveAll receiver = .ok records)
    (applied : storage.applyPlan (ofMaps receiver mode records.unsettled ours) =
      (.ok received, left))
    {tag : Tag} {record : Record}
    (found : left.store.retrieve receiver tag = .ok (some record)) :
    (ofMaps receiver mode records.unsettled ours).Awaits
      ((ofMaps sender mode ours records.unsettled).steps.filterMap (·.frame?)) tag := by
  have decided : ∀ step ∈ (ofMaps receiver mode records.unsettled ours).steps,
      ∃ action, step.decision = .receive action := by
    intro step member
    rw [steps_ofMaps, List.mem_map] at member
    obtain ⟨other, _, rfl⟩ := member
    exact ⟨receiverAction mode (records.unsettled.get? other) (ours.get? other),
      by simp only [RecoveryStep.ofMaps, decideFor, isReceiver]⟩
  obtain ⟨before, kept⟩ := Storage.retrieve_of_receiveAll decided applied found
  refine awaits_of_kept isSender isReceiver ?_ kept
  rw [Records.unsettled, SortedMap.get?_mapValues, Option.isSome_map]
  exact Store.listed_of_retrieve before isRead

/-! ## The two recoveries -/

/-- The ends of a link recover alike, whatever their stores hold.  If each plans against what
the other tells it over the wire, their plans fit, delivery for delivery; and if both carry
their plans out, then whatever the receiver still has a record of it awaits, and it awaits
just what the sender sends for it, once.  That goes for the records that its store finds and,
if the store holds only rows of its own, for those that it lists. -/
theorem recoveries_agree (isSender : sender.role = .sender) (isReceiver : receiver.role = .receiver)
    {sending sendingTold sendingReady receiving receivingTold receivingReady : Storage}
    {sends receives : RecoveryPlan}
    (senderTells : sending.unsettled sender = (.ok ours, sendingTold))
    (receiverTells : receiving.unsettled receiver = (.ok theirs, receivingTold))
    (senderPlans : sendingTold.planRecovery sender mode (.ofWire theirs.toWire) =
      (.ok sends, sendingReady))
    (receiverPlans : receivingTold.planRecovery receiver mode (.ofWire ours.toWire) =
      (.ok receives, receivingReady)) :
    List.Forall₂ RecoveryStep.Fits sends.steps receives.steps ∧
    ∀ frames received sent kept, sendingReady.applyPlan sends = (.ok frames, sent) →
      receivingReady.applyPlan receives = (.ok received, kept) →
      (∀ tag record, kept.store.retrieve receiver tag = .ok (some record) →
        receives.Awaits frames tag) ∧
      ∀ ledger, receiving.store.Represents ledger → ∃ records,
        kept.store.retrieveAll receiver = .ok records ∧
        ∀ tag record, records.get? tag = some record → receives.Awaits frames tag := by
  obtain ⟨senderStays, ourRecords, senderReads, rfl⟩ := Storage.unsettled_eq_ok senderTells
  obtain ⟨receiverStays, theirRecords, receiverReads, rfl⟩ := Storage.unsettled_eq_ok receiverTells
  obtain ⟨_, _, senderRereads, rfl⟩ := Storage.planRecovery_eq_ok senderPlans
  obtain ⟨readyStays, _, receiverRereads, rfl⟩ := Storage.planRecovery_eq_ok receiverPlans
  -- Each end reads its records twice, for the other and for itself, and reads the same.
  rw [senderStays, senderReads, Except.ok.injEq] at senderRereads
  rw [receiverStays, receiverReads, Except.ok.injEq] at receiverRereads
  subst senderRereads receiverRereads
  rw [← receiverStays, ← readyStays] at receiverReads
  simp only [Unsettled.ofWire_toWire]
  refine ⟨RecoveryPlan.fits_ofMaps isSender isReceiver, ?_⟩
  intro frames received sent kept senderApplies receiverApplies
  rw [Storage.carryOutAll_eq_ok senderApplies]
  refine (and_iff_left_of_imp ?_).2 ?_
  · intro awaited ledger represents
    rw [← receiverStays, ← readyStays] at represents
    obtain ⟨later, keeps, _⟩ := Storage.carryOutAll_represents represents receiverApplies
    refine ⟨later.recordsOf receiver.key, keeps.retrieveAll receiver, ?_⟩
    intro tag record listed
    rw [Ledger.get?_recordsOf] at listed
    exact awaited tag record (by rw [keeps.retrieve, listed])
  · intro tag record found
    exact RecoveryPlan.awaits_of_found isSender isReceiver receiverReads receiverApplies found

end

namespace Sample

/-- The two ends of a link. -/
def sender : Identifier := ⟨"l", .sender, none, by decide⟩

def receiver : Identifier := sender.peer none

/-- A delivery that both ends know of, and one that only the receiver knows of. -/
def shared : Tag := ⟨[1]⟩

def leftOver : Tag := ⟨[2]⟩

def sending : Storage :=
  (({ store := .memory {} } : Storage).save sender { tag := shared, state := .unknown }).2

def receiving : Storage :=
  (({ store := .rows {} } : Storage).callAll
    [.save receiver { tag := shared, state := .unknown },
      .save receiver { tag := leftOver, state := .received }]).2

def ours : Unsettled := .ofList [(shared, .unknown)]

def theirs : Unsettled := .ofList [(shared, .unknown), (leftOver, .received)]

end Sample

/-- The receiver keeps the record of the delivery that is sent again, and drops the other. -/
theorem recoveries_agree_sample :
    let receives := RecoveryPlan.ofMaps Sample.receiver .onReceive Sample.theirs
      (.ofWire Sample.ours.toWire)
    let told := (Sample.receiving.unsettled Sample.receiver).2
    let ready := (told.unsettled Sample.receiver).2
    let kept := (ready.applyPlan receives).2.store
    (kept.retrieve Sample.receiver Sample.shared).toOption =
        some (some { tag := Sample.shared, state := .unknown }) ∧
      (kept.retrieve Sample.receiver Sample.leftOver).toOption = some none ∧
      receives.Awaits [⟨Sample.shared, ⟨true, false, false, none⟩⟩] Sample.shared := by
  intro receives told ready kept
  let sendingTold := (Sample.sending.unsettled Sample.sender).2
  have senderTells : Sample.sending.unsettled Sample.sender = (.ok Sample.ours, sendingTold) :=
    Prod.ext (eq_ok_of_toOption (by decide +kernel)) rfl
  have senderRereads : sendingTold.unsettled Sample.sender = (.ok Sample.ours, _) :=
    Prod.ext (eq_ok_of_toOption (by decide +kernel)) rfl
  have receiverTells : Sample.receiving.unsettled Sample.receiver = (.ok Sample.theirs, told) :=
    Prod.ext (eq_ok_of_toOption (by decide +kernel)) rfl
  have receiverRereads : told.unsettled Sample.receiver = (.ok Sample.theirs, ready) :=
    Prod.ext (eq_ok_of_toOption (by decide +kernel)) rfl
  obtain ⟨_, applied⟩ := recoveries_agree rfl rfl senderTells receiverTells
    (Storage.planRecovery_of_unsettled .onReceive _ senderRereads)
    (Storage.planRecovery_of_unsettled .onReceive _ receiverRereads)
  obtain ⟨awaited, _⟩ := applied [⟨Sample.shared, ⟨true, false, false, none⟩⟩] [] _ _
    (Prod.ext (eq_ok_of_toOption (by decide +kernel)) rfl)
    (Prod.ext (eq_ok_of_toOption (by decide +kernel)) rfl)
  have found : (kept.retrieve Sample.receiver Sample.shared).toOption =
      some (some { tag := Sample.shared, state := .unknown }) := by decide +kernel
  exact ⟨found, by decide +kernel, awaited _ _ (eq_ok_of_toOption found)⟩

end Reattach
