import Reattach.Proofs.Plans

/-!
# What an interrupted recovery loses

Transfers are handed over only when a whole plan is carried out, but records are dropped
step by step.  If a call to the store fails in between, the transfers decided so far are
dropped with the error, and a second plan decides by the records that are left.  It comes
to the same transfer for a delivery unless the record it was decided on is gone.
-/

namespace Reattach

/-- That a step sends a transfer and drops the record that it was decided on: the delivery
is given up or settled. -/
def RecoveryStep.IsLast (step : RecoveryStep) : Prop :=
  step.frame?.isSome = true ∧ step.drops = true

/-- That a step for a delivery, among those carried out, was the last that it gets. -/
def RecoveryStep.HadLast (steps : List RecoveryStep) (tag : Tag) : Prop :=
  ∃ step ∈ steps, step.tag = tag ∧ step.IsLast

theorem Ledger.get?_unsettled (ledger : Ledger) (terminus : Identifier.Key) (tag : Tag) :
    (ledger.recordsOf terminus).unsettled.get? tag = ledger.stateOf ⟨terminus, tag⟩ := by
  rw [Records.unsettled, SortedMap.get?_mapValues, get?_recordsOf, stateOf]

theorem RecoveryStep.anyDrops_iff {steps : List RecoveryStep} {tag : Tag} :
    anyDrops steps tag = true ↔ ∃ step ∈ steps, step.tag = tag ∧ step.drops = true := by
  simp [anyDrops]

/-- What a second plan sends for a delivery, after some steps of the first. -/
theorem RecoveryPlan.frames_after {identifier : Identifier} {mode : SettleMode}
    {ours left theirs : Unsettled} {done rest : List RecoveryStep}
    (divided : (ofMaps identifier mode ours theirs).steps = done ++ rest) (tag : Tag)
    (isLeft : left.get? tag =
      if RecoveryStep.anyDrops done tag = true then none else ours.get? tag) :
    let first := (ofMaps identifier mode ours theirs).steps.filterMap (·.frame?)
    let second := (ofMaps identifier mode left theirs).steps.filterMap (·.frame?)
    (second.filter (·.tag = tag) = first.filter (·.tag = tag) ↔
        ¬RecoveryStep.HadLast done tag) ∧
      (RecoveryStep.HadLast done tag → second.filter (·.tag = tag) = []) := by
  intro first second
  simp only [first, second, frames_ofMaps]
  by_cases dropped : RecoveryStep.anyDrops done tag = true
  · rw [if_pos dropped] at isLeft
    rw [RecoveryStep.frame?_ofMaps_of_none isLeft]
    have ofPlan (step : RecoveryStep) (isDone : step ∈ done) (isTag : step.tag = tag) :
        step = .ofMaps identifier.role mode ours theirs tag :=
      isTag ▸ eq_ofMaps_of_mem (divided ▸ List.mem_append_left rest isDone)
    have lastIff : RecoveryStep.HadLast done tag ↔
        (RecoveryStep.ofMaps identifier.role mode ours theirs tag).frame?.isSome = true := by
      constructor
      · rintro ⟨step, isDone, isTag, sends, _⟩
        exact ofPlan step isDone isTag ▸ sends
      · intro sends
        obtain ⟨step, isDone, isTag, drops⟩ := RecoveryStep.anyDrops_iff.1 dropped
        exact ⟨step, isDone, isTag, (ofPlan step isDone isTag).symm ▸ sends, drops⟩
    rw [lastIff]
    cases RecoveryStep.frame? _ <;> simp
  · rw [if_neg dropped] at isLeft
    have notLast : ¬RecoveryStep.HadLast done tag := by
      rintro ⟨step, isDone, isTag, _, drops⟩
      exact dropped (RecoveryStep.anyDrops_iff.2 ⟨step, isDone, isTag, drops⟩)
    have same : RecoveryStep.ofMaps identifier.role mode left theirs tag =
        .ofMaps identifier.role mode ours theirs tag := by
      simp only [RecoveryStep.ofMaps, isLeft]
    rw [same]
    exact ⟨iff_of_true rfl notLast, fun last => absurd last notLast⟩

/-- If carrying out a plan fails, it has failed at one step, with those before it carried out.
Once the store works, the terminus can plan anew against the same deliveries of the other end
and carry that out.  It then sends for a delivery what it had decided the first time if and
only if no step carried out before the failure was the last for that delivery: what was to be
given up or settled there is never sent. -/
theorem retry_loses_iff {identifier : Identifier} {mode : SettleMode} {theirs : Unsettled}
    {storage ready failed : Storage} {ledger : Ledger} {plan : RecoveryPlan} {error : StoreError}
    (represents : storage.store.Represents ledger)
    (planned : storage.planRecovery identifier mode theirs = (.ok plan, ready))
    (fails : ready.applyPlan plan = (.error error, failed)) :
    ∃ done failing rest reached, plan.steps = done ++ failing :: rest ∧
      ready.carryOutAll identifier done = (.ok (done.filterMap (·.frame?)), reached) ∧
      reached.carryOut identifier failing = (.error error, failed) ∧
      ∀ working : Storage, working.store = failed.store → working.Works →
        ∃ again readyAgain frames left,
          working.planRecovery identifier mode theirs = (.ok again, readyAgain) ∧
          readyAgain.applyPlan again = (.ok frames, left) ∧
          ∀ tag, (frames.filter (·.tag = tag) =
                (plan.steps.filterMap (·.frame?)).filter (·.tag = tag) ↔
              ¬RecoveryStep.HadLast done tag) ∧
            (RecoveryStep.HadLast done tag → frames.filter (·.tag = tag) = []) := by
  obtain ⟨sameStore, _, isRead, rfl⟩ := Storage.planRecovery_eq_ok planned
  rw [represents.retrieveAll, Except.ok.injEq] at isRead
  subst isRead
  change ready.carryOutAll identifier _ = _ at fails
  obtain ⟨done, failing, rest, reached, divided, isDone, stepFails⟩ :=
    Storage.carryOutAll_eq_error fails
  refine ⟨done, failing, rest, reached, divided, isDone, stepFails, ?_⟩
  intro working sameRecords works
  rw [← sameStore] at represents
  obtain ⟨later, keeps, isLeft⟩ := Storage.carryOutAll_represents represents isDone
  rw [← Storage.carryOut_error stepFails, ← sameRecords] at keeps
  obtain ⟨readyAgain, replanned, sameAgain, stillWorks⟩ :=
    works.exists_planRecovery (keeps.retrieveAll identifier) mode theirs
  rw [← sameAgain] at keeps
  obtain ⟨left, applied⟩ := stillWorks.exists_carryOutAll (keeps.finds identifier)
    (RecoveryPlan.ofMaps identifier mode (later.recordsOf identifier.key).unsettled theirs).steps
  refine ⟨_, readyAgain, _, left, replanned, applied, fun tag => ?_⟩
  apply RecoveryPlan.frames_after divided
  rw [Ledger.get?_unsettled, Ledger.get?_unsettled, isLeft]

namespace Sample

def producer : Identifier := ⟨"orders", .sender, none, by decide⟩

/-- A delivery that is given up, since only this end has decided it, and one that is
resumed. -/
def givenUp : Tag := ⟨[1]⟩

def resumed : Tag := ⟨[2]⟩

def recorded : List StoreCall :=
  [.save producer { tag := givenUp, state := .terminal .accepted },
    .save producer { tag := resumed, state := .unknown }]

/-- The store of the producer, of which the first read of a record is going to fail. -/
def faulty : Storage where
  store := (Storage.callAll { store := .memory {} } recorded).2.store
  outages := { retrieve := .first 1 }

/-- What the other end has not settled. -/
def known : Unsettled := .ofList [(givenUp, .unknown), (resumed, .unknown)]

def plan : RecoveryPlan :=
  .ofMaps producer .onReceive (.ofList [(givenUp, .terminal .accepted), (resumed, .unknown)]) known

/-- The outcome of carrying out the plan. -/
def failed : Except StoreError (List Frame) × Storage :=
  (faulty.unsettled producer).2.applyPlan plan

/-- The plan of the producer once its store works. -/
def second : Except StoreError RecoveryPlan × Storage :=
  Storage.planRecovery { failed.2 with outages := {} } producer .onReceive known

/-- What carrying out that plan sends. -/
def sent : Option (List Frame) :=
  second.1.toOption.bind fun plan => (second.2.applyPlan plan).1.toOption

theorem planned : faulty.planRecovery producer .onReceive known =
    (.ok plan, (faulty.unsettled producer).2) := by
  apply Storage.planRecovery_of_unsettled
  exact Prod.ext (eq_ok_of_toOption (by decide +kernel)) rfl

theorem sent_eq : sent = some [⟨resumed, ⟨true, false, false, none⟩⟩] := by decide +kernel

end Sample

/-- The transfer that gives a delivery up is lost when the store fails at the next one. -/
theorem retry_loses_sample :
    Sample.faulty.planRecovery Sample.producer .onReceive Sample.known =
        (.ok Sample.plan, (Sample.faulty.unsettled Sample.producer).2) ∧
      Sample.plan.steps.filterMap (·.frame?) =
        [⟨Sample.givenUp, ⟨true, true, false, none⟩⟩,
          ⟨Sample.resumed, ⟨true, false, false, none⟩⟩] ∧
      Sample.failed.1.toOption = none ∧
      Sample.sent = some [⟨Sample.resumed, ⟨true, false, false, none⟩⟩] :=
  ⟨Sample.planned, by decide +kernel, by decide +kernel, Sample.sent_eq⟩

/-- Its step was carried out before the failure. -/
theorem retry_loses_iff_sample :
    ∃ done rest, Sample.plan.steps = done ++ rest ∧
      RecoveryStep.HadLast done Sample.givenUp ∧ ¬RecoveryStep.HadLast done Sample.resumed := by
  have represents : Sample.faulty.store.Represents (Ledger.answerAll ∅ Sample.recorded).2 :=
    ((Storage.works_of_never (.memory {})).callAll_eq MemoryStore.Represents.empty _).2
  obtain ⟨error, fails⟩ : ∃ error, Sample.failed = (.error error, Sample.failed.2) := by
    have noFrames : Sample.failed.1.toOption = none := by decide +kernel
    cases outcome : Sample.failed.1 with
    | error error => exact ⟨error, Prod.ext outcome rfl⟩
    | ok _ => rw [outcome] at noFrames; cases noFrames
  obtain ⟨done, failing, rest, _, divided, _, _, retry⟩ :=
    retry_loses_iff represents Sample.planned fails
  obtain ⟨again, _, frames, _, replanned, applied, decided⟩ :=
    retry { Sample.failed.2 with outages := {} } rfl (Storage.works_of_never _)
  have sent : Sample.sent = some frames := by
    rw [Sample.sent, Sample.second, replanned]
    simp only [Except.toOption, Option.bind_some, applied]
  obtain rfl := Option.some.inj (sent.symm.trans Sample.sent_eq)
  refine ⟨done, failing :: rest, divided, ?_, (decided Sample.resumed).1.1 (by decide +kernel)⟩
  by_contra notLast
  exact absurd ((decided Sample.givenUp).1.2 notLast) (by decide +kernel)

end Reattach
