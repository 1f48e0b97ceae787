import Reattach.Proofs.Changes

/-!
# Expiries that operations call for

An expiry that is called for by a suspension that has just begun is arranged: carried out
on the spot, or left to a timer.  Of several that are called for together, none gets in
the way of another.
-/

namespace Reattach.Registry

variable {operation : Operation} {origin registry later : Registry}

/-! ## Termini in their new state -/

theorem moveTerminus_eq (registry : Registry) (id : TerminusId) (terminus : Terminus)
    (event : Event) :
    ∃ channel, registry.moveTerminus id terminus event =
      { registry with termini := registry.termini.setIfInBounds id terminus, channel } := by
  simp only [moveTerminus]
  split
  · exact ⟨_, rfl⟩
  · exact ⟨_, rfl⟩

theorem expireTerminus_eq (registry : Registry) {id : TerminusId} {terminus : Terminus}
    (known : registry.termini[id]? = some terminus) (epoch : Option Nat) :
    ∃ channel termini, (registry.expireTerminus id epoch).2 = { registry with termini, channel } ∧
      Puts registry.termini id ((terminus.expire epoch).getD terminus) termini := by
  simp only [expireTerminus, known, Option.bind_some]
  cases expired : terminus.expire epoch with
  | none => exact ⟨_, _, rfl, .refl known⟩
  | some grown =>
      rcases moveTerminus_eq registry id grown (.expired grown.identifier) with ⟨channel, moved⟩
      exact ⟨channel, _, moved, .set known grown⟩

theorem suspendTerminus_cases {id : TerminusId} {terminus : Terminus}
    (known : registry.termini[id]? = some terminus) :
    registry.suspendTerminus id = (none, registry) ∧ terminus.phase ≠ .active ∨
      ∃ grown channel termini, terminus.suspend registry.now = some grown ∧
        Puts registry.termini id grown termini ∧
        registry.suspendTerminus id = (some grown.epoch, { registry with termini, channel }) := by
  simp only [suspendTerminus, known, Option.bind_some]
  cases suspended : terminus.suspend registry.now with
  | none =>
      refine .inl ⟨rfl, fun isActive => ?_⟩
      have isSome : (terminus.suspend registry.now).isSome = true :=
        Terminus.suspend_isSome_iff.2 isActive
      rw [suspended] at isSome
      cases isSome
  | some grown =>
      rcases moveTerminus_eq registry id grown (.suspended grown.identifier grown.epoch) with
        ⟨channel, moved⟩
      exact .inr ⟨grown, channel, _, rfl, .set known grown, by simp only [moved]⟩

/-! ## Expiry -/

theorem dropRecords_eq (registry : Registry) (identifier : Identifier) :
    registry.dropRecords identifier =
      { registry with
        storage := (registry.storage.removeAll identifier).2
        purging := registry.purgingAfter identifier } := by
  simp only [dropRecords, purgingAfter]
  split <;> rename_i dropped <;> simp only [dropped]

/-- An expiry either finds no suspension that it is for and changes nothing, or takes
the terminus out of the table and drops its records. -/
theorem Sound.expireEpoch_cases (sound : registry.Sound) (identifier : Identifier)
    (epoch : Option Nat) :
    registry.expireEpoch identifier epoch = (false, registry) ∧
        (∀ noted, registry.suspended.get? identifier.key = some noted →
          ∃ wanted ∈ epoch, wanted ≠ noted) ∨
      ∃ noted entry terminus channel termini,
        registry.suspended.get? identifier.key = some noted ∧
        (∀ wanted ∈ epoch, wanted = noted) ∧
        registry.entries.get? identifier.key = some entry ∧
        registry.termini[entry.terminus]? = some terminus ∧
        Puts registry.termini entry.terminus
          ((terminus.expire (some noted)).getD terminus) termini ∧
        registry.expireEpoch identifier epoch =
          (true, { registry with
            termini, channel
            entries := registry.entries.erase identifier.key
            suspended := registry.suspended.erase identifier.key
            storage := (registry.storage.removeAll identifier).2
            purging := registry.purgingAfter identifier }) := by
  cases note : registry.suspended.get? identifier.key with
  | none => exact .inl ⟨by simp only [expireEpoch, note], by simp⟩
  | some noted =>
      by_cases matching : epoch.all (· == noted) = true
      · rcases sound.noted note with ⟨entry, terminus, present, known, _⟩
        obtain ⟨channel, termini, expired, puts⟩ :=
          expireTerminus_eq { registry with
            suspended := registry.suspended.erase identifier.key
            entries := registry.entries.erase identifier.key } known (some noted)
        refine .inr ⟨noted, entry, terminus, channel, termini, rfl, ?_, present, known, puts, ?_⟩
        · intro wanted isWanted
          rw [Option.mem_def.1 isWanted] at matching
          simpa using matching
        · simp only [expireEpoch, note, matching, if_true, present, expired, dropRecords_eq]
          rfl
      · refine .inl ⟨by simp only [expireEpoch, note, matching, Bool.false_eq_true, if_false], ?_⟩
        intro other same
        cases same
        cases epoch with
        | none => exact absurd rfl matching
        | some wanted => exact ⟨wanted, rfl, by simpa using matching⟩

/-- An expiry that is asked for, or is for a suspension that has just begun, is a change. -/
theorem Sound.expireEpoch_changes (sound : registry.Sound) (identifier : Identifier)
    (epoch : Option Nat)
    (reason : operation = .expire identifier ∨
      ∃ wanted ∈ epoch, origin.suspended.get? identifier.key ≠ some wanted) :
    Changes operation origin registry (registry.expireEpoch identifier epoch).2 := by
  rcases sound.expireEpoch_cases identifier epoch with ⟨unchanged, _⟩ |
    ⟨noted, entry, terminus, channel, termini, note, matching, present, known, puts, changed⟩
  · rw [unchanged]
  · rw [changed]
    refine .single (.expire identifier channel (reason.imp_right ?_) note present known rfl puts)
    intro isLater
    rcases isLater with ⟨wanted, isWanted, isNew⟩
    exact matching wanted isWanted ▸ isNew

/-! ## Arranging -/

@[simp] theorem arrangeAll_nil (registry : Registry) : registry.arrangeAll [] = registry := rfl

@[simp] theorem arrangeAll_cons (registry : Registry) (pending : PendingExpiry)
    (rest : List PendingExpiry) :
    registry.arrangeAll (pending :: rest) = (registry.arrange pending).2.arrangeAll rest := rfl

theorem arrangeAll_append (registry : Registry) (first second : List PendingExpiry) :
    registry.arrangeAll (first ++ second) = (registry.arrangeAll first).arrangeAll second :=
  List.foldl_append

/-- That an expiry is called for by a suspension that has begun since `origin`. -/
structure CallsFor (origin registry : Registry) (pending : PendingExpiry) : Prop where
  noted : registry.suspended.get? pending.identifier.key = some pending.epoch
  isNew : origin.suspended.get? pending.identifier.key ≠ some pending.epoch
  holder : ∃ entry terminus, registry.entries.get? pending.identifier.key = some entry ∧
    entry.timeout = pending.delay ∧ registry.termini[entry.terminus]? = some terminus ∧
    terminus.phase = .suspended ∧ terminus.epoch = pending.epoch

/-- That an expiry has already been carried out. -/
def IsOver (registry : Registry) (pending : PendingExpiry) : Prop :=
  pending.delay = 0 ∧ registry.suspended.get? pending.identifier.key = none

/-- That an expiry can be arranged. -/
def IsReady (origin registry : Registry) (pending : PendingExpiry) : Prop :=
  CallsFor origin registry pending ∨ registry.IsOver pending

theorem arrange_of_delay_eq_zero (registry : Registry) {pending : PendingExpiry}
    (isZero : pending.delay = 0) :
    registry.arrange pending =
      registry.expireEpoch pending.identifier (some pending.epoch) := by
  rw [arrange, if_pos isZero]

theorem arrange_of_delay_ne_zero (registry : Registry) {pending : PendingExpiry}
    (isDelayed : pending.delay ≠ 0) :
    registry.arrange pending = (false, registry.setTimer pending) := by
  rw [arrange, if_neg isDelayed]

theorem Sound.callsFor_arrange (sound : registry.Sound) {first other : PendingExpiry}
    (calls : CallsFor origin registry first) (others : CallsFor origin registry other) :
    CallsFor origin (registry.arrange first).2 other ∨
      (registry.arrange first).2.IsOver other := by
  rcases others.holder with ⟨entry, terminus, present, isTimeout, known, hasPhase, hasEpoch⟩
  by_cases isZero : first.delay = 0
  · rw [arrange_of_delay_eq_zero registry isZero]
    rcases sound.expireEpoch_cases first.identifier (some first.epoch) with ⟨unchanged, _⟩ |
      ⟨_, gone, _, channel, termini, _, _, wasPresent, _, puts, changed⟩
    · rw [unchanged]
      exact .inl others
    · rw [changed]
      by_cases same : other.identifier.key = first.identifier.key
      · rcases calls.holder with ⟨found, _, isFound, firstTimeout, _⟩
        rw [same, isFound] at present
        cases present
        exact .inr ⟨isTimeout.symm.trans (firstTimeout.trans isZero), by simp [same]⟩
      · refine .inl ⟨?_, others.isNew, entry, terminus, ?_, isTimeout, ?_, hasPhase, hasEpoch⟩
        · exact SortedMap.get?_erase_eq_some_iff.2 ⟨same, others.noted⟩
        · exact SortedMap.get?_erase_eq_some_iff.2 ⟨same, present⟩
        · exact (puts.of_ne (sound.terminus_ne wasPresent present same)).trans known
  · rw [arrange_of_delay_ne_zero registry isZero, setTimer]
    split
    · exact .inl ⟨others.noted, others.isNew, entry, terminus, present, isTimeout, known,
        hasPhase, hasEpoch⟩
    · exact .inl others

/-- An expiry that has been carried out is not carried out again. -/
theorem IsOver.arrange {pending : PendingExpiry} (done : registry.IsOver pending) :
    registry.arrange pending = (false, registry) := by
  rw [arrange_of_delay_eq_zero registry done.1, expireEpoch, done.2]

theorem Sound.isOver_arrange (sound : registry.Sound) {pending : PendingExpiry}
    (done : registry.IsOver pending) (other : PendingExpiry) :
    (registry.arrange other).2.IsOver pending := by
  refine ⟨done.1, ?_⟩
  by_cases isZero : other.delay = 0
  · rw [arrange_of_delay_eq_zero registry isZero]
    rcases sound.expireEpoch_cases other.identifier (some other.epoch) with ⟨unchanged, _⟩ |
      ⟨_, _, _, _, _, _, _, _, _, _, changed⟩
    · rw [unchanged]
      exact done.2
    · rw [changed]
      simp only [SortedMap.get?_erase, done.2, ite_self]
  · rw [arrange_of_delay_ne_zero registry isZero, setTimer]
    split
    · exact done.2
    · exact done.2

/-- Arranging an expiry is a change, and leaves others ready. -/
theorem Sound.arrange (operation : Operation) (sound : registry.Sound) {pending : PendingExpiry}
    (ready : IsReady origin registry pending) :
    Changes operation origin registry (registry.arrange pending).2 ∧
      ∀ other, IsReady origin registry other →
        IsReady origin (registry.arrange pending).2 other := by
  rcases ready with calls | done
  · constructor
    · by_cases isZero : pending.delay = 0
      · rw [arrange_of_delay_eq_zero registry isZero]
        exact sound.expireEpoch_changes _ _ (.inr ⟨_, rfl, calls.isNew⟩)
      · rw [arrange_of_delay_ne_zero registry isZero, setTimer]
        rcases calls.holder with ⟨entry, terminus, present, isTimeout, _⟩
        split
        · exact .single (.setTimer calls.noted calls.isNew present (by rw [isTimeout]))
        · exact .refl
    · intro other ready
      rcases ready with others | isOver
      · exact sound.callsFor_arrange calls others
      · exact .inr (sound.isOver_arrange isOver pending)
  · rw [done.arrange]
    exact ⟨.refl, fun _ others => others⟩

/-- Arranging expiries one after the other is a chain of changes, and leaves others ready. -/
theorem Sound.arrangeAll (operation : Operation) (sound : registry.Sound)
    {pending : List PendingExpiry}
    (ready : ∀ expiry ∈ pending, IsReady origin registry expiry) :
    Changes operation origin registry (registry.arrangeAll pending) ∧
      ∀ other, IsReady origin registry other →
        IsReady origin (registry.arrangeAll pending) other := by
  induction pending generalizing registry with
  | nil => exact ⟨.refl, fun _ others => others⟩
  | cons expiry rest ih =>
      rcases sound.arrange operation (ready expiry List.mem_cons_self) with ⟨changes, keeps⟩
      obtain ⟨restChanges, restKeeps⟩ := ih (sound.changes changes) fun other member =>
        keeps other (ready other (List.mem_cons_of_mem _ member))
      exact ⟨changes.trans restChanges, fun other others => restKeeps other (keeps other others)⟩

end Reattach.Registry
