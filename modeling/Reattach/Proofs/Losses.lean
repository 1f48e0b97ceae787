import Reattach.Proofs.Forward
import Reattach.Proofs.Purging

/-!
# How records are lost

A record goes when its delivery is settled, by a recovery plan of its terminus, when its terminus
expires, or when what an earlier terminus has left is dropped at last.  Whatever else is done, and
whichever calls to the store fail, no record is lost.  A store whose rows others have written may
fail to read some of them; what it could read it still can.
-/

namespace Reattach

namespace Store

variable {store later : Store} {identifier other : Identifier} {tag : Tag}
variable {record : Record}

theorem exists_retrieve_save (saved : store.save identifier record = .ok later)
    (isThere : ∃ found, store.retrieve other tag = .ok (some found)) :
    ∃ found, later.retrieve other tag = .ok (some found) := by
  rw [retrieve_save saved]
  split
  · exact ⟨record, rfl⟩
  · exact isThere

theorem retrieve_removeAll_of_ne (apart : other.key ≠ identifier.key) (tag : Tag) :
    (store.removeAll identifier).2.retrieve other tag = store.retrieve other tag := by
  cases store with
  | memory store =>
      simp only [removeAll, Prod.map_snd, retrieve, MemoryStore.retrieve, MemoryStore.removeAll,
        MemoryStore.retrieveAll, SortedMap.get?_erase_of_ne _ apart]
  | rows store =>
      have stays : (store.removeAll identifier).2.rows.get? (RowKey.of other tag) =
          store.rows.get? (RowKey.of other tag) := by
        rw [RowStore.removeAll, RowStore.get?_foldl_erase, if_neg]
        intro member
        obtain ⟨row, isRow, same⟩ := List.mem_map.1 member
        have isOwn : row.1.terminus = identifier.storageKey := by
          simpa using (List.mem_filter.1 isRow).2
        rw [same] at isOwn
        exact apart (Identifier.key_eq_of_storageKey_eq isOwn)
      simp only [removeAll, Prod.map_snd, retrieve, RowStore.retrieve, stays]

end Store

namespace Storage

variable {storage between left : Storage} {identifier other : Identifier}
variable {lost : Identifier → Tag → Prop}

/-- That of all deliveries on record only some have none any more. -/
def LosesOnly (lost : Identifier → Tag → Prop) (storage left : Storage) : Prop :=
  ∀ identifier tag, ¬lost identifier tag → (∃ record, storage.HasOnRecord identifier tag record) →
    ∃ record, left.HasOnRecord identifier tag record

namespace LosesOnly

theorem of_store (same : left.store = storage.store) : LosesOnly lost storage left := by
  intro identifier tag _ isThere
  simp only [HasOnRecord, same]
  exact isThere

theorem trans (first : LosesOnly lost storage between) (second : LosesOnly lost between left) :
    LosesOnly lost storage left :=
  fun identifier tag kept isThere =>
    second identifier tag kept (first identifier tag kept isThere)

theorem save (storage : Storage) (identifier : Identifier) (record : Record) :
    LosesOnly lost storage (storage.save identifier record).2 := by
  rcases outcome : storage.save identifier record with ⟨error | _, left⟩
  · have same := store_save_of_error (congrArg Prod.fst outcome)
    rw [outcome] at same
    exact of_store same
  · exact fun _ _ _ isThere => Store.exists_retrieve_save (save_ok outcome) isThere

theorem noteDelivery (storage : Storage) (identifier : Identifier) (tag : Tag) (state : State) :
    LosesOnly lost storage (storage.noteDelivery identifier tag state).2 := by
  have sameStore := retrieve_store storage identifier tag
  simp only [Storage.noteDelivery]
  split <;> rename_i retrieved <;> rw [retrieved] at sameStore
  · exact of_store sameStore
  · exact (of_store sameStore).trans (save _ _ _)
  · split
    · exact of_store sameStore
    · exact (of_store sameStore).trans (save _ _ _)

theorem remove (storage : Storage) (identifier : Identifier) (removed : Tag)
    (isLost : ∀ other, other.key = identifier.key → lost other removed) :
    LosesOnly lost storage (storage.remove identifier removed).2 := by
  simp only [Storage.remove]
  split
  · exact of_store rfl
  · intro other tag kept isThere
    simp only [HasOnRecord] at isThere ⊢
    rw [Store.retrieve_remove, if_neg]
    · exact isThere
    · rintro ⟨same, rfl⟩
      exact kept (isLost other same)

theorem removeAll (storage : Storage) (identifier : Identifier)
    (isLost : ∀ count, (storage.removeAll identifier).1 = .ok count →
      ∀ other tag, other.key = identifier.key → lost other tag) :
    LosesOnly lost storage (storage.removeAll identifier).2 := by
  simp only [Storage.removeAll] at isLost ⊢
  split
  · exact of_store rfl
  · next isUp =>
      rw [if_neg isUp] at isLost
      intro other tag kept isThere
      simp only [HasOnRecord] at isThere ⊢
      rw [Store.retrieve_removeAll_of_ne]
      · exact isThere
      · exact fun same => kept (isLost _ rfl other tag same)

theorem carryOut (storage : Storage) (identifier : Identifier) (step : RecoveryStep)
    (isLost : ∀ other, other.key = identifier.key → lost other step.tag) :
    LosesOnly lost storage (storage.carryOut identifier step).2 := by
  rcases outcome : storage.carryOut identifier step with ⟨error | _, left⟩
  · exact of_store (carryOut_error outcome)
  · rcases carryOut_cases outcome with ⟨_, isLeft⟩ | ⟨_, isLeft⟩ | ⟨_, _, record, _, saved⟩
    · intro other tag kept isThere
      simp only [HasOnRecord, isLeft] at isThere ⊢
      rw [Store.retrieve_remove, if_neg]
      · exact isThere
      · rintro ⟨same, rfl⟩
        exact kept (isLost other same)
    · exact of_store isLeft
    · exact fun _ _ _ isThere => Store.exists_retrieve_save saved isThere

theorem carryOutAll (storage : Storage) (identifier : Identifier) (steps : List RecoveryStep)
    (isLost : ∀ step ∈ steps, ∀ other, other.key = identifier.key → lost other step.tag) :
    LosesOnly lost storage (storage.carryOutAll identifier steps).2 := by
  induction steps generalizing storage with
  | nil => exact of_store rfl
  | cons step rest ih =>
      have first := carryOut storage identifier step (isLost step List.mem_cons_self)
      simp only [Storage.carryOutAll]
      split
      · next stepFails => rwa [stepFails] at first
      · next after stepDone =>
          rw [stepDone] at first
          have others := ih after fun other member => isLost other (List.mem_cons_of_mem _ member)
          split
          · next restFails =>
              rw [restFails] at others
              exact first.trans others
          · next restDone =>
              rw [restDone] at others
              exact first.trans others

end LosesOnly

theorem LosesOnly.call (storage : Storage) (call : StoreCall)
    (removes : ∀ identifier tag, call = .remove identifier tag →
      ∀ other, other.key = identifier.key → lost other tag)
    (removesAll : ∀ identifier, call = .removeAll identifier →
      ∀ other tag, other.key = identifier.key → lost other tag) :
    LosesOnly lost storage (storage.call call).2 := by
  cases call with
  | save identifier record => exact .save storage identifier record
  | retrieve identifier tag => exact .of_store (storage.retrieve_store identifier tag)
  | retrieveAll identifier => exact .of_store (storage.retrieveAll_store identifier)
  | remove identifier tag => exact .remove storage identifier tag (removes identifier tag rfl)
  | removeAll identifier =>
      exact .removeAll storage identifier fun _ _ => removesAll identifier rfl

end Storage

namespace Registry

variable {operation : Operation} {registry between later : Registry} {move : Move}
variable {identifier : Identifier} {lost : Identifier → Tag → Prop}

/-! ## What leaves the store -/

/-- That the store was not called, and what is still to be dropped is the same. -/
structure LeavesStore (registry later : Registry) : Prop where
  storage : later.storage = registry.storage
  purging : later.purging = registry.purging

namespace LeavesStore

theorem refl (registry : Registry) : LeavesStore registry registry := ⟨rfl, rfl⟩

theorem trans (first : LeavesStore registry between) (second : LeavesStore between later) :
    LeavesStore registry later :=
  ⟨second.storage.trans first.storage, second.purging.trans first.purging⟩

theorem moveTerminus (registry : Registry) (id : TerminusId) (terminus : Terminus)
    (event : Event) : LeavesStore registry (registry.moveTerminus id terminus event) := by
  obtain ⟨channel, moved⟩ := moveTerminus_eq registry id terminus event
  rw [moved]
  exact ⟨rfl, rfl⟩

theorem updateSettings (registry : Registry) (id : TerminusId) (settings : Settings) :
    LeavesStore registry (registry.updateSettings id settings) := by
  simp only [Registry.updateSettings]
  split <;> exact ⟨rfl, rfl⟩

theorem enter (registry : Registry) (link : Link) :
    LeavesStore registry (registry.enter link).2 := by
  simp only [Registry.enter]
  split
  · refine trans ?_ (updateSettings _ _ _)
    exact ⟨rfl, rfl⟩
  · refine trans ?_ (updateSettings _ _ _)
    exact ⟨rfl, rfl⟩

theorem associate (registry : Registry) (id : TerminusId) (link : LinkId) :
    LeavesStore registry (registry.associate id link).2 := by
  simp only [Registry.associate]
  split
  · exact refl registry
  · split
    · exact refl registry
    · exact moveTerminus _ _ _ _

theorem steal (registry : Registry) (identifier : Identifier) (previous : LinkId) :
    LeavesStore registry (registry.steal identifier previous) := by
  simp only [Registry.steal]
  split
  · exact refl registry
  · split <;> exact ⟨rfl, rfl⟩

theorem takeOver (registry : Registry) (link : Link) (id : LinkId) :
    LeavesStore registry (registry.takeOver link id).2 := by
  have enters := enter registry link
  simp only [Registry.takeOver]
  have associates := enters.trans
    (associate (registry.enter link).2 (registry.enter link).1 id)
  split <;> rename_i associated <;> rw [associated] at associates
  · exact associates
  · split
    · exact associates.trans ⟨rfl, rfl⟩
    · refine associates.trans (trans ?_ (steal _ _ _))
      exact ⟨rfl, rfl⟩

theorem suspendTerminus (registry : Registry) (id : TerminusId) :
    LeavesStore registry (registry.suspendTerminus id).2 := by
  simp only [Registry.suspendTerminus]
  split
  · exact refl registry
  · exact moveTerminus _ _ _ _

theorem expireTerminus (registry : Registry) (id : TerminusId) (epoch : Option Nat) :
    LeavesStore registry (registry.expireTerminus id epoch).2 := by
  simp only [Registry.expireTerminus]
  split
  · exact refl registry
  · exact moveTerminus _ _ _ _

theorem closeLink (registry : Registry) (id : LinkId) :
    LeavesStore registry (registry.closeLink id) := by
  simp only [Registry.closeLink]
  split <;> exact ⟨rfl, rfl⟩

theorem suspendEntry (registry : Registry) (identifier : Identifier) (entry : Entry) :
    LeavesStore registry (registry.suspendEntry identifier entry).2 := by
  have suspends := suspendTerminus registry entry.terminus
  simp only [Registry.suspendEntry]
  split <;> rename_i same <;> rw [same] at suspends
  · exact suspends
  · exact suspends.trans ⟨rfl, rfl⟩

theorem suspendAll (registry : Registry) (candidates : List (Identifier × Entry)) :
    LeavesStore registry (registry.suspendAll candidates).2 := by
  induction candidates generalizing registry with
  | nil => exact refl registry
  | cons candidate rest ih => exact (suspendEntry registry _ _).trans (ih _)

theorem detach (registry : Registry) (id : LinkId) (departure : Departure) :
    LeavesStore registry (registry.detach id departure).2 := by
  simp only [Registry.detach]
  split
  · exact refl registry
  · split
    · exact refl registry
    · split
      · exact refl registry
      · split
        · exact refl registry
        · exact suspendEntry _ _ _

end LeavesStore

/-! ## Moves -/

/-- The ways in which a move can take a record out: the delivery is settled, a recovery plan of
its terminus has a step for it, its terminus expires, or what an earlier terminus has left is
dropped.  Who has the store may also ask it for that. -/
inductive Drops (registry : Registry) (identifier : Identifier) (tag : Tag) : Move → Prop where
  | settles {id : TerminusId} {terminus : Terminus} (known : registry.termini[id]? = some terminus)
      (same : identifier.key = terminus.identifier.key) :
      Drops registry identifier tag (.act (.settleDelivery id tag))
  | recovers {plan : RecoveryPlan} (same : identifier.key = plan.identifier.key)
      (planned : tag ∈ plan.steps.map (·.tag)) :
      Drops registry identifier tag (.act (.applyPlan plan))
  | expires {move : Move} (expires : registry.Expires identifier.key move) :
      Drops registry identifier tag move
  | purges {move : Move} (wasPending : registry.isPurgePending identifier = true)
      (isDone : (registry.move move).isPurgePending identifier = false) :
      Drops registry identifier tag move
  | removed {other : Identifier} (same : identifier.key = other.key) :
      Drops registry identifier tag (.act (.callStore (.remove other tag)))
  | removedAll {other : Identifier} (same : identifier.key = other.key) :
      Drops registry identifier tag (.act (.callStore (.removeAll other)))

/-- An expiry loses the records of its own terminus, if it comes about. -/
theorem Sound.losesOnly_expireEpoch (sound : registry.Sound) (identifier : Identifier)
    (epoch : Option Nat)
    (isLost : (registry.expireEpoch identifier epoch).1 = true →
      ∀ other tag, other.key = identifier.key → lost other tag) :
    registry.storage.LosesOnly lost (registry.expireEpoch identifier epoch).2.storage := by
  rcases sound.expireEpoch_cases identifier epoch with ⟨unchanged, _⟩ |
    ⟨_, _, _, _, _, _, _, _, _, _, changed⟩
  · rw [unchanged]
    exact .of_store rfl
  · rw [changed] at isLost ⊢
    exact .removeAll _ _ fun _ _ => isLost rfl

/-- While the expiries that an operation calls for are arranged, records are lost of termini that
expire.  The induction is on the expiries that are still to be arranged. -/
theorem Sound.losesOnly_arrangeAll (sound : registry.Sound) (earlier rest : List PendingExpiry)
    (called : (registry.arranged operation).1 = earlier ++ rest)
    (isLost : ∀ other tag, registry.Expires other.key (.act operation) → lost other tag) :
    ((registry.arranged operation).2.arrangeAll earlier).storage.LosesOnly lost
      (registry.after operation).storage := by
  induction rest generalizing earlier with
  | nil =>
      rw [List.append_nil] at called
      rw [after_eq_arrangeAll, called]
      exact .of_store rfl
  | cons pending rest ih =>
      have others := ih _ (called.trans (List.append_cons _ _ _))
      rw [arrangeAll_append, arrangeAll_cons, arrangeAll_nil] at others
      refine .trans ?_ others
      by_cases isZero : pending.delay = 0
      · have soundThen := sound.changes (sound.arranging called).1
        rw [arrange_of_delay_eq_zero _ isZero]
        refine soundThen.losesOnly_expireEpoch _ _ fun isTrue other tag same => ?_
        exact isLost other tag ⟨_, _, _, .atOnce called isZero, same.symm, isTrue⟩
      · rw [arrange_of_delay_ne_zero _ isZero, setTimer]
        split <;> exact .of_store rfl

theorem isPurgePending_congr {other : Identifier} (same : other.key = identifier.key) :
    registry.isPurgePending other = registry.isPurgePending identifier := by
  rw [isPurgePending, isPurgePending, same]

/-- Dropping what an earlier terminus has left loses its records if they were still to be dropped
and are not any more. -/
theorem losesOnly_finishPurge (registry : Registry) (identifier : Identifier)
    (isLost : registry.isPurgePending identifier = true →
      (registry.finishPurge identifier).2.isPurgePending identifier = false →
        ∀ other tag, other.key = identifier.key → lost other tag) :
    registry.storage.LosesOnly lost (registry.finishPurge identifier).2.storage := by
  by_cases pending : registry.isPurgePending identifier = true
  · rcases finishPurge_of_pending pending with ⟨error, failed, refused, _⟩ |
      ⟨count, removed, _, purged⟩
    · rw [refused]
      refine .removeAll _ _ fun count removed => ?_
      rw [failed] at removed
      cases removed
    · rw [purged] at isLost ⊢
      refine .removeAll _ _ fun _ _ => isLost pending ?_
      simp [isPurgePending, SortedMap.contains]
  · rw [finishPurge, if_neg pending]
    exact .of_store rfl

/-- Registering a link leaves the store once its identifier is ready. -/
theorem LeavesStore.register {id : LinkId} {link : Link} (known : registry.links[id]? = some link)
    (exclusive : Bool) :
    LeavesStore (registry.prepare link.identifier).2 (registry.register id exclusive).2 := by
  simp only [Registry.register, known, attach]
  split <;> rename_i prepared <;> rw [prepared]
  · exact refl _
  · split
    · exact refl _
    · exact takeOver _ _ _

theorem losesOnly_register (registry : Registry) (id : LinkId) (exclusive : Bool)
    (isLost : ∀ identifier, registry.isPurgePending identifier = true →
      (registry.register id exclusive).2.isPurgePending identifier = false →
        ∀ tag, lost identifier tag) :
    registry.storage.LosesOnly lost (registry.register id exclusive).2.storage := by
  cases known : registry.links[id]? with
  | none =>
      simp only [register, known]
      exact .of_store rfl
  | some link =>
      have leaves : LeavesStore _ (registry.register id exclusive).2 := .register known exclusive
      refine .trans ?_ (.of_store (congrArg Storage.store leaves.storage))
      simp only [prepare] at leaves ⊢
      split
      · exact .of_store rfl
      · next absent =>
          simp only [absent] at leaves
          refine losesOnly_finishPurge _ _ fun wasPending isDone other tag same => ?_
          refine isLost other (isPurgePending_congr same ▸ wasPending) ?_ tag
          rw [isPurgePending_congr same, isPurgePending, leaves.purging]
          exact isDone

/-- What is still to be dropped is noted as it was, but for termini that expire while an operation
arranges the expiries that it calls for. -/
theorem Sound.isPurgePending_arrangeAll (sound : registry.Sound)
    (earlier rest : List PendingExpiry) (called : (registry.arranged operation).1 = earlier ++ rest)
    (lives : ¬registry.Expires identifier.key (.act operation)) :
    (registry.after operation).isPurgePending identifier =
      ((registry.arranged operation).2.arrangeAll earlier).isPurgePending identifier := by
  induction rest generalizing earlier with
  | nil =>
      rw [List.append_nil] at called
      rw [after_eq_arrangeAll, called]
  | cons pending rest ih =>
      rw [ih _ (called.trans (List.append_cons _ _ _)), arrangeAll_append, arrangeAll_cons,
        arrangeAll_nil]
      by_cases isZero : pending.delay = 0
      · have soundThen := sound.changes (sound.arranging called).1
        rw [arrange_of_delay_eq_zero _ isZero]
        rcases soundThen.expireEpoch_cases pending.identifier (some pending.epoch) with
          ⟨unchanged, _⟩ | ⟨_, _, _, _, _, _, _, _, _, _, changed⟩
        · rw [unchanged]
        · have apart : identifier.key ≠ pending.identifier.key := by
            intro same
            exact lives ⟨_, _, _, .atOnce called isZero, same.symm, by rw [changed]⟩
          rw [changed]
          simp only [isPurgePending, SortedMap.contains, purgingAfter]
          split
          · rfl
          · rw [SortedMap.get?_insert_of_ne _ _ apart]
      · rw [arrange_of_delay_ne_zero _ isZero, setTimer]
        split <;> rfl

theorem LeavesStore.accept {id : TerminusId} {terminus : Terminus}
    (known : registry.termini[id]? = some terminus)
    (absent : registry.entries.get? terminus.identifier.key = none) :
    LeavesStore (registry.finishPurge terminus.identifier).2 (registry.accept id).2 := by
  simp only [Registry.accept, known, entry?, absent]
  split <;> rename_i purged <;> rw [purged]
  · exact refl _
  · split
    · exact refl _
    · rw [seed_eq]
      exact ⟨rfl, rfl⟩

theorem Sound.losesOnly_tryAdd (sound : registry.Sound) (id : TerminusId) :
    registry.storage.LosesOnly (registry.Drops · · (.act (.tryAdd id)))
      (registry.after (.tryAdd id)).storage := by
  refine .trans ?_ (sound.losesOnly_arrangeAll [] _ rfl fun _ _ => Drops.expires)
  change registry.storage.LosesOnly _ (registry.accept id).2.storage
  cases known : registry.termini[id]? with
  | none =>
      simp only [accept, known]
      exact .of_store rfl
  | some terminus =>
      cases present : registry.entries.get? terminus.identifier.key with
      | some _ =>
          simp only [accept, known, entry?, present]
          exact .of_store rfl
      | none =>
          have leaves := LeavesStore.accept known present
          refine .trans ?_ (.of_store (congrArg Storage.store leaves.storage))
          refine losesOnly_finishPurge _ _ fun wasPending isDone other tag same => ?_
          by_cases expires : registry.Expires other.key (.act (.tryAdd id))
          · exact .expires expires
          · refine .purges (isPurgePending_congr same ▸ wasPending) ?_
            refine (sound.isPurgePending_arrangeAll [] _ rfl expires).trans ?_
            change (registry.accept id).2.isPurgePending other = false
            rw [isPurgePending_congr same, isPurgePending, leaves.purging]
            exact isDone

theorem describeAll_store (entries : List Entry) (registry : Registry) :
    (registry.describeAll entries).2.storage.store = registry.storage.store := by
  induction entries generalizing registry with
  | nil => rfl
  | cons entry rest ih =>
      simp only [describeAll]
      split
      · exact ih registry
      · next terminus _ =>
          exact (ih (registry.describe entry terminus).2).trans
            (registry.storage.retrieveAll_store terminus.identifier)

/-- No move loses a record but in one of the ways there are. -/
theorem Sound.losesOnly_move (sound : registry.Sound) (move : Move) :
    registry.storage.LosesOnly (registry.Drops · · move) (registry.move move).storage := by
  cases move with
  | pass time => exact .of_store rfl
  | fire index =>
      rcases registry.fire_cases index with ⟨unchanged, _⟩ | ⟨timer, isSet, isDue, expires⟩
      · rw [Registry.move, unchanged]
        exact .of_store rfl
      · rw [Registry.move, expires]
        refine (sound.dropTimer index).losesOnly_expireEpoch _ _ fun isTrue other tag same => ?_
        exact .expires ⟨_, _, _, .timer isSet isDue, same.symm, isTrue⟩
  | act operation =>
      have departs (leaves : LeavesStore registry (registry.arranged operation).2) :
          registry.storage.LosesOnly (registry.Drops · · (.act operation))
            (registry.after operation).storage :=
        .trans (.of_store (congrArg Storage.store leaves.storage))
          (sound.losesOnly_arrangeAll [] _ rfl fun _ _ => Drops.expires)
      have stays (leaves : LeavesStore registry (registry.after operation)) :
          registry.storage.LosesOnly (registry.Drops · · (.act operation))
            (registry.after operation).storage :=
        .of_store (congrArg Storage.store leaves.storage)
      cases operation with
      | suspend id departure => exact departs (.detach registry id departure)
      | endSession | closeConnection => exact departs (.suspendAll registry _)
      | tryAdd id => exact sound.losesOnly_tryAdd id
      | register id exclusive =>
          exact registry.losesOnly_register id exclusive fun identifier wasPending isDone tag =>
            .purges wasPending isDone
      | expire identifier =>
          refine sound.losesOnly_expireEpoch identifier none fun isTrue other tag same => ?_
          exact .expires ⟨_, _, _, .asked identifier, same.symm, isTrue⟩
      | snapshot => exact .of_store (describeAll_store _ _)
      | noteDelivery id tag state =>
          simp only [Registry.move, after, Operation.isInstant, if_true, Watch.perform,
            Watch.onTerminus]
          split
          · exact .of_store rfl
          · exact .noteDelivery _ _ tag state
      | settleDelivery id tag =>
          simp only [Registry.move, after, Operation.isInstant, if_true, Watch.perform,
            Watch.onTerminus]
          split
          · exact .of_store rfl
          · next terminus known =>
              exact .remove _ _ tag fun other same => .settles known same
      | planRecovery id theirs =>
          simp only [Registry.move, after, Operation.isInstant, if_true, Watch.perform,
            Watch.onTerminus]
          split
          · exact .of_store rfl
          · exact .of_store (Storage.planRecovery_store ..)
      | applyPlan plan =>
          refine .carryOutAll _ plan.identifier plan.steps fun step member other same => ?_
          exact .recovers same (List.mem_map_of_mem member)
      | callStore call =>
          refine .call _ call ?_ ?_
          · rintro identifier tag rfl other same
            exact .removed same
          · rintro identifier rfl other tag same
            exact .removedAll same
      | closeLink id => exact stays (.closeLink registry id)
      | updateSettings id settings => exact stays (.updateSettings registry id settings)
      | associate id link => exact stays (.associate registry id link)
      | suspendTerminus id => exact stays (.suspendTerminus registry id)
      | expireTerminus id epoch => exact stays (.expireTerminus registry id epoch)
      | failOnSteal id fails =>
          simp only [Registry.move, after, Operation.isInstant, if_true, Watch.perform,
            Watch.onLink]
          split <;> exact .of_store rfl
      | openLink | tryRemove | createTerminus | setOutages | wait | await | cancel =>
          exact .of_store rfl

end Registry

end Reattach
