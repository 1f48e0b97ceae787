import Reattach.Proofs.Plans

/-!
# Termini without records

A terminus without records gets none unless a new delivery is noted or saved for it: the
other calls to a store, and carrying out a plan, leave it without.
-/

namespace Reattach

/-! ## In either kind of store -/

theorem RowStore.get?_of_bare {store : RowStore} {identifier : Identifier}
    (isBare : store.retrieveAll identifier = .ok ∅) {key : RowKey}
    (isOwn : key.terminus = identifier.storageKey) : store.rows.get? key = none := by
  apply Option.eq_none_iff_forall_ne_some.2
  intro row found
  obtain ⟨_, _, listed⟩ := decodeRows_lists isBare (mem_rowsOf found isOwn)
  cases listed

namespace Store

variable {store : Store} {identifier : Identifier}

theorem retrieve_of_bare (isBare : store.retrieveAll identifier = .ok ∅) (tag : Tag) :
    store.retrieve identifier tag = .ok none := by
  cases store with
  | memory store =>
      simp only [retrieveAll, Except.ok.injEq] at isBare
      simp only [retrieve, MemoryStore.retrieve, isBare]
      rfl
  | rows store =>
      have noRow : store.rows.get? (RowKey.of identifier tag) = none :=
        RowStore.get?_of_bare isBare rfl
      simp only [retrieve, RowStore.retrieve, noRow]

theorem retrieveAll_remove_of_bare (isBare : store.retrieveAll identifier = .ok ∅)
    (other : Identifier) (tag : Tag) :
    (store.remove other tag).2.retrieveAll identifier = .ok ∅ := by
  by_cases same : identifier.key = other.key
  · cases store with
    | memory store =>
        rw [retrieveAll_congr _ same] at isBare ⊢
        simp only [retrieveAll, Except.ok.injEq] at isBare
        simp only [remove, Prod.map_snd, retrieveAll, MemoryStore.remove, isBare,
          MemoryStore.retrieveAll_withRecords]
        rfl
    | rows store =>
        have asEmpty : (store.remove other tag).2.rowsOf identifier =
            RowStore.rowsOf {} identifier := by
          apply RowStore.rowsOf_congr
          intro key isOwn
          simp only [RowStore.remove, SortedMap.get?_erase, RowStore.get?_of_bare isBare isOwn,
            ite_self]
          rfl
        simp only [remove, Prod.map_snd, retrieveAll, RowStore.retrieveAll, asEmpty]
        rfl
  · rw [retrieveAll_remove_of_ne store same, isBare]

end Store

/-! ## With outages -/

namespace Storage

/-- That a terminus has no records. -/
def IsBare (storage : Storage) (identifier : Identifier) : Prop :=
  storage.held identifier = .ok ∅

variable {storage left : Storage} {identifier other : Identifier}

/-- Saving a record leaves those of other termini, also if it fails. -/
theorem held_save_of_ne (storage : Storage) (apart : other.key ≠ identifier.key)
    (record : Record) :
    (storage.save identifier record).2.held other = storage.held other := by
  cases outcome : storage.save identifier record with
  | mk result after =>
      cases result with
      | error error =>
          have stays := store_save_of_error (congrArg Prod.fst outcome)
          rw [outcome] at stays
          exact congrArg (Store.retrieveAll other) stays
      | ok _ => exact Store.retrieveAll_save_of_ne apart (save_ok outcome)

/-- Noting a delivery leaves the records of other termini. -/
theorem held_noteDelivery_of_ne (storage : Storage) (apart : other.key ≠ identifier.key)
    (tag : Tag) (state : State) :
    (storage.noteDelivery identifier tag state).2.held other = storage.held other := by
  have sameStore := retrieve_store storage identifier tag
  have before (after : Storage) (isSame : after.store = storage.store) :
      after.held other = storage.held other := congrArg (Store.retrieveAll other) isSame
  simp only [noteDelivery]
  split <;> rename_i retrieved <;> rw [retrieved] at sameStore
  · exact before _ sameStore
  · exact (held_save_of_ne _ apart _).trans (before _ sameStore)
  · split
    · exact before _ sameStore
    · exact (held_save_of_ne _ apart _).trans (before _ sameStore)

namespace IsBare

theorem congr (isBare : storage.IsBare identifier) (same : left.store = storage.store) :
    left.IsBare identifier := by
  rw [IsBare, held, same]
  exact isBare

theorem remove (isBare : storage.IsBare identifier) (other : Identifier) (tag : Tag) :
    (storage.remove other tag).2.IsBare identifier := by
  cases outcome : storage.remove other tag with
  | mk result after =>
      cases result with
      | error _ => exact isBare.congr (remove_error outcome)
      | ok _ =>
          rw [IsBare, held, remove_ok outcome]
          exact Store.retrieveAll_remove_of_bare isBare other tag

theorem removeAll (isBare : storage.IsBare identifier) (other : Identifier) :
    (storage.removeAll other).2.IsBare identifier := by
  by_cases same : identifier.key = other.key
  · cases outcome : (storage.removeAll other).1 with
    | error _ => exact (held_removeAll_of_error outcome identifier).trans isBare
    | ok _ => exact (held_congr _ same).trans (held_removeAll_of_ok outcome)
  · exact (held_removeAll_of_ne storage same).trans isBare

/-- Carrying out a step saves a record only where there is one. -/
theorem carryOut (isBare : storage.IsBare identifier) (other : Identifier)
    (step : RecoveryStep) : (storage.carryOut other step).2.IsBare identifier := by
  cases outcome : storage.carryOut other step with
  | mk result after =>
      cases result with
      | error _ => exact isBare.congr (carryOut_error outcome)
      | ok _ =>
          obtain ⟨_, isLeft⟩ | ⟨_, isLeft⟩ | ⟨_, _, record, found, saved⟩ := carryOut_cases outcome
          · rw [IsBare, held, isLeft]
            exact Store.retrieveAll_remove_of_bare isBare other step.tag
          · exact isBare.congr isLeft
          · by_cases same : identifier.key = other.key
            · have bareOther : storage.store.retrieveAll other = .ok ∅ :=
                (storage.store.retrieveAll_congr same).symm.trans isBare
              rw [Store.retrieve_of_bare bareOther] at found
              cases found
            · exact (Store.retrieveAll_save_of_ne same saved).trans isBare

theorem carryOutAll (isBare : storage.IsBare identifier) (other : Identifier)
    (steps : List RecoveryStep) : (storage.carryOutAll other steps).2.IsBare identifier := by
  induction steps generalizing storage with
  | nil => exact isBare
  | cons step rest ih =>
      have stepBare := isBare.carryOut other step
      simp only [Storage.carryOutAll]
      split <;> rename_i stepOutcome <;> rw [stepOutcome] at stepBare
      · exact stepBare
      · have restBare := ih stepBare
        split <;> rename_i restOutcome <;> rwa [restOutcome] at restBare

/-- So does every call to the store but saving. -/
theorem call (isBare : storage.IsBare identifier) {call : StoreCall}
    (saves : ∀ other record, call ≠ .save other record) :
    (storage.call call).2.IsBare identifier := by
  cases call with
  | save other record => exact absurd rfl (saves other record)
  | retrieve other tag => exact isBare.congr (retrieve_store storage other tag)
  | retrieveAll other => exact isBare.congr (retrieveAll_store storage other)
  | remove other tag => exact isBare.remove other tag
  | removeAll other => exact isBare.removeAll other

end IsBare

end Storage

end Reattach
