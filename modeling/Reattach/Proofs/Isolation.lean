import Reattach.Proofs.StorageKey
import Reattach.Recovery
import Reattach.Store

/-!
# The records of other termini

Whatever is done to the records of one terminus leaves those of all others as they are,
in either kind of store, also when it fails.
-/

namespace Reattach

namespace RowStore

variable {store : RowStore} {identifier other : Identifier}

theorem rowsOf_congr {left right : RowStore}
    (agree : ∀ key : RowKey, key.terminus = identifier.storageKey →
      left.rows.get? key = right.rows.get? key) :
    left.rowsOf identifier = right.rowsOf identifier := by
  apply SortedMap.eq_of_lookup_eq (left.rows.sorted.filter _) (right.rows.sorted.filter _)
  intro key
  let ofTerminus (key : RowKey) := key.terminus == identifier.storageKey
  change SortedMap.lookup key (left.rows.toList.filter fun row => ofTerminus row.1) =
    SortedMap.lookup key (right.rows.toList.filter fun row => ofTerminus row.1)
  rw [SortedMap.lookup_filter, SortedMap.lookup_filter]
  split
  · next isOf => exact agree key (beq_iff_eq.1 isOf)
  · rfl

theorem mem_rowsOf {key : RowKey} {row : Row} (isRow : store.rows.get? key = some row)
    (isOwn : key.terminus = identifier.storageKey) : (key, row) ∈ store.rowsOf identifier :=
  List.mem_filter.2 ⟨(store.rows.mem_toList_iff key row).2 isRow, beq_iff_eq.2 isOwn⟩

/-- What a row store is asked to drop row by row is gone, and nothing else. -/
theorem get?_foldl_erase (dropped : List (RowKey × Row)) (rows : SortedMap RowKey Row)
    (key : RowKey) :
    (dropped.foldl (fun rows row => rows.erase row.1) rows).get? key =
      if key ∈ dropped.map Prod.fst then none else rows.get? key := by
  induction dropped generalizing rows with
  | nil => rfl
  | cons head rest ih =>
      rw [List.foldl_cons, ih, List.map_cons]
      by_cases isHead : key = head.1
      · subst isHead
        simp
      · simp only [SortedMap.get?_erase_of_ne rows isHead, List.mem_cons, isHead, false_or]

theorem ne_rowKey_of_ne (apart : other.key ≠ identifier.key) {key : RowKey}
    (isOther : key.terminus = other.storageKey) (tag : Tag) : key ≠ RowKey.of identifier tag := by
  intro same
  rw [same] at isOther
  exact apart (Identifier.key_eq_of_storageKey_eq isOther.symm)

theorem rowsOf_removeAll_of_ne (store : RowStore) (apart : other.key ≠ identifier.key) :
    (store.removeAll identifier).2.rowsOf other = store.rowsOf other := by
  apply rowsOf_congr
  intro key isOther
  rw [removeAll, get?_foldl_erase, if_neg]
  intro member
  obtain ⟨row, isRow, rfl⟩ := List.mem_map.1 member
  have isOwn : row.1.terminus = identifier.storageKey := by
    simpa using (List.mem_filter.1 isRow).2
  exact apart (Identifier.key_eq_of_storageKey_eq (isOther.symm.trans isOwn))

theorem rowsOf_removeAll_self (store : RowStore) (identifier : Identifier) :
    (store.removeAll identifier).2.rowsOf identifier = [] := by
  have asEmpty : (store.removeAll identifier).2.rowsOf identifier =
      RowStore.rowsOf {} identifier := by
    apply rowsOf_congr
    intro key isOwn
    rw [removeAll, get?_foldl_erase]
    split
    · rfl
    · next kept =>
        apply Option.eq_none_iff_forall_ne_some.2
        intro row found
        apply kept
        refine List.mem_map.2 ⟨(key, row), List.mem_filter.2 ⟨?_, beq_iff_eq.2 isOwn⟩, rfl⟩
        exact (store.rows.mem_toList_iff key row).2 found
  exact asEmpty

theorem rowsOf_remove_of_ne (store : RowStore) (apart : other.key ≠ identifier.key) (tag : Tag) :
    (store.remove identifier tag).2.rowsOf other = store.rowsOf other := by
  apply rowsOf_congr
  intro key isOther
  exact SortedMap.get?_erase_of_ne _ (ne_rowKey_of_ne apart isOther tag)

theorem rowsOf_save_of_ne {later : RowStore} {record : Record}
    (apart : other.key ≠ identifier.key) (saved : store.save identifier record = .ok later) :
    later.rowsOf other = store.rowsOf other := by
  simp only [save] at saved
  split at saved
  · cases saved
  · split at saved <;> cases saved
    apply rowsOf_congr
    intro key isOther
    exact SortedMap.get?_insert_of_ne _ _ (ne_rowKey_of_ne apart isOther record.tag)

end RowStore

/-- That two stores have the same records of a terminus, read together or one at a time. -/
structure Store.AgreesOn (store later : Store) (identifier : Identifier) : Prop where
  together : later.retrieveAll identifier = store.retrieveAll identifier
  each : ∀ tag, later.retrieve identifier tag = store.retrieve identifier tag

namespace Store

variable {store : Store} {identifier other : Identifier}

theorem retrieveAll_congr (store : Store) (same : other.key = identifier.key) :
    store.retrieveAll other = store.retrieveAll identifier := by
  cases store with
  | memory store => simp only [retrieveAll, MemoryStore.retrieveAll, same]
  | rows store =>
      simp only [retrieveAll, RowStore.retrieveAll, RowStore.rowsOf,
        Identifier.storageKey_eq_iff.2 same]

/-- Taking out the records of one terminus leaves those of another. -/
theorem retrieveAll_removeAll_of_ne (store : Store) (apart : other.key ≠ identifier.key) :
    (store.removeAll identifier).2.retrieveAll other = store.retrieveAll other := by
  cases store with
  | memory store =>
      simp [removeAll, retrieveAll, MemoryStore.removeAll, MemoryStore.retrieveAll,
        SortedMap.get?_erase_of_ne _ apart]
  | rows store =>
      simp [removeAll, retrieveAll, RowStore.retrieveAll,
        RowStore.rowsOf_removeAll_of_ne store apart]

theorem retrieveAll_removeAll_self (store : Store) (identifier : Identifier) :
    (store.removeAll identifier).2.retrieveAll identifier = .ok ∅ := by
  cases store with
  | memory store =>
      simp only [removeAll, Prod.map_snd, retrieveAll, MemoryStore.removeAll,
        MemoryStore.retrieveAll, SortedMap.get?_erase_self]
      rfl
  | rows store =>
      simp only [removeAll, Prod.map_snd, retrieveAll, RowStore.retrieveAll,
        RowStore.rowsOf_removeAll_self]
      rfl

theorem retrieveAll_remove_of_ne (store : Store) (apart : other.key ≠ identifier.key) (tag : Tag) :
    (store.remove identifier tag).2.retrieveAll other = store.retrieveAll other := by
  cases store with
  | memory store =>
      simp [remove, retrieveAll, MemoryStore.remove,
        MemoryStore.retrieveAll_withRecords_of_ne _ _ apart]
  | rows store =>
      simp [remove, retrieveAll, RowStore.retrieveAll, RowStore.rowsOf_remove_of_ne store apart]

theorem retrieveAll_save_of_ne {later : Store} {record : Record}
    (apart : other.key ≠ identifier.key) (saved : store.save identifier record = .ok later) :
    later.retrieveAll other = store.retrieveAll other := by
  cases store with
  | memory store =>
      simp only [save, MemoryStore.save] at saved
      split at saved <;> cases saved
      simp [retrieveAll, MemoryStore.retrieveAll, SortedMap.get?_insert_of_ne _ _ apart]
  | rows store =>
      simp only [save] at saved
      cases isSaved : store.save identifier record with
      | error _ => simp [isSaved, Except.map] at saved
      | ok rows =>
          simp only [isSaved, Except.map, Except.ok.injEq] at saved
          rw [← saved]
          simp only [retrieveAll, RowStore.retrieveAll, RowStore.rowsOf_save_of_ne apart isSaved]

end Store

namespace Storage

/-- The records of a terminus, whatever outages there are. -/
def held (storage : Storage) (identifier : Identifier) : Except StoreError Records :=
  storage.store.retrieveAll identifier

@[simp] theorem retrieveAll_store (storage : Storage) (identifier : Identifier) :
    (storage.retrieveAll identifier).2.store = storage.store := by
  simp only [retrieveAll]
  split
  · rfl
  · rfl

@[simp] theorem planRecovery_store (storage : Storage) (identifier : Identifier)
    (mode : SettleMode) (theirs : Unsettled) :
    (storage.planRecovery identifier mode theirs).2.store = storage.store := by
  rw [← storage.retrieveAll_store identifier]
  simp only [planRecovery, unsettled]
  rcases storage.retrieveAll identifier with ⟨error | records, after⟩
  · rfl
  · rfl

theorem held_congr (storage : Storage) {identifier other : Identifier}
    (same : other.key = identifier.key) : storage.held other = storage.held identifier :=
  storage.store.retrieveAll_congr same

/-- Dropping the records of one terminus leaves those of another, also if it fails. -/
theorem held_removeAll_of_ne (storage : Storage) {identifier other : Identifier}
    (apart : other.key ≠ identifier.key) :
    (storage.removeAll identifier).2.held other = storage.held other := by
  simp only [removeAll, held]
  split
  · rfl
  · exact storage.store.retrieveAll_removeAll_of_ne apart

theorem held_removeAll_of_ok {storage : Storage} {identifier : Identifier} {count : Nat}
    (removed : (storage.removeAll identifier).1 = .ok count) :
    (storage.removeAll identifier).2.held identifier = .ok ∅ := by
  simp only [removeAll, held] at removed ⊢
  split at removed
  · cases removed
  · next isUp =>
      rw [if_neg isUp]
      exact storage.store.retrieveAll_removeAll_self identifier

/-- If the call fails, all records stay. -/
theorem held_removeAll_of_error {storage : Storage} {identifier : Identifier}
    {error : StoreError} (failed : (storage.removeAll identifier).1 = .error error)
    (other : Identifier) :
    (storage.removeAll identifier).2.held other = storage.held other := by
  simp only [removeAll, held] at failed ⊢
  split at failed
  · next isDown => rw [if_pos isDown]
  · cases failed

end Storage

end Reattach
