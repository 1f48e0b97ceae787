import Reattach.Store.Error

/-!
# Records in memory

The records of each terminus under its key.  A terminus without records has no
place in the store, so that the termini can be counted.
-/

namespace Reattach

/-- A store that lasts as long as the process. -/
structure MemoryStore where
  termini : SortedMap Identifier.Key Records := ∅
  deriving DecidableEq

namespace MemoryStore

def retrieveAll (store : MemoryStore) (identifier : Identifier) : Records :=
  (store.termini.get? identifier.key).getD ∅

def retrieve (store : MemoryStore) (identifier : Identifier) (tag : Tag) : Option Record :=
  (store.retrieveAll identifier).get? tag

/-- The store with the record put in, if it follows from the one there. -/
def save (store : MemoryStore) (identifier : Identifier) (record : Record) :
    Except StoreError MemoryStore :=
  let records := store.retrieveAll identifier
  match Record.mayReplace (records.get? record.tag) record with
  | .error error => .error error
  | .ok () => .ok ⟨store.termini.insert identifier.key (records.insert record.tag record)⟩

/-- The store with the records of a terminus replaced. -/
def withRecords (store : MemoryStore) (identifier : Identifier) (records : Records) :
    MemoryStore :=
  if records.isEmpty then
    ⟨store.termini.erase identifier.key⟩
  else
    ⟨store.termini.insert identifier.key records⟩

/-- The store without a delivery's record, and whether there was one. -/
def remove (store : MemoryStore) (identifier : Identifier) (tag : Tag) : Bool × MemoryStore :=
  let records := store.retrieveAll identifier
  (records.contains tag, store.withRecords identifier (records.erase tag))

/-- The store without a terminus' records, and how many there were. -/
def removeAll (store : MemoryStore) (identifier : Identifier) : Nat × MemoryStore :=
  ((store.retrieveAll identifier).size, ⟨store.termini.erase identifier.key⟩)

/-- Number of termini with at least one record. -/
def terminusCount (store : MemoryStore) : Nat := store.termini.size

theorem retrieveAll_withRecords (store : MemoryStore) (identifier : Identifier)
    (records : Records) :
    (store.withRecords identifier records).retrieveAll identifier = records := by
  unfold withRecords retrieveAll
  split
  · next noRecords =>
      rw [SortedMap.get?_erase_self, (SortedMap.isEmpty_iff records).1 noRecords]
      rfl
  · rw [SortedMap.get?_insert_self]
    rfl

theorem retrieveAll_withRecords_of_ne (store : MemoryStore) {identifier other : Identifier}
    (records : Records) (apart : other.key ≠ identifier.key) :
    (store.withRecords identifier records).retrieveAll other = store.retrieveAll other := by
  unfold withRecords retrieveAll
  split
  · rw [SortedMap.get?_erase_of_ne _ apart]
  · rw [SortedMap.get?_insert_of_ne _ _ apart]

end MemoryStore

end Reattach
