import Reattach.Store.Memory
import Reattach.Store.Rows

/-!
# Stores of unsettled deliveries

Both kinds of store answer the same five calls.  `Storage` adds outages: any of the
calls of a kind may fail before it reaches the store.
-/

namespace Reattach

/-- A store of either kind. -/
inductive Store where
  | memory (store : MemoryStore)
  | rows (store : RowStore)
  deriving DecidableEq

namespace Store

/-- Put a record in, if it follows from the one there. -/
def save (identifier : Identifier) (record : Record) : Store → Except StoreError Store
  | memory store => (store.save identifier record).map memory
  | rows store => (store.save identifier record).map rows

/-- The record of a delivery. -/
def retrieve (identifier : Identifier) (tag : Tag) : Store → Except StoreError (Option Record)
  | memory store => .ok (store.retrieve identifier tag)
  | rows store => store.retrieve identifier tag

/-- The records of a terminus. -/
def retrieveAll (identifier : Identifier) : Store → Except StoreError Records
  | memory store => .ok (store.retrieveAll identifier)
  | rows store => store.retrieveAll identifier

/-- Take out a delivery's record; tells whether there was one. -/
def remove (identifier : Identifier) (tag : Tag) : Store → Bool × Store
  | memory store => (store.remove identifier tag).map id memory
  | rows store => (store.remove identifier tag).map id rows

/-- Take out a terminus' records; tells how many there were. -/
def removeAll (identifier : Identifier) : Store → Nat × Store
  | memory store => (store.removeAll identifier).map id memory
  | rows store => (store.removeAll identifier).map id rows

end Store

/-- Which calls of one kind fail, and how many there have been so far. -/
structure Outage where
  /-- Whether the call fails before which there were so many. -/
  fails : Nat → Bool
  calls : Nat := 0

namespace Outage

/-- No call fails. -/
def never : Outage := { fails := fun _ => false }

/-- The first so many calls fail. -/
def first (count : Nat) : Outage := { fails := fun call => call < count }

instance : Coe Nat Outage := ⟨first⟩

/-- Whether the next call fails. -/
def isDue (outage : Outage) : Bool := outage.fails outage.calls

/-- What is left after one more call. -/
def next (outage : Outage) : Outage := { outage with calls := outage.calls + 1 }

end Outage

/-- Which calls of each kind fail. -/
structure Outages where
  save : Outage := .never
  retrieve : Outage := .never
  retrieveAll : Outage := .never
  remove : Outage := .never
  removeAll : Outage := .never

/-- A store together with the outages it is going to have. -/
structure Storage where
  store : Store
  outages : Outages := {}

namespace Storage

def save (storage : Storage) (identifier : Identifier) (record : Record) :
    Except StoreError Unit × Storage :=
  let outages := { storage.outages with save := storage.outages.save.next }
  if storage.outages.save.isDue then
    (.error (.unavailable identifier), { storage with outages })
  else
    match storage.store.save identifier record with
    | .error error => (.error error, { storage with outages })
    | .ok store => (.ok (), { store, outages })

/-- The record of a delivery. -/
def retrieve (storage : Storage) (identifier : Identifier) (tag : Tag) :
    Except StoreError (Option Record) × Storage :=
  let outages := { storage.outages with retrieve := storage.outages.retrieve.next }
  if storage.outages.retrieve.isDue then
    (.error (.unavailable identifier), { storage with outages })
  else
    (storage.store.retrieve identifier tag, { storage with outages })

/-- The records of a terminus. -/
def retrieveAll (storage : Storage) (identifier : Identifier) :
    Except StoreError Records × Storage :=
  let outages := { storage.outages with retrieveAll := storage.outages.retrieveAll.next }
  if storage.outages.retrieveAll.isDue then
    (.error (.unavailable identifier), { storage with outages })
  else
    (storage.store.retrieveAll identifier, { storage with outages })

def remove (storage : Storage) (identifier : Identifier) (tag : Tag) :
    Except StoreError Bool × Storage :=
  let outages := { storage.outages with remove := storage.outages.remove.next }
  if storage.outages.remove.isDue then
    (.error (.unavailable identifier), { storage with outages })
  else
    let (found, store) := storage.store.remove identifier tag
    (.ok found, { store, outages })

def removeAll (storage : Storage) (identifier : Identifier) :
    Except StoreError Nat × Storage :=
  let outages := { storage.outages with removeAll := storage.outages.removeAll.next }
  if storage.outages.removeAll.isDue then
    (.error (.unavailable identifier), { storage with outages })
  else
    let (count, store) := storage.store.removeAll identifier
    (.ok count, { store, outages })

end Storage

end Reattach
