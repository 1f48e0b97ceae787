import Reattach.Spelling
import Reattach.Store.Error

/-!
# Records as rows of text

A table with a row for each delivery, found by the storage key of its terminus and
the digits of its tag.  All columns but one are texts, so a row that others have
written need not spell a record; it is found out when it is read.
-/

namespace Reattach

/-- The columns that identify a row. -/
structure RowKey where
  terminus : String
  tag : String
  deriving DecidableEq

namespace RowKey

instance : Ord RowKey where
  compare := compareLex (compareOn terminus) (compareOn tag)

instance : Std.TransOrd RowKey :=
  inferInstanceAs (Std.TransCmp (compareLex (compareOn terminus) (compareOn tag)))

instance : Std.LawfulEqOrd RowKey where
  eq_of_compare := by
    intro left right order
    change compareLex (compareOn terminus) (compareOn tag) left right = .eq at order
    rw [compareLex, Ordering.then_eq_eq] at order
    cases left
    cases right
    rw [RowKey.mk.injEq]
    exact ⟨Std.LawfulEqCmp.eq_of_compare order.1, Std.LawfulEqCmp.eq_of_compare order.2⟩

/-- The key of a delivery's row. -/
def of (identifier : Identifier) (tag : Tag) : RowKey := ⟨identifier.storageKey, tag.toHex⟩

end RowKey

/-- The other columns of a row. -/
structure Row where
  state : String
  resumed : Bool
  deriving DecidableEq

namespace Row

/-- The row of a record. -/
def ofRecord (record : Record) : Row := ⟨record.state.name, record.resumed⟩

/-- The record that a row spells. -/
def decode (key : RowKey) (row : Row) : Except StoreError Record :=
  match Tag.ofHex key.tag with
  | .error fault => .error (.undecodable key.terminus key.tag fault)
  | .ok tag =>
      match State.parse row.state with
      | .error fault => .error (.undecodable key.terminus key.tag fault)
      | .ok state => .ok { tag, state, resumed := row.resumed }

end Row

/-- A store that outlasts the process: the rows in the order of their keys. -/
structure RowStore where
  rows : SortedMap RowKey Row := ∅
  deriving DecidableEq

namespace RowStore

/-- The rows of a terminus in the order of their tags' texts. -/
def rowsOf (store : RowStore) (identifier : Identifier) : List (RowKey × Row) :=
  let terminus := identifier.storageKey
  store.rows.toList.filter fun row => row.1.terminus == terminus

/-- Add the records that rows spell, up to the first that spells none.  Of two rows that
spell one tag the later counts. -/
def decodeRows (records : Records) : List (RowKey × Row) → Except StoreError Records
  | [] => .ok records
  | (key, row) :: rest =>
      match row.decode key with
      | .error error => .error error
      | .ok record => decodeRows (records.insert record.tag record) rest

def retrieveAll (store : RowStore) (identifier : Identifier) : Except StoreError Records :=
  decodeRows ∅ (store.rowsOf identifier)

def retrieve (store : RowStore) (identifier : Identifier) (tag : Tag) :
    Except StoreError (Option Record) :=
  let key := RowKey.of identifier tag
  match store.rows.get? key with
  | none => .ok none
  | some row =>
      match row.decode key with
      | .error error => .error error
      | .ok record => .ok (some record)

/-- The store with the record's row put in, if it follows from the one there. -/
def save (store : RowStore) (identifier : Identifier) (record : Record) :
    Except StoreError RowStore :=
  match store.retrieve identifier record.tag with
  | .error error => .error error
  | .ok existing =>
      match Record.mayReplace existing record with
      | .error error => .error error
      | .ok () => .ok ⟨store.rows.insert (RowKey.of identifier record.tag) (Row.ofRecord record)⟩

/-- The store without a delivery's row, and whether there was one. -/
def remove (store : RowStore) (identifier : Identifier) (tag : Tag) : Bool × RowStore :=
  let key := RowKey.of identifier tag
  (store.rows.contains key, ⟨store.rows.erase key⟩)

/-- The store without a terminus' rows, and how many there were. -/
def removeAll (store : RowStore) (identifier : Identifier) : Nat × RowStore :=
  let found := store.rowsOf identifier
  (found.length, ⟨found.foldl (fun rows row => rows.erase row.1) store.rows⟩)

/-- The store with a row put in as it is. -/
def putRow (store : RowStore) (key : RowKey) (row : Row) : RowStore :=
  ⟨store.rows.insert key row⟩

end RowStore

end Reattach
