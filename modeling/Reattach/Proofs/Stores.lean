import Reattach.Proofs.Isolation
import Reattach.Proofs.Ledger

/-!
# Both kinds of store keep the same ledger

A store in memory and a store of rows that begin without records give the same replies to
the same calls, errors included.  For rows this takes three things: a row's key tells the
terminus and the tag, a row spells the record it was made of, and rows are never left
behind when their terminus is dropped.
-/

namespace Reattach

/-! ## Rows that spell records -/

namespace Row

theorem ofText_name (state : State) : State.ofText state.name = .ok state := by
  cases state with
  | unknown | received | transactionalPending => decide +kernel
  | terminal outcome | transactionalTerminal outcome => cases outcome <;> decide +kernel

theorem decode_ofRecord (identifier : Identifier) (record : Record) :
    decode (RowKey.of identifier record.tag) (ofRecord record) = .ok record := by
  simp only [decode, RowKey.of, ofRecord, Tag.ofHex, Tag.ofHex?_toHex, State.parse, ofText_name]

end Row

namespace RowKey

theorem of_eq_of_iff {left right : Identifier} {leftTag rightTag : Tag} :
    of left leftTag = of right rightTag ↔ left.key = right.key ∧ leftTag = rightTag := by
  simp only [of, RowKey.mk.injEq, Identifier.storageKey_eq_iff]
  refine and_congr_right fun _ => ⟨fun same => ?_, congrArg _⟩
  have read := congrArg Tag.ofHex? same
  rw [Tag.ofHex?_toHex, Tag.ofHex?_toHex] at read
  exact Option.some.inj read

end RowKey

namespace RowStore

/-- The records that rows spell, each with its tag, in the order of the rows. -/
def spelled (rows : List (RowKey × Row)) : List (Tag × Record) :=
  rows.filterMap fun row =>
    (row.2.decode row.1).toOption.map fun record => (record.tag, record)

theorem mem_spelled_iff {rows : List (RowKey × Row)} {tag : Tag} {record : Record} :
    (tag, record) ∈ spelled rows ↔
      record.tag = tag ∧ ∃ row ∈ rows, row.2.decode row.1 = .ok record := by
  simp only [spelled, List.mem_filterMap, Option.map_eq_some_iff, Prod.mk.injEq]
  constructor
  · rintro ⟨row, member, found, isSpelled, isTag, rfl⟩
    refine ⟨isTag, row, member, ?_⟩
    cases decoded : row.2.decode row.1 with
    | error _ => simp [decoded, Except.toOption] at isSpelled
    | ok other => simpa [decoded, Except.toOption] using isSpelled
  · rintro ⟨isTag, row, member, decoded⟩
    exact ⟨row, member, record, by simp [decoded, Except.toOption], isTag, rfl⟩

theorem decodeRows_eq_ok {rows : List (RowKey × Row)}
    (decodes : ∀ row ∈ rows, ∃ record, row.2.decode row.1 = .ok record) (records : Records) :
    decodeRows records rows =
      .ok ((spelled rows).foldl (fun map binding => map.insert binding.1 binding.2) records) := by
  induction rows generalizing records with
  | nil => rfl
  | cons row rest ih =>
      obtain ⟨record, decoded⟩ := decodes row List.mem_cons_self
      have first : spelled (row :: rest) = (record.tag, record) :: spelled rest := by
        simp [spelled, decoded, Except.toOption]
      rw [first, List.foldl_cons]
      simp only [decodeRows, decoded]
      exact ih (fun other member => decodes other (List.mem_cons_of_mem _ member)) _

/-- Rows that are read without an error spell a record each, and these are what is read. -/
theorem decodeRows_lists {rows : List (RowKey × Row)} {records read : Records}
    (isRead : decodeRows records rows = .ok read) {row : RowKey × Row} (member : row ∈ rows) :
    ∃ record, row.2.decode row.1 = .ok record ∧ (read.get? record.tag).isSome = true := by
  have decodes : ∀ row ∈ rows, ∃ record, row.2.decode row.1 = .ok record := by
    clear member row
    induction rows generalizing records with
    | nil => exact fun row member => nomatch member
    | cons head rest ih =>
        simp only [decodeRows] at isRead
        split at isRead
        · cases isRead
        · next record decoded =>
            intro row member
            cases List.mem_cons.1 member with
            | inl same => exact same ▸ ⟨record, decoded⟩
            | inr inRest => exact ih isRead row inRest
  obtain ⟨record, decoded⟩ := decodes row member
  refine ⟨record, decoded, ?_⟩
  rw [decodeRows_eq_ok decodes, Except.ok.injEq] at isRead
  have listed : (record.tag, record) ∈ (spelled rows).reverse :=
    List.mem_reverse.2 (mem_spelled_iff.2 ⟨rfl, row, member, decoded⟩)
  rw [← isRead, SortedMap.get?_foldl_insert, Option.isSome_or,
    SortedMap.isSome_lookup_of_mem listed, Bool.true_or]

end RowStore

/-! ## What is listed is found -/

namespace Store

variable {store : Store} {identifier : Identifier} {records : Records}

theorem exists_retrieve (isRead : store.retrieveAll identifier = .ok records) (tag : Tag) :
    ∃ found, store.retrieve identifier tag = .ok found := by
  cases store with
  | memory store => exact ⟨_, rfl⟩
  | rows store =>
      simp only [retrieve, RowStore.retrieve]
      cases isRow : store.rows.get? (RowKey.of identifier tag) with
      | none => exact ⟨none, rfl⟩
      | some row =>
          obtain ⟨record, decoded, _⟩ :=
            RowStore.decodeRows_lists isRead (RowStore.mem_rowsOf isRow rfl)
          exact ⟨some record, by simp only [decoded]⟩

theorem listed_of_retrieve {tag : Tag} {record : Record}
    (found : store.retrieve identifier tag = .ok (some record))
    (isRead : store.retrieveAll identifier = .ok records) : (records.get? tag).isSome = true := by
  cases store with
  | memory store =>
      simp only [retrieve, retrieveAll, Except.ok.injEq] at found isRead
      rw [← isRead, ← MemoryStore.retrieve, found]
      rfl
  | rows store =>
      simp only [retrieve, retrieveAll, RowStore.retrieve] at found isRead
      split at found
      · cases found
      · next row isRow =>
          obtain ⟨spelled, decoded, listed⟩ :=
            RowStore.decodeRows_lists isRead (RowStore.mem_rowsOf isRow rfl)
          simp only [Row.decode, RowKey.of, Tag.ofHex, Tag.ofHex?_toHex] at decoded
          split at decoded <;> cases decoded
          exact listed

end Store

/-! ## What is found after a change -/

namespace Store

variable {store later : Store} {identifier : Identifier} {record : Record}

theorem retrieve_save (saved : store.save identifier record = .ok later) (other : Identifier)
    (tag : Tag) :
    later.retrieve other tag =
      if other.key = identifier.key ∧ tag = record.tag then .ok (some record)
      else store.retrieve other tag := by
  cases store with
  | memory store =>
      simp only [save, MemoryStore.save] at saved
      split at saved <;> cases saved
      simp only [retrieve, MemoryStore.retrieve, MemoryStore.retrieveAll]
      by_cases sameTerminus : other.key = identifier.key
      · rw [sameTerminus, SortedMap.get?_insert_self, Option.getD_some]
        by_cases sameTag : tag = record.tag
        · rw [if_pos ⟨rfl, sameTag⟩, sameTag, SortedMap.get?_insert_self]
        · rw [if_neg (fun both => sameTag both.2), SortedMap.get?_insert_of_ne _ _ sameTag]
      · rw [if_neg (fun both => sameTerminus both.1),
          SortedMap.get?_insert_of_ne _ _ sameTerminus]
  | rows store =>
      simp only [save, RowStore.save] at saved
      split at saved
      · cases saved
      · split at saved <;> cases saved
        simp only [retrieve, RowStore.retrieve, ← RowKey.of_eq_of_iff]
        by_cases same : RowKey.of other tag = RowKey.of identifier record.tag
        · simp only [same, SortedMap.get?_insert_self, Row.decode_ofRecord, if_true]
        · rw [if_neg same, SortedMap.get?_insert_of_ne _ _ same]

theorem retrieve_remove (store : Store) (identifier other : Identifier) (removed tag : Tag) :
    (store.remove identifier removed).2.retrieve other tag =
      if other.key = identifier.key ∧ tag = removed then .ok none
      else store.retrieve other tag := by
  cases store with
  | memory store =>
      simp only [remove, Prod.map_snd, retrieve, MemoryStore.remove, MemoryStore.retrieve]
      by_cases sameTerminus : other.key = identifier.key
      · have sameRecords (store : MemoryStore) :
            store.retrieveAll other = store.retrieveAll identifier := by
          simp only [MemoryStore.retrieveAll, sameTerminus]
        rw [sameRecords, sameRecords, MemoryStore.retrieveAll_withRecords]
        by_cases sameTag : tag = removed
        · rw [if_pos ⟨sameTerminus, sameTag⟩, sameTag, SortedMap.get?_erase_self]
        · rw [if_neg (fun both => sameTag both.2), SortedMap.get?_erase_of_ne _ sameTag]
      · rw [if_neg (fun both => sameTerminus both.1),
          MemoryStore.retrieveAll_withRecords_of_ne _ _ sameTerminus]
  | rows store =>
      simp only [remove, Prod.map_snd, retrieve, RowStore.remove, RowStore.retrieve,
        ← RowKey.of_eq_of_iff]
      by_cases same : RowKey.of other tag = RowKey.of identifier removed
      · rw [if_pos same, same, SortedMap.get?_erase_self]
      · rw [if_neg same, SortedMap.get?_erase_of_ne _ same]

end Store

/-! ## What it means to keep a ledger -/

/-- That a store in memory keeps a ledger.  No terminus has a place in it without
records. -/
structure MemoryStore.Represents (store : MemoryStore) (ledger : Ledger) : Prop where
  filed : ledger.IsFiled
  records : ∀ terminus, (store.termini.get? terminus).getD ∅ = ledger.recordsOf terminus
  inhabited : ∀ terminus, store.termini.get? terminus ≠ some ∅

/-- That a store of rows keeps a ledger, in rows that it has written itself. -/
structure RowStore.Represents (store : RowStore) (ledger : Ledger) : Prop where
  filed : ledger.IsFiled
  rows : ∀ (identifier : Identifier) tag, store.rows.get? (RowKey.of identifier tag) =
    (ledger.get? ⟨identifier.key, tag⟩).map Row.ofRecord
  own : ∀ key row, store.rows.get? key = some row →
    ∃ (identifier : Identifier) (tag : Tag), key = RowKey.of identifier tag

/-- That a store keeps a ledger. -/
def Store.Represents : Store → Ledger → Prop
  | memory store => store.Represents
  | rows store => store.Represents

variable {ledger : Ledger} {identifier : Identifier} {tag : Tag} {record : Record}

namespace MemoryStore.Represents

variable {store : MemoryStore}

theorem empty : MemoryStore.Represents {} ∅ := by
  refine ⟨Ledger.isFiled_empty, fun terminus => ?_, fun terminus found => ?_⟩
  · rfl
  · cases found

theorem retrieveAll (represents : store.Represents ledger) (identifier : Identifier) :
    store.retrieveAll identifier = ledger.recordsOf identifier.key :=
  represents.records identifier.key

theorem retrieve (represents : store.Represents ledger) (identifier : Identifier) (tag : Tag) :
    store.retrieve identifier tag = ledger.get? ⟨identifier.key, tag⟩ := by
  rw [MemoryStore.retrieve, represents.retrieveAll, Ledger.get?_recordsOf]

/-- A store with the records of one terminus replaced keeps a ledger that differs in these
only. -/
theorem withRecords (represents : store.Represents ledger) {later : Ledger} {records : Records}
    (filed : later.IsFiled)
    (replaced : ∀ terminus, later.recordsOf terminus =
      if terminus = identifier.key then records else ledger.recordsOf terminus) :
    (store.withRecords identifier records).Represents later := by
  refine ⟨filed, fun terminus => ?_, fun terminus => ?_⟩
  · rw [replaced terminus, MemoryStore.withRecords]
    by_cases same : terminus = identifier.key
    · subst same
      split
      · next noRecords =>
          rw [SortedMap.get?_erase_self, if_pos rfl, (SortedMap.isEmpty_iff records).1 noRecords]
          rfl
      · rw [SortedMap.get?_insert_self, if_pos rfl, Option.getD_some]
    · rw [if_neg same, ← represents.records terminus]
      split
      · rw [SortedMap.get?_erase_of_ne _ same]
      · rw [SortedMap.get?_insert_of_ne _ _ same]
  · rw [MemoryStore.withRecords]
    by_cases same : terminus = identifier.key
    · subst same
      split
      · simp
      · next someRecords =>
          rw [SortedMap.get?_insert_self]
          intro isEmpty
          exact someRecords ((SortedMap.isEmpty_iff records).2 (Option.some.inj isEmpty))
    · split
      · rw [SortedMap.get?_erase_of_ne _ same]
        exact represents.inhabited terminus
      · rw [SortedMap.get?_insert_of_ne _ _ same]
        exact represents.inhabited terminus

theorem save (represents : store.Represents ledger) (identifier : Identifier) (record : Record) :
    match Record.mayReplace (ledger.get? ⟨identifier.key, record.tag⟩) record with
    | .error error => store.save identifier record = .error error
    | .ok () => ∃ later, store.save identifier record = .ok later ∧
        later.Represents (ledger.insert ⟨identifier.key, record.tag⟩ record) := by
  simp only [MemoryStore.save, represents.retrieveAll, Ledger.get?_recordsOf]
  cases allowed : Record.mayReplace (ledger.get? ⟨identifier.key, record.tag⟩) record with
  | error error => rfl
  | ok _ =>
      let records := (ledger.recordsOf identifier.key).insert record.tag record
      have isInhabited : ¬records.isEmpty = true := by
        intro isEmpty
        have found := SortedMap.get?_insert_self (ledger.recordsOf identifier.key) record.tag record
        change records.get? record.tag = some record at found
        rw [(SortedMap.isEmpty_iff records).1 isEmpty] at found
        cases found
      have replaced : (store.withRecords identifier records).Represents
          (ledger.insert ⟨identifier.key, record.tag⟩ record) :=
        represents.withRecords (represents.filed.insert _ _) fun terminus =>
          Ledger.recordsOf_insert _ _ _ _ _
      rw [MemoryStore.withRecords, if_neg isInhabited] at replaced
      exact ⟨_, rfl, replaced⟩

theorem remove (represents : store.Represents ledger) (identifier : Identifier) (tag : Tag) :
    (store.remove identifier tag).1 = ledger.contains ⟨identifier.key, tag⟩ ∧
      (store.remove identifier tag).2.Represents (ledger.erase ⟨identifier.key, tag⟩) := by
  simp only [MemoryStore.remove, represents.retrieveAll]
  constructor
  · rw [SortedMap.contains, Ledger.get?_recordsOf, SortedMap.contains]
  · exact represents.withRecords (represents.filed.erase _) fun terminus =>
      Ledger.recordsOf_erase _ _ _ _

theorem removeAll (represents : store.Represents ledger) (identifier : Identifier) :
    (store.removeAll identifier).1 = (ledger.recordsOf identifier.key).size ∧
      (store.removeAll identifier).2.Represents (ledger.without identifier.key) := by
  simp only [MemoryStore.removeAll, represents.retrieveAll, true_and]
  have replaced : (store.withRecords identifier ∅).Represents
      (ledger.without identifier.key) :=
    represents.withRecords (represents.filed.without _) fun terminus =>
      Ledger.recordsOf_without _ _ _
  exact replaced

/-- The termini of the store are those that have records. -/
theorem terminusCount (represents : store.Represents ledger) :
    store.terminusCount = ledger.termini.length := by
  have same : store.termini.keys.Perm ledger.termini := by
    refine (List.perm_ext_iff_of_nodup store.termini.nodup_keys (List.nodup_dedup _)).2 ?_
    intro terminus
    change _ ↔ terminus ∈ ledger.termini
    rw [store.termini.mem_keys_iff, SortedMap.contains, Ledger.mem_termini_iff]
    simp only [← Ledger.get?_recordsOf, ← represents.records]
    cases found : store.termini.get? terminus with
    | none =>
        refine iff_of_false Bool.false_ne_true ?_
        rintro ⟨tag, record, isFound⟩
        cases isFound
    | some records =>
        refine iff_of_true rfl ?_
        by_contra noRecord
        have isEmpty : records = ∅ := by
          apply SortedMap.ext_get?
          intro tag
          apply Option.eq_none_iff_forall_ne_some.2
          intro record isFound
          exact noRecord ⟨tag, record, isFound⟩
        exact represents.inhabited terminus (isEmpty ▸ found)
  have sameLength := same.length_eq
  rwa [SortedMap.keys, List.length_map] at sameLength

end MemoryStore.Represents

namespace RowStore.Represents

variable {store : RowStore}

theorem empty : RowStore.Represents {} ∅ := by
  refine ⟨Ledger.isFiled_empty, fun identifier tag => rfl, fun key row found => ?_⟩
  cases found

theorem retrieve (represents : store.Represents ledger) (identifier : Identifier) (tag : Tag) :
    store.retrieve identifier tag = .ok (ledger.get? ⟨identifier.key, tag⟩) := by
  simp only [RowStore.retrieve, represents.rows]
  cases found : ledger.get? ⟨identifier.key, tag⟩ with
  | none => rfl
  | some record =>
      have isTag : record.tag = tag := represents.filed _ _ found
      subst isTag
      simp only [Option.map_some, Row.decode_ofRecord]

theorem mem_rowsOf_iff (represents : store.Represents ledger) (row : RowKey × Row) :
    row ∈ store.rowsOf identifier ↔
      ∃ record, ledger.get? ⟨identifier.key, record.tag⟩ = some record ∧
        row = (RowKey.of identifier record.tag, Row.ofRecord record) := by
  obtain ⟨key, columns⟩ := row
  simp only [rowsOf, List.mem_filter, beq_iff_eq, store.rows.mem_toList_iff, Prod.mk.injEq]
  constructor
  · rintro ⟨found, isOfTerminus⟩
    obtain ⟨other, tag, rfl⟩ := represents.own key columns found
    have sameKey : other.key = identifier.key :=
      Identifier.storageKey_eq_iff.1 isOfTerminus
    rw [represents.rows, Option.map_eq_some_iff] at found
    obtain ⟨record, isFound, rfl⟩ := found
    have isTag : record.tag = tag := represents.filed _ _ isFound
    subst isTag
    exact ⟨record, sameKey ▸ isFound, RowKey.of_eq_of_iff.2 ⟨sameKey, rfl⟩, rfl⟩
  · rintro ⟨record, found, rfl, rfl⟩
    exact ⟨by rw [represents.rows, found, Option.map_some], rfl⟩

theorem retrieveAll (represents : store.Represents ledger) (identifier : Identifier) :
    store.retrieveAll identifier = .ok (ledger.recordsOf identifier.key) := by
  have decodes (row : RowKey × Row) (member : row ∈ store.rowsOf identifier) :
      ∃ record, row.2.decode row.1 = .ok record := by
    obtain ⟨record, _, rfl⟩ := represents.mem_rowsOf_iff _ |>.1 member
    exact ⟨record, Row.decode_ofRecord identifier record⟩
  have listed (tag : Tag) (record : Record) :
      (tag, record) ∈ (spelled (store.rowsOf identifier)).reverse ↔
        ledger.get? ⟨identifier.key, tag⟩ = some record := by
    rw [List.mem_reverse, mem_spelled_iff]
    constructor
    · rintro ⟨rfl, row, member, decoded⟩
      obtain ⟨other, found, rfl⟩ := (represents.mem_rowsOf_iff _).1 member
      rw [Row.decode_ofRecord, Except.ok.injEq] at decoded
      exact decoded ▸ found
    · intro found
      have isTag : record.tag = tag := represents.filed _ _ found
      subst isTag
      exact ⟨rfl, _, (represents.mem_rowsOf_iff _).2 ⟨record, found, rfl⟩,
        Row.decode_ofRecord identifier record⟩
  rw [RowStore.retrieveAll, decodeRows_eq_ok decodes]
  congr 1
  apply SortedMap.ext_get?
  intro tag
  rw [SortedMap.get?_foldl_insert, SortedMap.lookup_eq_of_mem_iff (listed tag),
    Ledger.get?_recordsOf]
  exact Option.or_none

theorem save (represents : store.Represents ledger) (identifier : Identifier) (record : Record) :
    match Record.mayReplace (ledger.get? ⟨identifier.key, record.tag⟩) record with
    | .error error => store.save identifier record = .error error
    | .ok () => ∃ later, store.save identifier record = .ok later ∧
        later.Represents (ledger.insert ⟨identifier.key, record.tag⟩ record) := by
  simp only [RowStore.save, represents.retrieve]
  cases allowed : Record.mayReplace (ledger.get? ⟨identifier.key, record.tag⟩) record with
  | error error => rfl
  | ok _ =>
      refine ⟨_, rfl, represents.filed.insert _ _, fun other tag => ?_, fun key row found => ?_⟩
      · by_cases same : RowKey.of other tag = RowKey.of identifier record.tag
        · obtain ⟨sameKey, rfl⟩ := RowKey.of_eq_of_iff.1 same
          rw [same, SortedMap.get?_insert_self, sameKey, SortedMap.get?_insert_self,
            Option.map_some]
        · have apart : (⟨other.key, tag⟩ : DeliveryKey) ≠ ⟨identifier.key, record.tag⟩ := by
            intro sameDelivery
            rw [DeliveryKey.mk.injEq] at sameDelivery
            exact same (RowKey.of_eq_of_iff.2 sameDelivery)
          rw [SortedMap.get?_insert_of_ne _ _ same, SortedMap.get?_insert_of_ne _ _ apart,
            represents.rows]
      · rcases SortedMap.get?_insert_eq_some_iff.1 found with ⟨rfl, _⟩ | ⟨_, wasFound⟩
        · exact ⟨identifier, record.tag, rfl⟩
        · exact represents.own key row wasFound

theorem remove (represents : store.Represents ledger) (identifier : Identifier) (tag : Tag) :
    (store.remove identifier tag).1 = ledger.contains ⟨identifier.key, tag⟩ ∧
      (store.remove identifier tag).2.Represents (ledger.erase ⟨identifier.key, tag⟩) := by
  simp only [RowStore.remove]
  refine ⟨?_, represents.filed.erase _, fun other asked => ?_, fun key row found => ?_⟩
  · rw [SortedMap.contains, represents.rows, Option.isSome_map, SortedMap.contains]
  · by_cases same : RowKey.of other asked = RowKey.of identifier tag
    · obtain ⟨sameKey, rfl⟩ := RowKey.of_eq_of_iff.1 same
      rw [same, SortedMap.get?_erase_self, sameKey, SortedMap.get?_erase_self, Option.map_none]
    · have apart : (⟨other.key, asked⟩ : DeliveryKey) ≠ ⟨identifier.key, tag⟩ := by
        intro sameDelivery
        rw [DeliveryKey.mk.injEq] at sameDelivery
        exact same (RowKey.of_eq_of_iff.2 sameDelivery)
      rw [SortedMap.get?_erase_of_ne _ same, SortedMap.get?_erase_of_ne _ apart,
        represents.rows]
  · exact represents.own key row (SortedMap.get?_erase_eq_some_iff.1 found).2

theorem length_rowsOf (represents : store.Represents ledger) (identifier : Identifier) :
    (store.rowsOf identifier).length = (ledger.recordsOf identifier.key).size := by
  have same : ((store.rowsOf identifier).map Prod.fst).Perm
      ((ledger.recordsOf identifier.key).keys.map (RowKey.of identifier)) := by
    have distinctRows : ((store.rowsOf identifier).map Prod.fst).Nodup :=
      store.rows.nodup_keys.sublist (List.filter_sublist.map _)
    have distinctTags :
        ((ledger.recordsOf identifier.key).keys.map (RowKey.of identifier)).Nodup :=
      (SortedMap.nodup_keys _).map fun left right same => (RowKey.of_eq_of_iff.1 same).2
    refine (List.perm_ext_iff_of_nodup distinctRows distinctTags).2 fun key => ?_
    simp only [List.mem_map, SortedMap.mem_keys_iff, SortedMap.contains,
      Option.isSome_iff_exists, Ledger.get?_recordsOf]
    constructor
    · rintro ⟨row, member, rfl⟩
      obtain ⟨record, found, rfl⟩ := (represents.mem_rowsOf_iff _).1 member
      exact ⟨record.tag, ⟨record, found⟩, rfl⟩
    · rintro ⟨tag, ⟨record, found⟩, rfl⟩
      have isTag : record.tag = tag := represents.filed _ _ found
      subst isTag
      exact ⟨_, (represents.mem_rowsOf_iff _).2 ⟨record, found, rfl⟩, rfl⟩
  have sameLength := same.length_eq
  rwa [List.length_map, List.length_map, SortedMap.keys, List.length_map] at sameLength

theorem removeAll (represents : store.Represents ledger) (identifier : Identifier) :
    (store.removeAll identifier).1 = (ledger.recordsOf identifier.key).size ∧
      (store.removeAll identifier).2.Represents (ledger.without identifier.key) := by
  refine ⟨represents.length_rowsOf identifier, represents.filed.without _, ?_, ?_⟩
  · intro other tag
    have isRow : RowKey.of other tag ∈ (store.rowsOf identifier).map Prod.fst ↔
        other.key = identifier.key ∧ ledger.get? ⟨identifier.key, tag⟩ ≠ none := by
      simp only [List.mem_map, represents.mem_rowsOf_iff, Option.ne_none_iff_exists']
      constructor
      · rintro ⟨_, ⟨record, found, rfl⟩, same⟩
        obtain ⟨sameKey, rfl⟩ := RowKey.of_eq_of_iff.1 same
        exact ⟨sameKey.symm, record, found⟩
      · rintro ⟨sameKey, record, found⟩
        have isTag : record.tag = tag := represents.filed _ _ found
        subst isTag
        exact ⟨_, ⟨record, found, rfl⟩, RowKey.of_eq_of_iff.2 ⟨sameKey.symm, rfl⟩⟩
    simp only [RowStore.removeAll, get?_foldl_erase, Ledger.get?_without, isRow,
      represents.rows]
    by_cases sameKey : other.key = identifier.key
    · rw [sameKey]
      cases found : ledger.get? ⟨identifier.key, tag⟩ with
      | none => simp
      | some record => simp
    · simp [sameKey]
  · intro key row found
    simp only [RowStore.removeAll, get?_foldl_erase] at found
    split at found
    · cases found
    · exact represents.own key row found

end RowStore.Represents

namespace Store.Represents

variable {store : Store}

theorem filed (represents : store.Represents ledger) : ledger.IsFiled := by
  cases store with
  | memory store => exact MemoryStore.Represents.filed represents
  | rows store => exact RowStore.Represents.filed represents

theorem retrieve (represents : store.Represents ledger) (identifier : Identifier) (tag : Tag) :
    store.retrieve identifier tag = .ok (ledger.get? ⟨identifier.key, tag⟩) := by
  cases store with
  | memory store =>
      exact congrArg Except.ok (MemoryStore.Represents.retrieve represents identifier tag)
  | rows store => exact RowStore.Represents.retrieve represents identifier tag

theorem retrieveAll (represents : store.Represents ledger) (identifier : Identifier) :
    store.retrieveAll identifier = .ok (ledger.recordsOf identifier.key) := by
  cases store with
  | memory store =>
      exact congrArg Except.ok (MemoryStore.Represents.retrieveAll represents identifier)
  | rows store => exact RowStore.Represents.retrieveAll represents identifier

theorem save (represents : store.Represents ledger) (identifier : Identifier) (record : Record) :
    match Record.mayReplace (ledger.get? ⟨identifier.key, record.tag⟩) record with
    | .error error => store.save identifier record = .error error
    | .ok () => ∃ later, store.save identifier record = .ok later ∧
        later.Represents (ledger.insert ⟨identifier.key, record.tag⟩ record) := by
  cases store with
  | memory store =>
      have saves := MemoryStore.Represents.save represents identifier record
      simp only [Store.save]
      split at saves
      · rw [saves]
        rfl
      · obtain ⟨later, saved, kept⟩ := saves
        rw [saved]
        exact ⟨_, rfl, kept⟩
  | rows store =>
      have saves := RowStore.Represents.save represents identifier record
      simp only [Store.save]
      split at saves
      · rw [saves]
        rfl
      · obtain ⟨later, saved, kept⟩ := saves
        rw [saved]
        exact ⟨_, rfl, kept⟩

theorem remove (represents : store.Represents ledger) (identifier : Identifier) (tag : Tag) :
    (store.remove identifier tag).1 = ledger.contains ⟨identifier.key, tag⟩ ∧
      (store.remove identifier tag).2.Represents (ledger.erase ⟨identifier.key, tag⟩) := by
  cases store with
  | memory store => exact MemoryStore.Represents.remove represents identifier tag
  | rows store => exact RowStore.Represents.remove represents identifier tag

theorem removeAll (represents : store.Represents ledger) (identifier : Identifier) :
    (store.removeAll identifier).1 = (ledger.recordsOf identifier.key).size ∧
      (store.removeAll identifier).2.Represents (ledger.without identifier.key) := by
  cases store with
  | memory store => exact MemoryStore.Represents.removeAll represents identifier
  | rows store => exact RowStore.Represents.removeAll represents identifier

end Store.Represents

/-! ## Calls that reach their store -/

/-- That no call is going to fail before it reaches the store. -/
structure Storage.Works (storage : Storage) : Prop where
  save : ∀ call, storage.outages.save.fails call = false
  retrieve : ∀ call, storage.outages.retrieve.fails call = false
  retrieveAll : ∀ call, storage.outages.retrieveAll.fails call = false
  remove : ∀ call, storage.outages.remove.fails call = false
  removeAll : ∀ call, storage.outages.removeAll.fails call = false

namespace Storage

variable {storage : Storage}

theorem works_of_never (store : Store) : Works { store } := by
  constructor <;> exact fun _ => rfl

theorem Works.call (works : storage.Works) (call : StoreCall) : (storage.call call).2.Works := by
  obtain ⟨saves, retrieves, retrievesAll, removes, removesAll⟩ := works
  cases call with
  | save identifier record =>
      simp only [Storage.call, Storage.save, Outage.isDue, saves, Bool.false_eq_true, if_false]
      split <;> exact ⟨saves, retrieves, retrievesAll, removes, removesAll⟩
  | retrieve identifier tag =>
      simp only [Storage.call, Storage.retrieve, Outage.isDue, retrieves, Bool.false_eq_true,
        if_false]
      exact ⟨saves, retrieves, retrievesAll, removes, removesAll⟩
  | retrieveAll identifier =>
      simp only [Storage.call, Storage.retrieveAll, Outage.isDue, retrievesAll,
        Bool.false_eq_true, if_false]
      exact ⟨saves, retrieves, retrievesAll, removes, removesAll⟩
  | remove identifier tag =>
      simp only [Storage.call, Storage.remove, Outage.isDue, removes, Bool.false_eq_true,
        if_false]
      exact ⟨saves, retrieves, retrievesAll, removes, removesAll⟩
  | removeAll identifier =>
      simp only [Storage.call, Storage.removeAll, Outage.isDue, removesAll, Bool.false_eq_true,
        if_false]
      exact ⟨saves, retrieves, retrievesAll, removes, removesAll⟩

/-- A store that is reached replies what its ledger does. -/
theorem Works.call_eq (works : storage.Works) (represents : storage.store.Represents ledger)
    (call : StoreCall) :
    (storage.call call).1 = (ledger.answer call).1 ∧
      (storage.call call).2.store.Represents (ledger.answer call).2 := by
  cases call with
  | save identifier record =>
      have saves := represents.save identifier record
      simp only [Storage.call, Storage.save, Outage.isDue, works.save, Bool.false_eq_true,
        if_false, Ledger.answer]
      cases decided : Record.mayReplace (ledger.get? ⟨identifier.key, record.tag⟩) record with
      | error _ =>
          simp only [decided] at saves
          simp only [saves]
          exact ⟨rfl, represents⟩
      | ok _ =>
          simp only [decided] at saves
          obtain ⟨later, saved, kept⟩ := saves
          simp only [saved]
          exact ⟨rfl, kept⟩
  | retrieve identifier tag =>
      simp only [Storage.call, Storage.retrieve, Outage.isDue, works.retrieve,
        Bool.false_eq_true, if_false, represents.retrieve]
      exact ⟨rfl, represents⟩
  | retrieveAll identifier =>
      simp only [Storage.call, Storage.retrieveAll, Outage.isDue, works.retrieveAll,
        Bool.false_eq_true, if_false, represents.retrieveAll]
      exact ⟨rfl, represents⟩
  | remove identifier tag =>
      obtain ⟨found, kept⟩ := represents.remove identifier tag
      simp only [Storage.call, Storage.remove, Outage.isDue, works.remove, Bool.false_eq_true,
        if_false]
      exact ⟨congrArg (Except.ok ∘ StoreReply.removed) found, kept⟩
  | removeAll identifier =>
      obtain ⟨count, kept⟩ := represents.removeAll identifier
      simp only [Storage.call, Storage.removeAll, Outage.isDue, works.removeAll,
        Bool.false_eq_true, if_false]
      exact ⟨congrArg (Except.ok ∘ StoreReply.removedAll) count, kept⟩

theorem Works.callAll (works : storage.Works) (calls : List StoreCall) :
    (storage.callAll calls).2.Works := by
  induction calls generalizing storage with
  | nil => exact works
  | cons call rest ih => exact ih (works.call call)

/-- So it does for calls made one after the other. -/
theorem Works.callAll_eq (works : storage.Works) (represents : storage.store.Represents ledger)
    (calls : List StoreCall) :
    (storage.callAll calls).1 = (ledger.answerAll calls).1 ∧
      (storage.callAll calls).2.store.Represents (ledger.answerAll calls).2 := by
  induction calls generalizing storage ledger with
  | nil => exact ⟨rfl, represents⟩
  | cons call rest ih =>
      obtain ⟨first, kept⟩ := works.call_eq represents call
      obtain ⟨later, keptLater⟩ := ih (works.call call) kept
      refine ⟨?_, keptLater⟩
      simp only [Storage.callAll, Ledger.answerAll, first, later]

theorem exists_memory_call {store : MemoryStore} (isMemory : storage.store = .memory store)
    (call : StoreCall) : ∃ later, (storage.call call).2.store = .memory later := by
  cases call with
  | save identifier record =>
      simp only [Storage.call, Storage.save, isMemory, Store.save]
      split
      · exact ⟨store, rfl⟩
      · cases store.save identifier record with
        | error _ => exact ⟨store, rfl⟩
        | ok later => exact ⟨later, rfl⟩
  | retrieve _ _ =>
      simp only [Storage.call, Storage.retrieve]
      split <;> exact ⟨store, isMemory⟩
  | retrieveAll _ =>
      simp only [Storage.call, Storage.retrieveAll]
      split <;> exact ⟨store, isMemory⟩
  | remove _ _ =>
      simp only [Storage.call, Storage.remove, isMemory, Store.remove]
      split <;> exact ⟨_, rfl⟩
  | removeAll _ =>
      simp only [Storage.call, Storage.removeAll, isMemory, Store.removeAll]
      split <;> exact ⟨_, rfl⟩

theorem exists_memory_callAll {store : MemoryStore} (isMemory : storage.store = .memory store)
    (calls : List StoreCall) : ∃ later, (storage.callAll calls).2.store = .memory later := by
  induction calls generalizing storage store with
  | nil => exact ⟨store, isMemory⟩
  | cons call rest ih =>
      obtain ⟨later, isLater⟩ := exists_memory_call isMemory call
      exact ih isLater

theorem store_save_of_error {identifier : Identifier} {record : Record} {error : StoreError}
    (refused : (storage.save identifier record).1 = .error error) :
    (storage.save identifier record).2.store = storage.store := by
  simp only [Storage.save] at refused ⊢
  split
  · rfl
  · next notDue =>
      rw [if_neg notDue] at refused
      cases saved : storage.store.save identifier record with
      | error _ => rfl
      | ok _ => simp [saved] at refused

/-- A store without outages refuses what the ledger refuses. -/
theorem Works.save_of_refused (works : storage.Works) (represents : storage.store.Represents ledger)
    {error : StoreError}
    (refused : (ledger.answer (.save identifier record)).1 = .error error) :
    (storage.save identifier record).1 = .error error ∧
      (storage.save identifier record).2.store = storage.store := by
  have replied := (works.call_eq represents (.save identifier record)).1
  rw [refused] at replied
  have isError : (storage.save identifier record).1 = .error error := by
    simp only [Storage.call, Prod.map_fst] at replied
    cases saved : (storage.save identifier record).1 with
    | error _ => simpa [saved, Except.map] using replied
    | ok _ => simp [saved, Except.map] at replied
  exact ⟨isError, store_save_of_error isError⟩

end Storage

/-- A store in memory and a store of rows that begin without records reply alike to any calls
made one after the other, and as the ledger does that keeps one record for each terminus, in
whatever spelling, and tag.  They keep the same records, never find a row of their own that
spells none, and stay as they are where they refuse a record; and the store in memory counts
the termini with at least one record. -/
theorem stores_agree (calls : List StoreCall) :
    let memory := ({ store := .memory {} } : Storage).callAll calls
    let rows := ({ store := .rows {} } : Storage).callAll calls
    let ledger := Ledger.answerAll ∅ calls
    memory.1 = ledger.1 ∧ rows.1 = ledger.1 ∧
    (∀ identifier, memory.2.held identifier = .ok (ledger.2.recordsOf identifier.key) ∧
      rows.2.held identifier = .ok (ledger.2.recordsOf identifier.key)) ∧
    (∀ terminus tag fault, .error (.undecodable terminus tag fault) ∉ rows.1) ∧
    (∀ identifier record error, (ledger.2.answer (.save identifier record)).1 = .error error →
      (memory.2.save identifier record).1 = .error error ∧
      (memory.2.save identifier record).2.store = memory.2.store ∧
      (rows.2.save identifier record).1 = .error error ∧
      (rows.2.save identifier record).2.store = rows.2.store) ∧
    ∃ store, memory.2.store = .memory store ∧
      store.terminusCount = ledger.2.termini.length := by
  intro memory rows ledger
  have memoryWorks := Storage.works_of_never (.memory {})
  have rowsWork := Storage.works_of_never (.rows {})
  obtain ⟨memoryReplies, memoryKeeps⟩ :=
    memoryWorks.callAll_eq (MemoryStore.Represents.empty) calls
  obtain ⟨rowsReply, rowsKeep⟩ := rowsWork.callAll_eq (RowStore.Represents.empty) calls
  refine ⟨memoryReplies, rowsReply, ?_, ?_, ?_, ?_⟩
  · intro identifier
    exact ⟨memoryKeeps.retrieveAll identifier, rowsKeep.retrieveAll identifier⟩
  · intro terminus tag fault reported
    obtain ⟨refusal, isRefusal⟩ := Ledger.answerAll_error (rowsReply ▸ reported)
    cases isRefusal
  · intro identifier record error refused
    obtain ⟨memoryRefuses, memoryStays⟩ :=
      (memoryWorks.callAll calls).save_of_refused memoryKeeps refused
    obtain ⟨rowsRefuse, rowsStay⟩ := (rowsWork.callAll calls).save_of_refused rowsKeep refused
    exact ⟨memoryRefuses, memoryStays, rowsRefuse, rowsStay⟩
  · have begins : ({ store := .memory {} } : Storage).store = .memory {} := rfl
    obtain ⟨store, isMemory⟩ := Storage.exists_memory_callAll begins calls
    refine ⟨store, isMemory, ?_⟩
    have keeps : store.Represents ledger.2 := by
      rw [isMemory] at memoryKeeps
      exact memoryKeeps
    exact keeps.terminusCount

end Reattach
