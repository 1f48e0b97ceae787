import Mathlib.Data.List.Dedup
import Reattach.Store.Call

/-!
# The ledger that a store keeps

Whatever its kind, a store keeps one map: the records of all deliveries, each under its
terminus and its tag.  The ledger is that map and nothing else, and answers the five calls
the way a store should.  A terminus is known in it by its key, so by any spelling of its
identifier.
-/

namespace Reattach

/-- What identifies a delivery among those of all termini. -/
structure DeliveryKey where
  terminus : Identifier.Key
  tag : Tag
  deriving DecidableEq

namespace DeliveryKey

instance : Ord DeliveryKey where
  compare := compareLex (compareOn terminus) (compareOn tag)

instance : Std.TransOrd DeliveryKey :=
  inferInstanceAs (Std.TransCmp (compareLex (compareOn terminus) (compareOn tag)))

instance : Std.LawfulEqOrd DeliveryKey where
  eq_of_compare := by
    intro left right order
    change compareLex (compareOn terminus) (compareOn tag) left right = .eq at order
    rw [compareLex, Ordering.then_eq_eq] at order
    cases left
    cases right
    rw [DeliveryKey.mk.injEq]
    exact ⟨Std.LawfulEqCmp.eq_of_compare order.1, Std.LawfulEqCmp.eq_of_compare order.2⟩

end DeliveryKey

/-- The records of all deliveries. -/
abbrev Ledger := SortedMap DeliveryKey Record

namespace Ledger

/-- The records of one terminus, by tag. -/
def recordsOf (ledger : Ledger) (terminus : Identifier.Key) : Records :=
  .ofList ((ledger.toList.filter fun binding => binding.1.terminus = terminus).map
    fun binding => (binding.1.tag, binding.2))

/-- The ledger without the records of one terminus. -/
def without (ledger : Ledger) (terminus : Identifier.Key) : Ledger :=
  ⟨ledger.toList.filter fun binding => binding.1.terminus ≠ terminus, ledger.sorted.filter _⟩

/-- The termini with at least one record. -/
def termini (ledger : Ledger) : List Identifier.Key :=
  (ledger.keys.map (·.terminus)).dedup

/-- The reply to a call, and what the call leaves. -/
def answer (ledger : Ledger) : StoreCall → Except StoreError StoreReply × Ledger
  | .save identifier record =>
      match Record.mayReplace (ledger.get? ⟨identifier.key, record.tag⟩) record with
      | .error error => (.error error, ledger)
      | .ok () => (.ok .saved, ledger.insert ⟨identifier.key, record.tag⟩ record)
  | .retrieve identifier tag => (.ok (.found (ledger.get? ⟨identifier.key, tag⟩)), ledger)
  | .retrieveAll identifier => (.ok (.records (ledger.recordsOf identifier.key)), ledger)
  | .remove identifier tag =>
      (.ok (.removed (ledger.contains ⟨identifier.key, tag⟩)),
        ledger.erase ⟨identifier.key, tag⟩)
  | .removeAll identifier =>
      (.ok (.removedAll (ledger.recordsOf identifier.key).size), ledger.without identifier.key)

/-- The replies to calls made one after the other, and what they leave. -/
def answerAll (ledger : Ledger) :
    List StoreCall → List (Except StoreError StoreReply) × Ledger
  | [] => ([], ledger)
  | call :: rest =>
      let (reply, ledger) := ledger.answer call
      let (replies, ledger) := answerAll ledger rest
      (reply :: replies, ledger)

/-- That every record stands under its own tag. -/
def IsFiled (ledger : Ledger) : Prop :=
  ∀ key record, ledger.get? key = some record → record.tag = key.tag

variable {ledger : Ledger} {key : DeliveryKey} {terminus : Identifier.Key} {record : Record}

theorem get?_recordsOf (ledger : Ledger) (terminus : Identifier.Key) (tag : Tag) :
    (ledger.recordsOf terminus).get? tag = ledger.get? ⟨terminus, tag⟩ := by
  have listed (record : Record) :
      (tag, record) ∈ ((ledger.toList.filter fun binding => binding.1.terminus = terminus).map
          fun binding => (binding.1.tag, binding.2)).reverse ↔
        ledger.get? ⟨terminus, tag⟩ = some record := by
    rw [← ledger.mem_toList_iff]
    simp only [List.mem_reverse, List.mem_map, List.mem_filter, decide_eq_true_eq,
      Prod.mk.injEq]
    constructor
    · rintro ⟨⟨⟨_, _⟩, _⟩, ⟨member, rfl⟩, rfl, rfl⟩
      exact member
    · intro member
      exact ⟨_, ⟨member, rfl⟩, rfl, rfl⟩
  rw [recordsOf, SortedMap.get?_ofList]
  exact SortedMap.lookup_eq_of_mem_iff listed

theorem get?_without (ledger : Ledger) (terminus : Identifier.Key) (key : DeliveryKey) :
    (ledger.without terminus).get? key =
      if key.terminus = terminus then none else ledger.get? key := by
  apply Option.ext
  intro record
  rw [← SortedMap.mem_toList_iff, without]
  simp only [List.mem_filter, decide_eq_true_eq, ledger.mem_toList_iff]
  split
  · next same => simp [same]
  · next apart => simp [apart]

theorem recordsOf_insert (ledger : Ledger) (terminus other : Identifier.Key) (tag : Tag)
    (record : Record) :
    recordsOf (ledger.insert ⟨terminus, tag⟩ record) other =
      if other = terminus then (ledger.recordsOf terminus).insert tag record
      else ledger.recordsOf other := by
  apply SortedMap.ext_get?
  intro asked
  rw [get?_recordsOf]
  split
  · next same =>
      subst same
      by_cases isTag : asked = tag
      · subst isTag
        rw [SortedMap.get?_insert_self, SortedMap.get?_insert_self]
      · rw [SortedMap.get?_insert_of_ne _ _ isTag, get?_recordsOf]
        exact SortedMap.get?_insert_of_ne _ _ (by simp [isTag])
  · next apart =>
      rw [get?_recordsOf]
      exact SortedMap.get?_insert_of_ne _ _ (by simp [apart])

theorem recordsOf_erase (ledger : Ledger) (terminus other : Identifier.Key) (tag : Tag) :
    recordsOf (ledger.erase ⟨terminus, tag⟩) other =
      if other = terminus then (ledger.recordsOf terminus).erase tag
      else ledger.recordsOf other := by
  apply SortedMap.ext_get?
  intro asked
  rw [get?_recordsOf]
  split
  · next same =>
      subst same
      by_cases isTag : asked = tag
      · subst isTag
        rw [SortedMap.get?_erase_self, SortedMap.get?_erase_self]
      · rw [SortedMap.get?_erase_of_ne _ isTag, get?_recordsOf]
        exact SortedMap.get?_erase_of_ne _ (by simp [isTag])
  · next apart =>
      rw [get?_recordsOf]
      exact SortedMap.get?_erase_of_ne _ (by simp [apart])

theorem recordsOf_without (ledger : Ledger) (terminus other : Identifier.Key) :
    (ledger.without terminus).recordsOf other =
      if other = terminus then ∅ else ledger.recordsOf other := by
  apply SortedMap.ext_get?
  intro asked
  rw [get?_recordsOf, get?_without]
  split
  · rfl
  · rw [get?_recordsOf]

theorem mem_termini_iff :
    terminus ∈ ledger.termini ↔ ∃ tag record, ledger.get? ⟨terminus, tag⟩ = some record := by
  simp only [termini, List.mem_dedup, List.mem_map, ledger.mem_keys_iff, SortedMap.contains,
    Option.isSome_iff_exists]
  constructor
  · rintro ⟨⟨_, tag⟩, ⟨record, found⟩, rfl⟩
    exact ⟨tag, record, found⟩
  · rintro ⟨tag, record, found⟩
    exact ⟨⟨terminus, tag⟩, ⟨record, found⟩, rfl⟩

/-! ## Records under their tags -/

theorem isFiled_empty : IsFiled (∅ : Ledger) := by
  intro key record found
  cases found

theorem IsFiled.insert (filed : ledger.IsFiled) (terminus : Identifier.Key) (record : Record) :
    IsFiled (ledger.insert ⟨terminus, record.tag⟩ record) := by
  intro key found isFound
  rcases SortedMap.get?_insert_eq_some_iff.1 isFound with ⟨rfl, rfl⟩ | ⟨_, wasFound⟩
  · rfl
  · exact filed key found wasFound

theorem IsFiled.erase (filed : ledger.IsFiled) (key : DeliveryKey) :
    IsFiled (ledger.erase key) := by
  intro other found isFound
  exact filed other found (SortedMap.get?_erase_eq_some_iff.1 isFound).2

theorem IsFiled.without (filed : ledger.IsFiled) (terminus : Identifier.Key) :
    (ledger.without terminus).IsFiled := by
  intro key found isFound
  rw [get?_without] at isFound
  split at isFound
  · cases isFound
  · exact filed key found isFound

/-! ## Errors -/

/-- The only thing that a ledger refuses is a record that does not follow. -/
theorem answer_error {call : StoreCall} {error : StoreError}
    (refused : (ledger.answer call).1 = .error error) : ∃ fault, error = .transition fault := by
  cases call with
  | save identifier record =>
      simp only [answer, Record.mayReplace] at refused
      cases existing : ledger.get? ⟨identifier.key, record.tag⟩ with
      | none => simp [existing] at refused
      | some found =>
          cases advanced : found.advance record.state with
          | ok _ => simp [existing, advanced] at refused
          | error fault =>
              simp only [existing, advanced, Except.error.injEq] at refused
              exact ⟨fault, refused.symm⟩
  | retrieve _ _ | retrieveAll _ | remove _ _ | removeAll _ => cases refused

theorem answerAll_error {calls : List StoreCall} {error : StoreError}
    (refused : .error error ∈ (ledger.answerAll calls).1) :
    ∃ fault, error = .transition fault := by
  induction calls generalizing ledger with
  | nil => cases refused
  | cons call rest ih =>
      rcases List.mem_cons.1 refused with isFirst | isLater
      · exact answer_error isFirst.symm
      · exact ih isLater

end Ledger

end Reattach
