import Reattach.Proofs.BothEnds
import Reattach.Proofs.RoundTrips

/-!
# The wire form of unsettled maps

Many lists of entries stand for one map: they may come in any order, an entry may be overruled by
a later one of its tag, and an unknown state may be told by itself or by no state at all.  One of
them is normal, with each tag once, the tags in the order of their bytes and no unknown state
spelled out.  That is the list as which the map goes over the wire.
-/

namespace Reattach

theorem Tag.compare_eq_lt_iff {left right : Tag} :
    compare left right = .lt ↔ left.bytes < right.bytes := by
  obtain ⟨left⟩ := left
  obtain ⟨right⟩ := right
  change compare left right = .lt ↔ left < right
  induction left generalizing right with
  | nil =>
      cases right with
      | nil => simp [List.not_lt_nil, Std.ReflCmp.compare_self]
      | cons head rest => exact iff_of_true rfl (List.nil_lt_cons head rest)
  | cons byte more ih =>
      cases right with
      | nil => exact iff_of_false Ordering.noConfusion (List.not_lt_nil _)
      | cons head rest =>
          have lexical : compare (byte :: more) (head :: rest) =
              (compare byte head).then (compare more rest) := List.compareLex_cons_cons
          rw [lexical, Ordering.then_eq_lt, ih, List.cons_lt_cons_iff,
            Std.LawfulLTCmp.eq_lt_iff_lt, Std.LawfulEqCmp.compare_eq_iff_eq]

namespace SortedMap

variable {Key Value : Type} [Ord Key] [Std.TransOrd Key] [Std.LawfulEqOrd Key]

theorem get?_ofList_eq_getLast? [DecidableEq Key] (bindings : List (Key × Value)) (key : Key) :
    (ofList bindings).get? key =
      (bindings.filter (·.1 = key)).getLast?.map Prod.snd := by
  rw [get?_ofList, List.getLast?_filter]
  induction bindings.reverse with
  | nil => rfl
  | cons head rest ih =>
      rw [lookup, List.find?_cons, ih]
      by_cases same : head.1 = key
      · simp [same, Std.ReflCmp.compare_self]
      · simp [same, Ne.symm same, Std.LawfulEqCmp.compare_eq_iff_eq]

/-- Bindings in the order of their keys are those of their map. -/
theorem toList_ofList {bindings : List (Key × Value)}
    (sorted : bindings.Pairwise fun earlier later => compare earlier.1 later.1 = .lt) :
    (ofList bindings).toList = bindings :=
  congrArg toList (ofList_toList ⟨bindings, sorted⟩)

end SortedMap

namespace Unsettled

variable {unsettled : Unsettled} {entries : List (Tag × Option State)} {tag : Tag}
variable {state told : State}

/-! ## Single entries -/

theorem wireState_eq_none_iff : wireState state = none ↔ state = .unknown := by
  simp [wireState]

theorem wireState_eq_some_iff :
    wireState state = some told ↔ state = told ∧ told ≠ .unknown := by
  constructor
  · intro isTold
    have known : state ≠ .unknown := fun isUnknown => by simp [isUnknown, wireState] at isTold
    rw [wireState, if_neg known] at isTold
    obtain rfl := Option.some.inj isTold
    exact ⟨rfl, known⟩
  · rintro ⟨rfl, known⟩
    rw [wireState, if_neg known]

theorem mem_toWire_iff {wire : Option State} :
    (tag, wire) ∈ unsettled.toWire ↔
      ∃ state, unsettled.get? tag = some state ∧ wireState state = wire := by
  simp [toWire, unsettled.mem_toList_iff]

theorem mem_toWire_none_iff :
    (tag, none) ∈ unsettled.toWire ↔ unsettled.get? tag = some .unknown := by
  simp [mem_toWire_iff, wireState_eq_none_iff]

theorem mem_toWire_some_iff :
    (tag, some state) ∈ unsettled.toWire ↔
      unsettled.get? tag = some state ∧ state ≠ .unknown := by
  rw [mem_toWire_iff]
  constructor
  · rintro ⟨found, isFound, isTold⟩
    obtain ⟨rfl, known⟩ := wireState_eq_some_iff.1 isTold
    exact ⟨isFound, known⟩
  · rintro ⟨isFound, known⟩
    exact ⟨state, isFound, wireState_eq_some_iff.2 ⟨rfl, known⟩⟩

theorem map_fst_toWire (unsettled : Unsettled) :
    unsettled.toWire.map Prod.fst = unsettled.keys := by
  rw [toWire, List.map_map]
  rfl

/-! ## Normal lists of entries -/

/-- That a list of entries has each tag once, in the order of their bytes, and tells an unknown
state by no state. -/
structure IsNormal (entries : List (Tag × Option State)) : Prop where
  increasing : entries.Pairwise fun earlier later => earlier.1.bytes < later.1.bytes
  unspelled : ∀ entry ∈ entries, entry.2 ≠ some .unknown

theorem isNormal_toWire (unsettled : Unsettled) : IsNormal unsettled.toWire where
  increasing := List.pairwise_map.2 (unsettled.sorted.imp Tag.compare_eq_lt_iff.1)
  unspelled := by
    intro entry member spelled
    have spelledOut : (entry.1, some .unknown) ∈ unsettled.toWire := spelled ▸ member
    exact (mem_toWire_some_iff.1 spelledOut).2 rfl

/-- A normal list is what the map of its entries goes over the wire as. -/
theorem IsNormal.toWire_ofWire (normal : IsNormal entries) : (ofWire entries).toWire = entries := by
  have sorted : (entries.map fun entry => (entry.1, entry.2.getD .unknown)).Pairwise
      fun earlier later => compare earlier.1 later.1 = .lt :=
    List.pairwise_map.2 (normal.increasing.imp Tag.compare_eq_lt_iff.2)
  have told : ∀ entry ∈ entries, (entry.1, wireState (entry.2.getD .unknown)) = entry := by
    rintro ⟨tag, none | state⟩ member
    · rfl
    · have known : state ≠ .unknown := by
        intro isUnknown
        exact normal.unspelled _ member (congrArg some isUnknown)
      exact congrArg (Prod.mk tag) (wireState_eq_some_iff.2 ⟨rfl, known⟩)
  rw [toWire, ofWire, SortedMap.toList_ofList sorted, List.map_map]
  calc entries.map _
    _ = entries.map id := List.map_congr_left told
    _ = entries := List.map_id entries

/-- The wire form of a map is the one normal list of entries that stands for it. -/
theorem eq_toWire_iff :
    entries = unsettled.toWire ↔ IsNormal entries ∧ ofWire entries = unsettled := by
  constructor
  · rintro rfl
    exact ⟨isNormal_toWire unsettled, ofWire_toWire unsettled⟩
  · rintro ⟨normal, rfl⟩
    exact normal.toWire_ofWire.symm

/-! ## Any lists of entries -/

/-- The last entry of a tag counts, and tells an unknown state if it tells none. -/
theorem get?_ofWire_eq_getLast? (entries : List (Tag × Option State)) (tag : Tag) :
    (ofWire entries).get? tag =
      (entries.filter (·.1 = tag)).getLast?.map fun entry => entry.2.getD .unknown := by
  rw [ofWire, SortedMap.get?_ofList_eq_getLast?, List.filter_map, List.getLast?_map,
    Option.map_map]
  rfl

/-- Going over the wire, a list of entries keeps its tags. -/
theorem mem_tags_toWire_ofWire_iff :
    tag ∈ (ofWire entries).toWire.map Prod.fst ↔ tag ∈ entries.map Prod.fst := by
  rw [map_fst_toWire, ofWire, SortedMap.mem_keys_ofList_iff, List.map_map]
  rfl

/-- The wire form is a normal form.  A list of entries stands for the map in which each tag has
the state of its last entry; a map goes over the wire with each of its tags once, in the order of
the bytes, with no state just where the state is unknown, and arrives as it was; and what the map
of any entries goes over the wire as has the tags of these entries, is the same the next time, and
is the only normal list that stands for the same map. -/
theorem wire_form_is_normal :
    (∀ (entries : List (Tag × Option State)) (tag : Tag),
      (ofWire entries).get? tag =
        (entries.filter (·.1 = tag)).getLast?.map fun entry => entry.2.getD .unknown) ∧
    (∀ unsettled : Unsettled,
      IsNormal unsettled.toWire ∧
      (∀ tag, (tag, none) ∈ unsettled.toWire ↔ unsettled.get? tag = some .unknown) ∧
      (∀ tag state, (tag, some state) ∈ unsettled.toWire ↔
        unsettled.get? tag = some state ∧ state ≠ .unknown) ∧
      ofWire unsettled.toWire = unsettled) ∧
    ∀ entries : List (Tag × Option State),
      (∀ tag, tag ∈ (ofWire entries).toWire.map Prod.fst ↔ tag ∈ entries.map Prod.fst) ∧
      (ofWire (ofWire entries).toWire).toWire = (ofWire entries).toWire ∧
      ∀ other, other = (ofWire entries).toWire ↔
        IsNormal other ∧ ofWire other = ofWire entries := by
  constructor
  · exact get?_ofWire_eq_getLast?
  · constructor
    · intro unsettled
      exact ⟨isNormal_toWire unsettled, fun tag => mem_toWire_none_iff,
        fun tag state => mem_toWire_some_iff, ofWire_toWire unsettled⟩
    · intro entries
      have again : (ofWire (ofWire entries).toWire).toWire = (ofWire entries).toWire := by
        rw [ofWire_toWire]
      exact ⟨fun tag => mem_tags_toWire_ofWire_iff, again, fun other => eq_toWire_iff⟩

/-- An entry overruled, an unknown state in both spellings, and a tag that begins another. -/
example :
    (ofWire [(⟨[2]⟩, some .received), (⟨[1, 0]⟩, some .unknown), (⟨[1]⟩, some .received),
        (⟨[2]⟩, none)]).toWire =
      [(⟨[1]⟩, some .received), (⟨[1, 0]⟩, none), (⟨[2]⟩, none)] := by
  decide

end Unsettled

end Reattach
