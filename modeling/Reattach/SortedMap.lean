/-!
# Maps with their keys in order

A map is the list of its bindings, strictly increasing in the key.  One set of
bindings therefore has one representation: two maps that answer every lookup
alike are equal, and what is written out from a map is written in key order.

`get?_insert` and `get?_erase` say what the two updates do to every lookup,
`mem_toList_iff` says that the bindings are what the lookups find, and `ext_get?` that
the lookups determine the map.
-/

namespace Reattach

/-- Bindings of keys to values, strictly increasing in the key. -/
@[ext] structure SortedMap (Key : Type) (Value : Type) [Ord Key] where
  /-- The bindings in the order of their keys. -/
  toList : List (Key × Value)
  /-- Each key is below all later ones. -/
  sorted : toList.Pairwise fun earlier later => compare earlier.1 later.1 = .lt

namespace SortedMap

variable {Key Value : Type} [Ord Key]

instance [DecidableEq Key] [DecidableEq Value] : DecidableEq (SortedMap Key Value) :=
  fun left right => decidable_of_iff (left.toList = right.toList) (SortedMap.ext_iff).symm

def empty : SortedMap Key Value := ⟨[], .nil⟩

instance : EmptyCollection (SortedMap Key Value) := ⟨empty⟩

instance : Inhabited (SortedMap Key Value) := ⟨empty⟩

def size (map : SortedMap Key Value) : Nat := map.toList.length

/-- Whether the map has no binding. -/
def isEmpty (map : SortedMap Key Value) : Bool := map.toList.isEmpty

def keys (map : SortedMap Key Value) : List Key := map.toList.map Prod.fst

def values (map : SortedMap Key Value) : List Value := map.toList.map Prod.snd

/-- The first value bound to `key` in a list of bindings. -/
def lookup (key : Key) : List (Key × Value) → Option Value
  | [] => none
  | (head, value) :: rest => if compare key head = .eq then some value else lookup key rest

/-- The value bound to `key`. -/
def get? (map : SortedMap Key Value) (key : Key) : Option Value := lookup key map.toList

/-- Whether `key` is bound. -/
def contains (map : SortedMap Key Value) (key : Key) : Bool := (map.get? key).isSome

/-- Bind `key`, in its place, instead of any earlier binding of it. -/
def insertInto (key : Key) (value : Value) : List (Key × Value) → List (Key × Value)
  | [] => [(key, value)]
  | (head, old) :: rest =>
      match compare key head with
      | .lt => (key, value) :: (head, old) :: rest
      | .eq => (key, value) :: rest
      | .gt => (head, old) :: insertInto key value rest

/-- Drop the binding of `key`. -/
def eraseFrom (key : Key) (bindings : List (Key × Value)) : List (Key × Value) :=
  bindings.filter fun binding => compare key binding.1 != .eq

theorem mem_insertInto {key : Key} {value : Value} {bindings : List (Key × Value)}
    {binding : Key × Value} (member : binding ∈ insertInto key value bindings) :
    binding = (key, value) ∨ binding ∈ bindings := by
  induction bindings with
  | nil => simpa [insertInto] using member
  | cons head rest ih =>
      obtain ⟨headKey, old⟩ := head
      simp only [insertInto] at member
      split at member
      · simpa using member
      · rcases List.mem_cons.1 member with same | inRest
        · exact .inl same
        · exact .inr (List.mem_cons_of_mem _ inRest)
      · rcases List.mem_cons.1 member with same | inRest
        · exact .inr (same ▸ List.mem_cons_self)
        · exact (ih inRest).imp id (List.mem_cons_of_mem _)

variable [Std.TransOrd Key]

theorem sorted_insertInto (key : Key) (value : Value) {bindings : List (Key × Value)}
    (sorted : bindings.Pairwise fun earlier later => compare earlier.1 later.1 = .lt) :
    (insertInto key value bindings).Pairwise
      fun earlier later => compare earlier.1 later.1 = .lt := by
  induction bindings with
  | nil => simp [insertInto]
  | cons head rest ih =>
      obtain ⟨headKey, old⟩ := head
      rw [List.pairwise_cons] at sorted
      obtain ⟨below, sortedRest⟩ := sorted
      simp only [insertInto]
      split
      · next less =>
          rw [List.pairwise_cons, List.pairwise_cons]
          refine ⟨fun later member => ?_, below, sortedRest⟩
          rcases List.mem_cons.1 member with same | inRest
          · exact same ▸ less
          · exact Std.TransCmp.lt_trans less (below later inRest)
      · next equal =>
          rw [List.pairwise_cons]
          exact ⟨fun later member =>
            Std.TransCmp.lt_of_eq_of_lt equal (below later member), sortedRest⟩
      · next greater =>
          rw [List.pairwise_cons]
          refine ⟨fun later member => ?_, ih sortedRest⟩
          rcases mem_insertInto member with same | inRest
          · exact same ▸ Std.OrientedCmp.gt_iff_lt.1 greater
          · exact below later inRest

/-- Bind `key` to `value`, replacing what it was bound to. -/
def insert (map : SortedMap Key Value) (key : Key) (value : Value) : SortedMap Key Value :=
  ⟨insertInto key value map.toList, sorted_insertInto key value map.sorted⟩

/-- The map without a binding of `key`. -/
def erase (map : SortedMap Key Value) (key : Key) : SortedMap Key Value :=
  ⟨eraseFrom key map.toList, map.sorted.filter _⟩

/-- The bindings of a list, a later binding of a key replacing an earlier one. -/
def ofList (bindings : List (Key × Value)) : SortedMap Key Value :=
  bindings.foldl (fun map binding => map.insert binding.1 binding.2) empty

/-- The same keys, bound to the images of their values. -/
def mapValues {Image : Type} (image : Value → Image) (map : SortedMap Key Value) :
    SortedMap Key Image :=
  ⟨map.toList.map fun binding => (binding.1, image binding.2),
    List.pairwise_map.2 map.sorted⟩

/-! ## Lookups after an update -/

theorem lookup_insertInto (key other : Key) (value : Value) {bindings : List (Key × Value)}
    (sorted : bindings.Pairwise fun earlier later => compare earlier.1 later.1 = .lt) :
    lookup other (insertInto key value bindings) =
      if compare other key = .eq then some value else lookup other bindings := by
  induction bindings with
  | nil => simp [insertInto, lookup]
  | cons head rest ih =>
      obtain ⟨headKey, old⟩ := head
      rw [List.pairwise_cons] at sorted
      simp only [insertInto]
      split
      · simp [lookup]
      · next equal =>
          have same : compare other key = compare other headKey :=
            Std.TransCmp.congr_right equal
          simp only [lookup, same]
          split <;> rfl
      · next greater =>
          simp only [lookup, ih sorted.2]
          by_cases isHead : compare other headKey = .eq
          · have apart : compare other key ≠ .eq := by
              have : compare other key = compare headKey key := Std.TransCmp.congr_left isHead
              rw [this, Std.OrientedCmp.gt_iff_lt.1 greater]
              decide
            simp [isHead, apart]
          · simp [isHead]

theorem get?_insert (map : SortedMap Key Value) (key other : Key) (value : Value) :
    (map.insert key value).get? other =
      if compare other key = .eq then some value else map.get? other :=
  lookup_insertInto key other value map.sorted

@[simp] theorem get?_insert_self (map : SortedMap Key Value) (key : Key) (value : Value) :
    (map.insert key value).get? key = some value := by
  rw [get?_insert, if_pos Std.ReflCmp.compare_self]

theorem get?_insert_of_ne [Std.LawfulEqOrd Key] (map : SortedMap Key Value) {key other : Key}
    (value : Value) (apart : other ≠ key) :
    (map.insert key value).get? other = map.get? other := by
  rw [get?_insert, if_neg fun same => apart (Std.LawfulEqCmp.eq_of_compare same)]

theorem lookup_eraseFrom (key other : Key) (bindings : List (Key × Value)) :
    lookup other (eraseFrom key bindings) =
      if compare other key = .eq then none else lookup other bindings := by
  induction bindings with
  | nil => simp [eraseFrom, lookup]
  | cons head rest ih =>
      obtain ⟨headKey, old⟩ := head
      simp only [eraseFrom, List.filter_cons] at ih ⊢
      by_cases dropped : compare key headKey = .eq
      · have same : compare other key = compare other headKey :=
          Std.TransCmp.congr_right dropped
        simp only [dropped, bne_self_eq_false, Bool.false_eq_true, if_false, ih, lookup, same]
        split <;> rfl
      · simp only [bne_iff_ne, ne_eq, dropped, not_false_eq_true, if_true, lookup, ih]
        by_cases isHead : compare other headKey = .eq
        · have apart : compare other key ≠ .eq := by
            intro equal
            have : compare other headKey = compare key headKey := Std.TransCmp.congr_left equal
            exact dropped (this ▸ isHead)
          simp [isHead, apart]
        · simp [isHead]

theorem get?_erase (map : SortedMap Key Value) (key other : Key) :
    (map.erase key).get? other =
      if compare other key = .eq then none else map.get? other :=
  lookup_eraseFrom key other map.toList

@[simp] theorem get?_erase_self (map : SortedMap Key Value) (key : Key) :
    (map.erase key).get? key = none := by
  rw [get?_erase, if_pos Std.ReflCmp.compare_self]

theorem get?_erase_of_ne [Std.LawfulEqOrd Key] (map : SortedMap Key Value) {key other : Key}
    (apart : other ≠ key) : (map.erase key).get? other = map.get? other := by
  rw [get?_erase, if_neg fun same => apart (Std.LawfulEqCmp.eq_of_compare same)]

omit [Std.TransOrd Key] in
theorem get?_ne_none {map : SortedMap Key Value} {key : Key} {value : Value}
    (found : map.get? key = some value) : map.get? key ≠ none := by
  rw [found]
  exact Option.some_ne_none value

omit [Std.TransOrd Key] in
theorem ne_of_get? {map : SortedMap Key Value} {key other : Key} {value : Value}
    (found : map.get? key = some value) (absent : map.get? other = none) : key ≠ other := by
  intro same
  subst same
  exact get?_ne_none found absent

theorem get?_insert_eq_some_iff [Std.LawfulEqOrd Key] {map : SortedMap Key Value}
    {key other : Key} {value found : Value} :
    (map.insert key value).get? other = some found ↔
      other = key ∧ value = found ∨ other ≠ key ∧ map.get? other = some found := by
  by_cases same : other = key
  · subst same
    simp
  · simp [get?_insert_of_ne map value same, same]

theorem get?_erase_eq_some_iff [Std.LawfulEqOrd Key] {map : SortedMap Key Value}
    {key other : Key} {found : Value} :
    (map.erase key).get? other = some found ↔ other ≠ key ∧ map.get? other = some found := by
  by_cases same : other = key
  · subst same
    simp
  · simp [get?_erase_of_ne map same, same]

theorem eq_of_get?_erase [Std.LawfulEqOrd Key] {map : SortedMap Key Value} {key other : Key}
    {value : Value} (found : map.get? key = some value)
    (gone : (map.erase other).get? key = none) : key = other := by
  by_cases same : key = other
  · exact same
  · rw [get?_erase_of_ne map same] at gone
    exact absurd gone (get?_ne_none found)

omit [Std.TransOrd Key] in
theorem lookup_eq_none_of_below {key : Key} {bindings : List (Key × Value)}
    (below : ∀ binding ∈ bindings, compare key binding.1 = .lt) :
    lookup key bindings = none := by
  induction bindings with
  | nil => rfl
  | cons head rest ih =>
      have atHead := below head List.mem_cons_self
      simp only [lookup, atHead]
      exact ih fun binding member => below binding (List.mem_cons_of_mem _ member)

theorem eq_of_lookup_eq [Std.LawfulEqOrd Key] {left right : List (Key × Value)}
    (sortedLeft : left.Pairwise fun earlier later => compare earlier.1 later.1 = .lt)
    (sortedRight : right.Pairwise fun earlier later => compare earlier.1 later.1 = .lt)
    (agree : ∀ key, lookup key left = lookup key right) : left = right := by
  induction left generalizing right with
  | nil =>
      cases right with
      | nil => rfl
      | cons head rest => simpa [lookup, Std.ReflCmp.compare_self] using agree head.1
  | cons head rest ih =>
      obtain ⟨key, value⟩ := head
      rw [List.pairwise_cons] at sortedLeft
      obtain ⟨belowLeft, sortedRest⟩ := sortedLeft
      cases right with
      | nil => simpa [lookup, Std.ReflCmp.compare_self] using agree key
      | cons otherHead otherRest =>
          obtain ⟨otherKey, otherValue⟩ := otherHead
          rw [List.pairwise_cons] at sortedRight
          obtain ⟨belowRight, sortedOtherRest⟩ := sortedRight
          have atKey := agree key
          have atOther := agree otherKey
          simp only [lookup, Std.ReflCmp.compare_self, if_true] at atKey atOther
          have sameKey : key = otherKey := by
            cases order : compare key otherKey with
            | eq => exact Std.LawfulEqCmp.eq_of_compare order
            | lt =>
                rw [lookup_eq_none_of_below fun binding member =>
                  Std.TransCmp.lt_trans order (belowRight binding member)] at atKey
                simp [order] at atKey
            | gt =>
                have flipped := Std.OrientedCmp.gt_iff_lt.1 order
                rw [lookup_eq_none_of_below fun binding member =>
                  Std.TransCmp.lt_trans flipped (belowLeft binding member)] at atOther
                simp [flipped] at atOther
          subst sameKey
          simp only [Std.ReflCmp.compare_self, if_true, Option.some.injEq] at atKey
          subst atKey
          congr 1
          refine ih sortedRest sortedOtherRest fun probe => ?_
          have atProbe := agree probe
          simp only [lookup] at atProbe
          by_cases same : compare probe key = .eq
          · have probeIsKey := Std.LawfulEqCmp.eq_of_compare same
            subst probeIsKey
            rw [lookup_eq_none_of_below belowLeft, lookup_eq_none_of_below belowRight]
          · simpa [same] using atProbe

/-- The lookups determine the map. -/
theorem ext_get? [Std.LawfulEqOrd Key] {left right : SortedMap Key Value}
    (agree : ∀ key, left.get? key = right.get? key) : left = right :=
  SortedMap.ext (eq_of_lookup_eq left.sorted right.sorted agree)

theorem insert_of_get? [Std.LawfulEqOrd Key] {map : SortedMap Key Value} {key : Key}
    {value : Value} (held : map.get? key = some value) : map.insert key value = map := by
  apply ext_get?
  intro other
  by_cases same : other = key
  · rw [same, get?_insert_self, held]
  · exact get?_insert_of_ne _ _ same

omit [Std.TransOrd Key] in
@[simp] theorem get?_empty (key : Key) : (empty : SortedMap Key Value).get? key = none := rfl

omit [Std.TransOrd Key] in
theorem isEmpty_iff (map : SortedMap Key Value) : map.isEmpty = true ↔ map = empty := by
  rw [isEmpty, List.isEmpty_iff, SortedMap.ext_iff]
  rfl

/-! ## Bindings and lookups -/

omit [Std.TransOrd Key] in
theorem lookup_append (key : Key) (front back : List (Key × Value)) :
    lookup key (front ++ back) = (lookup key front).or (lookup key back) := by
  induction front with
  | nil => rfl
  | cons head rest ih =>
      simp only [List.cons_append, lookup]
      split
      · rfl
      · exact ih

theorem get?_foldl_insert (bindings : List (Key × Value)) (map : SortedMap Key Value)
    (key : Key) :
    (bindings.foldl (fun map binding => map.insert binding.1 binding.2) map).get? key =
      (lookup key bindings.reverse).or (map.get? key) := by
  induction bindings generalizing map with
  | nil => rfl
  | cons head rest ih =>
      rw [List.foldl_cons, ih, get?_insert, List.reverse_cons, lookup_append, Option.or_assoc]
      congr 1
      simp only [lookup]
      split <;> rfl

/-- Of several bindings of a key in a list the last counts. -/
theorem get?_ofList (bindings : List (Key × Value)) (key : Key) :
    (ofList bindings).get? key = lookup key bindings.reverse := by
  rw [ofList, get?_foldl_insert, get?_empty, Option.or_none]

omit [Std.TransOrd Key] in
theorem get?_mapValues {Image : Type} (image : Value → Image) (map : SortedMap Key Value)
    (key : Key) : (map.mapValues image).get? key = (map.get? key).map image := by
  obtain ⟨bindings, _⟩ := map
  simp only [mapValues, get?]
  induction bindings with
  | nil => rfl
  | cons head rest ih =>
      simp only [List.map_cons, lookup]
      split
      · rfl
      · next sorted _ => exact ih (List.pairwise_cons.1 sorted).2

omit [Std.TransOrd Key] in
theorem mem_of_lookup_eq_some [Std.LawfulEqOrd Key] {key : Key} {value : Value}
    {bindings : List (Key × Value)} (found : lookup key bindings = some value) :
    (key, value) ∈ bindings := by
  induction bindings with
  | nil => simp [lookup] at found
  | cons head rest ih =>
      simp only [lookup] at found
      split at found
      · next same =>
          rw [Std.LawfulEqCmp.eq_of_compare same, ← Option.some.inj found]
          exact List.mem_cons_self
      · exact List.mem_cons_of_mem _ (ih found)

theorem lookup_eq_some_of_mem {key : Key} {value : Value} {bindings : List (Key × Value)}
    (sorted : bindings.Pairwise fun earlier later => compare earlier.1 later.1 = .lt)
    (member : (key, value) ∈ bindings) : lookup key bindings = some value := by
  induction bindings with
  | nil => cases member
  | cons head rest ih =>
      rw [List.pairwise_cons] at sorted
      rcases List.mem_cons.1 member with same | inRest
      · subst same
        simp [lookup, Std.ReflCmp.compare_self]
      · have greater := Std.OrientedCmp.gt_of_lt (sorted.1 _ inRest)
        simp only [lookup, greater]
        exact ih sorted.2 inRest

omit [Std.TransOrd Key] in
theorem isSome_lookup_of_mem [Std.ReflOrd Key] {key : Key} {value : Value}
    {bindings : List (Key × Value)} (member : (key, value) ∈ bindings) :
    (lookup key bindings).isSome = true := by
  induction bindings with
  | nil => cases member
  | cons head rest ih =>
      simp only [lookup]
      split
      · rfl
      · next apart =>
          cases List.mem_cons.1 member with
          | inl same => exact absurd (same ▸ Std.ReflCmp.compare_self) apart
          | inr inRest => exact ih inRest

omit [Std.TransOrd Key] in
theorem lookup_eq_of_mem_iff [Std.LawfulEqOrd Key] {key : Key} {bound : Option Value}
    {bindings : List (Key × Value)}
    (listed : ∀ value, (key, value) ∈ bindings ↔ bound = some value) :
    lookup key bindings = bound := by
  cases found : lookup key bindings with
  | some value => exact ((listed value).1 (mem_of_lookup_eq_some found)).symm
  | none =>
      symm
      apply Option.eq_none_iff_forall_ne_some.2
      intro value isBound
      have isFound := isSome_lookup_of_mem ((listed value).2 isBound)
      rw [found] at isFound
      cases isFound

omit [Std.TransOrd Key] in
/-- Bindings that are left out by their key are not found, and the others are found as
before. -/
theorem lookup_filter [Std.LawfulEqOrd Key] (keeps : Key → Bool) (key : Key)
    (bindings : List (Key × Value)) :
    lookup key (bindings.filter fun binding => keeps binding.1) =
      if keeps key then lookup key bindings else none := by
  induction bindings with
  | nil => simp [lookup]
  | cons head rest ih =>
      rw [List.filter_cons]
      by_cases isHead : compare key head.1 = .eq
      · have same := Std.LawfulEqCmp.eq_of_compare isHead
        by_cases isKept : keeps head.1 = true
        · simp [lookup, same, isKept]
        · rw [same] at ih ⊢
          simp [isKept, ih]
      · by_cases isKept : keeps head.1 = true
        · simp [lookup, isHead, isKept, ih]
        · simp [lookup, isHead, isKept, ih]

theorem mem_toList_iff [Std.LawfulEqOrd Key] (map : SortedMap Key Value) (key : Key)
    (value : Value) : (key, value) ∈ map.toList ↔ map.get? key = some value :=
  ⟨lookup_eq_some_of_mem map.sorted, mem_of_lookup_eq_some⟩

theorem mem_keys_iff [Std.LawfulEqOrd Key] (map : SortedMap Key Value) (key : Key) :
    key ∈ map.keys ↔ map.contains key = true := by
  rw [contains, Option.isSome_iff_exists, keys, List.mem_map]
  constructor
  · rintro ⟨⟨_, value⟩, member, rfl⟩
    exact ⟨value, (map.mem_toList_iff _ value).1 member⟩
  · rintro ⟨value, found⟩
    exact ⟨(key, value), (map.mem_toList_iff key value).2 found, rfl⟩

omit [Std.TransOrd Key] in
theorem pairwise_keys (map : SortedMap Key Value) :
    map.keys.Pairwise fun earlier later => compare earlier later = .lt :=
  List.pairwise_map.2 map.sorted

omit [Std.TransOrd Key] in
theorem nodup_keys [Std.ReflOrd Key] (map : SortedMap Key Value) : map.keys.Nodup := by
  refine map.pairwise_keys.imp ?_
  intro earlier later below same
  rw [same, (Std.ReflCmp.compare_self : compare later later = .eq)] at below
  cases below

end SortedMap

end Reattach
