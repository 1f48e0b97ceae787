import Mathlib.Data.List.Nodup
import Reattach.Proofs.Operations
import Reattach.Registry.Snapshot

/-!
# The order of a snapshot

A snapshot lists the termini of the table in the order of their places, and termini with one
place in the order in which the table is gone through.  The table tells names apart by
folding every character on its own, and places are made with lower case that knows of final
sigmas.  So two termini can have one place: one is named with a capital sigma at the end of a
word and the other with the final form of the letter.  A table in which this does not happen has
one snapshot, and a table in which it does has several.
-/

namespace Reattach

/-! ## Lower case and folding -/

namespace Text

/-- That a capital sigma ends a word of a text. -/
def HasFinalSigma (text : List Char) : Prop :=
  ∃ before after, text = before ++ 'Σ' :: after ∧ meetsCased before.reverse = true ∧
    meetsCased after = false

/-- A final sigma as it is written inside a word. -/
def unfinal (char : Char) : Char := if char = 'ς' then 'σ' else char

theorem lowerChar_sigma : lowerChar 'Σ' = ['σ'] := by decide +kernel

/-- Lower case and folding write the same letters, but for the form of sigmas. -/
theorem map_unfinal_lowerAfter (before text : List Char) :
    (lowerAfter before text).map unfinal = (text.flatMap lowerChar).map unfinal := by
  induction text generalizing before with
  | nil => rfl
  | cons char rest ih =>
      simp only [lowerAfter, List.map_append, List.flatMap_cons, ih]
      congr 1
      by_cases isSigma : char = 'Σ'
      · rw [if_pos isSigma, isSigma, lowerChar_sigma]
        split <;> rfl
      · rw [if_neg isSigma]

/-- They differ where a capital sigma ends a word.  The induction is on what is still to be
written; what was written already can hold the letter that the word begins with. -/
theorem lowerAfter_eq_iff (done text : List Char) :
    lowerAfter done text = text.flatMap lowerChar ↔
      ∀ before after, text = before ++ 'Σ' :: after →
        ¬(meetsCased (before.reverse ++ done) = true ∧ meetsCased after = false) := by
  induction text generalizing done with
  | nil => simp [lowerAfter]
  | cons char rest ih =>
      have later : (∀ before after, char :: rest = before ++ 'Σ' :: after →
            ¬(meetsCased (before.reverse ++ done) = true ∧ meetsCased after = false)) ↔
          (char = 'Σ' → ¬(meetsCased done = true ∧ meetsCased rest = false)) ∧
          ∀ before after, rest = before ++ 'Σ' :: after →
            ¬(meetsCased (before.reverse ++ char :: done) = true ∧ meetsCased after = false) := by
        constructor
        · intro none
          refine ⟨fun isSigma => none [] rest (by rw [isSigma]; rfl), fun before after split => ?_⟩
          have atRest := none (char :: before) after (by rw [split]; rfl)
          rwa [List.reverse_cons, List.append_assoc] at atRest
        · rintro ⟨here, there⟩ before after split
          cases before with
          | nil =>
              obtain ⟨isSigma, rfl⟩ := List.cons.inj split
              exact here isSigma
          | cons head before =>
              obtain ⟨rfl, rest⟩ := List.cons.inj split
              rw [List.reverse_cons, List.append_assoc]
              exact there before after rest
      rw [later, ← ih, lowerAfter, List.flatMap_cons]
      by_cases isSigma : char = 'Σ'
      · subst isSigma
        rw [if_pos rfl, lowerChar_sigma]
        cases meetsCased done <;> cases meetsCased rest <;> simp
      · rw [if_neg isSigma, List.append_cancel_left_eq]
        simp [isSigma]

/-- Lower case is what folding gives unless a capital sigma ends a word. -/
theorem lower_eq_folded_iff (text : String) :
    lower text = folded text ↔ ¬HasFinalSigma text.toList := by
  rw [lower, folded, fold, String.ofList_inj, lowerAfter_eq_iff]
  simp only [HasFinalSigma, List.append_nil, not_exists]
  exact forall₂_congr fun _ _ => not_and.symm

end Text

/-! ## Places -/

namespace SnapshotKey

instance : Std.TransOrd SnapshotKey :=
  inferInstanceAs (Std.TransCmp (compareLex (compareOn name)
    (compareLex (compareOn container) (compareOn role))))

instance : Std.LawfulEqOrd SnapshotKey where
  eq_of_compare := by
    intro left right order
    change compareLex (compareOn name) (compareLex (compareOn container) (compareOn role))
      left right = .eq at order
    rw [compareLex, Ordering.then_eq_eq, compareLex, Ordering.then_eq_eq] at order
    obtain ⟨names, containers, roles⟩ := order
    cases left
    cases right
    rw [SnapshotKey.mk.injEq]
    exact ⟨Std.LawfulEqCmp.eq_of_compare names, Std.LawfulEqCmp.eq_of_compare containers,
      Std.LawfulEqCmp.eq_of_compare roles⟩

end SnapshotKey

namespace Identifier

/-- That a capital sigma ends a word of the name or the container. -/
def HasFinalSigma (identifier : Identifier) : Prop :=
  Text.HasFinalSigma identifier.name.toList ∨
    ∃ container, identifier.container = some container ∧ Text.HasFinalSigma container.toList

/-- A key with final sigmas written as inside a word. -/
def Key.unfinal (key : Key) : Key :=
  ⟨key.name.map Text.unfinal, key.container.map (List.map Text.unfinal), key.role⟩

variable {left right : Identifier}

/-- Identifiers with one place have keys that differ in the form of sigmas at most. -/
theorem unfinal_key_eq_of_place_eq (same : SnapshotKey.of left = SnapshotKey.of right) :
    left.key.unfinal = right.key.unfinal := by
  have folds {first second : String} (lower : Text.lower first = Text.lower second) :
      (Text.fold first).map Text.unfinal = (Text.fold second).map Text.unfinal := by
    rw [Text.fold, Text.fold, ← Text.map_unfinal_lowerAfter [], ← Text.map_unfinal_lowerAfter [],
      String.ofList_injective lower]
  obtain ⟨leftName, leftRole, leftContainer, _⟩ := left
  obtain ⟨rightName, rightRole, rightContainer, _⟩ := right
  simp only [SnapshotKey.of, SnapshotKey.mk.injEq] at same
  obtain ⟨names, containers, rfl⟩ := same
  have sameNames := folds names
  cases leftContainer with
  | none =>
      cases rightContainer with
      | none => simp [key, Key.unfinal, sameNames]
      | some _ => cases containers
  | some leftText =>
      cases rightContainer with
      | none => cases containers
      | some rightText =>
          have sameContainers := folds (Option.some.inj containers)
          simp [key, Key.unfinal, sameNames, sameContainers]

theorem place_eq_of_not_hasFinalSigma {identifier : Identifier}
    (none : ¬identifier.HasFinalSigma) :
    SnapshotKey.of identifier =
      ⟨String.ofList identifier.key.name, identifier.key.container.map String.ofList,
        identifier.key.role⟩ := by
  obtain ⟨inName, inContainer⟩ := not_or.1 none
  have names : Text.lower identifier.name = Text.folded identifier.name :=
    (Text.lower_eq_folded_iff _).2 inName
  have containers : identifier.container.map Text.lower = identifier.container.map Text.folded := by
    refine Option.map_congr fun container isContainer => ?_
    exact (Text.lower_eq_folded_iff _).2 fun isFinal =>
      inContainer ⟨container, isContainer, isFinal⟩
  rw [SnapshotKey.of, names, containers, key, Option.map_map]
  rfl

/-- Without final sigmas identifiers with one place are those of one terminus. -/
theorem place_eq_iff_of_not_hasFinalSigma (leftNone : ¬left.HasFinalSigma)
    (rightNone : ¬right.HasFinalSigma) :
    SnapshotKey.of left = SnapshotKey.of right ↔ left.key = right.key := by
  rw [place_eq_of_not_hasFinalSigma leftNone, place_eq_of_not_hasFinalSigma rightNone]
  refine ⟨fun same => ?_, fun same => by rw [same]⟩
  simp only [SnapshotKey.mk.injEq, String.ofList_inj] at same
  obtain ⟨names, containers, roles⟩ := same
  have sameContainers :=
    Option.map_injective (fun _ _ => String.ofList_inj.1) containers
  generalize left.key = leftKey at *
  generalize right.key = rightKey at *
  cases leftKey
  cases rightKey
  simp_all

end Identifier

/-! ## What is listed -/

namespace Snapshot

/-- The place of a terminus in a snapshot. -/
def place (snapshot : Snapshot) : SnapshotKey := .of snapshot.identifier

/-- What does not depend on the records. -/
def withoutCount (snapshot : Snapshot) : Snapshot := { snapshot with unsettled := 0 }

theorem isLE_place_trans (first second third : Snapshot)
    (before : (compare first.place second.place).isLE = true)
    (after : (compare second.place third.place).isLE = true) :
    (compare first.place third.place).isLE = true :=
  Std.TransCmp.isLE_trans before after

theorem isLE_place_total (first second : Snapshot) :
    ((compare first.place second.place).isLE ||
      (compare second.place first.place).isLE) = true := by
  have swapped : compare second.place first.place = (compare first.place second.place).swap :=
    Std.OrientedCmp.eq_swap
  rw [swapped]
  cases compare first.place second.place <;> rfl

end Snapshot

namespace Registry

open Snapshot (isLE_place_trans isLE_place_total)

variable (registry : Registry)

/-- The termini of entries in order, when the entries are gone through one after the other. -/
def snapshotOf (entries : List Entry) : List Snapshot :=
  let placed := (registry.describeAll entries).1.map fun snapshot =>
    (SnapshotKey.of snapshot.identifier, snapshot)
  (placed.mergeSort fun left right => (compare left.1 right.1).isLE).map Prod.snd

/-- What there is to say about the terminus of an entry without looking at records. -/
def outline (entry : Entry) : Option Snapshot :=
  registry.termini[entry.terminus]?.map fun terminus =>
    (registry.describe entry terminus).1.withoutCount

/-- Number of records of a terminus, and zero if they cannot be read. -/
def countOf (identifier : Identifier) : Nat :=
  match registry.storage.held identifier with
  | .ok records => records.size
  | .error _ => 0

/-- All there is to say about the terminus of an entry when the store is up. -/
def portrait (entry : Entry) : Option Snapshot :=
  registry.termini[entry.terminus]?.map fun terminus =>
    { (registry.describe entry terminus).1 with unsettled := registry.countOf terminus.identifier }

/-- That reading the records of a terminus does not fail from now on but for what they are. -/
def IsReadable : Prop :=
  ∀ call, registry.storage.outages.retrieveAll.calls ≤ call →
    registry.storage.outages.retrieveAll.fails call = false

/-- That a terminus of the table has just this identifier, spelled like this. -/
def Lists (identifier : Identifier) : Prop :=
  ∃ id terminus, registry.find? identifier = some id ∧ registry.termini[id]? = some terminus ∧
    terminus.identifier = identifier

/-- That two termini of the table have one place. -/
def HasTie : Prop :=
  ∃ left right, registry.Lists left ∧ registry.Lists right ∧ left.key ≠ right.key ∧
    SnapshotKey.of left = SnapshotKey.of right

theorem snapshotOf_eq (entries : List Entry) :
    registry.snapshotOf entries = (registry.describeAll entries).1.mergeSort
      fun earlier later => (compare earlier.place later.place).isLE := by
  rw [snapshotOf, List.map_mergeSort (s := fun earlier later : Snapshot =>
    (compare earlier.place later.place).isLE), List.map_map]
  · exact congrArg (List.mergeSort · _) (List.map_id _)
  · simp [Snapshot.place]

theorem snapshotOf_perm (entries : List Entry) :
    (registry.snapshotOf entries).Perm (registry.describeAll entries).1 := by
  rw [snapshotOf_eq]
  exact List.mergeSort_perm _ _

/-- A snapshot is in order. -/
theorem pairwise_snapshotOf (entries : List Entry) :
    (registry.snapshotOf entries).Pairwise
      fun earlier later => (compare earlier.place later.place).isLE = true := by
  rw [snapshotOf_eq]
  exact List.pairwise_mergeSort isLE_place_trans isLE_place_total _

theorem pair_sublist_snapshotOf {first second : Snapshot} {entries : List Entry}
    (same : first.place = second.place)
    (inOrder : [first, second].Sublist (registry.describeAll entries).1) :
    [first, second].Sublist (registry.snapshotOf entries) := by
  rw [snapshotOf_eq]
  refine List.pair_sublist_mergeSort isLE_place_trans isLE_place_total ?_ inOrder
  rw [same, (Std.ReflCmp.compare_self : compare second.place second.place = .eq)]
  rfl

/-- But for the number of records, every entry is described on its own. -/
theorem map_withoutCount_describeAll (entries : List Entry) :
    (registry.describeAll entries).1.map (·.withoutCount) =
      entries.filterMap registry.outline := by
  induction entries generalizing registry with
  | nil => rfl
  | cons entry rest ih =>
      rw [describeAll, List.filterMap_cons, outline]
      cases registry.termini[entry.terminus]? with
      | none => exact ih registry
      | some terminus =>
          rw [Option.map_some, List.map_cons, ih]
          rfl

theorem portrait_describe (entry : Entry) (terminus : Terminus) :
    (registry.describe entry terminus).2.portrait = registry.portrait := by
  have sameCount (identifier : Identifier) :
      (registry.describe entry terminus).2.countOf identifier = registry.countOf identifier := by
    rw [countOf, countOf, Storage.held, Storage.held]
    exact congrArg (fun store : Store =>
      match store.retrieveAll identifier with
      | .ok records => records.size
      | .error _ => 0) (registry.storage.retrieveAll_store terminus.identifier)
  funext other
  exact congrArg (registry.termini[other.terminus]?.map ·) (funext fun owner =>
    congrArg (fun unsettled => ({ (registry.describe other owner).1 with unsettled } : Snapshot))
      (sameCount owner.identifier))

theorem describeAll_of_isReadable (isReadable : registry.IsReadable) (entries : List Entry) :
    (registry.describeAll entries).1 = entries.filterMap registry.portrait := by
  induction entries generalizing registry with
  | nil => rfl
  | cons entry rest ih =>
      rw [describeAll, List.filterMap_cons, portrait]
      cases registry.termini[entry.terminus]? with
      | none => exact ih registry isReadable
      | some terminus =>
          have isUp : registry.storage.outages.retrieveAll.isDue = false :=
            isReadable _ (Nat.le_refl _)
          have isReadableNext : (registry.describe entry terminus).2.IsReadable := by
            intro call later
            simp only [describe, Storage.retrieveAll, isUp, Outage.next] at later ⊢
            exact isReadable call (by simpa using Nat.le_of_succ_le later)
          have others := ih _ isReadableNext
          rw [portrait_describe] at others
          have first : (registry.describe entry terminus).1 =
              { (registry.describe entry terminus).1 with
                unsettled := registry.countOf terminus.identifier } := by
            simp only [describe, Storage.retrieveAll, isUp, Bool.false_eq_true, if_false]
            rfl
          rw [Option.map_some]
          exact congrArg₂ List.cons first others

/-! ## One snapshot or several -/

/-- That a snapshot says of a terminus what the table and the terminus say. -/
def Shows (snapshot : Snapshot) : Prop :=
  ∃ entry terminus, registry.entries.get? snapshot.identifier.key = some entry ∧
    registry.termini[entry.terminus]? = some terminus ∧
    snapshot.withoutCount = (registry.describe entry terminus).1.withoutCount

variable {registry} {entries others : List Entry} {snapshot : Snapshot}

theorem exists_entry_of_mem_snapshotOf (listed : snapshot ∈ registry.snapshotOf entries) :
    ∃ entry ∈ entries, ∃ terminus, registry.termini[entry.terminus]? = some terminus ∧
      snapshot.withoutCount = (registry.describe entry terminus).1.withoutCount := by
  have described := List.mem_map_of_mem (f := (·.withoutCount))
    ((registry.snapshotOf_perm entries).mem_iff.1 listed)
  rw [map_withoutCount_describeAll] at described
  obtain ⟨entry, member, outlined⟩ := List.mem_filterMap.1 described
  obtain ⟨terminus, known, same⟩ := Option.map_eq_some_iff.1 outlined
  exact ⟨entry, member, terminus, known, same.symm⟩

theorem exists_mem_snapshotOf {entry : Entry} {terminus : Terminus} (member : entry ∈ entries)
    (known : registry.termini[entry.terminus]? = some terminus) :
    ∃ snapshot ∈ registry.snapshotOf entries, snapshot.identifier = terminus.identifier := by
  have outlined : (registry.describe entry terminus).1.withoutCount ∈
      (registry.describeAll entries).1.map (·.withoutCount) := by
    rw [map_withoutCount_describeAll]
    exact List.mem_filterMap.2 ⟨entry, member, by rw [outline, known, Option.map_some]⟩
  obtain ⟨snapshot, described, same⟩ := List.mem_map.1 outlined
  exact ⟨snapshot, (registry.snapshotOf_perm entries).mem_iff.2 described,
    congrArg Snapshot.identifier same⟩

namespace Sound

variable (sound : registry.Sound)
include sound

/-- The entries of the table, each once, are gone through: every key is listed once. -/
theorem map_key_snapshotOf_perm (isTable : entries.Perm registry.entries.values) :
    ((registry.snapshotOf entries).map (·.identifier.key)).Perm registry.entries.keys := by
  have keyOf (snapshots : List Snapshot) : snapshots.map (·.identifier.key) =
      (snapshots.map (·.withoutCount)).map (·.identifier.key) := by
    rw [List.map_map]
    rfl
  have atEntry : ∀ binding ∈ registry.entries.toList,
      ((registry.outline ∘ Prod.snd) binding).map (·.identifier.key) = some binding.1 := by
    rintro ⟨key, entry⟩ member
    obtain ⟨terminus, known, isOwn⟩ :=
      sound.keyed ((registry.entries.mem_toList_iff key entry).1 member)
    rw [Function.comp_apply, outline, known, Option.map_some, Option.map_some, ← isOwn]
    rfl
  have ofTable : (registry.entries.values.filterMap registry.outline).map (·.identifier.key) =
      registry.entries.keys := by
    rw [SortedMap.values, List.filterMap_map, List.map_filterMap, List.filterMap_congr atEntry,
      List.filterMap_eq_map']
    rfl
  rw [← ofTable]
  refine ((registry.snapshotOf_perm entries).map _).trans ?_
  rw [keyOf, map_withoutCount_describeAll]
  exact (isTable.filterMap _).map _

theorem nodup_map_key_snapshotOf (isTable : entries.Perm registry.entries.values) :
    ((registry.snapshotOf entries).map (·.identifier.key)).Nodup :=
  (sound.map_key_snapshotOf_perm isTable).nodup_iff.2 registry.entries.nodup_keys

theorem shows_of_mem_snapshotOf (isTable : entries.Perm registry.entries.values)
    (listed : snapshot ∈ registry.snapshotOf entries) : registry.Shows snapshot := by
  obtain ⟨entry, member, terminus, known, same⟩ := exists_entry_of_mem_snapshotOf listed
  obtain ⟨⟨key, _⟩, inTable, rfl⟩ := List.mem_map.1 (isTable.mem_iff.1 member)
  have present := (registry.entries.mem_toList_iff key _).1 inTable
  obtain ⟨owner, isOwner, isOwn⟩ := sound.keyed present
  obtain rfl : terminus = owner := Option.some.inj (known.symm.trans isOwner)
  have isIdentifier : snapshot.identifier = terminus.identifier :=
    congrArg Snapshot.identifier same
  exact ⟨_, terminus, by rw [isIdentifier, isOwn, present], known, same⟩

/-- The identifiers that are listed are those of the termini of the table. -/
theorem lists_iff (isTable : entries.Perm registry.entries.values) {identifier : Identifier} :
    registry.Lists identifier ↔
      ∃ snapshot ∈ registry.snapshotOf entries, snapshot.identifier = identifier := by
  constructor
  · rintro ⟨id, terminus, found, known, rfl⟩
    obtain ⟨entry, present, rfl⟩ := Option.map_eq_some_iff.1 found
    have member : entry ∈ entries :=
      isTable.mem_iff.2 (List.mem_map_of_mem ((registry.entries.mem_toList_iff _ _).2 present))
    exact exists_mem_snapshotOf member known
  · rintro ⟨snapshot, listed, rfl⟩
    obtain ⟨entry, terminus, present, known, same⟩ :=
      sound.shows_of_mem_snapshotOf isTable listed
    refine ⟨entry.terminus, terminus, ?_, known, (congrArg Snapshot.identifier same).symm⟩
    rw [find?, entry?, present, Option.map_some]

theorem eq_of_place_eq (isTable : entries.Perm registry.entries.values)
    (untied : ¬registry.HasTie) {first second : Snapshot}
    (firstListed : first ∈ registry.snapshotOf entries)
    (secondListed : second ∈ registry.snapshotOf entries) (same : first.place = second.place) :
    first = second := by
  apply List.inj_on_of_nodup_map (sound.nodup_map_key_snapshotOf isTable) firstListed secondListed
  by_contra apart
  exact untied ⟨_, _, (sound.lists_iff isTable).2 ⟨first, firstListed, rfl⟩,
    (sound.lists_iff isTable).2 ⟨second, secondListed, rfl⟩, apart, same⟩

/-- Places are strictly increasing if and only if no two are the same. -/
theorem pairwise_lt_snapshotOf_iff (isTable : entries.Perm registry.entries.values) :
    ((registry.snapshotOf entries).Pairwise
      fun earlier later => compare earlier.place later.place = .lt) ↔ ¬registry.HasTie := by
  constructor
  · rintro increasing ⟨left, right, leftListed, rightListed, apart, same⟩
    obtain ⟨first, firstListed, rfl⟩ := (sound.lists_iff isTable).1 leftListed
    obtain ⟨second, secondListed, rfl⟩ := (sound.lists_iff isTable).1 rightListed
    have places : ((registry.snapshotOf entries).map (·.place)).Nodup := by
      refine List.pairwise_map.2 (increasing.imp fun {earlier later} below same => ?_)
      rw [same, (Std.ReflCmp.compare_self : compare later.place later.place = .eq)] at below
      cases below
    have sameSnapshot := List.inj_on_of_nodup_map places firstListed secondListed same
    exact apart (congrArg (·.identifier.key) sameSnapshot)
  · intro untied
    have nodup := List.Nodup.of_map _ (sound.nodup_map_key_snapshotOf isTable)
    refine (registry.pairwise_snapshotOf entries).and nodup |>.imp_of_mem ?_
    rintro earlier later earlierListed laterListed ⟨below, apart⟩
    cases order : compare earlier.place later.place with
    | lt => rfl
    | eq =>
        exact absurd (sound.eq_of_place_eq isTable untied earlierListed laterListed
          (Std.LawfulEqCmp.eq_of_compare order)) apart
    | gt => rw [order] at below; cases below

end Sound

/-- Lists of the same snapshots in order are one list if no two of them have one place. -/
theorem eq_of_perm_of_untied {first second : List Snapshot} (reordered : first.Perm second)
    (firstSorted : first.Pairwise fun earlier later =>
      (compare earlier.place later.place).isLE = true)
    (secondSorted : second.Pairwise fun earlier later =>
      (compare earlier.place later.place).isLE = true)
    (untied : ∀ left ∈ first, ∀ right ∈ first, left.place = right.place → left = right) :
    first = second := by
  refine List.Perm.eq_of_pairwise (fun left right inFirst inSecond below above => ?_)
    firstSorted secondSorted reordered
  exact untied left inFirst right (reordered.mem_iff.2 inSecond)
    (Std.LawfulEqCmp.eq_of_compare (Std.OrientedCmp.isLE_antisymm below above))

theorem Sound.snapshotOf_eq_of_same_set {other : Registry} (sound : registry.Sound)
    (otherSound : other.Sound) (isTable : entries.Perm registry.entries.values)
    (isOtherTable : others.Perm other.entries.values) (untied : ¬registry.HasTie)
    (sameSet : ∀ snapshot,
      snapshot ∈ registry.snapshotOf entries ↔ snapshot ∈ other.snapshotOf others) :
    registry.snapshotOf entries = other.snapshotOf others := by
  have nodup := (sound.nodup_map_key_snapshotOf isTable).of_map
  have otherNodup := (otherSound.nodup_map_key_snapshotOf isOtherTable).of_map
  exact eq_of_perm_of_untied ((List.perm_ext_iff_of_nodup nodup otherNodup).2 sameSet)
    (registry.pairwise_snapshotOf entries) (other.pairwise_snapshotOf others)
    fun left leftListed right rightListed =>
      sound.eq_of_place_eq isTable untied leftListed rightListed

/-- Whichever way the entries are gone through, what is listed is the same, but for the numbers
of records. -/
theorem map_withoutCount_snapshotOf_perm (reordered : entries.Perm others) :
    ((registry.snapshotOf entries).map (·.withoutCount)).Perm
      ((registry.snapshotOf others).map (·.withoutCount)) := by
  refine ((registry.snapshotOf_perm entries).map _).trans
    (.trans ?_ ((registry.snapshotOf_perm others).map _).symm)
  rw [map_withoutCount_describeAll, map_withoutCount_describeAll]
  exact reordered.filterMap _

/-- If the store can be read, the numbers are the same, too. -/
theorem IsReadable.snapshotOf_perm (isReadable : registry.IsReadable)
    (reordered : entries.Perm others) :
    (registry.snapshotOf entries).Perm (registry.snapshotOf others) := by
  refine (registry.snapshotOf_perm entries).trans
    (.trans ?_ (registry.snapshotOf_perm others).symm)
  rw [registry.describeAll_of_isReadable isReadable,
    registry.describeAll_of_isReadable isReadable]
  exact reordered.filterMap _

/-- Where no places are the same, the snapshot is the same whichever way the entries are gone
through, but for the numbers of records. -/
theorem Sound.map_withoutCount_snapshotOf_eq (sound : registry.Sound)
    (isTable : entries.Perm registry.entries.values)
    (areOthers : others.Perm registry.entries.values) (untied : ¬registry.HasTie) :
    (registry.snapshotOf entries).map (·.withoutCount) =
      (registry.snapshotOf others).map (·.withoutCount) := by
  have sorted (entries : List Entry) :
      ((registry.snapshotOf entries).map (·.withoutCount)).Pairwise fun earlier later =>
        (compare earlier.place later.place).isLE = true :=
    List.pairwise_map.2 (registry.pairwise_snapshotOf entries)
  refine eq_of_perm_of_untied
    (map_withoutCount_snapshotOf_perm (isTable.trans areOthers.symm)) (sorted _) (sorted _) ?_
  simp only [List.forall_mem_map]
  intro left leftListed right rightListed same
  rw [sound.eq_of_place_eq isTable untied leftListed rightListed same]

theorem not_sublist_swap {α : Type} {first second : α} {items : List α} (nodup : items.Nodup)
    (inOrder : [first, second].Sublist items) : ¬[second, first].Sublist items := by
  induction items with
  | nil => cases inOrder
  | cons head rest ih =>
      obtain ⟨fresh, nodupRest⟩ := List.nodup_cons.1 nodup
      intro swapped
      cases inOrder with
      | cons _ inOrder =>
          cases swapped with
          | cons _ swapped => exact ih nodupRest inOrder swapped
          | cons_cons _ _ => exact fresh (inOrder.subset (by simp))
      | cons_cons _ found =>
          cases swapped with
          | cons _ swapped => exact fresh (swapped.subset (by simp))
          | cons_cons _ _ => exact fresh (List.singleton_sublist.1 found)

/-- Of two termini with one place the one comes first whose entry does. -/
theorem sublist_identifiers_of_tie {first second : Entry} {firstTerminus secondTerminus : Terminus}
    (rest : List Entry) (firstKnown : registry.termini[first.terminus]? = some firstTerminus)
    (secondKnown : registry.termini[second.terminus]? = some secondTerminus)
    (same : SnapshotKey.of firstTerminus.identifier = SnapshotKey.of secondTerminus.identifier) :
    [firstTerminus.identifier, secondTerminus.identifier].Sublist
      ((registry.snapshotOf (first :: second :: rest)).map (·.identifier)) := by
  have described := registry.map_withoutCount_describeAll (first :: second :: rest)
  rw [List.filterMap_cons, List.filterMap_cons, outline, outline, firstKnown, secondKnown,
    Option.map_some, Option.map_some] at described
  obtain ⟨firstSnapshot, later, isFirst, sameFirst, described⟩ := List.map_eq_cons_iff.1 described
  obtain ⟨secondSnapshot, _, rfl, sameSecond, -⟩ := List.map_eq_cons_iff.1 described
  have firstIdentifier : firstSnapshot.identifier = firstTerminus.identifier :=
    congrArg Snapshot.identifier sameFirst
  have secondIdentifier : secondSnapshot.identifier = secondTerminus.identifier :=
    congrArg Snapshot.identifier sameSecond
  have samePlace : firstSnapshot.place = secondSnapshot.place := by
    rw [Snapshot.place, Snapshot.place, firstIdentifier, secondIdentifier, same]
  have inOrder : [firstSnapshot, secondSnapshot].Sublist
      (registry.describeAll (first :: second :: rest)).1 := by
    rw [isFirst]
    exact List.sublist_append_left [firstSnapshot, secondSnapshot] _
  have listed := (registry.pair_sublist_snapshotOf samePlace inOrder).map (·.identifier)
  rwa [List.map_cons, List.map_cons, List.map_nil, firstIdentifier, secondIdentifier] at listed

theorem exists_perm_values {key other : Identifier.Key} {first second : Entry}
    (apart : key ≠ other) (present : registry.entries.get? key = some first)
    (otherPresent : registry.entries.get? other = some second) :
    ∃ rest, (first :: second :: rest).Perm registry.entries.values := by
  have member := (registry.entries.mem_toList_iff key first).2 present
  have otherMember := (registry.entries.mem_toList_iff other second).2 otherPresent
  have bindingsApart : (other, second) ≠ (key, first) := fun same =>
    apart (congrArg Prod.fst same).symm
  have bindings := (List.perm_cons_erase member).trans
    (.cons _ (List.perm_cons_erase ((List.mem_erase_of_ne bindingsApart).2 otherMember)))
  exact ⟨_, (bindings.map Prod.snd).symm⟩

/-- Where two places are the same, the snapshot depends on the way the entries are gone
through. -/
theorem Sound.exists_other_snapshot (sound : registry.Sound) (tied : registry.HasTie) :
    ∃ entries others : List Entry, entries.Perm registry.entries.values ∧
      others.Perm registry.entries.values ∧
      (registry.snapshotOf entries).map (·.identifier) ≠
        (registry.snapshotOf others).map (·.identifier) := by
  obtain ⟨_, _, ⟨_, firstTerminus, firstFound, firstKnown, rfl⟩,
    ⟨_, secondTerminus, secondFound, secondKnown, rfl⟩, apart, same⟩ := tied
  obtain ⟨first, firstPresent, rfl⟩ := Option.map_eq_some_iff.1 firstFound
  obtain ⟨second, secondPresent, rfl⟩ := Option.map_eq_some_iff.1 secondFound
  obtain ⟨rest, isTable⟩ := exists_perm_values apart firstPresent secondPresent
  refine ⟨_, _, isTable, (List.Perm.swap _ _ _).trans isTable, fun sameIdentifiers => ?_⟩
  have inOrder := sublist_identifiers_of_tie rest firstKnown secondKnown same
  have swapped := sublist_identifiers_of_tie rest secondKnown firstKnown same.symm
  rw [← sameIdentifiers] at swapped
  have nodup : (((registry.snapshotOf (first :: second :: rest)).map (·.identifier)).map
      Identifier.key).Nodup := by
    rw [List.map_map]
    exact sound.nodup_map_key_snapshotOf isTable
  exact not_sublist_swap nodup.of_map inOrder swapped

/-- Whether there are two termini with one place shows when all of them are described. -/
theorem Sound.hasTie_iff (sound : registry.Sound) : registry.HasTie ↔
    ∃ first ∈ (registry.describeAll registry.entries.values).1,
      ∃ second ∈ (registry.describeAll registry.entries.values).1,
        first.identifier.key ≠ second.identifier.key ∧ first.place = second.place := by
  have listed {snapshot : Snapshot} :=
    (registry.snapshotOf_perm registry.entries.values).mem_iff (a := snapshot)
  constructor
  · rintro ⟨left, right, leftListed, rightListed, apart, same⟩
    obtain ⟨first, firstListed, rfl⟩ := (sound.lists_iff (.refl _)).1 leftListed
    obtain ⟨second, secondListed, rfl⟩ := (sound.lists_iff (.refl _)).1 rightListed
    exact ⟨first, listed.1 firstListed, second, listed.1 secondListed, apart, same⟩
  · rintro ⟨first, firstListed, second, secondListed, apart, same⟩
    exact ⟨_, _, (sound.lists_iff (.refl _)).2 ⟨first, listed.2 firstListed, rfl⟩,
      (sound.lists_iff (.refl _)).2 ⟨second, listed.2 secondListed, rfl⟩, apart, same⟩

/-- That a registry comes to be, by whatever moves, from one without termini. -/
def IsReached (registry : Registry) : Prop :=
  ∃ (config : Config) (storage : Storage) (hasTimers : Bool) (moves : List Move),
    ({ create config storage with hasTimers } : Registry).follow moves = registry

theorem IsReached.sound (isReached : registry.IsReached) : registry.Sound := by
  obtain ⟨config, storage, hasTimers, moves, rfl⟩ := isReached
  exact (Sound.create config storage hasTimers).follow moves

/-- What a snapshot lists, and when there is only one.  Every entry of the table is listed once,
as it is, and places never decrease.  They increase, and the entries may be gone through in any
order without a difference (but for numbers of records when the store has an outage), if and only
if no two termini have one place; then whoever lists the same lists it in the same order.  Two
identifiers of different termini have one place only if a capital sigma ends a word of one of
them, and they differ in the form of sigmas alone. -/
theorem snapshot_order_iff_untied {registry other : Registry} {entries others : List Entry}
    (isReached : registry.IsReached) (isOtherReached : other.IsReached)
    (isTable : entries.Perm registry.entries.values)
    (isOtherTable : others.Perm other.entries.values) (left right : Identifier) :
    registry.snapshot.1 = registry.snapshotOf registry.entries.values ∧
      ((registry.snapshotOf entries).map (·.identifier.key)).Perm registry.entries.keys ∧
      (∀ snapshot ∈ registry.snapshotOf entries, registry.Shows snapshot) ∧
      ((registry.snapshotOf entries).Pairwise fun earlier later =>
        (compare earlier.place later.place).isLE = true) ∧
      (((registry.snapshotOf entries).Pairwise fun earlier later =>
        compare earlier.place later.place = .lt) ↔ ¬registry.HasTie) ∧
      ((∀ reordered : List Entry, reordered.Perm entries →
        (registry.snapshotOf reordered).map (·.withoutCount) =
          (registry.snapshotOf entries).map (·.withoutCount)) ↔ ¬registry.HasTie) ∧
      (registry.IsReadable → ∀ reordered : List Entry, reordered.Perm entries →
        (registry.snapshotOf reordered).Perm (registry.snapshotOf entries)) ∧
      (¬registry.HasTie →
        (∀ snapshot,
          snapshot ∈ registry.snapshotOf entries ↔ snapshot ∈ other.snapshotOf others) →
        registry.snapshotOf entries = other.snapshotOf others) ∧
      (SnapshotKey.of left = SnapshotKey.of right → left.key ≠ right.key →
        (left.HasFinalSigma ∨ right.HasFinalSigma) ∧ left.key.unfinal = right.key.unfinal) := by
  have sound := isReached.sound
  refine ⟨rfl, sound.map_key_snapshotOf_perm isTable,
    fun snapshot => sound.shows_of_mem_snapshotOf isTable, registry.pairwise_snapshotOf entries,
    sound.pairwise_lt_snapshotOf_iff isTable, ⟨fun oneSnapshot tied => ?_, fun untied => ?_⟩,
    fun isReadable reordered => isReadable.snapshotOf_perm,
    sound.snapshotOf_eq_of_same_set isOtherReached.sound isTable isOtherTable,
    fun same apart => ⟨?_, Identifier.unfinal_key_eq_of_place_eq same⟩⟩
  · obtain ⟨first, second, isFirst, isSecond, differ⟩ := sound.exists_other_snapshot tied
    have sameOutlines := (oneSnapshot first (isFirst.trans isTable.symm)).trans
      (oneSnapshot second (isSecond.trans isTable.symm)).symm
    have sameIdentifiers := congrArg (List.map (·.identifier)) sameOutlines
    rw [List.map_map, List.map_map] at sameIdentifiers
    exact differ sameIdentifiers
  · intro reordered areSame
    exact sound.map_withoutCount_snapshotOf_eq (areSame.trans isTable) isTable untied
  · by_contra noFinal
    obtain ⟨leftNone, rightNone⟩ := not_or.1 noFinal
    exact apart ((Identifier.place_eq_iff_of_not_hasFinalSigma leftNone rightNone).1 same)

end Registry

namespace Sample

/-- A name that ends in a capital sigma. -/
def capitalSigma : Identifier := ⟨"ΑΣ", .sender, none, by decide⟩

/-- The name in lower case, with the final form of the letter. -/
def finalSigma : Identifier := ⟨"ας", .sender, none, by decide⟩

/-- Links of some identifiers are registered one after the other. -/
def attaching (identifiers : List Identifier) : List Move :=
  identifiers.zipIdx.flatMap fun (identifier, index) =>
    [.act (.openLink { link "link-detach" 60 with identifier }), .act (.register index true)]

end Sample

namespace Registry

/-- A name that ends in a capital sigma is listed in one place, whether the entries are gone
through in their order or backwards, as long as the final form of the letter names no other
terminus. -/
theorem snapshot_order_iff_untied_sample :
    let registry := Sample.registry.follow
      (Sample.attaching [Sample.capitalSigma, Sample.identifier])
    registry.entries.size = 2 ∧ registry.IsReached ∧ registry.IsReadable ∧ ¬registry.HasTie ∧
      registry.snapshotOf registry.entries.values.reverse = registry.snapshot.1 ∧
      Sample.capitalSigma.key ≠ Sample.finalSigma.key ∧
      Sample.capitalSigma.key.unfinal = Sample.finalSigma.key.unfinal := by
  intro registry
  have isReached : registry.IsReached := ⟨_, _, _, _, rfl⟩
  have isReadable : registry.IsReadable := fun _ _ => rfl
  have untied : ¬registry.HasTie := by
    rw [isReached.sound.hasTie_iff]
    decide +kernel
  have backwards := List.reverse_perm registry.entries.values
  have apart : Sample.capitalSigma.key ≠ Sample.finalSigma.key := by decide +kernel
  obtain ⟨isSnapshot, -, -, -, -, -, keepsSet, keepsOrder, places⟩ :=
    snapshot_order_iff_untied isReached isReached (.refl _) backwards
      Sample.capitalSigma Sample.finalSigma
  refine ⟨by decide +kernel, isReached, isReadable, untied, ?_, apart,
    (places (by decide +kernel) apart).2⟩
  rw [isSnapshot]
  exact (keepsOrder untied fun snapshot => (keepsSet isReadable _ backwards).mem_iff.symm).symm

/-- A name that ends in a capital sigma and one that ends in its final form are names of two
termini with one place.  When both are in the table, places do not increase, and the snapshot is
another one when the entries are gone through in another order. -/
theorem final_sigma_ties_sample :
    (¬ ∀ left right : Identifier, left.key ≠ right.key →
        SnapshotKey.of left ≠ SnapshotKey.of right) ∧
      ∃ registry : Registry, registry.IsReached ∧
        (¬ registry.snapshot.1.Pairwise fun earlier later =>
          compare earlier.place later.place = .lt) ∧
        ∃ entries others : List Entry, entries.Perm registry.entries.values ∧
          others.Perm registry.entries.values ∧
          registry.snapshotOf entries ≠ registry.snapshotOf others := by
  refine ⟨fun apart => ?_, ?_⟩
  · exact apart Sample.capitalSigma Sample.finalSigma (by decide +kernel) (by decide +kernel)
  · let registry := Sample.registry.follow
      (Sample.attaching [Sample.capitalSigma, Sample.finalSigma])
    have isReached : registry.IsReached := ⟨_, _, _, _, rfl⟩
    have tied : registry.HasTie := by
      rw [isReached.sound.hasTie_iff]
      decide +kernel
    obtain ⟨entries, others, isTable, areOthers, differ⟩ :=
      isReached.sound.exists_other_snapshot tied
    refine ⟨registry, isReached, fun increasing => ?_, entries, others, isTable, areOthers,
      fun same => differ (by rw [same])⟩
    exact (isReached.sound.pairwise_lt_snapshotOf_iff (.refl _)).1 increasing tied

end Registry

end Reattach
