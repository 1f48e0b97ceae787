import Mathlib.Data.List.Dedup
import Reattach.Exchange.Deliveries

/-!
# What spells a tag

A tag is read from pairs of characters.  Each pair is read as a number, and a number may
be led by a plus sign, so `+f` spells the byte that `0f` spells.  This is the only thing
beside digits that is accepted: a text spells a tag exactly if it has an even number of
characters, all of them digits but for plus signs in the first places of pairs.  What the
tag is written as is the text in lower case with a zero for every plus sign.
-/

namespace Reattach

namespace Text

/-- Whether a character is a hexadecimal digit of either case. -/
def IsHexDigit (char : Char) : Prop :=
  '0' ≤ char ∧ char ≤ '9' ∨ 'a' ≤ char ∧ char ≤ 'f' ∨ 'A' ≤ char ∧ char ≤ 'F'

instance (char : Char) : Decidable (IsHexDigit char) := inferInstanceAs (Decidable (_ ∨ _))

/-- Whether a text has an even number of characters, and all are digits but for plus signs
at even places. -/
def IsHexPairs (text : List Char) : Prop :=
  text.length % 2 = 0 ∧ ∀ (index : Nat) (inside : index < text.length),
    IsHexDigit text[index] ∨ text[index] = '+' ∧ index % 2 = 0

instance (text : List Char) : Decidable (IsHexPairs text) := inferInstanceAs (Decidable (_ ∧ _))

/-- A digit in lower case, and zero for a plus sign. -/
def hexSpelling (char : Char) : Char := if char = '+' then '0' else char.toLower

/-- Digits and plus signs are spelled in lower case unless there is a plus sign. -/
theorem map_hexSpelling_eq_lowerAscii_iff (text : String) :
    text.map hexSpelling = lowerAscii text ↔ '+' ∉ text.toList := by
  have atChar (char : Char) : hexSpelling char = char.toLower ↔ char ≠ '+' := by
    by_cases isPlus : char = '+'
    · subst isPlus
      decide
    · simp [hexSpelling, isPlus]
  rw [lowerAscii, ← String.toList_inj, String.toList_map, String.toList_map,
    List.map_inj_left]
  simp only [atChar]
  exact ⟨fun noPlus member => noPlus _ member rfl, fun noPlus char member same =>
    noPlus (same ▸ member)⟩

theorem isSome_hexValue?_iff (char : Char) :
    (hexValue? char).isSome = true ↔ IsHexDigit char := by
  unfold hexValue? IsHexDigit
  grind

theorem hexDigit_of_hexValue? {char : Char} {value : Nat} (read : hexValue? char = some value) :
    value < 16 ∧ hexDigit value = char.toLower := by
  have isDigit := (isSome_hexValue?_iff char).1 (by rw [read]; rfl)
  have isAscii : char.toNat < 0x80 := by
    rcases isDigit with ⟨-, below⟩ | ⟨-, below⟩ | ⟨-, below⟩
    all_goals exact Nat.lt_of_le_of_lt (Char.le_def.1 below) (by decide)
  have onAscii : ∀ code < 0x80, ∀ value ∈ hexValue? (Char.ofNat code),
      value < 16 ∧ hexDigit value = (Char.ofNat code).toLower := by decide +kernel
  have atChar := onAscii char.toNat isAscii value
  rw [Char.ofNat_toNat] at atChar
  exact atChar read

theorem not_isHexDigit_plus : ¬ IsHexDigit '+' := by decide

theorem hexPair_of_byteOfPair? {high low : Char} {byte : UInt8}
    (read : byteOfPair? high low = some byte) :
    hexPair byte = [hexSpelling high, hexSpelling low] := by
  have ofDigits {high low : Nat} (isHigh : high < 16) (isLow : low < 16) :
      hexPair (UInt8.ofNat (16 * high + low)) = [hexDigit high, hexDigit low] := by
    have size : (UInt8.ofNat (16 * high + low)).toNat = 16 * high + low :=
      UInt8.toNat_ofNat_of_lt (by simp only [UInt8.size]; omega)
    have quotient : (16 * high + low) / 16 = high := by omega
    have remainder : (16 * high + low) % 16 = low := by omega
    rw [hexPair, size, quotient, remainder]
  have notPlus {char : Char} {value : Nat} (read : hexValue? char = some value) :
      hexSpelling char = char.toLower := by
    refine if_neg fun isPlus => ?_
    rw [isPlus] at read
    cases read
  unfold byteOfPair? at read
  split at read
  · next isPlus =>
      obtain ⟨value, readLow, rfl⟩ := Option.map_eq_some_iff.1 read
      obtain ⟨small, written⟩ := hexDigit_of_hexValue? readLow
      have pair := @ofDigits 0 value (by decide) small
      rw [Nat.mul_zero, Nat.zero_add] at pair
      rw [pair, written, isPlus, notPlus readLow]
      rfl
  · obtain ⟨highValue, readHigh, read⟩ := Option.bind_eq_some_iff.1 read
    obtain ⟨lowValue, readLow, read⟩ := Option.bind_eq_some_iff.1 read
    obtain ⟨smallHigh, writtenHigh⟩ := hexDigit_of_hexValue? readHigh
    obtain ⟨smallLow, writtenLow⟩ := hexDigit_of_hexValue? readLow
    rw [← Option.some.inj read, ofDigits smallHigh smallLow, writtenHigh, writtenLow,
      notPlus readHigh, notPlus readLow]

/-- A pair has a byte if its first place holds a digit or a plus sign and its second a
digit. -/
theorem isSome_byteOfPair?_iff (high low : Char) :
    (byteOfPair? high low).isSome = true ↔
      (IsHexDigit high ∨ high = '+') ∧ IsHexDigit low := by
  unfold byteOfPair?
  split
  · next isPlus => simp [isPlus, isSome_hexValue?_iff]
  · next notPlus =>
      rw [← isSome_hexValue?_iff high, ← isSome_hexValue?_iff low]
      cases hexValue? high <;> cases hexValue? low <;> simp [notPlus]

theorem isHexPairs_cons_cons_iff (high low : Char) (rest : List Char) :
    IsHexPairs (high :: low :: rest) ↔
      ((IsHexDigit high ∨ high = '+') ∧ IsHexDigit low) ∧ IsHexPairs rest := by
  constructor
  · rintro ⟨even, places⟩
    have atHigh := places 0 (by simp)
    have atLow := places 1 (by simp)
    refine ⟨⟨by simpa using atHigh, by simpa using atLow⟩, ?_, fun index inside => ?_⟩
    · simp only [List.length_cons] at even
      omega
    · have atNext := places (index + 2) (by simpa using inside)
      rwa [Nat.add_mod_right] at atNext
  · rintro ⟨⟨isHigh, isLow⟩, even, places⟩
    refine ⟨by simp only [List.length_cons]; omega, fun index inside => ?_⟩
    match index with
    | 0 => simpa using isHigh
    | 1 => exact .inl isLow
    | index + 2 =>
        rw [Nat.add_mod_right]
        exact places index (by simpa using inside)

/-- A row of pairs has bytes exactly if every pair has one. -/
theorem isSome_bytesOfPairs?_iff (text : List Char) :
    (bytesOfPairs? text).isSome = true ↔ IsHexPairs text := by
  fun_induction bytesOfPairs? text with
  | case1 => simp [IsHexPairs]
  | case2 char => simp [IsHexPairs]
  | case3 high low rest ih =>
      rw [isHexPairs_cons_cons_iff, ← isSome_byteOfPair?_iff, ← ih]
      cases byteOfPair? high low <;> cases bytesOfPairs? rest <;> simp

theorem hexPairs_of_bytesOfPairs? {text : List Char} {bytes : List UInt8}
    (read : bytesOfPairs? text = some bytes) :
    bytes.flatMap hexPair = text.map hexSpelling := by
  fun_induction bytesOfPairs? text generalizing bytes with
  | case1 =>
      cases read
      rfl
  | case2 char => cases read
  | case3 high low rest ih =>
      obtain ⟨byte, readPair, read⟩ := Option.bind_eq_some_iff.1 read
      obtain ⟨others, readRest, read⟩ := Option.bind_eq_some_iff.1 read
      rw [← Option.some.inj read, List.flatMap_cons, hexPair_of_byteOfPair? readPair,
        ih readRest]
      rfl

end Text

namespace Tag

theorem toHex_inj {left right : Tag} : left.toHex = right.toHex ↔ left = right := by
  refine ⟨fun same => ?_, fun same => same ▸ rfl⟩
  have read := congrArg ofHex? same
  rw [ofHex?_toHex, ofHex?_toHex] at read
  exact Option.some.inj read

theorem isSome_ofHex?_iff (text : String) :
    (ofHex? text).isSome = true ↔ Text.IsHexPairs text.toList := by
  rw [ofHex?, Option.isSome_map, Text.isSome_bytesOfPairs?_iff]

/-- A tag that is read is written as the text is spelled. -/
theorem toHex_of_ofHex? {text : String} {tag : Tag} (read : ofHex? text = some tag) :
    tag.toHex = text.map Text.hexSpelling := by
  obtain ⟨bytes, readBytes, rfl⟩ := Option.map_eq_some_iff.1 read
  rw [toHex, Text.hexOfBytes, Text.hexPairs_of_bytesOfPairs? readBytes, ← String.toList_inj,
    String.toList_ofList, String.toList_map]

end Tag

namespace Json

theorem mapM_eq_some_iff {α β : Type} {read : α → Option β} {items : List α}
    {images : List β} : items.mapM read = some images ↔ items.map read = images.map some := by
  induction items generalizing images with
  | nil => cases images <;> simp
  | cons item rest ih =>
      rw [List.mapM_cons]
      cases images with
      | nil => cases read item <;> cases rest.mapM read <;> simp
      | cons image images =>
          rw [List.map_cons, List.map_cons, List.cons.injEq, ← ih]
          cases read item <;> cases rest.mapM read <;> simp

theorem isSome_mapM_iff {α β : Type} {read : α → Option β} {items : List α} :
    (items.mapM read).isSome = true ↔ ∀ item ∈ items, (read item).isSome = true := by
  induction items with
  | nil => simp
  | cons item rest ih =>
      rw [List.mapM_cons, List.forall_mem_cons, ← ih]
      cases read item <;> cases rest.mapM read <;> simp

end Json

namespace SortedMap

variable {Key Value : Type} [Ord Key] [Std.TransOrd Key] [Std.LawfulEqOrd Key]

omit [Std.TransOrd Key] in
/-- The first binding of a key in a list is the one that is found. -/
theorem lookup_eq_some_iff_split {key : Key} {value : Value}
    {bindings : List (Key × Value)} :
    lookup key bindings = some value ↔
      ∃ front back, bindings = front ++ (key, value) :: back ∧
        ∀ binding ∈ front, binding.1 ≠ key := by
  induction bindings with
  | nil => simp [lookup]
  | cons head rest ih =>
      obtain ⟨headKey, headValue⟩ := head
      rw [lookup]
      by_cases isHead : key = headKey
      · subst isHead
        rw [if_pos Std.ReflCmp.compare_self]
        constructor
        · intro found
          exact ⟨[], rest, by rw [Option.some.inj found]; rfl, by simp⟩
        · rintro ⟨front, back, split, earlier⟩
          cases front with
          | nil => rw [(Prod.mk.inj (List.cons.inj split).1).2]
          | cons first front =>
              obtain ⟨rfl, -⟩ := List.cons.inj split
              exact absurd rfl (earlier _ List.mem_cons_self)
      · rw [if_neg fun same => isHead (Std.LawfulEqCmp.eq_of_compare same), ih]
        constructor
        · rintro ⟨front, back, rfl, earlier⟩
          refine ⟨(headKey, headValue) :: front, back, rfl, List.forall_mem_cons.2 ⟨?_, earlier⟩⟩
          exact Ne.symm isHead
        · rintro ⟨front, back, split, earlier⟩
          cases front with
          | nil => exact absurd (Prod.mk.inj (List.cons.inj split).1).1.symm isHead
          | cons first front =>
              obtain ⟨-, rfl⟩ := List.cons.inj split
              exact ⟨front, back, rfl, (List.forall_mem_cons.1 earlier).2⟩

theorem get?_ofList_eq_some_iff {key : Key} {value : Value} {bindings : List (Key × Value)} :
    (ofList bindings).get? key = some value ↔
      ∃ front back, bindings = front ++ (key, value) :: back ∧
        ∀ binding ∈ back, binding.1 ≠ key := by
  rw [get?_ofList, lookup_eq_some_iff_split]
  constructor
  · rintro ⟨front, back, split, earlier⟩
    refine ⟨back.reverse, front.reverse, ?_, by simpa using earlier⟩
    rw [← List.reverse_reverse bindings, split]
    simp
  · rintro ⟨front, back, rfl, later⟩
    exact ⟨back.reverse, front.reverse, by simp, by simpa using later⟩

theorem mem_keys_ofList_iff {key : Key} {bindings : List (Key × Value)} :
    key ∈ (ofList bindings).keys ↔ key ∈ bindings.map Prod.fst := by
  rw [mem_keys_iff, contains, get?_ofList, List.mem_map]
  constructor
  · intro found
    obtain ⟨value, found⟩ := Option.isSome_iff_exists.1 found
    exact ⟨(key, value), List.mem_reverse.1 (mem_of_lookup_eq_some found), rfl⟩
  · rintro ⟨⟨_, value⟩, member, rfl⟩
    exact isSome_lookup_of_mem (List.mem_reverse.2 member)

end SortedMap

namespace Unsettled

/-- One binding, named by a tag. -/
def entryOfJson? (member : String × Json) : Option (Tag × State) := do
  let tag ← Tag.ofHex? member.1
  let state ← State.ofJson? .direct member.2
  some (tag, state)

theorem entryOfJson?_eq_some_iff {member : String × Json} {tag : Tag} {state : State} :
    entryOfJson? member = some (tag, state) ↔
      Tag.ofHex? member.1 = some tag ∧ State.ofJson? .direct member.2 = some state := by
  rw [entryOfJson?]
  cases Tag.ofHex? member.1 <;> cases State.ofJson? .direct member.2 <;> simp

theorem ofJson?_obj (members : List (String × Json)) :
    ofJson? (.obj members) = (members.mapM entryOfJson?).map SortedMap.ofList := by
  have entries : ((Json.readDictionary (State.ofJson? .direct) (.obj members)).bind
      fun members => members.mapM fun member =>
        (Tag.ofHex? member.1).map fun tag => (tag, member.2)) =
      members.mapM entryOfJson? := by
    rw [Json.readDictionary]
    induction members with
    | nil => rfl
    | cons member rest ih =>
        rw [List.mapM_cons, List.mapM_cons, ← ih, entryOfJson?]
        cases State.ofJson? .direct member.2 with
        | none => cases Tag.ofHex? member.1 <;> rfl
        | some state =>
            cases rest.mapM fun member =>
              (State.ofJson? .direct member.2).map fun value => (member.1, value) with
            | none => cases Tag.ofHex? member.1 <;> rfl
            | some others =>
                simp only [Option.map_some, Option.bind_eq_bind, Option.bind_some,
                  Option.pure_def, List.mapM_cons]
                cases Tag.ofHex? member.1 <;> rfl
  rw [← entries, ofJson?]
  cases Json.readDictionary (State.ofJson? .direct) (.obj members) with
  | none => rfl
  | some members => simp only [Option.bind_eq_bind, Option.bind_some, Option.map_eq_bind]; rfl

theorem spelling_of_entryOfJson? {member : String × Json} {entry : Tag × State}
    (read : entryOfJson? member = some entry) :
    member.1.map Text.hexSpelling = entry.1.toHex :=
  (Tag.toHex_of_ofHex? (entryOfJson?_eq_some_iff.1 read).1).symm

section Entries

variable {members : List (String × Json)} {entries : List (Tag × State)}

/-- Read members have the spellings of the tags, one by one. -/
theorem spellings_of_map_entryOfJson?
    (read : members.map entryOfJson? = entries.map some) :
    members.map (fun member => member.1.map Text.hexSpelling) =
      entries.map fun entry => entry.1.toHex := by
  induction members generalizing entries with
  | nil =>
      cases entries with
      | nil => rfl
      | cons _ _ => cases read
  | cons member rest ih =>
      cases entries with
      | nil => cases read
      | cons entry others =>
          obtain ⟨readHead, readRest⟩ := List.cons.inj read
          rw [List.map_cons, List.map_cons, ih readRest, spelling_of_entryOfJson? readHead]

/-- Where a tag is bound last is where its spelling stands last. -/
theorem get?_ofList_iff_of_map_entryOfJson?
    (read : members.map entryOfJson? = entries.map some) (tag : Tag) (state : State) :
    (SortedMap.ofList entries).get? tag = some state ↔
      ∃ front name value back, members = front ++ (name, value) :: back ∧
        name.map Text.hexSpelling = tag.toHex ∧ State.ofJson? .direct value = some state ∧
        ∀ member ∈ back, member.1.map Text.hexSpelling ≠ tag.toHex := by
  rw [SortedMap.get?_ofList_eq_some_iff]
  constructor
  · rintro ⟨frontEntries, backEntries, rfl, later⟩
    rw [List.map_append, List.map_cons, List.map_eq_append_iff] at read
    obtain ⟨front, others, rfl, -, readOthers⟩ := read
    obtain ⟨⟨name, value⟩, back, rfl, readMember, readBack⟩ := List.map_eq_cons_iff.1 readOthers
    refine ⟨front, name, value, back, rfl, spelling_of_entryOfJson? readMember,
      (entryOfJson?_eq_some_iff.1 readMember).2, fun member inBack same => ?_⟩
    have spelled : tag.toHex ∈ backEntries.map fun entry => entry.1.toHex := by
      rw [← spellings_of_map_entryOfJson? readBack, ← same]
      exact List.mem_map_of_mem inBack
    obtain ⟨entry, inEntries, sameTag⟩ := List.mem_map.1 spelled
    exact later entry inEntries (Tag.toHex_inj.1 sameTag)
  · rintro ⟨front, name, value, back, rfl, spelled, readState, later⟩
    rw [List.map_append, List.map_cons] at read
    obtain ⟨frontEntries, others, rfl, -, readOthers⟩ := List.map_eq_append_iff.1 read.symm
    obtain ⟨⟨other, otherState⟩, backEntries, rfl, readMember, readBack⟩ :=
      List.map_eq_cons_iff.1 readOthers
    have sameTag : other = tag :=
      Tag.toHex_inj.1 ((spelling_of_entryOfJson? readMember.symm).symm.trans spelled)
    have sameState : otherState = state :=
      Option.some.inj ((entryOfJson?_eq_some_iff.1 readMember.symm).2.symm.trans readState)
    refine ⟨frontEntries, backEntries, by rw [sameTag, sameState], fun entry inEntries same => ?_⟩
    have spelledEntry : tag.toHex ∈ back.map fun member => member.1.map Text.hexSpelling := by
      rw [spellings_of_map_entryOfJson? readBack.symm, ← same]
      exact List.mem_map_of_mem inEntries
    obtain ⟨member, inBack, sameSpelling⟩ := List.mem_map.1 spelledEntry
    exact later member inBack sameSpelling

/-- The tags of the map are written as the different spellings of the names. -/
theorem keys_ofList_perm_of_map_entryOfJson?
    (read : members.map entryOfJson? = entries.map some) :
    ((SortedMap.ofList entries).keys.map Tag.toHex).Perm
      (members.map fun member => member.1.map Text.hexSpelling).dedup := by
  rw [spellings_of_map_entryOfJson? read]
  have nodup : ((SortedMap.ofList entries).keys.map Tag.toHex).Nodup :=
    (SortedMap.nodup_keys _).map fun _ _ same => Tag.toHex_inj.1 same
  refine (List.perm_ext_iff_of_nodup nodup (List.nodup_dedup _)).2 fun written => ?_
  rw [List.mem_dedup, List.mem_map]
  simp only [SortedMap.mem_keys_ofList_iff, List.mem_map, exists_exists_and_eq_and]

end Entries

/-- An object is a map if every name spells a tag and every value is a state. -/
theorem isSome_ofJson?_obj_iff (members : List (String × Json)) :
    (ofJson? (.obj members)).isSome = true ↔ ∀ member ∈ members,
      (Tag.ofHex? member.1).isSome = true ∧ (State.ofJson? .direct member.2).isSome = true := by
  rw [ofJson?_obj, Option.isSome_map, Json.isSome_mapM_iff]
  refine forall₂_congr fun member _ => ?_
  rw [entryOfJson?]
  cases Tag.ofHex? member.1 <;> cases State.ofJson? .direct member.2 <;> simp

end Unsettled

namespace Tag

/-- What spells a tag.  A text does exactly if it is a row of pairs of digits in which the
first place of a pair may hold a plus sign instead; the tag is then written as the text in
lower case with a zero for every plus sign, which is the text in lower case only if it has
none.  Two texts spell one tag exactly if this is the same for both, and an unsettled map
has one binding for all names for which it is the same, that of the last of them. -/
theorem of_hex_iff_pairs (text other : String) (members : List (String × Json)) :
    ((ofHex? text).isSome = true ↔ Text.IsHexPairs text.toList) ∧
      (∀ tag, ofHex? text = some tag →
        tag.toHex = text.map Text.hexSpelling ∧
        (tag.toHex = Text.lowerAscii text ↔ '+' ∉ text.toList) ∧
        (ofHex? other = some tag ↔
          (ofHex? other).isSome = true ∧
            text.map Text.hexSpelling = other.map Text.hexSpelling)) ∧
      ((Unsettled.ofJson? (.obj members)).isSome = true ↔ ∀ member ∈ members,
        (ofHex? member.1).isSome = true ∧ (State.ofJson? .direct member.2).isSome = true) ∧
      ∀ unsettled, Unsettled.ofJson? (.obj members) = some unsettled →
        (unsettled.keys.map toHex).Perm
            (members.map fun member => member.1.map Text.hexSpelling).dedup ∧
          ∀ (tag : Tag) (state : State), unsettled.get? tag = some state ↔
            ∃ front name value back, members = front ++ (name, value) :: back ∧
              name.map Text.hexSpelling = tag.toHex ∧
              State.ofJson? .direct value = some state ∧
              ∀ member ∈ back, member.1.map Text.hexSpelling ≠ tag.toHex := by
  refine ⟨isSome_ofHex?_iff text, fun tag read => ?_,
    Unsettled.isSome_ofJson?_obj_iff members, fun unsettled read => ?_⟩
  · have written := toHex_of_ofHex? read
    refine ⟨written, by rw [written, Text.map_hexSpelling_eq_lowerAscii_iff], ?_⟩
    constructor
    · intro readOther
      exact ⟨by rw [readOther]; rfl, by rw [← written, toHex_of_ofHex? readOther]⟩
    · rintro ⟨isRead, same⟩
      obtain ⟨otherTag, readOther⟩ := Option.isSome_iff_exists.1 isRead
      rw [← written, ← toHex_of_ofHex? readOther] at same
      rw [readOther, toHex_inj.1 same]
  · rw [Unsettled.ofJson?_obj] at read
    obtain ⟨entries, readEntries, rfl⟩ := Option.map_eq_some_iff.1 read
    have readEach := Json.mapM_eq_some_iff.1 readEntries
    exact ⟨Unsettled.keys_ofList_perm_of_map_entryOfJson? readEach,
      Unsettled.get?_ofList_iff_of_map_entryOfJson? readEach⟩

/-- Six characters with a plus sign and both cases spell three bytes, and a map whose names
spell one tag in three ways has one binding, the last. -/
theorem of_hex_iff_pairs_sample :
    let members : List (String × Json) :=
      [("+A", .obj [("kind", .str "pending_unknown")]),
        ("0a", .obj [("kind", .str "pending_acknowledged")]),
        ("0A", .obj [("kind", .str "terminal"), ("outcome", .str "released")])]
    ∃ tag unsettled, ofHex? "aB+f0F" = some tag ∧ tag.toHex = "ab0f0f" ∧
      ofHex? "AB0f+f" = some tag ∧
      Unsettled.ofJson? (.obj members) = some unsettled ∧
      (unsettled.keys.map toHex).Perm ["0a"] ∧
      unsettled.get? ⟨[10]⟩ = some (.terminal .released) := by
  intro members
  obtain ⟨accepts, tells, reads, binds⟩ := of_hex_iff_pairs "aB+f0F" "AB0f+f" members
  have isRead : (ofHex? "AB0f+f").isSome = true := by decide +kernel
  have spelled : "aB+f0F".map Text.hexSpelling = "ab0f0f" := by decide +kernel
  have spelledOther : "AB0f+f".map Text.hexSpelling = "ab0f0f" := by decide +kernel
  obtain ⟨tag, read⟩ := Option.isSome_iff_exists.1 (accepts.2 (by decide +kernel))
  obtain ⟨written, -, spells⟩ := tells tag read
  obtain ⟨unsettled, readMap⟩ := Option.isSome_iff_exists.1 (reads.2 (by decide +kernel))
  obtain ⟨keys, bound⟩ := binds unsettled readMap
  refine ⟨tag, unsettled, read, written.trans spelled,
    spells.2 ⟨isRead, spelled.trans spelledOther.symm⟩, readMap, ?_, ?_⟩
  · have spellings : (members.map fun member => member.1.map Text.hexSpelling).dedup = ["0a"] := by
      decide +kernel
    rwa [spellings] at keys
  · exact (bound _ _).2 ⟨[_, _], _, _, [], rfl, by decide +kernel, by decide +kernel, by simp⟩

/-- Not only digits spell a tag: a plus sign does in the place of a zero, so one tag is
spelled in two ways that differ in more than letter case, and a map that names it in both
loses a binding. -/
theorem plus_spells_zero_sample :
    (¬ ∀ text : String, (ofHex? text).isSome = true ↔
        text.length % 2 = 0 ∧ ∀ char ∈ text.toList, Text.IsHexDigit char) ∧
      (¬ ∀ (text : String) (tag : Tag), ofHex? text = some tag →
        tag.toHex = Text.lowerAscii text) ∧
      (¬ ∀ left right : String, (ofHex? left).isSome = true → ofHex? left = ofHex? right →
        Text.lowerAscii left = Text.lowerAscii right) ∧
      (Unsettled.ofJson? (.obj
          [("+f", .obj [("kind", .str "pending_unknown")]),
            ("0f", .obj [("kind", .str "pending_acknowledged")])])).map SortedMap.size =
        some 1 := by
  refine ⟨fun only => ?_, fun lowers => ?_, fun only => ?_, by decide +kernel⟩
  · obtain ⟨-, areDigits⟩ := (only "+f").1 (by decide +kernel)
    exact Text.not_isHexDigit_plus (areDigits '+' (by simp))
  · exact absurd (lowers "+f" ⟨[15]⟩ (by decide +kernel)) (by decide +kernel)
  · exact absurd (only "+f" "0f" (by decide +kernel) (by decide +kernel)) (by decide +kernel)

end Tag

end Reattach
