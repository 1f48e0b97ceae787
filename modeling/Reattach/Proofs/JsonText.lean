import Reattach.Json.Printer
import Reattach.Json.Reader
import Reattach.Proofs.StorageKey

/-!
# What is written is read back

A value that stands for something, whose numbers fit sixty-four bits and whose nesting is not
too deep, is read from the line it is written as.  The reader takes the text of a value off
the front of whatever follows it, so the statement is about a text and what follows: a comma or
a closing bracket, or nothing.
-/

namespace Reattach.Json

open Reader

/-! ## What can be read back -/

mutual

/-- Whether a value is sound, its numbers are whole and fit sixty-four bits, and so much room is
enough for its arrays and objects. -/
def fits (room : Nat) : Json → Bool
  | .null => true
  | .bool _ => true
  | .int value => -(UInt64.size / 2 : Nat) ≤ value && value < UInt64.size
  | .fractional _ => false
  | .str _ => true
  | .arr items => 0 < room && itemsFit (room - 1) items
  | .obj members => 0 < room && membersFit (room - 1) members
  | .unsound => false

def itemsFit (room : Nat) : List Json → Bool
  | [] => true
  | item :: rest => fits room item && itemsFit room rest

def membersFit (room : Nat) : List (String × Json) → Bool
  | [] => true
  | (_, value) :: rest => fits room value && membersFit room rest

end

theorem membersFit_iff {room : Nat} {members : List (String × Json)} :
    membersFit room members = true ↔ ∀ member ∈ members, member.2.fits room = true := by
  induction members with
  | nil => simp [membersFit]
  | cons member rest ih => simp [membersFit, ih]

mutual

/-- What can be read back is sound. -/
theorem isSound_of_fits : ∀ {room : Nat} {value : Json}, value.fits room = true →
    value.isSound = true
  | _, .null, _ => rfl
  | _, .bool _, _ => rfl
  | _, .int _, _ => rfl
  | _, .str _, _ => rfl
  | _, .arr _, fit => by
      simp only [fits, Bool.and_eq_true] at fit
      exact areSound_of_itemsFit fit.2
  | _, .obj _, fit => by
      simp only [fits, Bool.and_eq_true] at fit
      exact haveSoundValues_of_membersFit fit.2

theorem areSound_of_itemsFit : ∀ {room : Nat} {items : List Json},
    itemsFit room items = true → areSound items = true
  | _, [], _ => rfl
  | _, _ :: _, fit => by
      simp only [itemsFit, Bool.and_eq_true] at fit
      simp only [areSound, isSound_of_fits fit.1, areSound_of_itemsFit fit.2, Bool.and_self]

theorem haveSoundValues_of_membersFit : ∀ {room : Nat} {members : List (String × Json)},
    membersFit room members = true → haveSoundValues members = true
  | _, [], _ => rfl
  | _, (_, _) :: _, fit => by
      simp only [membersFit, Bool.and_eq_true] at fit
      simp only [haveSoundValues, isSound_of_fits fit.1, haveSoundValues_of_membersFit fit.2,
        Bool.and_self]

end

/-- That a text is at its end or goes on with a mark that ends a value. -/
def EndsValue (text : List Char) : Prop :=
  text = [] ∨ ∃ mark rest, text = mark :: rest ∧ (mark = ',' ∨ mark = ']' ∨ mark = '\x7d')

/-! ## Strings -/

/-- What a text is written as after the opening quote. -/
def stringBody (text : String) : List Char :=
  (text.toList.flatMap fun char => (escapedChar char).toList) ++ ['"']

theorem toList_string (text : String) : (string text).toList = '"' :: stringBody text := by
  simp [string, stringBody, String.toList_append, String.toList_join, List.flatMap_map]

theorem unicodeEscape?_hexPair {char : Char} (isControl : char.toNat < 0x20) (rest : List Char) :
    unicodeEscape? ('0' :: '0' :: (Text.hexPair char.toNat.toUInt8 ++ rest)) =
      some (some char, rest) := by
  have size : char.toNat.toUInt8.toNat = char.toNat :=
    UInt8.toNat_ofNat_of_lt (by simp only [UInt8.size]; omega)
  have high : char.toNat / 16 < 16 := by omega
  have low : char.toNat % 16 < 16 := by omega
  have value : ((0 * 16 + 0) * 16 + char.toNat / 16) * 16 + char.toNat % 16 = char.toNat := by
    omega
  have unit : codeUnit? ('0' :: '0' :: (Text.hexPair char.toNat.toUInt8 ++ rest)) =
      some (char.toNat, rest) := by
    simp only [codeUnit?, Text.hexPair, size, List.cons_append, List.nil_append,
      Text.hexValue?_hexDigit high, Text.hexValue?_hexDigit low,
      show Text.hexValue? '0' = some 0 from rfl, Option.bind_eq_bind, Option.bind_some, value]
  have notHigh : ¬(0xd800 ≤ char.toNat) := by omega
  have notLow : ¬(0xdc00 ≤ char.toNat) := by omega
  simp [unicodeEscape?, unit, notHigh, notLow, Char.ofNat_toNat]

/-- One step reads one character, however it is written. -/
theorem stringBody?_escapedChar (fuel : Nat) (read : List Char) (char : Char)
    (rest : List Char) :
    stringBody? (fuel + 1) (some read) ((escapedChar char).toList ++ rest) =
      stringBody? fuel (some (char :: read)) rest := by
  unfold escapedChar
  split
  · next isQuote => subst isQuote; rfl
  split
  · next isBackslash => subst isBackslash; rfl
  split
  · next isNewLine => subst isNewLine; rfl
  split
  · next isReturn => subst isReturn; rfl
  split
  · next isTab => subst isTab; rfl
  split
  · next isBackspace => subst isBackspace; rfl
  split
  · next isFormFeed => subst isFormFeed; rfl
  split
  · next isControl =>
      simp [stringBody?, escape?, unicodeEscape?_hexPair isControl]
  · next notQuote notBackslash _ _ _ _ _ notControl =>
      simp [stringBody?, notQuote, notBackslash, notControl]

/-- Fuel for every character is enough to read a string. -/
theorem stringBody?_flatMap_escapedChar (chars read : List Char) (rest : List Char)
    {fuel : Nat} (enough : chars.length < fuel) :
    stringBody? fuel (some read)
        ((chars.flatMap fun char => (escapedChar char).toList) ++ '"' :: rest) =
      some (some (chars.reverse ++ read), rest) := by
  induction chars generalizing read fuel with
  | nil =>
      obtain ⟨fuel, rfl⟩ := Nat.exists_eq_add_of_lt enough
      simp [stringBody?]
  | cons char chars ih =>
      obtain ⟨fuel, rfl⟩ := Nat.exists_eq_add_of_lt enough
      rw [List.flatMap_cons, List.append_assoc, stringBody?_escapedChar, ih]
      · rw [List.reverse_cons, List.append_assoc, List.singleton_append]
      · simp only [List.length_cons]
        omega

theorem length_le_length_flatMap_escapedChar (chars : List Char) :
    chars.length ≤ (chars.flatMap fun char => (escapedChar char).toList).length := by
  have isWritten (char : Char) : 0 < (escapedChar char).toList.length := by
    unfold escapedChar
    repeat' split
    all_goals simp
  induction chars with
  | nil => exact Nat.le_refl _
  | cons char chars ih =>
      rw [List.flatMap_cons, List.length_append, List.length_cons]
      have := isWritten char
      omega

theorem string?_stringBody (fuel : Nat) (text : String) (rest : List Char)
    (enough : (stringBody text).length ≤ fuel) :
    string? fuel (stringBody text ++ rest) = some (some text, rest) := by
  have written := length_le_length_flatMap_escapedChar text.toList
  simp only [stringBody, List.length_append, List.length_cons, List.length_nil] at enough
  rw [string?, stringBody, List.append_assoc, List.singleton_append,
    stringBody?_flatMap_escapedChar _ _ _ (by omega)]
  simp

/-! ## Numbers -/

theorem exists_toDigits_eq_cons {number : Nat} (isPositive : 0 < number) :
    ∃ digit digits, Nat.toDigits 10 number = digit :: digits ∧ digit ≠ '0' := by
  induction number using Nat.strongRecOn with
  | ind number ih =>
      rw [Nat.toDigits_eq_if (by decide)]
      split
      · next isSmall =>
          refine ⟨_, [], rfl, ?_⟩
          have onDigits : ∀ value < 10, 0 < value → Nat.digitChar value ≠ '0' := by decide
          exact onDigits number isSmall isPositive
      · obtain ⟨digit, digits, written, notZero⟩ := ih (number / 10) (by omega) (by omega)
        exact ⟨digit, _, by rw [written]; rfl, notZero⟩

theorem isDigit_of_mem_toDigits {number : Nat} {char : Char}
    (member : char ∈ Nat.toDigits 10 number) : char.isDigit = true :=
  Nat.isDigit_of_mem_toDigits (by decide) (by decide) member

theorem EndsValue.head {rest : List Char} (ends : EndsValue rest) :
    rest.takeWhile Char.isDigit = [] ∧ rest.dropWhile Char.isDigit = rest ∧
      fraction? rest = some ([], rest) ∧ exponent? rest = some ([], rest) := by
  rcases ends with rfl | ⟨mark, rest, rfl, rfl | rfl | rfl⟩
  · exact ⟨rfl, rfl, rfl, rfl⟩
  all_goals exact ⟨rfl, rfl, by rfl, rfl⟩

theorem wholeDigits?_toDigits (number : Nat) {rest : List Char} (ends : EndsValue rest) :
    wholeDigits? (Nat.toDigits 10 number ++ rest) = some (Nat.toDigits 10 number, rest) := by
  have areDigits : ∀ char ∈ Nat.toDigits 10 number, char.isDigit = true :=
    fun _ => isDigit_of_mem_toDigits
  obtain ⟨noDigits, allRest, -, -⟩ := ends.head
  rw [wholeDigits?, List.takeWhile_append_of_pos areDigits,
    List.dropWhile_append_of_pos areDigits, noDigits, allRest, List.append_nil]
  rcases Nat.eq_zero_or_pos number with rfl | isPositive
  · rfl
  · obtain ⟨digit, digits, written, notZero⟩ := exists_toDigits_eq_cons isPositive
    rw [written]
    split
    · next isNil => cases isNil
    · next isZero => exact absurd (List.cons.inj isZero).1 notZero
    · rfl

theorem natOfDigits_toDigits (number : Nat) :
    Text.natOfDigits (Nat.toDigits 10 number) = number :=
  Nat.ofDigitChars_toDigits (by decide) (by decide)

theorem whole?_of_nonneg {number : Nat} (below : number < UInt64.size) :
    whole? false number = some (number : Int) := by
  rw [whole?, if_neg Bool.false_ne_true, if_pos below]

theorem whole?_of_neg {number : Nat} (isPositive : 0 < number)
    (below : number ≤ UInt64.size / 2) : whole? true number = some (-(number : Int)) := by
  have inRange : ¬(number = 0 ∨ number > UInt64.size / 2) := by omega
  rw [whole?, if_pos rfl, if_neg (by simpa using inRange)]

/-- A whole number of sixty-four bits is read back. -/
theorem number?_toString {value : Int} (above : -(UInt64.size / 2 : Nat) ≤ value)
    (below : value < UInt64.size) {rest : List Char} (ends : EndsValue rest) :
    number? ((toString value).toList ++ rest) = some (.int value, rest) := by
  obtain ⟨-, -, noFraction, noExponent⟩ := ends.head
  cases value with
  | ofNat number =>
      have written : (toString (Int.ofNat number)).toList = Nat.toDigits 10 number :=
        Nat.toList_repr
      have digits := wholeDigits?_toDigits number ends
      -- The digits are no sign, so the whole text is read as digits.
      have noSign : ∀ after, Nat.toDigits 10 number ++ rest ≠ '-' :: after := by
        intro after same
        rw [same] at digits
        cases digits
      have value : whole? false number = some (number : Int) :=
        whole?_of_nonneg (Int.ofNat_lt.1 below)
      rw [written]
      simp [number?, digits, noFraction, noExponent, natOfDigits_toDigits, value]
  | negSucc number =>
      have written : (toString (Int.negSucc number)).toList =
          '-' :: Nat.toDigits 10 (number + 1) := by
        change ("-" ++ Nat.repr (number + 1)).toList = _
        rw [String.toList_append, Nat.toList_repr]
        rfl
      have digits := wholeDigits?_toDigits (number + 1) ends
      have value : whole? true (number + 1) = some (Int.negSucc number) :=
        whole?_of_neg (Nat.succ_pos number) (by omega)
      rw [written]
      simp [number?, digits, noFraction, noExponent, natOfDigits_toDigits, value]

/-! ## Values -/

theorem exists_toString_eq_cons (value : Int) :
    ∃ char rest, (toString value).toList = char :: rest ∧ (char = '-' ∨ char.isDigit = true) := by
  cases value with
  | ofNat number =>
      have written : (toString (Int.ofNat number)).toList = Nat.toDigits 10 number :=
        Nat.toList_repr
      cases digits : Nat.toDigits 10 number with
      | nil => exact absurd digits Nat.toDigits_ne_nil
      | cons digit rest =>
          exact ⟨digit, rest, written.trans digits,
            .inr (isDigit_of_mem_toDigits (digits ▸ List.mem_cons_self))⟩
  | negSucc number =>
      refine ⟨'-', Nat.toDigits 10 (number + 1), ?_, .inl rfl⟩
      change ("-" ++ Nat.repr (number + 1)).toList = _
      rw [String.toList_append, Nat.toList_repr]
      rfl

theorem mem_of_beginsNumber {char : Char} (begins : char = '-' ∨ char.isDigit = true) :
    char ∈ ['-', '0', '1', '2', '3', '4', '5', '6', '7', '8', '9'] := by
  rcases begins with rfl | isDigit
  · exact List.mem_cons_self
  · have below : char.toNat < 0x3a := by
      simp only [Char.isDigit, Bool.and_eq_true, decide_eq_true_eq] at isDigit
      exact Nat.lt_succ_of_le isDigit.2
    have onDigits : ∀ code < 0x3a, (Char.ofNat code).isDigit = true → Char.ofNat code ∈
        ['-', '0', '1', '2', '3', '4', '5', '6', '7', '8', '9'] := by decide
    have atChar := onDigits char.toNat below
    rw [Char.ofNat_toNat] at atChar
    exact atChar isDigit

section Dispatch

variable (room fuel : Nat) (rest : List Char)

theorem value?_quote : value? room (fuel + 1) ('"' :: rest) =
    (string? fuel rest).map fun (text, rest) => (ofText text, rest) := rfl

theorem value?_bracket : value? room (fuel + 1) ('[' :: rest) =
    match skipBlanks rest with
    | ']' :: rest => some (ofItems room [], rest)
    | rest => (items? (room - 1) fuel rest).map fun (items, rest) => (ofItems room items, rest) :=
  rfl

theorem value?_brace : value? room (fuel + 1) ('\x7b' :: rest) =
    match skipBlanks rest with
    | '\x7d' :: rest => some (ofMembers room (some []), rest)
    | rest =>
        (members? (room - 1) fuel rest).map fun (members, rest) =>
          (ofMembers room members, rest) := rfl

theorem value?_number {char : Char} (begins : char = '-' ∨ char.isDigit = true) :
    value? room (fuel + 1) (char :: rest) = number? (char :: rest) := by
  have member := mem_of_beginsNumber begins
  simp only [List.mem_cons, List.not_mem_nil, or_false] at member
  rcases member with rfl | rfl | rfl | rfl | rfl | rfl | rfl | rfl | rfl | rfl | rfl
  all_goals rfl

end Dispatch

section Written

theorem toList_compact_arr (items : List Json) :
    (compact (.arr items)).toList = '[' :: ((compactItems items).toList ++ [']']) := by
  rw [compact, String.toList_append, String.toList_append]
  rfl

theorem toList_compact_obj (members : List (String × Json)) :
    (compact (.obj members)).toList = '\x7b' :: ((compactMembers members).toList ++ ['\x7d']) := by
  rw [compact, String.toList_append, String.toList_append]
  rfl

/-- A member as a list of characters. -/
def memberChars (name : String) (value : Json) : List Char :=
  '"' :: (stringBody name ++ ':' :: value.compact.toList)

theorem toList_compactItems_cons_cons (item next : Json) (rest : List Json) :
    (compactItems (item :: next :: rest)).toList =
      item.compact.toList ++ ',' :: (compactItems (next :: rest)).toList := by
  rw [compactItems, String.toList_append, String.toList_append, List.append_assoc]
  rfl

theorem toList_compactMembers_singleton (name : String) (value : Json) :
    (compactMembers [(name, value)]).toList = memberChars name value := by
  rw [compactMembers, String.toList_append, String.toList_append, toList_string, memberChars,
    List.append_assoc]
  rfl

theorem toList_compactMembers_cons_cons (name : String) (value : Json) (next : String × Json)
    (rest : List (String × Json)) :
    (compactMembers ((name, value) :: next :: rest)).toList =
      memberChars name value ++ ',' :: (compactMembers (next :: rest)).toList := by
  rw [compactMembers]
  simp only [String.toList_append, toList_string, memberChars, List.append_assoc,
    List.cons_append]
  rfl

end Written

theorem isBlank_of_isDigit {char : Char} (isDigit : char.isDigit = true) :
    isBlank char = false := by
  rw [← Bool.not_eq_true]
  intro blank
  simp only [isBlank, Bool.or_eq_true, decide_eq_true_eq] at blank
  rcases blank with ((rfl | rfl) | rfl) | rfl <;> cases isDigit

/-- A value begins with no blank and no closing bracket. -/
theorem exists_compact_eq_cons {room : Nat} {value : Json} (fit : value.fits room = true) :
    ∃ char rest, value.compact.toList = char :: rest ∧ isBlank char = false ∧ char ≠ ']' := by
  cases value with
  | null => exact ⟨'n', _, rfl, by decide⟩
  | bool value => cases value <;> exact ⟨_, _, rfl, by decide⟩
  | int value =>
      obtain ⟨char, rest, written, begins⟩ := exists_toString_eq_cons value
      refine ⟨char, rest, written, ?_⟩
      rcases begins with rfl | isDigit
      · decide
      · exact ⟨isBlank_of_isDigit isDigit, fun isClosing => by subst isClosing; cases isDigit⟩
  | fractional text => cases fit
  | str text => exact ⟨'"', _, toList_string text, by decide⟩
  | arr items => exact ⟨'[', _, toList_compact_arr items, by decide⟩
  | obj members => exact ⟨'\x7b', _, toList_compact_obj members, by decide⟩
  | unsound => cases fit

theorem exists_compactItems_eq_cons {room : Nat} {item : Json} {items : List Json}
    (fit : itemsFit room (item :: items) = true) :
    ∃ char rest, (compactItems (item :: items)).toList = char :: rest ∧
      isBlank char = false ∧ char ≠ ']' := by
  simp only [itemsFit, Bool.and_eq_true] at fit
  obtain ⟨char, rest, written, begins⟩ := exists_compact_eq_cons fit.1
  cases items with
  | nil => exact ⟨char, rest, written, begins⟩
  | cons next items =>
      exact ⟨char, _, by rw [toList_compactItems_cons_cons, written, List.cons_append], begins⟩

theorem skipBlanks_cons {char : Char} (notBlank : isBlank char = false) (rest : List Char) :
    skipBlanks (char :: rest) = char :: rest := by
  rw [skipBlanks, List.dropWhile_cons_of_neg (by simp [notBlank])]

/-- That so much fuel reads back whatever is written with half as many characters. -/
structure ReadsBack (fuel : Nat) : Prop where
  value : ∀ {room : Nat} {value : Json} (rest : List Char), value.fits room = true →
    EndsValue rest → 2 * value.compact.toList.length ≤ fuel →
    value? room fuel (value.compact.toList ++ rest) = some (value, rest)
  items : ∀ {room : Nat} {items : List Json} (rest : List Char), items ≠ [] →
    itemsFit room items = true → 2 * (compactItems items).toList.length < fuel →
    items? room fuel ((compactItems items).toList ++ ']' :: rest) = some (items, rest)
  members : ∀ {room : Nat} {members : List (String × Json)} (rest : List Char), members ≠ [] →
    membersFit room members = true → 2 * (compactMembers members).toList.length < fuel →
    members? room fuel ((compactMembers members).toList ++ '\x7d' :: rest) =
      some (some members, rest)

namespace ReadsBack

variable {fuel room : Nat} {value : Json} (rest : List Char)

/-- Arrays are read back if their items are. -/
theorem arr (reads : ReadsBack fuel) {items : List Json}
    (fit : fits room (.arr items) = true)
    (enough : 2 * (compact (.arr items)).toList.length ≤ fuel + 1) :
    value? room (fuel + 1) ((compact (.arr items)).toList ++ rest) = some (.arr items, rest) := by
  simp only [fits, Bool.and_eq_true, decide_eq_true_eq] at fit
  obtain ⟨hasRoom, itemsFit⟩ := fit
  have isArr : ofItems room items = .arr items := if_neg (Nat.ne_of_gt hasRoom)
  rw [toList_compact_arr] at enough ⊢
  rw [List.cons_append, value?_bracket, List.append_assoc, List.singleton_append]
  cases items with
  | nil => rw [← isArr]; rfl
  | cons item items =>
      have read := reads.items rest (List.cons_ne_nil item items) itemsFit
        (by simp only [List.length_cons, List.length_append] at enough; omega)
      obtain ⟨char, more, written, notBlank, notClosing⟩ := exists_compactItems_eq_cons itemsFit
      rw [written, List.cons_append] at read ⊢
      rw [skipBlanks_cons notBlank]
      split
      · next closes => exact absurd (List.cons.inj closes).1 notClosing
      · rw [read]
        exact congrArg (fun array => some (array, rest)) isArr

/-- Objects are read back if their members are. -/
theorem obj (reads : ReadsBack fuel) {members : List (String × Json)}
    (fit : fits room (.obj members) = true)
    (enough : 2 * (compact (.obj members)).toList.length ≤ fuel + 1) :
    value? room (fuel + 1) ((compact (.obj members)).toList ++ rest) =
      some (.obj members, rest) := by
  simp only [fits, Bool.and_eq_true, decide_eq_true_eq] at fit
  obtain ⟨hasRoom, membersFit⟩ := fit
  have isObj : ofMembers room (some members) = .obj members := if_neg (Nat.ne_of_gt hasRoom)
  rw [toList_compact_obj] at enough ⊢
  rw [List.cons_append, value?_brace, List.append_assoc, List.singleton_append]
  cases members with
  | nil => rw [← isObj]; rfl
  | cons member members =>
      obtain ⟨name, value⟩ := member
      have read := reads.members rest (List.cons_ne_nil _ _) membersFit
        (by simp only [List.length_cons, List.length_append] at enough; omega)
      obtain ⟨more, written⟩ : ∃ more,
          (compactMembers ((name, value) :: members)).toList = '"' :: more := by
        cases members with
        | nil => exact ⟨_, toList_compactMembers_singleton name value⟩
        | cons next members => exact ⟨_, toList_compactMembers_cons_cons name value next members⟩
      rw [written, List.cons_append] at read ⊢
      rw [skipBlanks_cons (by decide)]
      split
      · next closes => exact absurd (List.cons.inj closes).1 (by decide)
      · rw [read]
        exact congrArg (fun object => some (object, rest)) isObj

/-- One more step of fuel reads back values. -/
theorem value_succ (reads : ReadsBack fuel) (fit : value.fits room = true)
    (ends : EndsValue rest) (enough : 2 * value.compact.toList.length ≤ fuel + 1) :
    value? room (fuel + 1) (value.compact.toList ++ rest) = some (value, rest) := by
  cases value with
  | null => rfl
  | bool value => cases value <;> rfl
  | int value =>
      simp only [fits, Bool.and_eq_true, decide_eq_true_eq] at fit
      have read := number?_toString fit.1 fit.2 ends
      obtain ⟨char, more, written, begins⟩ := exists_toString_eq_cons value
      rw [compact]
      rw [written, List.cons_append] at read ⊢
      rw [value?_number _ _ _ begins, read]
  | fractional text => cases fit
  | str text =>
      rw [compact, toList_string] at enough ⊢
      rw [List.cons_append, value?_quote, string?_stringBody fuel text rest
        (by simp only [List.length_cons] at enough; omega)]
      rfl
  | arr items => exact reads.arr rest fit enough
  | obj members => exact reads.obj rest fit enough
  | unsound => cases fit

/-- One more step of fuel reads back items, the first of them as a value. -/
theorem items_succ (reads : ReadsBack fuel) {items : List Json} (notEmpty : items ≠ [])
    (fit : itemsFit room items = true)
    (enough : 2 * (compactItems items).toList.length < fuel + 1) :
    items? room (fuel + 1) ((compactItems items).toList ++ ']' :: rest) = some (items, rest) := by
  cases items with
  | nil => exact absurd rfl notEmpty
  | cons item items =>
      simp only [itemsFit, Bool.and_eq_true] at fit
      cases items with
      | nil =>
          have read := reads.value (']' :: rest) fit.1
            (.inr ⟨_, _, rfl, .inr (.inl rfl)⟩) (by rw [compactItems] at enough; omega)
          rw [compactItems, items?, read]
          rfl
      | cons next items =>
          rw [toList_compactItems_cons_cons] at enough ⊢
          simp only [List.length_append, List.length_cons] at enough
          have read := reads.value
            (',' :: ((compactItems (next :: items)).toList ++ ']' :: rest)) fit.1
            (.inr ⟨_, _, rfl, .inl rfl⟩) (by omega)
          have readRest := reads.items rest (List.cons_ne_nil next items) fit.2 (by omega)
          rw [List.append_assoc, List.cons_append, items?, read]
          simp [skipBlanks_cons (show isBlank ',' = false by decide), readRest]

/-- One more step of fuel reads back members, the name of the first as a string and what it
names as a value. -/
theorem members_succ (reads : ReadsBack fuel) {members : List (String × Json)}
    (notEmpty : members ≠ []) (fit : membersFit room members = true)
    (enough : 2 * (compactMembers members).toList.length < fuel + 1) :
    members? room (fuel + 1) ((compactMembers members).toList ++ '\x7d' :: rest) =
      some (some members, rest) := by
  cases members with
  | nil => exact absurd rfl notEmpty
  | cons member members =>
      obtain ⟨name, value⟩ := member
      simp only [membersFit, Bool.and_eq_true] at fit
      cases members with
      | nil =>
          rw [toList_compactMembers_singleton, memberChars] at enough ⊢
          simp only [List.length_append, List.length_cons] at enough
          have readName := string?_stringBody fuel name
            (':' :: (value.compact.toList ++ '\x7d' :: rest)) (by omega)
          have read := reads.value ('\x7d' :: rest) fit.1
            (.inr ⟨_, _, rfl, .inr (.inr rfl)⟩) (by omega)
          simp [members?, skipBlanks_cons, isBlank, expect?, readName, read, addMember]
      | cons next members =>
          rw [toList_compactMembers_cons_cons, memberChars] at enough ⊢
          simp only [List.length_append, List.length_cons] at enough
          have readName := string?_stringBody fuel name (':' :: (value.compact.toList ++
            ',' :: ((compactMembers (next :: members)).toList ++ '\x7d' :: rest))) (by omega)
          have read := reads.value
            (',' :: ((compactMembers (next :: members)).toList ++ '\x7d' :: rest)) fit.1
            (.inr ⟨_, _, rfl, .inl rfl⟩) (by omega)
          have readRest := reads.members rest (List.cons_ne_nil next members) fit.2 (by omega)
          simp [members?, skipBlanks_cons, isBlank, expect?, readName, read, readRest, addMember]

end ReadsBack

/-- Fuel reads back what it is enough for.  The induction is on the fuel, as the reader goes. -/
theorem readsBack (fuel : Nat) : ReadsBack fuel := by
  induction fuel with
  | zero =>
      refine ⟨fun _ fit _ enough => ?_, fun _ _ _ enough => ?_, fun _ _ _ enough => ?_⟩
      · obtain ⟨char, rest, written, -⟩ := exists_compact_eq_cons fit
        rw [written, List.length_cons] at enough
        omega
      · exact absurd enough (Nat.not_lt_zero _)
      · exact absurd enough (Nat.not_lt_zero _)
  | succ fuel ih => exact ⟨ih.value_succ, ih.items_succ, ih.members_succ⟩

/-- The line that a value is written as is read as that value. -/
theorem ofText?_compact {value : Json} (fit : value.fits maxNesting = true) :
    ofText? value.compact = some value := by
  have read := (readsBack (2 * value.compact.toList.length + 2)).value [] fit (.inl rfl)
    (by omega)
  rw [List.append_nil] at read
  rw [ofText?, read]
  rfl

end Reattach.Json
