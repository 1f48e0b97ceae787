import Mathlib.Data.List.Basic
import Reattach.Identifier
import Std.Data.String.ToNat

/-!
# Storage keys keep termini apart

A text led by its length in bytes is a prefix code: its end is known from its front.
The storage key of an identifier is put together from such texts, so its parts can be
read off, and identifiers with one storage key have one key.
-/

namespace Reattach.Identifier

theorem eq_of_append_eq {left right leftRest rightRest : String}
    (sameSize : left.utf8ByteSize = right.utf8ByteSize)
    (same : left ++ leftRest = right ++ rightRest) : left = right := by
  have sameChars : left.toList ++ leftRest.toList = right.toList ++ rightRest.toList := by
    rw [← String.toList_append, ← String.toList_append, same]
  -- One of the two begins the other, and the rest has no size.
  have eq_of_longer {short long : String} {more : List Char}
      (size : short.utf8ByteSize = long.utf8ByteSize)
      (longer : long.toList = short.toList ++ more) : short = long := by
    have split : long = short ++ String.ofList more := by
      rw [← String.toList_inj, longer, String.toList_append, String.toList_ofList]
    have noSize : (String.ofList more).utf8ByteSize = 0 := by
      rw [split, String.utf8ByteSize_append] at size
      omega
    rw [split, String.utf8ByteSize_eq_zero_iff.1 noSize, String.append_empty]
  rcases List.append_eq_append_iff.1 sameChars with ⟨more, longer, _⟩ | ⟨more, longer, _⟩
  · exact eq_of_longer sameSize longer
  · exact (eq_of_longer sameSize.symm longer).symm

theorem isDigit_of_mem_toString {number : Nat} {char : Char}
    (member : char ∈ (toString number).toList) : char.isDigit = true := by
  rw [Nat.toString_eq_repr, Nat.toList_repr] at member
  exact Nat.isDigit_of_mem_toDigits (by decide) (by decide) member

theorem colon_notMem_toString (number : Nat) : ':' ∉ (toString number).toList := by
  intro member
  exact absurd (isDigit_of_mem_toString member) (by decide)

/-- A list is cut in one way only at the first place of an element. -/
theorem append_cons_inj {front other rest otherRest : List Char} {mark : Char}
    (notInFront : mark ∉ front) (notInOther : mark ∉ other)
    (same : front ++ mark :: rest = other ++ mark :: otherRest) :
    front = other ∧ rest = otherRest := by
  rcases List.append_eq_append_iff.1 same with ⟨more, longer, cut⟩ | ⟨more, longer, cut⟩
  · cases more with
    | nil => simpa [longer] using cut
    | cons head more =>
        obtain ⟨rfl, -⟩ := List.cons.inj cut
        exact absurd (longer ▸ by simp) notInOther
  · cases more with
    | nil => simpa [longer, eq_comm] using cut
    | cons head more =>
        obtain ⟨rfl, -⟩ := List.cons.inj cut
        exact absurd (longer ▸ by simp) notInFront

/-- Where a length-prefixed text ends is known from its front. -/
theorem lengthPrefixed_append_inj {left right leftRest rightRest : String}
    (same : lengthPrefixed left ++ leftRest = lengthPrefixed right ++ rightRest) :
    left = right ∧ leftRest = rightRest := by
  have sameChars := congrArg String.toList same
  simp only [lengthPrefixed, String.toList_append, List.append_assoc,
    show ":".toList = [':'] from rfl, List.cons_append, List.nil_append] at sameChars
  obtain ⟨digits, texts⟩ := append_cons_inj (colon_notMem_toString _)
    (colon_notMem_toString _) sameChars
  have sameSize : left.utf8ByteSize = right.utf8ByteSize := by
    rw [String.toList_inj, Nat.toString_eq_repr, Nat.toString_eq_repr] at digits
    exact Nat.repr_inj.1 digits
  have sameTexts : left ++ leftRest = right ++ rightRest := by
    rw [← String.toList_inj, String.toList_append, String.toList_append, texts]
  have sameText := eq_of_append_eq sameSize sameTexts
  subst sameText
  exact ⟨rfl, (String.append_right_inj left).1 sameTexts⟩

theorem dash_append_ne (text rest otherRest : String) :
    "-" ++ rest ≠ lengthPrefixed text ++ otherRest := by
  intro same
  have sameChars := congrArg String.toList same
  simp only [lengthPrefixed, String.toList_append, List.append_assoc,
    show ":".toList = [':'] from rfl, show "-".toList = ['-'] from rfl, List.cons_append,
    List.nil_append] at sameChars
  cases digits : (toString text.utf8ByteSize).toList with
  | nil =>
      rw [digits, List.nil_append] at sameChars
      exact absurd (List.cons.inj sameChars).1 (by decide)
  | cons digit _ =>
      rw [digits, List.cons_append] at sameChars
      have isDigit : digit.isDigit = true :=
        isDigit_of_mem_toString (digits ▸ List.mem_cons_self)
      rw [← (List.cons.inj sameChars).1] at isDigit
      exact absurd isDigit (by decide)

/-- Where the name of a role ends is known by the slash behind it. -/
theorem roleName_append_inj {left right : Role} {leftRest rightRest : String}
    (same : left.name ++ ("/" ++ leftRest) = right.name ++ ("/" ++ rightRest)) :
    left = right ∧ leftRest = rightRest := by
  have sameChars := congrArg String.toList same
  simp only [String.toList_append, show "/".toList = ['/'] from rfl, List.cons_append,
    List.nil_append] at sameChars
  have noSlash (role : Role) : '/' ∉ role.name.toList := by cases role <;> decide
  obtain ⟨names, rests⟩ := append_cons_inj (noSlash left) (noSlash right) sameChars
  refine ⟨?_, String.toList_inj.1 rests⟩
  cases left with
  | sender => cases right with
      | sender => rfl
      | receiver => exact absurd names (by decide)
  | receiver => cases right with
      | sender => exact absurd names (by decide)
      | receiver => rfl

/-- Identifiers with one storage key are those of one terminus. -/
theorem key_eq_of_storageKey_eq {left right : Identifier}
    (same : left.storageKey = right.storageKey) : left.key = right.key := by
  obtain ⟨leftName, leftRole, leftContainer, _⟩ := left
  obtain ⟨rightName, rightRole, rightContainer, _⟩ := right
  simp only [storageKey, String.append_assoc] at same
  obtain ⟨rfl, afterRole⟩ := roleName_append_inj same
  have names {leftText rightText : String}
      (texts : lengthPrefixed (Text.folded leftText) = lengthPrefixed (Text.folded rightText)) :
      Text.fold leftText = Text.fold rightText :=
    String.ofList_injective (lengthPrefixed_append_inj (congrArg (· ++ "") texts)).1
  cases leftContainer with
  | none =>
      cases rightContainer with
      | none =>
          have afterDash := (String.append_right_inj _).1 afterRole
          have sameNames := names ((String.append_right_inj _).1 afterDash)
          simp [key, sameNames]
      | some container => exact absurd afterRole (dash_append_ne _ _ _)
  | some leftText =>
      cases rightContainer with
      | none => exact absurd afterRole.symm (dash_append_ne _ _ _)
      | some rightText =>
          obtain ⟨containers, afterContainer⟩ := lengthPrefixed_append_inj afterRole
          have sameContainers : Text.fold leftText = Text.fold rightText :=
            String.ofList_injective containers
          have sameNames := names ((String.append_right_inj _).1 afterContainer)
          simp [key, sameNames, sameContainers]

/-- A storage key is the same for all spellings of an identifier, and for no other. -/
theorem storageKey_eq_iff {left right : Identifier} :
    left.storageKey = right.storageKey ↔ left.key = right.key := by
  refine ⟨key_eq_of_storageKey_eq, fun same => ?_⟩
  obtain ⟨leftName, leftRole, leftContainer, _⟩ := left
  obtain ⟨rightName, rightRole, rightContainer, _⟩ := right
  simp only [key, Key.mk.injEq] at same
  obtain ⟨names, containers, rfl⟩ := same
  have sameContainer : leftContainer.map Text.folded = rightContainer.map Text.folded := by
    have mapped := congrArg (Option.map String.ofList) containers
    rw [Option.map_map, Option.map_map] at mapped
    exact mapped
  cases leftContainer with
  | none =>
      cases rightContainer with
      | none => simp only [storageKey, Text.folded, names]
      | some _ => cases sameContainer
  | some leftText =>
      cases rightContainer with
      | none => cases sameContainer
      | some rightText =>
          have sameText : Text.folded leftText = Text.folded rightText :=
            Option.some.inj sameContainer
          have sameName : Text.folded leftName = Text.folded rightName :=
            congrArg String.ofList names
          simp only [storageKey, sameText, sameName]

/-- Storage keys tell termini apart as the comparison of identifiers does.  The comparison
is an equivalence, and a hash table is fed the same for what it holds to be one. -/
theorem storage_key_iff_same :
    (∀ left right : Identifier,
      left.storageKey = right.storageKey ↔ (left == right) = true) ∧
      Equivalence (fun left right : Identifier => (left == right) = true) ∧
      ∀ left right : Identifier,
        (left == right) = true → left.hashInput = right.hashInput := by
  refine ⟨fun left right => ?_, ⟨fun _ => BEq.rfl, BEq.symm, BEq.trans⟩,
    fun left right equal => ?_⟩
  · rw [storageKey_eq_iff, beq_iff_key_eq]
  · exact hashInput_eq_of_key_eq ((beq_iff_key_eq left right).1 equal)

/-- Names may grow when they are folded, and may look like parts of a key: one terminus in
two spellings, and three that differ in an absent container, an empty one and a dash. -/
theorem storage_key_iff_same_sample :
    let dotted : Identifier := ⟨"\u0130/1:", .sender, some "A-", by decide⟩
    let spelled : Identifier := ⟨"i\u0307/1:", .sender, some "a-", by decide⟩
    let contained (container : Option String) : Identifier :=
      ⟨"-/1:q", .receiver, container, by decide⟩
    (dotted.storageKey = spelled.storageKey ∧ dotted.hashInput = spelled.hashInput) ∧
      (contained none).storageKey ≠ (contained (some "")).storageKey ∧
      (contained none).storageKey ≠ (contained (some "-")).storageKey ∧
      (contained (some "")).storageKey ≠ (contained (some "-")).storageKey := by
  intro dotted spelled contained
  obtain ⟨exact, -, fed⟩ := storage_key_iff_same
  have spellings : (dotted == spelled) = true := by decide +kernel
  exact ⟨⟨(exact _ _).2 spellings, fed _ _ spellings⟩,
    fun same => absurd ((exact _ _).1 same) (by decide +kernel),
    fun same => absurd ((exact _ _).1 same) (by decide +kernel),
    fun same => absurd ((exact _ _).1 same) (by decide +kernel)⟩

end Reattach.Identifier
