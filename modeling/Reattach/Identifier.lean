import Reattach.Role
import Reattach.Text.LowerCase

/-!
# Identifiers of link termini

A terminus is known by the name of its link, the role it has and the container it
lives in.  Names and containers differ only in more than letter case.  Sameness is
given three ways, each for its own use: as a comparison (`same`), as a key that
tables are ordered by (`key`) and as a text under which records are stored
(`storageKey`).
-/

namespace Reattach

/-- The identity of a link terminus.  The name of a link is never empty. -/
structure Identifier where
  name : String
  role : Role
  container : Option String
  named : name ≠ ""

namespace Identifier

/-- The identifier of the terminus at the other end of the link, which lives in a
container of its own. -/
def peer (identifier : Identifier) (container : Option String) : Identifier :=
  { identifier with role := identifier.role.peer, container }

/-- An identifier as messages show it. -/
def display (identifier : Identifier) : String :=
  let link := identifier.name ++ "[" ++ identifier.role.name ++ "]"
  match identifier.container with
  | some container => container ++ "/" ++ link
  | none => link

/-! ## Sameness up to letter case -/

/-- Whether two containers are both absent or differ at most in letter case. -/
def sameContainer : Option String → Option String → Bool
  | some left, some right => Text.fold left == Text.fold right
  | none, none => true
  | _, _ => false

/-- Whether two identifiers are of the same terminus. -/
def same (left right : Identifier) : Bool :=
  left.role == right.role && Text.fold left.name == Text.fold right.name &&
    sameContainer left.container right.container

instance : BEq Identifier := ⟨same⟩

/-- What identifies a terminus, in one spelling. -/
structure Key where
  name : List Char
  container : Option (List Char)
  role : Role
  deriving DecidableEq

namespace Key

instance : Ord Key where
  compare := compareLex (compareOn name) (compareLex (compareOn container) (compareOn role))

instance : Std.TransOrd Key :=
  inferInstanceAs (Std.TransCmp (compareLex (compareOn name)
    (compareLex (compareOn container) (compareOn role))))

instance : Std.LawfulEqOrd Key where
  eq_of_compare := by
    intro left right order
    change compareLex (compareOn name) (compareLex (compareOn container) (compareOn role))
      left right = .eq at order
    rw [compareLex, Ordering.then_eq_eq, compareLex, Ordering.then_eq_eq] at order
    obtain ⟨names, containers, roles⟩ := order
    cases left
    cases right
    rw [Key.mk.injEq]
    exact ⟨Std.LawfulEqCmp.eq_of_compare names, Std.LawfulEqCmp.eq_of_compare containers,
      Std.LawfulEqCmp.eq_of_compare roles⟩

end Key

/-- The key of a terminus, alike for all spellings of its identifier. -/
def key (identifier : Identifier) : Key where
  name := Text.fold identifier.name
  container := identifier.container.map Text.fold
  role := identifier.role

/-- A text led by its length in bytes, so that where it ends is known. -/
def lengthPrefixed (text : String) : String := toString text.utf8ByteSize ++ ":" ++ text

/-- The text under which the records of a terminus are stored.  Lengths in front of both
names, and a dash for an absent container, keep different termini apart. -/
def storageKey (identifier : Identifier) : String :=
  let container :=
    match identifier.container with
    | some container => lengthPrefixed (Text.folded container)
    | none => "-"
  identifier.role.name ++ "/" ++ container ++ "/" ++
    lengthPrefixed (Text.folded identifier.name)

/-- One word that a hash table is fed. -/
inductive HashWord where
  | char (char : Char)
  | index (index : Nat)
  | byte (byte : UInt8)

instance : Hashable HashWord where
  hash
    | .char char => mixHash 0 (hash char.toNat)
    | .index index => mixHash 1 (hash index)
    | .byte byte => mixHash 2 (hash byte.toNat)

/-- What a hash table is fed for an identifier: the folded name, the role, and whether
there is a container, followed by it in folded form. -/
def hashInput (identifier : Identifier) : List HashWord :=
  (Text.fold identifier.name).map .char ++ .index identifier.role.index ::
    match identifier.container with
    | some container => .byte 1 :: (Text.fold container).map .char
    | none => [.byte 0]

instance : Hashable Identifier := ⟨fun identifier => hash identifier.hashInput⟩

theorem beq_iff_key_eq (left right : Identifier) :
    (left == right) = true ↔ left.key = right.key := by
  change same left right = true ↔ _
  obtain ⟨leftName, leftRole, leftContainer, _⟩ := left
  obtain ⟨rightName, rightRole, rightContainer, _⟩ := right
  cases leftContainer <;> cases rightContainer <;> simp [same, sameContainer, key] <;> grind

instance : EquivBEq Identifier where
  rfl := (beq_iff_key_eq _ _).2 rfl
  symm equal := (beq_iff_key_eq _ _).2 ((beq_iff_key_eq _ _).1 equal).symm
  trans first second :=
    (beq_iff_key_eq _ _).2 (((beq_iff_key_eq _ _).1 first).trans ((beq_iff_key_eq _ _).1 second))

/-- A hash table is fed the same for all spellings of an identifier. -/
theorem hashInput_eq_of_key_eq {left right : Identifier} (same : left.key = right.key) :
    left.hashInput = right.hashInput := by
  simp only [key, Key.mk.injEq] at same
  obtain ⟨names, containers, roles⟩ := same
  unfold hashInput
  rw [names, roles]
  cases leftContainer : left.container <;> cases rightContainer : right.container <;>
    simp_all

instance : LawfulHashable Identifier where
  hash_eq left right equal := by
    change hash left.hashInput = hash right.hashInput
    rw [hashInput_eq_of_key_eq ((beq_iff_key_eq left right).1 equal)]

end Identifier

end Reattach
