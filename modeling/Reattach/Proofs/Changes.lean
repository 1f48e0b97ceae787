import Mathlib.Logic.Relation
import Reattach.Proofs.Isolation
import Reattach.Proofs.Moves

/-!
# What an operation can do to a registry

Every operation that is done at once is a chain of a few kinds of change, listed in
`Registry.Change`; each kind says under which circumstances it occurs.  An invariant of
the registry, or a relation between the registry before an operation and after it, is
proved once for each kind and then holds of all operations.
-/

namespace Reattach

/-! ## Termini put in their place -/

/-- That one array of termini is another with one terminus put in, be it new or in the
place of another. -/
def Puts (before : Array Terminus) (id : TerminusId) (terminus : Terminus)
    (after : Array Terminus) : Prop :=
  ∀ other : TerminusId, after[other]? = if other = id then some terminus else before[other]?

namespace Puts

variable {before between after : Array Terminus} {id other : TerminusId}
variable {terminus later : Terminus}

theorem self (puts : Puts before id terminus after) : after[id]? = some terminus := by
  rw [puts id, if_pos rfl]

theorem of_ne (puts : Puts before id terminus after) (apart : other ≠ id) :
    after[other]? = before[other]? := by
  rw [puts other, if_neg apart]

theorem push (before : Array Terminus) (terminus : Terminus) :
    Puts before before.size terminus (before.push terminus) := by
  intro other
  exact Array.getElem?_push

theorem set (known : before[id]? = some later) (terminus : Terminus) :
    Puts before id terminus (before.setIfInBounds id terminus) := by
  intro other
  have inBounds : id < before.size := (Array.getElem?_eq_some_iff.1 known).1
  rw [Array.getElem?_setIfInBounds]
  by_cases same : other = id
  · rw [if_pos same.symm, if_pos inBounds, if_pos same]
  · rw [if_neg (Ne.symm same), if_neg same]

theorem refl (known : before[id]? = some terminus) : Puts before id terminus before := by
  intro other
  by_cases same : other = id
  · rw [if_pos same, same, known]
  · rw [if_neg same]

theorem trans (first : Puts before id terminus between) (second : Puts between id later after) :
    Puts before id later after := by
  intro other
  rw [second other, first other]
  split <;> rfl

end Puts

/-- That all termini of one array are still there in another, under their identifiers and in
no earlier epochs. -/
def Outlive (before after : Array Terminus) : Prop :=
  ∀ (id : TerminusId) (terminus : Terminus), before[id]? = some terminus →
    ∃ later, after[id]? = some later ∧ later.identifier = terminus.identifier ∧
      terminus.epoch ≤ later.epoch

namespace Outlive

variable {before between after : Array Terminus} {id : TerminusId} {terminus later : Terminus}

theorem refl (termini : Array Terminus) : Outlive termini termini := by
  intro id terminus known
  exact ⟨terminus, known, rfl, Nat.le_refl _⟩

theorem trans (first : Outlive before between) (second : Outlive between after) :
    Outlive before after := by
  intro id terminus known
  rcases first id terminus known with ⟨middle, there, sameOnce, grownOnce⟩
  rcases second id middle there with ⟨last, here, sameTwice, grownTwice⟩
  exact ⟨last, here, sameTwice.trans sameOnce, Nat.le_trans grownOnce grownTwice⟩

theorem of_puts (puts : Puts before id later after) (known : before[id]? = some terminus)
    (keeps : later.identifier = terminus.identifier ∧ terminus.epoch ≤ later.epoch) :
    Outlive before after := by
  intro other found present
  by_cases same : other = id
  · subst same
    rw [known] at present
    cases present
    exact ⟨later, puts.self, keeps⟩
  · exact ⟨found, (puts.of_ne same).trans present, rfl, Nat.le_refl _⟩

theorem of_puts_new (puts : Puts before id later after) (isNew : before[id]? = none) :
    Outlive before after := by
  intro other found present
  have apart : other ≠ id := by
    intro same
    rw [same, isNew] at present
    cases present
  exact ⟨found, (puts.of_ne apart).trans present, rfl, Nat.le_refl _⟩

end Outlive

/-- What a call of one of a terminus' own operations makes of it. -/
inductive Terminus.Moves (terminus : Terminus) : Terminus → Prop where
  | associate {link : LinkId} {displaced : Option LinkId} {later : Terminus}
      (associated : terminus.associate link = .ok (displaced, later)) : Moves terminus later
  | suspend {now : Nat} {later : Terminus} (suspended : terminus.suspend now = some later) :
      Moves terminus later
  | expire {epoch : Option Nat} {later : Terminus}
      (expired : terminus.expire epoch = some later) : Moves terminus later

namespace Terminus

theorem of_associate {terminus later : Terminus} {link : LinkId} {displaced : Option LinkId}
    (associated : terminus.associate link = .ok (displaced, later)) :
    terminus.phase ≠ .expired ∧ later =
      { terminus with
        link := some link
        phase := .active
        epoch := if terminus.phase = .suspended then terminus.epoch + 1 else terminus.epoch
        suspendedAt := none } := by
  cases phase : terminus.phase with
  | expired => simp [associate, phase] at associated
  | active | suspended =>
      simp only [associate, phase, Except.ok.injEq, Prod.mk.injEq] at associated
      exact ⟨by simp, associated.2.symm⟩

theorem of_suspend {terminus later : Terminus} {now : Nat}
    (suspended : terminus.suspend now = some later) :
    terminus.phase = .active ∧ later =
      { terminus with
        link := none
        phase := .suspended
        epoch := terminus.epoch + 1
        suspendedAt := some now } := by
  cases phase : terminus.phase with
  | expired | suspended => simp [suspend, phase] at suspended
  | active =>
      simp only [suspend, phase, Option.some.injEq] at suspended
      exact ⟨rfl, suspended.symm⟩

theorem of_expire {terminus later : Terminus} {epoch : Option Nat}
    (expired : terminus.expire epoch = some later) :
    terminus.phase = .suspended ∧ (∀ wanted ∈ epoch, wanted = terminus.epoch) ∧
      later = { terminus with phase := .expired } := by
  have isSome : (terminus.expire epoch).isSome = true := by rw [expired]; rfl
  have conditions := expire_isSome_iff.1 isSome
  refine ⟨conditions.1, conditions.2, ?_⟩
  simp only [expire, conditions.1] at expired
  split at expired
  · exact (Option.some.inj expired).symm
  · cases expired

/-- A terminus keeps its identifier, and its epochs only grow. -/
theorem Moves.keeps {terminus later : Terminus} (moves : terminus.Moves later) :
    later.identifier = terminus.identifier ∧ terminus.epoch ≤ later.epoch := by
  cases moves with
  | associate associated =>
      rcases of_associate associated with ⟨-, rfl⟩
      constructor
      · rfl
      · simp only
        split <;> omega
  | suspend suspended =>
      rcases of_suspend suspended with ⟨-, rfl⟩
      exact ⟨rfl, Nat.le_succ _⟩
  | expire expired =>
      rcases of_expire expired with ⟨-, -, rfl⟩
      exact ⟨rfl, Nat.le_refl _⟩

/-- A terminus that has a link only while it is active goes on like that. -/
theorem Moves.linked {terminus later : Terminus} (moves : terminus.Moves later)
    (linked : terminus.link ≠ none → terminus.phase = .active) :
    later.link ≠ none → later.phase = .active := by
  intro isLinked
  cases moves with
  | associate associated => rw [(of_associate associated).2]
  | suspend suspended =>
      rw [(of_suspend suspended).2] at isLinked
      exact absurd rfl isLinked
  | expire expired =>
      obtain ⟨wasSuspended, _, isExpired⟩ := of_expire expired
      rw [isExpired] at isLinked
      have wasActive := linked isLinked
      rw [wasSuspended] at wasActive
      cases wasActive

end Terminus

namespace Registry

/-- What is waiting to be dropped after the records of a terminus were to be dropped. -/
def purgingAfter (registry : Registry) (identifier : Identifier) :
    SortedMap Identifier.Key Unit :=
  match (registry.storage.removeAll identifier).1 with
  | .ok _ => registry.purging
  | .error _ => registry.purging.insert identifier.key ()

/-- What holds of the table whatever is done to its termini: they are there and under their
own identifiers, and what is noted as suspended is in the table, in no earlier epoch. -/
structure Sound (registry : Registry) : Prop where
  keyed : ∀ {key entry}, registry.entries.get? key = some entry →
    ∃ terminus, registry.termini[entry.terminus]? = some terminus ∧
      terminus.identifier.key = key
  noted : ∀ {key epoch}, registry.suspended.get? key = some epoch →
    ∃ entry terminus, registry.entries.get? key = some entry ∧
      registry.termini[entry.terminus]? = some terminus ∧ epoch ≤ terminus.epoch

/-- A change that an operation makes to a registry.  `origin` is the registry before the
operation, against which some of the circumstances are told. -/
inductive Change (operation : Operation) (origin : Registry) : Registry → Registry → Prop where
  /-- Links come to be, are closed or are told how to close. -/
  | links {registry : Registry} (links : Array Link) (channel : Channel) :
      Change operation origin registry { registry with links, channel }
  /-- The store is called. -/
  | store {registry : Registry} {storage : Storage}
      (kept : operation.writesRecords = true ∨ storage.store = registry.storage.store) :
      Change operation origin registry { registry with storage }
  /-- A terminus comes to be. -/
  | create {registry : Registry} {id : TerminusId} {terminus : Terminus}
      {termini : Array Terminus} (isNew : registry.termini[id]? = none)
      (puts : Puts registry.termini id terminus termini)
      (isFresh : terminus.link = none ∧ terminus.phase = .active) :
      Change operation origin registry { registry with termini }
  /-- A terminus is given other settings. -/
  | refresh {registry : Registry} {id : TerminusId} {terminus : Terminus}
      {termini : Array Terminus} (settings : Settings)
      (known : registry.termini[id]? = some terminus)
      (puts : Puts registry.termini id { terminus with settings } termini) :
      Change operation origin registry { registry with termini }
  /-- A terminus moves without the registry being told. -/
  | direct {registry : Registry} {id : TerminusId} {terminus later : Terminus}
      {termini : Array Terminus} (channel : Channel) (isDirect : id ∈ operation.direct?)
      (untouched : registry.entries = origin.entries)
      (known : registry.termini[id]? = some terminus) (moves : terminus.Moves later)
      (puts : Puts registry.termini id later termini) :
      Change operation origin registry { registry with termini, channel }
  /-- Records that an expired terminus has left are dropped, or should have been. -/
  | purge {registry : Registry} {purging : SortedMap Identifier.Key Unit}
      (identifier : Identifier) (absent : origin.entries.get? identifier.key = none)
      (dropped : purging = registry.purging ∨ purging = registry.purging.erase identifier.key)
      (emptied : purging = registry.purging ∨
        ∃ count, (registry.storage.removeAll identifier).1 = .ok count) :
      Change operation origin registry
        { registry with storage := (registry.storage.removeAll identifier).2, purging }
  /-- A terminus is made for a link. -/
  | enter {registry : Registry} {key : Identifier.Key} {entry : Entry} {terminus : Terminus}
      {termini : Array Terminus} (channel : Channel)
      (absent : origin.entries.get? key = none) (vacant : registry.entries.get? key = none)
      (untimed : registry.timers = origin.timers) (purged : registry.purging.get? key = none)
      (isNew : registry.termini[entry.terminus]? = none)
      (puts : Puts registry.termini entry.terminus terminus termini)
      (isOwn : terminus.identifier.key = key) (isActive : terminus.phase = .active) :
      Change operation origin registry
        { registry with
          termini, channel
          entries := registry.entries.insert key entry
          suspended := registry.suspended.erase key }
  /-- A link is attached to a terminus of the table. -/
  | reenter {registry : Registry} {key : Identifier.Key} {old entry : Entry}
      {terminus later : Terminus} {termini : Array Terminus} (channel : Channel)
      (untimed : registry.timers = origin.timers)
      (present : registry.entries.get? key = some old)
      (same : entry.terminus = old.terminus)
      (known : registry.termini[old.terminus]? = some terminus)
      (keeps : later.identifier = terminus.identifier ∧ terminus.epoch ≤ later.epoch)
      (isActive : later.phase = .active)
      (puts : Puts registry.termini old.terminus later termini) :
      Change operation origin registry
        { registry with
          termini, channel
          entries := registry.entries.insert key entry
          suspended := registry.suspended.erase key }
  /-- A terminus of the table that has expired refuses a link. -/
  | refuse {registry : Registry} {key : Identifier.Key} {old entry : Entry}
      {terminus : Terminus} {termini : Array Terminus} (settings : Settings)
      (untimed : registry.timers = origin.timers)
      (present : registry.entries.get? key = some old)
      (same : entry.terminus = old.terminus)
      (known : registry.termini[old.terminus]? = some terminus)
      (hasExpired : terminus.phase = .expired)
      (puts : Puts registry.termini old.terminus { terminus with settings } termini) :
      Change operation origin registry
        { registry with termini, entries := registry.entries.insert key entry }
  /-- A terminus of the table is suspended. -/
  | suspend {registry : Registry} {key : Identifier.Key} {entry : Entry}
      {terminus later : Terminus} {termini : Array Terminus} {departure : Departure}
      (channel : Channel) (untimed : registry.timers = origin.timers)
      (untouched : registry.entries = origin.entries)
      (present : registry.entries.get? key = some entry)
      (reached : entry.policy.qualifies departure = true)
      (known : registry.termini[entry.terminus]? = some terminus)
      (suspended : terminus.suspend registry.now = some later)
      (puts : Puts registry.termini entry.terminus later termini) :
      Change operation origin registry
        { registry with
          termini, channel
          suspended := registry.suspended.insert key later.epoch }
  /-- A timer is set for a suspension that has just begun. -/
  | setTimer {registry : Registry} {timer : Timer} {entry : Entry}
      (noted : registry.suspended.get? timer.identifier.key = some timer.epoch)
      (isNew : origin.suspended.get? timer.identifier.key ≠ some timer.epoch)
      (present : registry.entries.get? timer.identifier.key = some entry)
      (due : timer.due = registry.wakeTime entry.timeout) :
      Change operation origin registry { registry with timers := registry.timers ++ [timer] }
  /-- The table gives up a suspended terminus, with its records. -/
  | expire {registry : Registry} {entry : Entry} {terminus later : Terminus}
      {termini : Array Terminus} {epoch : Nat} (identifier : Identifier) (channel : Channel)
      (reason : operation = .expire identifier ∨
        origin.suspended.get? identifier.key ≠ some epoch)
      (noted : registry.suspended.get? identifier.key = some epoch)
      (present : registry.entries.get? identifier.key = some entry)
      (known : registry.termini[entry.terminus]? = some terminus)
      (expires : later = (terminus.expire (some epoch)).getD terminus)
      (puts : Puts registry.termini entry.terminus later termini) :
      Change operation origin registry
        { registry with
          termini, channel
          entries := registry.entries.erase identifier.key
          suspended := registry.suspended.erase identifier.key
          storage := (registry.storage.removeAll identifier).2
          purging := registry.purgingAfter identifier }
  /-- A terminus made elsewhere is put into the table. -/
  | seed {registry : Registry} {id : TerminusId} {terminus : Terminus} {entry : Entry}
      (absent : origin.entries.get? terminus.identifier.key = none)
      (vacant : registry.entries.get? terminus.identifier.key = none)
      (untimed : registry.timers = origin.timers)
      (purged : registry.purging.get? terminus.identifier.key = none)
      (known : registry.termini[id]? = some terminus) (lives : terminus.phase ≠ .expired)
      (same : entry.terminus = id) (isUnscoped : entry.scope = none) :
      Change operation origin registry
        { registry with
          entries := registry.entries.insert terminus.identifier.key entry
          suspended :=
            if terminus.phase = .suspended then
              registry.suspended.insert terminus.identifier.key terminus.epoch
            else
              registry.suspended }
  /-- A terminus is taken out of the table. -/
  | remove {registry : Registry} (identifier : Identifier)
      (asked : operation = .tryRemove identifier) :
      Change operation origin registry
        { registry with
          entries := registry.entries.erase identifier.key
          suspended := registry.suspended.erase identifier.key }

/-- The changes that an operation makes one after the other. -/
abbrev Changes (operation : Operation) (origin : Registry) : Registry → Registry → Prop :=
  Relation.ReflTransGen (Change operation origin)

/-! ## What every change keeps -/

variable {operation : Operation} {origin registry later : Registry}

/-- Termini are never lost, and their epochs only grow. -/
theorem Change.outlive (change : Change operation origin registry later) :
    Outlive registry.termini later.termini := by
  cases change with
  | links | store | purge | setTimer | seed | remove => exact Outlive.refl _
  | create isNew puts _ => exact .of_puts_new puts isNew
  | refresh _ known puts => exact .of_puts puts known ⟨rfl, Nat.le_refl _⟩
  | direct _ _ _ known moves puts => exact .of_puts puts known moves.keeps
  | enter _ _ _ _ _ isNew puts => exact .of_puts_new puts isNew
  | reenter _ _ _ _ known keeps _ puts => exact .of_puts puts known keeps
  | refuse _ _ _ _ known _ puts => exact .of_puts puts known ⟨rfl, Nat.le_refl _⟩
  | suspend _ _ _ _ _ known suspended puts =>
      exact .of_puts puts known (Terminus.Moves.suspend suspended).keeps
  | @expire _ terminus _ _ epoch _ _ _ _ _ known expires puts =>
      apply Outlive.of_puts puts known
      rw [expires]
      cases expired : terminus.expire (some epoch) with
      | none => exact ⟨rfl, Nat.le_refl _⟩
      | some expiredTerminus => exact (Terminus.Moves.expire expired).keeps

theorem Changes.outlive (changes : Changes operation origin registry later) :
    Outlive registry.termini later.termini := by
  induction changes with
  | refl => exact Outlive.refl _
  | tail _ last ih => exact ih.trans last.outlive

namespace Sound

theorem terminus_ne (sound : registry.Sound) {key other : Identifier.Key} {entry found : Entry}
    (present : registry.entries.get? key = some entry)
    (isFound : registry.entries.get? other = some found) (apart : other ≠ key) :
    found.terminus ≠ entry.terminus := by
  intro same
  rcases sound.keyed present with ⟨terminus, known, isOwn⟩
  rcases sound.keyed isFound with ⟨otherTerminus, otherKnown, isOther⟩
  rw [same, known] at otherKnown
  cases otherKnown
  exact apart (isOther.symm.trans isOwn)

theorem keyed_of_outlive (sound : registry.Sound) {termini : Array Terminus}
    (outlive : Outlive registry.termini termini) {key : Identifier.Key} {entry : Entry}
    (present : registry.entries.get? key = some entry) :
    ∃ terminus, termini[entry.terminus]? = some terminus ∧ terminus.identifier.key = key := by
  rcases sound.keyed present with ⟨terminus, known, isOwn⟩
  rcases outlive _ terminus known with ⟨grown, there, same, _⟩
  exact ⟨grown, there, same ▸ isOwn⟩

theorem noted_of_outlive (sound : registry.Sound) {termini : Array Terminus}
    (outlive : Outlive registry.termini termini) {key : Identifier.Key} {epoch : Nat}
    (noted : registry.suspended.get? key = some epoch) :
    ∃ entry terminus, registry.entries.get? key = some entry ∧
      termini[entry.terminus]? = some terminus ∧ epoch ≤ terminus.epoch := by
  rcases sound.noted noted with ⟨entry, terminus, present, known, notLater⟩
  rcases outlive _ terminus known with ⟨grown, there, _, grows⟩
  exact ⟨entry, grown, present, there, Nat.le_trans notLater grows⟩

theorem change (sound : registry.Sound) (change : Change operation origin registry later) :
    later.Sound := by
  have outlive := change.outlive
  cases change with
  | links | store | create | refresh | direct | purge | setTimer =>
      exact ⟨sound.keyed_of_outlive outlive, sound.noted_of_outlive outlive⟩
  | @enter key entry terminus _ _ _ _ _ _ _ puts isOwn _ =>
      constructor
      · intro other found present
        rcases SortedMap.get?_insert_eq_some_iff.1 present with ⟨rfl, rfl⟩ | ⟨_, old⟩
        · exact ⟨terminus, puts.self, isOwn⟩
        · exact sound.keyed_of_outlive outlive old
      · intro other epoch noted
        rcases SortedMap.get?_erase_eq_some_iff.1 noted with ⟨apart, wasNoted⟩
        rcases sound.noted_of_outlive outlive wasNoted with ⟨found, grown, present, there, notLater⟩
        exact ⟨found, grown, SortedMap.get?_insert_eq_some_iff.2 (.inr ⟨apart, present⟩), there,
          notLater⟩
  | @reenter key old entry _ _ _ _ _ present same _ _ _ _ =>
      constructor
      · intro other found isFound
        rcases SortedMap.get?_insert_eq_some_iff.1 isFound with ⟨rfl, rfl⟩ | ⟨_, wasFound⟩
        · rw [same]
          exact sound.keyed_of_outlive outlive present
        · exact sound.keyed_of_outlive outlive wasFound
      · intro other epoch noted
        rcases SortedMap.get?_erase_eq_some_iff.1 noted with ⟨apart, wasNoted⟩
        rcases sound.noted_of_outlive outlive wasNoted with
          ⟨found, grown, isPresent, there, notLater⟩
        exact ⟨found, grown, SortedMap.get?_insert_eq_some_iff.2 (.inr ⟨apart, isPresent⟩), there,
          notLater⟩
  | @refuse key old entry _ _ _ _ present same _ _ _ =>
      constructor
      · intro other found isFound
        rcases SortedMap.get?_insert_eq_some_iff.1 isFound with ⟨rfl, rfl⟩ | ⟨_, wasFound⟩
        · rw [same]
          exact sound.keyed_of_outlive outlive present
        · exact sound.keyed_of_outlive outlive wasFound
      · intro other epoch noted
        rcases sound.noted_of_outlive outlive noted with ⟨found, grown, isPresent, there, notLater⟩
        by_cases apart : other = key
        · subst apart
          rw [present] at isPresent
          cases isPresent
          exact ⟨entry, grown, SortedMap.get?_insert_self _ _ _, same ▸ there, notLater⟩
        · exact ⟨found, grown, SortedMap.get?_insert_eq_some_iff.2 (.inr ⟨apart, isPresent⟩),
            there, notLater⟩
  | @suspend key entry _ grown _ _ _ _ _ present _ _ _ puts =>
      constructor
      · exact sound.keyed_of_outlive outlive
      · intro other epoch noted
        rcases SortedMap.get?_insert_eq_some_iff.1 noted with ⟨rfl, rfl⟩ | ⟨_, wasNoted⟩
        · exact ⟨entry, grown, present, puts.self, Nat.le_refl _⟩
        · exact sound.noted_of_outlive outlive wasNoted
  | expire | remove =>
      constructor
      · intro other found present
        exact sound.keyed_of_outlive outlive (SortedMap.get?_erase_eq_some_iff.1 present).2
      · intro other epoch noted
        rcases SortedMap.get?_erase_eq_some_iff.1 noted with ⟨apart, wasNoted⟩
        rcases sound.noted_of_outlive outlive wasNoted with ⟨found, grown, present, there, notLater⟩
        exact ⟨found, grown, SortedMap.get?_erase_eq_some_iff.2 ⟨apart, present⟩, there, notLater⟩
  | @seed id terminus entry _ vacant _ _ known _ same _ =>
      constructor
      · intro other found present
        rcases SortedMap.get?_insert_eq_some_iff.1 present with ⟨rfl, rfl⟩ | ⟨_, old⟩
        · exact ⟨terminus, same ▸ known, rfl⟩
        · exact sound.keyed old
      · intro other epoch noted
        have wasNoted (old : registry.suspended.get? other = some epoch) :
            ∃ found grown,
              (registry.entries.insert terminus.identifier.key entry).get? other = some found ∧
                registry.termini[found.terminus]? = some grown ∧ epoch ≤ grown.epoch := by
          rcases sound.noted old with ⟨found, grown, present, there, notLater⟩
          have apart := SortedMap.ne_of_get? present vacant
          exact ⟨found, grown, SortedMap.get?_insert_eq_some_iff.2 (.inr ⟨apart, present⟩), there,
            notLater⟩
        simp only at noted
        split at noted
        · rcases SortedMap.get?_insert_eq_some_iff.1 noted with ⟨rfl, rfl⟩ | ⟨_, old⟩
          · exact ⟨entry, terminus, SortedMap.get?_insert_self _ _ _, same ▸ known, Nat.le_refl _⟩
          · exact wasNoted old
        · exact wasNoted noted

theorem changes (sound : registry.Sound) (changes : Changes operation origin registry later) :
    later.Sound := by
  induction changes with
  | refl => exact sound
  | tail _ last ih => exact ih.change last

end Sound

end Registry

end Reattach
