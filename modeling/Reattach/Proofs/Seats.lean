import Reattach.Proofs.Consistency
import Reattach.Proofs.Thefts

/-!
# Seats

To those who attach and suspend links, what the table says of an identifier and how the
terminus stands that it has there are one thing: the seat of the identifier.  For each function
of the registry this module tells what it makes of the seat that it is for, and that it leaves
all other seats.
-/

namespace Reattach

/-- What there is in the table for an identifier: the entry, and how its terminus stands. -/
structure Seat where
  entry : Entry
  phase : Phase
  epoch : Nat
  link : Option LinkId
  deriving DecidableEq

namespace Seat

/-- The seat of a terminus. -/
def of (entry : Entry) (terminus : Terminus) : Seat :=
  ⟨entry, terminus.phase, terminus.epoch, terminus.link⟩

/-- The seat when its terminus has been suspended. -/
def suspended (seat : Seat) : Seat :=
  { seat with phase := .suspended, epoch := seat.epoch + 1, link := none }

/-- What suspending the termini of some identifiers makes of the seat of one identifier. -/
def suspendedIn (keys : List Identifier.Key) (key : Identifier.Key) (seat : Seat) : Seat :=
  if seat.phase = .active ∧ key ∈ keys then seat.suspended else seat

theorem suspendedIn_of_not_active {seat : Seat} (notActive : seat.phase ≠ .active)
    (keys : List Identifier.Key) (key : Identifier.Key) : seat.suspendedIn keys key = seat :=
  if_neg fun both => notActive both.1

theorem suspendedIn_of_not_mem (seat : Seat) {keys : List Identifier.Key} {key : Identifier.Key}
    (unlisted : key ∉ keys) : seat.suspendedIn keys key = seat :=
  if_neg fun both => unlisted both.2

theorem map_suspendedIn_of_not_mem (seat? : Option Seat) {keys : List Identifier.Key}
    {key : Identifier.Key} (unlisted : key ∉ keys) : seat?.map (suspendedIn keys key) = seat? := by
  cases seat? with
  | none => rfl
  | some seat => rw [Option.map_some, suspendedIn_of_not_mem seat unlisted]

theorem suspendedIn_cons {head : Identifier.Key} {keys : List Identifier.Key}
    (unlisted : head ∉ keys) (key : Identifier.Key) :
    suspendedIn (head :: keys) key = suspendedIn keys key ∘ suspendedIn [head] key := by
  funext seat
  rw [Function.comp_apply]
  by_cases same : key = head
  · subst same
    rw [suspendedIn_of_not_mem _ unlisted]
    simp [suspendedIn]
  · simp [suspendedIn, same]

end Seat

theorem Terminus.displaced_eq {terminus grown : Terminus} {id : LinkId}
    {displaced : Option LinkId} (associated : terminus.associate id = .ok (displaced, grown)) :
    displaced = terminus.link.filter (· != id) := by
  cases phase : terminus.phase with
  | expired => simp [Terminus.associate, phase] at associated
  | active | suspended =>
      simp only [Terminus.associate, phase, Except.ok.injEq, Prod.mk.injEq] at associated
      exact associated.1.symm

theorem Terminus.Moves.lives {terminus grown : Terminus} (moves : terminus.Moves grown) :
    terminus.phase ≠ .expired := by
  cases moves with
  | associate associated => exact (Terminus.of_associate associated).1
  | suspend suspended =>
      rw [(Terminus.of_suspend suspended).1]
      exact Phase.noConfusion
  | expire expired =>
      rw [(Terminus.of_expire expired).1]
      exact Phase.noConfusion

namespace Registry

/-- The seat of an identifier. -/
def seat? (registry : Registry) (key : Identifier.Key) : Option Seat :=
  (registry.entries.get? key).bind fun entry =>
    registry.termini[entry.terminus]?.map (.of entry)

/-- That a terminus has expired. -/
def HasExpired (registry : Registry) (id : TerminusId) : Prop :=
  ∃ terminus, registry.termini[id]? = some terminus ∧ terminus.phase = .expired

/-- That an identifier has no terminus any more, since the one it had expired. -/
structure Gone (registry : Registry) (key : Identifier.Key) (id : TerminusId) : Prop where
  absent : registry.entries.get? key = none
  hasExpired : registry.HasExpired id

variable {operation : Operation} {origin registry later : Registry}
variable {key : Identifier.Key} {seat : Seat}

theorem seat?_eq {entry : Entry} {terminus : Terminus}
    (present : registry.entries.get? key = some entry)
    (known : registry.termini[entry.terminus]? = some terminus) :
    registry.seat? key = some (.of entry terminus) := by
  rw [seat?, present, Option.bind_some, known, Option.map_some]

theorem seat?_of_absent (absent : registry.entries.get? key = none) :
    registry.seat? key = none := by
  rw [seat?, absent, Option.bind_none]

theorem Gone.seat? {id : TerminusId} (gone : registry.Gone key id) : registry.seat? key = none :=
  seat?_of_absent gone.absent

theorem seat?_eq_some_iff :
    registry.seat? key = some seat ↔
      ∃ entry terminus, registry.entries.get? key = some entry ∧
        registry.termini[entry.terminus]? = some terminus ∧ seat = .of entry terminus := by
  simp only [seat?, Option.bind_eq_some_iff, Option.map_eq_some_iff]
  constructor
  · rintro ⟨entry, present, terminus, known, rfl⟩
    exact ⟨entry, terminus, present, known, rfl⟩
  · rintro ⟨entry, terminus, present, known, rfl⟩
    exact ⟨entry, present, terminus, known, rfl⟩

theorem entry_of_seat? (seated : registry.seat? key = some seat) :
    registry.entries.get? key = some seat.entry := by
  obtain ⟨entry, terminus, present, _, rfl⟩ := seat?_eq_some_iff.1 seated
  exact present

/-- What the table has an entry for has a seat. -/
theorem Sound.exists_seat (sound : registry.Sound) {entry : Entry}
    (present : registry.entries.get? key = some entry) :
    ∃ seat, registry.seat? key = some seat ∧ seat.entry = entry := by
  obtain ⟨terminus, known, _⟩ := sound.keyed present
  exact ⟨_, seat?_eq present known, rfl⟩

theorem Sound.absent_of_seat? (sound : registry.Sound) (vacant : registry.seat? key = none) :
    registry.entries.get? key = none := by
  cases present : registry.entries.get? key with
  | none => rfl
  | some entry =>
      obtain ⟨seat, seated, _⟩ := sound.exists_seat present
      rw [vacant] at seated
      cases seated

theorem seat?_congr (entries : later.entries.get? key = registry.entries.get? key)
    (termini : ∀ entry, registry.entries.get? key = some entry →
      later.termini[entry.terminus]? = registry.termini[entry.terminus]?) :
    later.seat? key = registry.seat? key := by
  rw [seat?, seat?, entries]
  cases present : registry.entries.get? key with
  | none => rfl
  | some entry => rw [Option.bind_some, Option.bind_some, termini entry present]

/-- A terminus that is put in place leaves the seats of others. -/
theorem seat?_of_puts {id : TerminusId} {terminus : Terminus}
    (puts : Puts registry.termini id terminus later.termini)
    (entries : later.entries.get? key = registry.entries.get? key)
    (apart : ∀ entry, registry.entries.get? key = some entry → entry.terminus ≠ id) :
    later.seat? key = registry.seat? key :=
  seat?_congr entries fun entry present => puts.of_ne (apart entry present)

/-- So does one that stands like the one that was there. -/
theorem seat?_of_puts_same {id : TerminusId} {terminus grown : Terminus}
    (known : registry.termini[id]? = some terminus)
    (puts : Puts registry.termini id grown later.termini)
    (entries : later.entries = registry.entries)
    (same : ∀ entry, Seat.of entry grown = .of entry terminus) :
    later.seat? key = registry.seat? key := by
  rw [seat?, seat?, entries]
  cases registry.entries.get? key with
  | none => rfl
  | some entry =>
      simp only [Option.bind_some]
      by_cases isSame : entry.terminus = id
      · rw [isSame, puts.self, known, Option.map_some, Option.map_some, same]
      · rw [puts.of_ne isSame]

theorem HasExpired.of_puts {id other : TerminusId} {old grown : Terminus}
    (hasExpired : registry.HasExpired id) (known : registry.termini[other]? = some old)
    (puts : Puts registry.termini other grown later.termini)
    (stays : old.phase = .expired → grown.phase = .expired) : later.HasExpired id := by
  obtain ⟨terminus, isKnown, isExpired⟩ := hasExpired
  by_cases same : id = other
  · subst same
    rw [known] at isKnown
    cases isKnown
    exact ⟨grown, puts.self, stays isExpired⟩
  · exact ⟨terminus, (puts.of_ne same).trans isKnown, isExpired⟩

theorem HasExpired.of_puts_new {id other : TerminusId} {grown : Terminus}
    (hasExpired : registry.HasExpired id) (puts : Puts registry.termini other grown later.termini)
    (isNew : registry.termini[other]? = none) : later.HasExpired id := by
  obtain ⟨terminus, known, isExpired⟩ := hasExpired
  have apart : id ≠ other := by
    rintro rfl
    rw [known] at isNew
    cases isNew
  exact ⟨terminus, (puts.of_ne apart).trans known, isExpired⟩

/-! ## Seats and notes in step -/

theorem standing?_eq_map : registry.standing? key =
    (registry.seat? key).map fun seat => (seat.phase, seat.epoch) := by
  rw [standing?, seat?]
  cases registry.entries.get? key with
  | none => rfl
  | some entry => cases known : registry.termini[entry.terminus]? <;> simp [known, Seat.of]

namespace Consistent

/-- What is noted as suspended are the suspended seats. -/
theorem noted_iff (consistent : registry.Consistent) {epoch : Nat} :
    registry.suspended.get? key = some epoch ↔
      ∃ seat, registry.seat? key = some seat ∧ seat.phase = .suspended ∧ seat.epoch = epoch := by
  rw [(consistent.inStep key).noted_iff epoch, standing?_eq_map, Option.map_eq_some_iff]
  simp only [Prod.mk.injEq]

theorem seat_lives (consistent : registry.Consistent)
    (seated : registry.seat? key = some seat) : seat.phase ≠ .expired := by
  intro hasExpired
  apply (consistent.inStep key).lives seat.epoch
  rw [standing?_eq_map, seated, Option.map_some, hasExpired]

/-- Only an active seat has a link. -/
theorem seat_linked (consistent : registry.Consistent)
    (seated : registry.seat? key = some seat) {id : LinkId} (isLink : seat.link = some id) :
    seat.phase = .active := by
  obtain ⟨entry, terminus, _, known, rfl⟩ := seat?_eq_some_iff.1 seated
  apply consistent.linked _ terminus known
  intro noLink
  exact Option.some_ne_none id (isLink.symm.trans noLink)

theorem changes (consistent : registry.Consistent)
    (spares : ∀ id ∈ operation.direct?, ¬origin.Holds id)
    (changes : Changes operation origin registry later) : later.Consistent := by
  induction changes with
  | refl => exact consistent
  | tail _ last ih => exact ih.change spares last

/-- A terminus that has expired stays so. -/
theorem hasExpired_change (consistent : registry.Consistent)
    (change : Change operation origin registry later) {id : TerminusId}
    (hasExpired : registry.HasExpired id) : later.HasExpired id := by
  cases change with
  | links | store | purge | setTimer | seed | remove => exact hasExpired
  | create isNew puts _ => exact hasExpired.of_puts_new puts isNew
  | enter _ _ _ _ _ isNew puts => exact hasExpired.of_puts_new puts isNew
  | refresh _ known puts | refuse _ _ _ _ known _ puts =>
      exact hasExpired.of_puts known puts fun isExpired => isExpired
  | direct _ _ _ known moves puts =>
      exact hasExpired.of_puts known puts fun isExpired => absurd isExpired moves.lives
  | suspend _ _ _ _ _ known suspended puts =>
      exact hasExpired.of_puts known puts fun isExpired =>
        absurd isExpired (Terminus.Moves.suspend suspended).lives
  | reenter _ _ present _ known _ _ puts =>
      exact hasExpired.of_puts known puts fun isExpired =>
        absurd isExpired (consistent.seat_lives (seat?_eq present known))
  | @expire _ terminus _ _ epoch _ _ _ _ _ known expires puts =>
      refine hasExpired.of_puts known puts fun isExpired => ?_
      rw [expires]
      cases expired : terminus.expire (some epoch) with
      | none => exact isExpired
      | some grown => exact absurd isExpired (Terminus.Moves.expire expired).lives

theorem hasExpired_changes (consistent : registry.Consistent)
    (spares : ∀ id ∈ operation.direct?, ¬origin.Holds id)
    (changes : Changes operation origin registry later) {id : TerminusId}
    (hasExpired : registry.HasExpired id) : later.HasExpired id := by
  induction changes with
  | refl => exact hasExpired
  | tail first last ih => exact (consistent.changes spares first).hasExpired_change last ih

end Consistent

/-! ## Suspending -/

theorem Sound.suspendEntry_cases (sound : registry.Sound) {identifier : Identifier}
    (seated : registry.seat? identifier.key = some seat) :
    seat.phase ≠ .active ∧ registry.suspendEntry identifier seat.entry = (none, registry) ∨
      seat.phase = .active ∧ ∃ later,
        registry.suspendEntry identifier seat.entry =
          (some ⟨identifier, seat.epoch + 1, seat.entry.timeout⟩, later) ∧
        later.seat? identifier.key = some seat.suspended ∧
        ∀ other, other ≠ identifier.key → later.seat? other = registry.seat? other := by
  obtain ⟨entry, terminus, present, known, rfl⟩ := seat?_eq_some_iff.1 seated
  rw [suspendEntry]
  rcases suspendTerminus_cases known with ⟨unchanged, notActive⟩ |
    ⟨grown, channel, termini, suspended, puts, changed⟩
  · left
    refine ⟨notActive, ?_⟩
    rw [Seat.of, unchanged]
  · right
    obtain ⟨isActive, isGrown⟩ := Terminus.of_suspend suspended
    subst isGrown
    let later : Registry := { registry with
      termini, channel
      suspended := registry.suspended.insert identifier.key (terminus.epoch + 1) }
    have presentThen : later.entries.get? identifier.key = some entry := present
    refine ⟨isActive, later, ?_, seat?_eq presentThen puts.self, ?_⟩
    · simp only [Seat.of, changed]
      rfl
    · intro other apart
      exact seat?_of_puts puts rfl fun found isFound => sound.terminus_ne present isFound apart

/-- The expiry that suspending a candidate calls for, if its terminus is active. -/
def called? (registry : Registry) (candidate : Identifier × Entry) : Option PendingExpiry :=
  (registry.seat? candidate.1.key).bind fun seat =>
    if seat.phase = .active then some ⟨candidate.1, seat.epoch + 1, candidate.2.timeout⟩ else none

theorem called?_eq_some_iff {candidate : Identifier × Entry} {expiry : PendingExpiry} :
    registry.called? candidate = some expiry ↔
      ∃ seat, registry.seat? candidate.1.key = some seat ∧ seat.phase = .active ∧
        expiry = ⟨candidate.1, seat.epoch + 1, candidate.2.timeout⟩ := by
  simp only [called?, Option.bind_eq_some_iff, Option.ite_none_right_eq_some, Option.some.injEq]
  constructor
  · rintro ⟨seat, seated, isActive, rfl⟩
    exact ⟨seat, seated, isActive, rfl⟩
  · rintro ⟨seat, seated, isActive, rfl⟩
    exact ⟨seat, seated, isActive, rfl⟩

/-- Different candidates call for expiries of different identifiers. -/
theorem nodup_called {candidates : List (Identifier × Entry)}
    (distinct : (candidates.map (·.1.key)).Nodup) :
    ((candidates.filterMap registry.called?).map (·.identifier.key)).Nodup := by
  rw [List.Nodup, List.pairwise_map] at distinct ⊢
  refine List.Pairwise.filterMap _ ?_ distinct
  intro first second apart expiry isFirst other isSecond
  obtain ⟨_, _, _, rfl⟩ := called?_eq_some_iff.1 isFirst
  obtain ⟨_, _, _, rfl⟩ := called?_eq_some_iff.1 isSecond
  exact apart

/-- One candidate is suspended if it is active, and calls for its expiry then. -/
theorem Sound.suspendEntry_eq (sound : registry.Sound) {identifier : Identifier}
    (seated : registry.seat? identifier.key = some seat) :
    (registry.suspendEntry identifier seat.entry).1 = registry.called? (identifier, seat.entry) ∧
      ∀ key, (registry.suspendEntry identifier seat.entry).2.seat? key =
        (registry.seat? key).map (Seat.suspendedIn [identifier.key] key) := by
  rcases sound.suspendEntry_cases seated with ⟨notActive, unchanged⟩ |
    ⟨isActive, later, suspends, seatedThen, others⟩
  · rw [unchanged]
    refine ⟨by simp [called?, seated, notActive], fun key => ?_⟩
    by_cases same : key = identifier.key
    · rw [same, seated, Option.map_some, Seat.suspendedIn_of_not_active notActive]
    · rw [Seat.map_suspendedIn_of_not_mem _ (by simpa using same)]
  · rw [suspends]
    refine ⟨by simp [called?, seated, isActive], fun key => ?_⟩
    by_cases same : key = identifier.key
    · rw [same, seated, seatedThen, Option.map_some, Seat.suspendedIn,
        if_pos ⟨isActive, List.mem_singleton_self _⟩]
    · rw [Seat.map_suspendedIn_of_not_mem _ (by simpa using same), others key same]

/-- Of candidates with different identifiers those are suspended that are active, in whatever
order they come, and each calls for its own expiry. -/
theorem Sound.suspendAll_eq (sound : registry.Sound) {departure : Departure}
    {candidates : List (Identifier × Entry)}
    (distinct : (candidates.map (·.1.key)).Nodup)
    (eligible : ∀ candidate ∈ candidates,
      registry.entries.get? candidate.1.key = some candidate.2 ∧
        candidate.2.policy.qualifies departure = true) :
    (registry.suspendAll candidates).1 = candidates.filterMap registry.called? ∧
      ∀ key, (registry.suspendAll candidates).2.seat? key =
        (registry.seat? key).map (Seat.suspendedIn (candidates.map (·.1.key)) key) := by
  induction candidates generalizing registry with
  | nil => exact ⟨rfl, fun key => (Seat.map_suspendedIn_of_not_mem _ (by simp)).symm⟩
  | cons candidate rest ih =>
      obtain ⟨identifier, entry⟩ := candidate
      obtain ⟨present, reached⟩ := eligible _ List.mem_cons_self
      obtain ⟨seat, seated, rfl⟩ := sound.exists_seat present
      rw [List.map_cons, List.nodup_cons] at distinct
      have stage := ((Suspending.start .snapshot registry).suspendEntry sound present reached).1
      obtain ⟨calledFirst, seatsFirst⟩ := sound.suspendEntry_eq seated
      have eligibleThen := fun other member => eligible other (List.mem_cons_of_mem _ member)
      simp only [Registry.suspendAll, calledFirst]
      generalize (registry.suspendEntry identifier seat.entry).2 = later at stage seatsFirst ⊢
      rw [← stage.entries] at eligibleThen
      obtain ⟨called, seats⟩ := ih (sound.changes stage.changes) distinct.2 eligibleThen
      have sameCalls : rest.filterMap later.called? = rest.filterMap registry.called? := by
        apply List.filterMap_congr
        intro other member
        have apart : other.1.key ∉ [identifier.key] := by
          intro same
          exact distinct.1 (List.mem_map.2 ⟨other, member, List.mem_singleton.1 same⟩)
        rw [called?, called?, seatsFirst, Seat.map_suspendedIn_of_not_mem _ apart]
      constructor
      · rw [called, sameCalls, List.filterMap_cons]
        cases registry.called? (identifier, seat.entry) <;> rfl
      · intro key
        rw [seats, seatsFirst, Option.map_map, List.map_cons, Seat.suspendedIn_cons distinct.1]

/-! ## Expiring -/

/-- An expiry finds no suspension that it is for, or the terminus is gone for good. -/
theorem Consistent.expireEpoch_cases (consistent : registry.Consistent) (identifier : Identifier)
    (epoch : Option Nat) :
    registry.expireEpoch identifier epoch = (false, registry) ∧
        (∀ seat, registry.seat? identifier.key = some seat → seat.phase = .suspended →
          ∃ wanted ∈ epoch, wanted ≠ seat.epoch) ∨
      ∃ seat later, registry.seat? identifier.key = some seat ∧ seat.phase = .suspended ∧
        (∀ wanted ∈ epoch, wanted = seat.epoch) ∧
        registry.expireEpoch identifier epoch = (true, later) ∧
        later.Gone identifier.key seat.entry.terminus ∧
        ∀ other, other ≠ identifier.key → later.seat? other = registry.seat? other := by
  rcases consistent.sound.expireEpoch_cases identifier epoch with ⟨unchanged, mismatch⟩ |
    ⟨noted, entry, terminus, channel, termini, note, matching, present, known, puts, changed⟩
  · refine .inl ⟨unchanged, fun seat seated isSuspended => ?_⟩
    exact mismatch _ (consistent.noted_iff.2 ⟨seat, seated, isSuspended, rfl⟩)
  · obtain ⟨seat, seated, isSuspended, rfl⟩ := consistent.noted_iff.1 note
    have standing := seat?_eq present known
    rw [seated, Option.some.injEq] at standing
    subst standing
    refine .inr ⟨_, _, seated, isSuspended, matching, changed, ⟨?_, ?_⟩, ?_⟩
    · exact SortedMap.get?_erase_self _ _
    · refine ⟨_, puts.self, ?_⟩
      have expires : (terminus.expire (some terminus.epoch)).isSome = true :=
        Terminus.expire_isSome_iff.2 ⟨isSuspended, by simp⟩
      obtain ⟨grown, expired⟩ := Option.isSome_iff_exists.1 expires
      change ((terminus.expire (some terminus.epoch)).getD terminus).phase = .expired
      rw [expired, Option.getD_some, (Terminus.of_expire expired).2.2]
    · intro other apart
      exact seat?_of_puts puts (SortedMap.get?_erase_of_ne _ apart) fun found isFound =>
        consistent.sound.terminus_ne present isFound apart

@[simp] theorem seat?_setTimer (registry : Registry) (pending : PendingExpiry) :
    (registry.setTimer pending).seat? key = registry.seat? key := by
  unfold setTimer
  split <;> rfl

theorem Change.constants (change : Change operation origin registry later) :
    later.now = registry.now ∧ later.config = registry.config ∧
      later.hasTimers = registry.hasTimers := by
  cases change <;> exact ⟨rfl, rfl, rfl⟩

theorem Changes.constants (changes : Changes operation origin registry later) :
    later.now = registry.now ∧ later.config = registry.config ∧
      later.hasTimers = registry.hasTimers := by
  induction changes with
  | refl => exact ⟨rfl, rfl, rfl⟩
  | tail _ last ih =>
      obtain ⟨now, config, hasTimers⟩ := last.constants
      exact ⟨now.trans ih.1, config.trans ih.2.1, hasTimers.trans ih.2.2⟩

theorem Sound.expireEpoch_chain (sound : registry.Sound) (identifier : Identifier)
    (epoch : Option Nat) :
    Changes (.expire identifier) registry registry (registry.expireEpoch identifier epoch).2 :=
  sound.expireEpoch_changes identifier epoch (.inl rfl)

namespace Consistent

theorem expireEpoch (consistent : registry.Consistent) (identifier : Identifier)
    (epoch : Option Nat) : (registry.expireEpoch identifier epoch).2.Consistent :=
  consistent.changes (by simp [Operation.direct?])
    (consistent.sound.expireEpoch_chain identifier epoch)

theorem setTimer (consistent : registry.Consistent) (pending : PendingExpiry) :
    (registry.setTimer pending).Consistent := by
  unfold Registry.setTimer
  split
  · exact ⟨fun key => (consistent.inStep key).congr rfl rfl (consistent.inStep key).purged,
      consistent.keyed, consistent.linked⟩
  · exact consistent

end Consistent

/-- That an expiry is called for by the suspension that its identifier is in. -/
def IsCalledFor (registry : Registry) (pending : PendingExpiry) : Prop :=
  ∃ seat, registry.seat? pending.identifier.key = some seat ∧ seat.phase = .suspended ∧
    seat.epoch = pending.epoch

def timerFor (registry : Registry) (pending : PendingExpiry) : Timer :=
  ⟨pending.identifier, pending.epoch, registry.wakeTime pending.delay⟩

/-- What arranging expiries comes to: those without any delay are carried out, for the others
timers are set, and all else stays. -/
structure Arranges (registry later : Registry) (pending : List PendingExpiry) : Prop where
  consistent : later.Consistent
  stays : ∀ key, (∀ expiry ∈ pending, expiry.identifier.key = key → expiry.delay ≠ 0) →
    later.seat? key = registry.seat? key
  gone : ∀ expiry ∈ pending, expiry.delay = 0 → ∀ seat,
    registry.seat? expiry.identifier.key = some seat →
      later.Gone expiry.identifier.key seat.entry.terminus
  timed : registry.hasTimers = true → ∀ expiry ∈ pending, expiry.delay ≠ 0 →
    registry.timerFor expiry ∈ later.timers
  timers : ∀ timer ∈ registry.timers, timer ∈ later.timers
  stayExpired : ∀ id, registry.HasExpired id → later.HasExpired id
  constants : later.now = registry.now ∧ later.hasTimers = registry.hasTimers

/-- An expiry that is called for finds its suspension, and the terminus is gone for good. -/
theorem Consistent.expireEpoch_of_called (consistent : registry.Consistent)
    {pending : PendingExpiry} (calls : registry.IsCalledFor pending) :
    ∃ seat later, registry.seat? pending.identifier.key = some seat ∧
      registry.expireEpoch pending.identifier (some pending.epoch) = (true, later) ∧
      later.Gone pending.identifier.key seat.entry.terminus ∧
      ∀ other, other ≠ pending.identifier.key → later.seat? other = registry.seat? other := by
  obtain ⟨seat, seated, isSuspended, sameEpoch⟩ := calls
  rcases consistent.expireEpoch_cases pending.identifier (some pending.epoch) with
    ⟨_, mismatch⟩ | ⟨found, later, isFound, _, _, expires, gone, others⟩
  · obtain ⟨wanted, isWanted, apart⟩ := mismatch seat seated isSuspended
    cases isWanted
    exact absurd sameEpoch.symm apart
  · exact ⟨found, later, isFound, expires, gone, others⟩

theorem Consistent.arrange_now (consistent : registry.Consistent) {pending : PendingExpiry}
    (calls : registry.IsCalledFor pending) (isZero : pending.delay = 0) :
    Arranges registry (registry.arrange pending).2 [pending] := by
  rw [arrange_of_delay_eq_zero registry isZero]
  obtain ⟨seat, later, seated, expires, gone, others⟩ := consistent.expireEpoch_of_called calls
  have chain := consistent.sound.expireEpoch_chain pending.identifier (some pending.epoch)
  have timers := registry.expireEpoch_timers pending.identifier (some pending.epoch)
  have isConsistent := consistent.expireEpoch pending.identifier (some pending.epoch)
  rw [expires] at chain timers isConsistent ⊢
  refine ⟨isConsistent, fun key delayed => ?_, fun expiry member _ found isFound => ?_,
    fun _ expiry member delayed => ?_, fun timer waits => ?_, fun id hasExpired => ?_,
    chain.constants.1, chain.constants.2.2⟩
  · apply others
    rintro rfl
    exact delayed pending (by simp) rfl isZero
  · obtain rfl := List.mem_singleton.1 member
    rw [seated] at isFound
    cases isFound
    exact gone
  · obtain rfl := List.mem_singleton.1 member
    exact absurd isZero delayed
  · rw [timers]
    exact waits
  · exact consistent.hasExpired_changes (by simp [Operation.direct?]) chain hasExpired

theorem Consistent.arrange_later (consistent : registry.Consistent) {pending : PendingExpiry}
    (delayed : pending.delay ≠ 0) :
    Arranges registry (registry.arrange pending).2 [pending] := by
  rw [arrange_of_delay_ne_zero registry delayed]
  refine ⟨consistent.setTimer pending, fun key _ => seat?_setTimer _ _,
    fun expiry member isZero => ?_, fun hasTimers expiry member _ => ?_, fun timer waits => ?_,
    fun id hasExpired => ?_, ?_⟩
  · obtain rfl := List.mem_singleton.1 member
    exact absurd isZero delayed
  · obtain rfl := List.mem_singleton.1 member
    simp [Registry.setTimer, hasTimers, timerFor]
  · rw [Registry.setTimer]
    split
    · exact List.mem_append_left _ waits
    · exact waits
  · rw [Registry.setTimer]
    split <;> exact hasExpired
  · rw [Registry.setTimer]
    split <;> exact ⟨rfl, rfl⟩

theorem Arranges.cons {between : Registry} {first : PendingExpiry} {rest : List PendingExpiry}
    (once : Arranges registry between [first]) (others : Arranges between later rest)
    (apart : ∀ expiry ∈ rest, expiry.identifier.key ≠ first.identifier.key) :
    Arranges registry later (first :: rest) := by
  refine ⟨others.consistent, fun key delayed => ?_, fun expiry member isZero seat seated => ?_,
    fun hasTimers expiry member delayed => ?_,
    fun timer waits => others.timers _ (once.timers _ waits),
    fun id hasExpired => others.stayExpired _ (once.stayExpired _ hasExpired),
    others.constants.1.trans once.constants.1, others.constants.2.trans once.constants.2⟩
  · refine (others.stays key fun expiry member => ?_).trans
      (once.stays key fun expiry isFirst => ?_)
    · exact delayed expiry (List.mem_cons_of_mem _ member)
    · obtain rfl := List.mem_singleton.1 isFirst
      exact delayed expiry List.mem_cons_self
  · rcases List.mem_cons.1 member with rfl | inRest
    · have gone := once.gone expiry (by simp) isZero seat seated
      refine ⟨others.consistent.sound.absent_of_seat? ?_, others.stayExpired _ gone.hasExpired⟩
      rw [others.stays, gone.seat?]
      exact fun other inRest same => absurd same (apart other inRest)
    · refine others.gone expiry inRest isZero seat ?_
      rw [once.stays, seated]
      intro other isFirst same
      obtain rfl := List.mem_singleton.1 isFirst
      exact absurd same.symm (apart expiry inRest)
  · rcases List.mem_cons.1 member with rfl | inRest
    · exact others.timers _ (once.timed hasTimers expiry (by simp) delayed)
    · have sameTimer : between.timerFor expiry = registry.timerFor expiry := by
        simp only [timerFor, wakeTime, once.constants.1]
      rw [← sameTimer]
      exact others.timed (once.constants.2.trans hasTimers) expiry inRest delayed

/-- Expiries of different identifiers are arranged one after the other. -/
theorem Consistent.arrangeAll (consistent : registry.Consistent) {pending : List PendingExpiry}
    (distinct : (pending.map (·.identifier.key)).Nodup)
    (calls : ∀ expiry ∈ pending, registry.IsCalledFor expiry) :
    Arranges registry (registry.arrangeAll pending) pending := by
  induction pending generalizing registry with
  | nil =>
      exact ⟨consistent, fun _ _ => rfl, by simp, by simp, fun _ waits => waits,
        fun _ hasExpired => hasExpired, rfl, rfl⟩
  | cons first rest ih =>
      rw [List.map_cons, List.nodup_cons] at distinct
      have apart (expiry : PendingExpiry) (member : expiry ∈ rest) :
          expiry.identifier.key ≠ first.identifier.key := by
        intro same
        exact distinct.1 (List.mem_map.2 ⟨expiry, member, same⟩)
      have once : Arranges registry (registry.arrange first).2 [first] := by
        by_cases isZero : first.delay = 0
        · exact consistent.arrange_now (calls first List.mem_cons_self) isZero
        · exact consistent.arrange_later isZero
      refine once.cons (ih once.consistent distinct.2 fun expiry member => ?_) apart
      rw [IsCalledFor, once.stays]
      · exact calls expiry (List.mem_cons_of_mem _ member)
      · intro other isFirst same
        obtain rfl := List.mem_singleton.1 isFirst
        exact absurd same.symm (apart expiry member)

/-! ## Attaching -/

/-- The link that another one displaces: the one that the terminus of its identifier has. -/
def displaced? (registry : Registry) (key : Identifier.Key) (id : LinkId) : Option LinkId :=
  ((registry.seat? key).bind (·.link)).filter (· != id)

/-- What is left when a link is attached, before the one it displaces is closed. -/
structure Attaches (registry later : Registry) (link : Link) (id : LinkId)
    (terminus : TerminusId) : Prop where
  seated : ∃ epoch, later.seat? link.identifier.key =
    some ⟨registry.enteredEntry link terminus, .active, epoch, some id⟩
  others : ∀ other, other ≠ link.identifier.key → later.seat? other = registry.seat? other
  same : ∀ seat, registry.seat? link.identifier.key = some seat → seat.entry.terminus = terminus
  leaves : LeavesLinks registry later

/-- What is left when a terminus has been entered for a link, a new one or the one that is
there. -/
structure Enters (registry entered : Registry) (link : Link) (id : TerminusId)
    (terminus : Terminus) : Prop where
  entries : entered.entries =
    registry.entries.insert link.identifier.key (registry.enteredEntry link id)
  puts : Puts registry.termini id terminus entered.termini
  lives : terminus.phase ≠ .expired
  isLink : terminus.link = (registry.seat? link.identifier.key).bind (·.link)
  same : ∀ seat, registry.seat? link.identifier.key = some seat → seat.entry.terminus = id
  apart : ∀ other entry, other ≠ link.identifier.key →
    registry.entries.get? other = some entry → entry.terminus ≠ id

/-- A terminus that has not expired is always entered, as none of the table has. -/
theorem Consistent.enters (consistent : registry.Consistent) (link : Link) :
    ∃ id terminus entered, registry.enter link = (id, entered) ∧
      Enters registry entered link id terminus := by
  rcases consistent.sound.enter_cases link with
    ⟨fresh, terminus, termini, absent, isNew, _, noLink, isActive, created, entered⟩ |
    ⟨old, terminus, termini, present, known, updated, entered⟩
  · refine ⟨fresh, terminus, _, entered, rfl, created, ?_, ?_, fun seat seated => ?_,
      fun other entry _ isOther => consistent.terminus_ne_of_new isNew entry isOther⟩
    · rw [isActive]
      exact Phase.noConfusion
    · rw [noLink, seat?_of_absent absent, Option.bind_none]
    · rw [seat?_of_absent absent] at seated
      cases seated
  · have seated := seat?_eq present known
    refine ⟨old.terminus, _, _, entered, rfl, updated, consistent.seat_lives seated, ?_,
      fun seat isFound => ?_,
      fun other entry isOther there => consistent.sound.terminus_ne present there isOther⟩
    · rw [seated]
      rfl
    · rw [seated] at isFound
      cases isFound
      rfl

/-- The registry when the link that another one has displaced, if any, is closed. -/
def closeDisplaced (registry : Registry) (identifier : Identifier) : Option LinkId → Registry
  | none => registry
  | some previous => registry.steal identifier previous

@[simp] theorem seat?_closeDisplaced (registry : Registry) (identifier : Identifier)
    (displaced : Option LinkId) :
    (registry.closeDisplaced identifier displaced).seat? key = registry.seat? key := by
  cases displaced with
  | none => rfl
  | some previous =>
      simp only [closeDisplaced, steal]
      split
      · rfl
      · split <;> rfl

/-- Taking over attaches the link and closes the one that it displaces. -/
theorem Consistent.takeOver_eq (consistent : registry.Consistent) (link : Link) (id : LinkId) :
    ∃ terminus attached, Attaches registry attached link id terminus ∧
      registry.takeOver link id = (.ok terminus,
        attached.closeDisplaced link.identifier
          (registry.displaced? link.identifier.key id)) := by
  obtain ⟨terminus, found, entered, enters, isEntered⟩ := consistent.enters link
  rcases associate_cases entered isEntered.puts.self id with ⟨_, _, hasExpired⟩ |
    ⟨displaced, grown, channel, termini, associated, puts, changed⟩
  · exact absurd hasExpired isEntered.lives
  · obtain rfl : displaced = registry.displaced? link.identifier.key id := by
      rw [Terminus.displaced_eq associated, isEntered.isLink, displaced?]
    let attached : Registry := { entered with
      termini, channel, suspended := entered.suspended.erase link.identifier.key }
    refine ⟨terminus, attached, ⟨⟨grown.epoch, ?_⟩, fun other isOther => ?_, isEntered.same,
      .entered enters changed⟩, ?_⟩
    · have present : attached.entries.get? link.identifier.key =
          some (registry.enteredEntry link terminus) := by
        change entered.entries.get? link.identifier.key = _
        rw [isEntered.entries, SortedMap.get?_insert_self]
      rw [seat?_eq present puts.self, Seat.of, (Terminus.of_associate associated).2]
    · refine seat?_of_puts (isEntered.puts.trans puts) ?_ fun entry present =>
        isEntered.apart other entry isOther present
      exact isEntered.entries ▸ SortedMap.get?_insert_of_ne _ _ isOther
    · simp only [takeOver, enters, changed]
      cases registry.displaced? link.identifier.key id <;> rfl

/-- What is left to be dropped, or may be, changes nothing for termini. -/
theorem prepare_cases (registry : Registry) (identifier : Identifier) :
    ∃ storage purging, (registry.prepare identifier).2 = { registry with storage, purging } ∧
      ((registry.prepare identifier).1 ≠ .ok () → purging = registry.purging) := by
  simp only [prepare]
  split
  · exact ⟨_, _, rfl, fun _ => rfl⟩
  · rcases finishPurge_cases registry identifier with
      ⟨unchanged, _⟩ | ⟨error, _, failed⟩ | ⟨count, _, dropped⟩
    · rw [unchanged]
      exact ⟨_, _, rfl, fun _ => rfl⟩
    · rw [failed]
      exact ⟨_, _, rfl, fun _ => rfl⟩
    · rw [dropped]
      exact ⟨_, _, rfl, fun notOk => absurd rfl notOk⟩

theorem prepare_of_present {identifier : Identifier} {entry : Entry}
    (present : registry.entries.get? identifier.key = some entry) :
    registry.prepare identifier = (.ok (), registry) := by
  simp only [prepare, entry?, present]

theorem Consistent.prepare (consistent : registry.Consistent) (identifier : Identifier) :
    (registry.prepare identifier).2.Consistent := by
  simp only [Registry.prepare]
  split
  · exact consistent
  · next absent =>
      have purges := (finishPurge_purging (.expire identifier) absent).1
      exact consistent.changes (by simp [Operation.direct?]) purges.changes

theorem isHeldByOther_eq (registry : Registry) (identifier : Identifier) (id : LinkId) :
    registry.isHeldByOther identifier id =
      (registry.displaced? identifier.key id).any registry.isOpen := by
  simp only [isHeldByOther, entry?, displaced?, seat?, hasLiveLink, isAssociated, linkOf]
  cases registry.entries.get? identifier.key with
  | none => rfl
  | some entry =>
      simp only [Option.any_some, Option.bind_some]
      cases registry.termini[entry.terminus]? with
      | none => rfl
      | some terminus =>
          simp only [Option.bind_some, Option.map_some, Seat.of]
          cases terminus.link with
          | none => rfl
          | some link =>
              by_cases same : link = id
              · simp [same]
              · simp [same, Option.filter_some]

/-- A link that is registered is attached, and the one that it displaces is closed; or the
registration fails, and only the store may have been called. -/
theorem Consistent.register_cases (consistent : registry.Consistent) (id : LinkId)
    (exclusive : Bool) :
    (∃ error storage, registry.register id exclusive = (.error error, { registry with storage })) ∨
      ∃ link terminus attached, registry.links[id]? = some link ∧
        Attaches registry attached link id terminus ∧
        (exclusive = true →
          (registry.displaced? link.identifier.key id).any registry.isOpen = false) ∧
        registry.register id exclusive = (.ok terminus,
          attached.closeDisplaced link.identifier
            (registry.displaced? link.identifier.key id)) := by
  simp only [register]
  cases known : registry.links[id]? with
  | none => exact .inl ⟨_, registry.storage, rfl⟩
  | some link =>
      simp only [attach]
      obtain ⟨storage, purging, isPrepared, keepsPurging⟩ :=
        registry.prepare_cases link.identifier
      have isConsistent := consistent.prepare link.identifier
      rcases prepared : registry.prepare link.identifier with ⟨error | _, ready⟩
      · rw [prepared] at isPrepared keepsPurging
        obtain rfl := isPrepared
        obtain rfl := keepsPurging (by simp)
        exact .inl ⟨_, storage, rfl⟩
      · rw [prepared] at isPrepared isConsistent
        obtain rfl := isPrepared
        simp only [isHeldByOther_eq]
        split
        · next held =>
            -- Where a link is displaced there is a terminus, and nothing was to be prepared.
            rw [Bool.and_eq_true] at held
            cases seated : registry.seat? link.identifier.key with
            | none =>
                have isDisplaced := held.2
                change ((registry.seat? _).bind _ |>.filter _).any _ = true at isDisplaced
                rw [seated] at isDisplaced
                cases isDisplaced
            | some seat =>
                have unchanged := prepare_of_present (entry_of_seat? seated)
                rw [prepared, Prod.mk.injEq] at unchanged
                rw [unchanged.2]
                exact .inl ⟨_, registry.storage, rfl⟩
        · next free =>
            obtain ⟨terminus, attached, attaches, takesOver⟩ := isConsistent.takeOver_eq link id
            refine .inr ⟨link, terminus, attached, rfl,
              ⟨attaches.seated, attaches.others, attaches.same, attaches.leaves.links,
                attaches.leaves.thefts⟩, ?_, takesOver⟩
            intro isExclusive
            rw [isExclusive, Bool.true_and, Bool.not_eq_true] at free
            exact free

/-- Where there is a terminus nothing is to be prepared: a link is attached to it, unless that
is to be exclusive and another live link has it. -/
theorem register_of_seated {id : LinkId} {link : Link} (known : registry.links[id]? = some link)
    (seated : registry.seat? link.identifier.key = some seat) (exclusive : Bool) :
    registry.register id exclusive =
      if exclusive && (registry.displaced? link.identifier.key id).any registry.isOpen then
        (.error (.fault (.duplicateTerminus link.identifier)), registry)
      else
        registry.takeOver link id := by
  simp only [register, known, attach, prepare_of_present (entry_of_seat? seated),
    isHeldByOther_eq]

/-! ## Putting in and taking out -/

/-- What is left when a terminus has been put into the table, before its expiry is arranged. -/
structure Seeds (registry later : Registry) (id : TerminusId) (terminus : Terminus) : Prop where
  known : registry.termini[id]? = some terminus
  vacant : registry.seat? terminus.identifier.key = none
  seated : later.seat? terminus.identifier.key =
    some (.of (registry.seededEntry id terminus) terminus)
  others : ∀ other, other ≠ terminus.identifier.key → later.seat? other = registry.seat? other
  constants : later.now = registry.now ∧ later.hasTimers = registry.hasTimers

/-- The expiry that a terminus calls for when it is put into the table. -/
def seededExpiry (registry : Registry) (id : TerminusId) (terminus : Terminus) :
    List PendingExpiry :=
  if terminus.phase = .suspended then
    [⟨terminus.identifier, terminus.epoch, (registry.seededEntry id terminus).timeout⟩]
  else
    []

theorem mem_seededExpiry_iff {id : TerminusId} {terminus : Terminus} {expiry : PendingExpiry} :
    expiry ∈ registry.seededExpiry id terminus ↔ terminus.phase = .suspended ∧
      expiry =
        ⟨terminus.identifier, terminus.epoch, (registry.seededEntry id terminus).timeout⟩ := by
  unfold seededExpiry
  split
  · next isSuspended => simp [isSuspended]
  · next notSuspended => simp [notSuspended]

/-- A terminus is put into the table and, if it is suspended, its expiry arranged; or nothing
happens to the table. -/
theorem Consistent.tryAdd_cases (consistent : registry.Consistent) (id : TerminusId) :
    (registry.tryAdd id).1 = false ∧
        (∀ key, (registry.tryAdd id).2.seat? key = registry.seat? key) ∨
      ∃ terminus seeded, (registry.tryAdd id).1 = true ∧ Seeds registry seeded id terminus ∧
        Arranges seeded (registry.tryAdd id).2 (registry.seededExpiry id terminus) := by
  rw [tryAdd_eq]
  rcases accept_cases (.tryAdd id) registry id with ⟨purged, purges, accepted⟩ |
    ⟨terminus, purged, known, absent, lives, purges, isPurged, accepted⟩
  · left
    rw [accepted]
    refine ⟨rfl, fun key => seat?_congr (by rw [arrangeAll_nil, purges.entries]) ?_⟩
    intro entry _
    rw [arrangeAll_nil, purges.termini]
  · right
    obtain ⟨changes, _⟩ := purges.seed consistent.sound known absent isPurged lives
    have spares : ∀ other ∈ (Operation.tryAdd id).direct?, ¬registry.Holds other := by
      simp [Operation.direct?]
    have isConsistent := consistent.changes spares changes
    have sameEntry : purged.seededEntry id terminus = registry.seededEntry id terminus := by
      rw [seededEntry, seededEntry, purges.config]
    have seeds : Seeds registry (purged.seed id terminus).2 id terminus := by
      refine ⟨known, seat?_of_absent absent, ?_, fun other apart => ?_, changes.constants.1,
        changes.constants.2.2⟩
      · rw [seed_eq, ← sameEntry]
        refine seat?_eq (SortedMap.get?_insert_self _ _ _) ?_
        rw [purges.termini]
        exact known
      · rw [seed_eq]
        refine seat?_congr ?_ fun entry _ => by rw [purges.termini]
        rw [SortedMap.get?_insert_of_ne _ _ apart, purges.entries]
    have called : (purged.seed id terminus).1.toList = registry.seededExpiry id terminus := by
      rw [seededExpiry, ← sameEntry]
      simp only [seed]
      split <;> rfl
    rw [accepted]
    refine ⟨terminus, _, rfl, seeds, ?_⟩
    rw [called]
    refine isConsistent.arrangeAll ?_ fun expiry member => ?_
    · unfold seededExpiry
      split <;> simp
    · obtain ⟨isSuspended, rfl⟩ := mem_seededExpiry_iff.1 member
      exact ⟨_, seeds.seated, isSuspended, rfl⟩

theorem seat?_tryRemove (registry : Registry) (identifier : Identifier) :
    (registry.tryRemove identifier).2.seat? key =
      if key = identifier.key then none else registry.seat? key := by
  simp only [tryRemove, seat?]
  split
  · next same => rw [same, SortedMap.get?_erase_self, Option.bind_none]
  · next apart => rw [SortedMap.get?_erase_of_ne _ apart]

end Registry

end Reattach
