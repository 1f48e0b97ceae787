import Reattach.Proofs.NeverPolicy
import Reattach.Proofs.Purging
import Reattach.Proofs.Refusals
import Reattach.Proofs.Separation

/-!
# Termini that are not to outlive their links

A terminus without an expiry policy is not recoverable: it is to be kept no longer than its link.
What decides how long it is kept is not the policy but the timeout, which such a terminus always
has from the configuration of its registry.  So it is gone when its link is if that timeout is
zero, and is kept for the next link, records and all, if it is not.
-/

namespace Reattach

/-! ## Where policies and timeouts come from -/

theorem ExpiryPolicy.ofSymbol?_ne_unspecified (symbol : String) :
    ofSymbol? symbol ≠ some .unspecified := by
  intro found
  have isNamed := List.find?_some found
  cases isNamed

/-- That the policy and the timeout of an entry are those that some settings come to. -/
def Entry.IsResolved (entry : Entry) (config : Config) : Prop :=
  ∃ settings, (entry.policy, entry.timeout) = config.resolve settings

/-- No settings ask for an unspecified policy, so one that there is comes from the registry, and
the timeout with it. -/
theorem Entry.IsResolved.timeout_eq {entry : Entry} {config : Config}
    (isResolved : entry.IsResolved config) (isUnspecified : entry.policy = .unspecified) :
    entry.timeout = config.expiryTimeoutMillis.toNat := by
  obtain ⟨settings, same⟩ := isResolved
  simp only [Config.resolve] at same
  split at same
  · next expiry asked =>
      simp only [Settings.expiry?, Address.expiry?, Option.bind_eq_bind, Option.bind_eq_some_iff,
        Option.some.injEq] at asked
      obtain ⟨symbol, _, policy, found, rfl⟩ := asked
      obtain rfl : entry.policy = policy := (Prod.mk.inj same).1
      rw [isUnspecified] at found
      exact absurd found (ExpiryPolicy.ofSymbol?_ne_unspecified symbol)
  · exact (Prod.mk.inj same).2

namespace Registry

variable {operation : Operation} {registry between later : Registry}
variable {key : Identifier.Key} {entry : Entry} {seat : Seat} {id : TerminusId}

/-- That each entry was there before, or tells what some settings come to. -/
structure Retells (registry later : Registry) : Prop where
  config : later.config = registry.config
  entries : ∀ key entry, later.entries.get? key = some entry →
    registry.entries.get? key = some entry ∨ entry.IsResolved registry.config

namespace Retells

theorem of_fewer (config : later.config = registry.config)
    (fewer : ∀ key entry, later.entries.get? key = some entry →
      registry.entries.get? key = some entry) : Retells registry later :=
  ⟨config, fun key entry present => .inl (fewer key entry present)⟩

theorem refl (registry : Registry) : Retells registry registry :=
  of_fewer rfl fun _ _ present => present

theorem trans (first : Retells registry between) (second : Retells between later) :
    Retells registry later := by
  refine ⟨second.config.trans first.config, fun key entry present => ?_⟩
  rcases second.entries key entry present with wasPresent | isResolved
  · exact first.entries key entry wasPresent
  · exact .inr (first.config ▸ isResolved)

theorem insert (config : later.config = registry.config)
    (entries : later.entries = registry.entries.insert key entry)
    (isResolved : entry.IsResolved registry.config) : Retells registry later := by
  refine ⟨config, fun other found present => ?_⟩
  rw [entries] at present
  rcases SortedMap.get?_insert_eq_some_iff.1 present with ⟨_, rfl⟩ | ⟨_, wasPresent⟩
  · exact .inr isResolved
  · exact .inl wasPresent

theorem moveTerminus (registry : Registry) (id : TerminusId) (terminus : Terminus)
    (event : Event) : Retells registry (registry.moveTerminus id terminus event) := by
  obtain ⟨channel, moved⟩ := moveTerminus_eq registry id terminus event
  rw [moved]
  exact of_fewer rfl fun _ _ present => present

theorem expireEpoch (sound : registry.Sound) (identifier : Identifier) (epoch : Option Nat) :
    Retells registry (registry.expireEpoch identifier epoch).2 := by
  rcases sound.expireEpoch_cases identifier epoch with ⟨unchanged, _⟩ |
    ⟨_, _, _, _, _, _, _, _, _, _, changed⟩
  · rw [unchanged]
    exact refl registry
  · rw [changed]
    exact of_fewer rfl fun _ _ present => (SortedMap.get?_erase_eq_some_iff.1 present).2

theorem arrange (sound : registry.Sound) (pending : PendingExpiry) :
    Retells registry (registry.arrange pending).2 := by
  by_cases isZero : pending.delay = 0
  · rw [arrange_of_delay_eq_zero registry isZero]
    exact expireEpoch sound _ _
  · rw [arrange_of_delay_ne_zero registry isZero, setTimer]
    split <;> exact of_fewer rfl fun _ _ present => present

end Retells

theorem Sound.setTimer (sound : registry.Sound) (pending : PendingExpiry) :
    (registry.setTimer pending).Sound := by
  unfold Registry.setTimer
  split <;> exact ⟨sound.keyed, sound.noted⟩

/-- An expiry that is arranged leaves the table sound, whether or not it was called for. -/
theorem Sound.of_arrange (sound : registry.Sound) (pending : PendingExpiry) :
    (registry.arrange pending).2.Sound := by
  by_cases isZero : pending.delay = 0
  · rw [arrange_of_delay_eq_zero registry isZero]
    exact sound.changes (sound.expireEpoch_chain _ _)
  · rw [arrange_of_delay_ne_zero registry isZero]
    exact sound.setTimer pending

namespace Retells

theorem arrangeAll (sound : registry.Sound) (pending : List PendingExpiry) :
    Retells registry (registry.arrangeAll pending) := by
  induction pending generalizing registry with
  | nil => exact refl registry
  | cons expiry rest ih => exact (arrange sound expiry).trans (ih (sound.of_arrange expiry))

theorem suspending (stage : Suspending .snapshot registry later) : Retells registry later :=
  of_fewer stage.changes.constants.2.1 fun _ _ present => stage.entries ▸ present

theorem accept (registry : Registry) (id : TerminusId) :
    Retells registry (registry.accept id).2 := by
  have purges {purged : Registry} (purges : Purging (.tryAdd id) registry purged) :
      Retells registry purged :=
    of_fewer purges.config fun _ _ present => purges.entries ▸ present
  rcases accept_cases (.tryAdd id) registry id with ⟨purged, isPurged, refused⟩ |
    ⟨terminus, purged, _, _, _, isPurged, _, accepted⟩
  · rw [refused]
    exact purges isPurged
  · rw [accepted, seed_eq]
    exact (purges isPurged).trans (insert rfl rfl ⟨terminus.settings, rfl⟩)

theorem closeDisplaced (registry : Registry) (identifier : Identifier)
    (displaced : Option LinkId) :
    Retells registry (registry.closeDisplaced identifier displaced) := by
  obtain ⟨_, _, closed, _⟩ := closeDisplaced_eq registry identifier displaced
  rw [closed]
  exact of_fewer rfl fun _ _ present => present

theorem enter (sound : registry.Sound) (link : Link) :
    Retells registry (registry.enter link).2 := by
  rcases sound.enter_cases link with ⟨_, _, _, _, _, _, _, _, _, entered⟩ |
    ⟨_, _, _, _, _, _, entered⟩
  · rw [entered]
    exact insert rfl rfl ⟨link.settings, rfl⟩
  · rw [entered]
    exact insert rfl rfl ⟨link.settings, rfl⟩

theorem takeOver (sound : registry.Sound) (link : Link) (id : LinkId) :
    Retells registry (registry.takeOver link id).2 := by
  have enters := enter sound link
  obtain ⟨terminus, _, isThere, _⟩ := sound.enter_spec link
  rcases entered : registry.enter link with ⟨whose, ready⟩
  rw [entered] at enters isThere
  rcases takeOver_cases entered isThere id with ⟨error, refused⟩ |
    ⟨displaced, grown, _, taken⟩
  · rw [refused]
    exact enters
  · rw [taken]
    have moves := enters.trans (moveTerminus ready whose grown (.associated grown.identifier))
    refine (moves.trans ?_).trans (closeDisplaced _ _ _)
    exact of_fewer rfl fun _ _ present => present

theorem register (sound : registry.Sound) (id : LinkId) (exclusive : Bool) :
    Retells registry (registry.register id exclusive).2 := by
  simp only [Registry.register]
  cases registry.links[id]? with
  | none => exact refl registry
  | some link =>
      obtain ⟨storage, purging, isPrepared, _⟩ := registry.prepare_cases link.identifier
      have prepares : Retells registry { registry with storage, purging } :=
        of_fewer rfl fun _ _ present => present
      have soundThen : Sound { registry with storage, purging } := ⟨sound.keyed, sound.noted⟩
      simp only [attach]
      rcases prepared : registry.prepare link.identifier with ⟨error | _, ready⟩
      · rw [prepared] at isPrepared
        obtain rfl := isPrepared
        exact prepares
      · rw [prepared] at isPrepared
        obtain rfl := isPrepared
        simp only
        split
        · exact prepares
        · exact prepares.trans (takeOver soundThen link id)

end Retells

theorem Sound.retells_after (sound : registry.Sound) (operation : Operation) :
    Retells registry (registry.after operation) := by
  -- Only links that are registered and termini that are put in are told anew.
  have same {later : Registry} (config : later.config = registry.config)
      (entries : later.entries = registry.entries) : Retells registry later :=
    .of_fewer config fun _ _ present => entries ▸ present
  have arranges : Retells registry (registry.arranged operation).2 := by
    cases operation with
    | suspend id departure => exact .suspending (sound.detach_suspending id departure).1
    | endSession session order | closeConnection connection order =>
        exact .suspending (sound.candidates_suspending _ _ order).1
    | tryAdd id => exact .accept registry id
    | register id exclusive => exact .register sound id exclusive
    | expire identifier => exact .expireEpoch sound identifier none
    | tryRemove identifier =>
        exact .of_fewer rfl fun _ _ present => (SortedMap.get?_erase_eq_some_iff.1 present).2
    | snapshot =>
        obtain ⟨storage, described⟩ := describeAll_eq registry.entries.values registry
        change Retells registry (registry.describeAll registry.entries.values).2
        rw [described]
        exact same rfl rfl
    | updateSettings id settings =>
        change Retells registry (registry.updateSettings id settings)
        simp only [updateSettings]
        split <;> exact same rfl rfl
    | associate id link =>
        change Retells registry (registry.associate id link).2
        simp only [associate]
        split
        · exact same rfl rfl
        · split
          · exact same rfl rfl
          · exact .moveTerminus _ _ _ _
    | suspendTerminus id =>
        change Retells registry (registry.suspendTerminus id).2
        simp only [suspendTerminus]
        split
        · exact same rfl rfl
        · exact .moveTerminus _ _ _ _
    | expireTerminus id epoch =>
        change Retells registry (registry.expireTerminus id epoch).2
        simp only [expireTerminus]
        split
        · exact same rfl rfl
        · exact .moveTerminus _ _ _ _
    | closeLink id =>
        change Retells registry (registry.closeLink id)
        simp only [closeLink]
        split <;> exact same rfl rfl
    | failOnSteal id fails =>
        simp only [arranged, after, Operation.isInstant, if_true, Watch.perform, Watch.onLink]
        split <;> exact same rfl rfl
    | noteDelivery | settleDelivery | planRecovery =>
        simp only [arranged, after, Operation.isInstant, if_true, Watch.perform, Watch.onTerminus]
        split <;> exact same rfl rfl
    | openLink | createTerminus | applyPlan | callStore | setOutages | wait | await | cancel =>
        exact same rfl rfl
  rw [after_eq_arrangeAll]
  exact arranges.trans (.arrangeAll (sound.changes (sound.arranged_changes operation).1) _)

theorem Sound.retells_follow (sound : registry.Sound) (moves : List Move) :
    Retells registry (registry.follow moves) := by
  induction moves generalizing registry with
  | nil => exact .refl registry
  | cons first rest ih =>
      refine Retells.trans ?_ (ih (sound.move first))
      cases first with
      | act operation => exact sound.retells_after operation
      | pass time => exact .of_fewer rfl fun _ _ present => present
      | fire index =>
          have drops : Retells registry (registry.dropTimer index) :=
            .of_fewer rfl fun _ _ present => present
          rw [Registry.move]
          refine fire_induction index (.refl registry) fun timer => ?_
          exact drops.trans (.expireEpoch (sound.dropTimer index) _ _)

/-- Where a table was empty at first, the timeout of every entry without a policy is that of the
registry. -/
theorem timeout_of_unspecified (config : Config) (storage : Storage) (hasTimers : Bool)
    (moves : List Move)
    (present : (Registry.follow { create config storage with hasTimers } moves).entries.get? key =
      some entry)
    (isUnspecified : entry.policy = .unspecified) :
    entry.timeout = config.expiryTimeoutMillis.toNat := by
  have retells := (Sound.create config storage hasTimers).retells_follow moves
  rcases retells.entries key entry present with isOld | isResolved
  · cases isOld
  · exact isResolved.timeout_eq isUnspecified

/-! ## A seat whose link goes away -/

theorem linkOf_of_seat? (seated : registry.seat? key = some seat) :
    registry.linkOf seat.entry.terminus = seat.link := by
  obtain ⟨entry, terminus, _, known, rfl⟩ := seat?_eq_some_iff.1 seated
  simp [linkOf, Seat.of, known]

namespace OnlyActiveLinked

theorem seat_linked (linked : registry.OnlyActiveLinked) (seated : registry.seat? key = some seat)
    {link : LinkId} (isLink : seat.link = some link) : seat.phase = .active := by
  obtain ⟨entry, terminus, _, known, rfl⟩ := seat?_eq_some_iff.1 seated
  apply linked _ terminus known
  intro noLink
  exact Option.some_ne_none link (isLink.symm.trans noLink)

theorem linkOf_of_expired (linked : registry.OnlyActiveLinked)
    (hasExpired : registry.HasExpired id) : registry.linkOf id = none := by
  obtain ⟨terminus, known, isExpired⟩ := hasExpired
  rw [linkOf, known, Option.bind_some]
  by_contra isLinked
  have isActive := linked _ terminus known isLinked
  rw [isExpired] at isActive
  cases isActive

end OnlyActiveLinked

theorem LeavesOthers.seat?_eq (leaves : LeavesOthers key registry later) (sound : registry.Sound)
    {other : Identifier.Key} (apart : other ≠ key) :
    later.seat? other = registry.seat? other := by
  refine seat?_congr (leaves.entries other apart) fun entry present => ?_
  obtain ⟨terminus, known, isOwn⟩ := sound.keyed present
  rw [known]
  exact (leaves.termini _ terminus (isOwn ▸ apart)).2 known

/-- What arranging expiries leaves of an identifier that none of them is for, or only such as have
a delay. -/
theorem Sound.arrangeAll_stays (sound : registry.Sound) {pending : List PendingExpiry}
    (delayed : ∀ expiry ∈ pending, expiry.identifier.key = key → expiry.delay ≠ 0) :
    (registry.arrangeAll pending).Sound ∧
      (registry.arrangeAll pending).seat? key = registry.seat? key ∧
      (registry.arrangeAll pending).suspended.get? key = registry.suspended.get? key := by
  induction pending generalizing registry with
  | nil => exact ⟨sound, rfl, rfl⟩
  | cons first rest ih =>
      obtain ⟨soundThen, seats, notes⟩ := ih (sound.of_arrange first) fun expiry member =>
        delayed expiry (List.mem_cons_of_mem _ member)
      rw [arrangeAll_cons, seats, notes]
      refine ⟨soundThen, ?_⟩
      by_cases same : first.identifier.key = key
      · rw [arrange_of_delay_ne_zero registry (delayed first List.mem_cons_self same)]
        refine ⟨seat?_setTimer _ _, ?_⟩
        simp only [Registry.setTimer]
        split <;> rfl
      · have leaves := LeavesOthers.arrange sound first
        exact ⟨leaves.seat?_eq sound (Ne.symm same), leaves.suspended key (Ne.symm same)⟩

theorem Sound.gone_of_expireEpoch (sound : registry.Sound) {identifier : Identifier} {epoch : Nat}
    (seated : registry.seat? identifier.key = some seat) (isSuspended : seat.phase = .suspended)
    (isEpoch : seat.epoch = epoch)
    (noted : registry.suspended.get? identifier.key = some epoch) :
    (registry.expireEpoch identifier (some epoch)).2.Gone identifier.key seat.entry.terminus := by
  rcases sound.expireEpoch_cases identifier (some epoch) with ⟨_, mismatch⟩ |
    ⟨found, entry, terminus, channel, termini, note, _, present, known, puts, changed⟩
  · obtain ⟨wanted, isWanted, apart⟩ := mismatch epoch noted
    exact absurd (Option.some.inj isWanted).symm apart
  · have standing := seat?_eq present known
    rw [seated, Option.some.injEq] at standing
    subst standing
    rw [noted, Option.some.injEq] at note
    subst note
    have expires : (terminus.expire (some epoch)).isSome = true := by
      refine Terminus.expire_isSome_iff.2 ⟨isSuspended, fun wanted isWanted => ?_⟩
      exact (Option.some.inj isWanted).symm.trans isEpoch.symm
    obtain ⟨grown, expired⟩ := Option.isSome_iff_exists.1 expires
    rw [expired, Option.getD_some] at puts
    have hasExpired : grown.phase = .expired := by rw [(Terminus.of_expire expired).2.2]
    rw [changed]
    exact ⟨SortedMap.get?_erase_self _ _, grown, puts.self, hasExpired⟩

/-- Of expiries of different identifiers, the one that has no delay ends the suspension that it
is for. -/
theorem Sound.gone_of_arrangeAll (sound : registry.Sound) {pending : List PendingExpiry}
    (distinct : (pending.map (·.identifier.key)).Nodup) {expiry : PendingExpiry}
    (member : expiry ∈ pending) (isZero : expiry.delay = 0)
    (seated : registry.seat? expiry.identifier.key = some seat)
    (isSuspended : seat.phase = .suspended) (isEpoch : seat.epoch = expiry.epoch)
    (noted : registry.suspended.get? expiry.identifier.key = some expiry.epoch) :
    (registry.arrangeAll pending).Gone expiry.identifier.key seat.entry.terminus := by
  -- What is arranged before it and after it is for other identifiers, and leaves this one alone.
  obtain ⟨earlier, rest, rfl⟩ := List.append_of_mem member
  rw [List.map_append, List.map_cons, List.nodup_append, List.nodup_cons] at distinct
  obtain ⟨_, ⟨notLater, _⟩, notEarlier⟩ := distinct
  have isBefore (other : PendingExpiry) (isOther : other ∈ earlier)
      (same : other.identifier.key = expiry.identifier.key) : other.delay ≠ 0 :=
    absurd same (notEarlier _ (List.mem_map_of_mem isOther) _ List.mem_cons_self)
  have isAfter (other : PendingExpiry) (isOther : other ∈ rest)
      (same : other.identifier.key = expiry.identifier.key) : other.delay ≠ 0 :=
    absurd (same ▸ List.mem_map_of_mem isOther) notLater
  obtain ⟨soundThen, seats, notes⟩ := sound.arrangeAll_stays isBefore
  have gone := soundThen.gone_of_expireEpoch (seats.trans seated) isSuspended isEpoch
    (notes.trans noted)
  rw [arrangeAll_append, arrangeAll_cons, arrange_of_delay_eq_zero _ isZero]
  obtain ⟨soundAtLast, seatsAtLast, _⟩ :=
    (soundThen.changes (soundThen.expireEpoch_chain _ _)).arrangeAll_stays isAfter
  have evolves (before : Registry) : Evolves .snapshot before (before.arrangeAll rest) :=
    .arrangeAll before rest
  exact ⟨soundAtLast.absent_of_seat? (seatsAtLast.trans gone.seat?),
    (evolves _).hasExpired gone.hasExpired⟩

end Registry

/-- Whether an operation tells the registry that links go away. -/
def Operation.departs : Operation → Bool
  | .suspend _ _ | .endSession _ _ | .closeConnection _ _ => true
  | _ => false

namespace Registry

variable {operation : Operation} {registry later : Registry}
variable {key : Identifier.Key} {seat : Seat}

/-- What an operation does that tells of links that go away: the identifiers that it reaches
depart together. -/
structure DepartsWith (registry : Registry) (operation : Operation) (departure : Departure)
    (candidates : List (Identifier × Entry)) : Prop where
  distinct : (candidates.map (·.1.key)).Nodup
  eligible : ∀ candidate ∈ candidates,
    registry.entries.get? candidate.1.key = some candidate.2 ∧
      candidate.2.policy.qualifies departure = true
  listed : ∀ key seat, registry.seat? key = some seat →
    (key ∈ candidates.map (·.1.key) ↔ registry.Reaches key seat (.act operation))
  after : registry.after operation =
    (registry.suspendAll candidates).2.arrangeAll (registry.suspendAll candidates).1

namespace DepartsWith

variable {departure : Departure} {candidates : List (Identifier × Entry)}

/-- The active terminus of an identifier that is reached is gone if it has no time, and suspended
and noted if it has. -/
theorem of_reached (departs : registry.DepartsWith operation departure candidates)
    (sound : registry.Sound) (seated : registry.seat? key = some seat)
    (isActive : seat.phase = .active) (reached : registry.Reaches key seat (.act operation)) :
    (seat.entry.timeout = 0 → (registry.after operation).Gone key seat.entry.terminus) ∧
      (seat.entry.timeout ≠ 0 →
        (registry.after operation).seat? key = some seat.suspended ∧
        (registry.after operation).suspended.get? key = some (seat.epoch + 1)) := by
  have listed := (departs.listed key seat seated).2 reached
  have areOf := fun candidate member => (departs.eligible candidate member).1
  obtain ⟨stage, calls, _⟩ :=
    (Suspending.start .snapshot registry).suspendAll sound departs.eligible
  have stagedSound := sound.changes stage.changes
  obtain ⟨called, seats⟩ := sound.suspendAll_eq departs.distinct departs.eligible
  have seatedThen : (registry.suspendAll candidates).2.seat? key = some seat.suspended := by
    rw [seats, seated, Option.map_some, Seat.suspendedIn, if_pos ⟨isActive, listed⟩]
  obtain ⟨expiry, isCalled, rfl, isEpoch, isDelay⟩ := exists_called areOf listed seated isActive
  rw [← called] at isCalled
  have noted := (calls expiry isCalled).noted
  rw [departs.after]
  constructor
  · intro isZero
    have areDistinct : ((registry.suspendAll candidates).1.map (·.identifier.key)).Nodup := by
      rw [called]
      exact nodup_called departs.distinct
    have gone := stagedSound.gone_of_arrangeAll areDistinct isCalled (isDelay.trans isZero)
      seatedThen rfl isEpoch.symm noted
    exact gone
  · intro lasts
    have delayed (other : PendingExpiry) (isOther : other ∈ (registry.suspendAll candidates).1)
        (same : other.identifier.key = expiry.identifier.key) : other.delay ≠ 0 := by
      rw [called] at isOther
      obtain ⟨_, found, isFound, _, _, itsDelay⟩ := of_mem_called areOf isOther
      rw [same, seated] at isFound
      cases isFound
      rwa [itsDelay]
    obtain ⟨_, seatsThen, notes⟩ := stagedSound.arrangeAll_stays delayed
    exact ⟨seatsThen.trans seatedThen, notes.trans (isEpoch ▸ noted)⟩

/-- What is not reached stays. -/
theorem of_unreached (departs : registry.DepartsWith operation departure candidates)
    (sound : registry.Sound) (seated : registry.seat? key = some seat)
    (unreached : ¬registry.Reaches key seat (.act operation)) :
    (registry.after operation).seat? key = some seat := by
  have unlisted := mt (departs.listed key seat seated).1 unreached
  have areOf := fun candidate member => (departs.eligible candidate member).1
  have stage := ((Suspending.start .snapshot registry).suspendAll sound departs.eligible).1
  obtain ⟨called, seats⟩ := sound.suspendAll_eq departs.distinct departs.eligible
  have delayed (expiry : PendingExpiry) (isCalled : expiry ∈ (registry.suspendAll candidates).1)
      (same : expiry.identifier.key = key) : expiry.delay ≠ 0 := by
    rw [called] at isCalled
    exact absurd (same ▸ (of_mem_called areOf isCalled).1) unlisted
  obtain ⟨_, seatsThen, _⟩ := (sound.changes stage.changes).arrangeAll_stays delayed
  rw [departs.after, seatsThen, seats, Seat.map_suspendedIn_of_not_mem _ unlisted, seated]

/-- A terminus loses its link exactly if it is reached. -/
theorem linkOf_eq_none_iff (departs : registry.DepartsWith operation departure candidates)
    (sound : registry.Sound) (linked : registry.OnlyActiveLinked)
    (seated : registry.seat? key = some seat) {id : LinkId} (isLink : seat.link = some id) :
    (registry.after operation).linkOf seat.entry.terminus = none ↔
      registry.Reaches key seat (.act operation) := by
  constructor
  · intro isFree
    by_contra unreached
    rw [linkOf_of_seat? (departs.of_unreached sound seated unreached), isLink] at isFree
    cases isFree
  · intro reached
    obtain ⟨gone, suspended⟩ :=
      departs.of_reached sound seated (linked.seat_linked seated isLink) reached
    by_cases isZero : seat.entry.timeout = 0
    · exact (linked.move sound (.act operation)).linkOf_of_expired (gone isZero).hasExpired
    · exact linkOf_of_seat? (suspended isZero).1

end DepartsWith

theorem Sound.suspend_departsWith (sound : registry.Sound) (id : LinkId) (departure : Departure) :
    ∃ candidates, registry.DepartsWith (.suspend id departure) departure candidates := by
  by_cases left : ∃ key seat, registry.seat? key = some seat ∧
      registry.IsLeftBy id departure key seat
  · obtain ⟨key, seat, seated, isLeft⟩ := left
    have leaves := isLeft
    obtain ⟨isLink, qualifies, link, known, rfl⟩ := isLeft
    refine ⟨[(link.identifier, seat.entry)], by simp, ?_, fun other found isFound => ?_, ?_⟩
    · simp [entry_of_seat? seated, qualifies]
    · rw [List.map_singleton, List.mem_singleton]
      constructor
      · rintro rfl
        rw [seated] at isFound
        cases isFound
        exact leaves
      · exact leaves.unique
    · change (registry.suspend id departure).2 = _
      simp only [suspend_eq, detach, known, entry?, entry_of_seat? seated,
        isAssociated_of_seat? seated, isLink, beq_self_eq_true, qualifies, Bool.not_true,
        Bool.false_eq_true, if_false, suspendAll, List.append_nil]
  · have unleft (key : Identifier.Key) (seat : Seat) (seated : registry.seat? key = some seat) :
        ¬registry.IsLeftBy id departure key seat := fun isLeft => left ⟨key, seat, seated, isLeft⟩
    refine ⟨[], by simp, by simp, fun key seat seated => ?_, (sound.suspend_of_unleft unleft).1⟩
    exact iff_of_false (by simp) (unleft key seat seated)

theorem Sound.exists_departsWith (sound : registry.Sound) (departs : operation.departs = true) :
    ∃ departure candidates, registry.DepartsWith operation departure candidates := by
  cases operation with
  | suspend id departure => exact ⟨departure, sound.suspend_departsWith id departure⟩
  | endSession session order | closeConnection connection order =>
      exact ⟨_, _, sound.nodup_candidates (order.perm_arrange _),
        sound.of_mem_candidates (order.perm_arrange _),
        fun _ _ seated => sound.mem_candidates_iff (order.perm_arrange _) seated, rfl⟩
  | _ => cases departs

/-! ## Forgotten or kept -/

/-- What it comes to that a terminus does not outlive its link: it is gone, its records have been
dropped or are noted as still to be dropped, and whatever is done from then on, no link is attached
to it. -/
structure Forgets (later : Registry) (identifier : Identifier) (terminus : TerminusId) :
    Prop where
  gone : later.Gone identifier.key terminus
  swept : later.storage.IsBare identifier ∨ later.isPurgePending identifier = true
  renewed : ∀ moves link exclusive, ((later.follow moves).register link exclusive).1 ≠ .ok terminus

/-- What it comes to that it does: it is suspended with all its records, and the next link of its
identifier is attached to it. -/
structure Outlives (registry later : Registry) (identifier : Identifier) (seat : Seat) :
    Prop where
  seated : later.seat? identifier.key = some seat.suspended
  noted : later.isSuspended identifier = true
  held : later.storage.held identifier = registry.storage.held identifier
  resumed : ∀ id link exclusive, later.links[id]? = some link →
    link.identifier.key = identifier.key →
    (later.register id exclusive).1 = .ok seat.entry.terminus

theorem Forgets.not_outlives {identifier : Identifier} {terminus : TerminusId}
    (forgets : later.Forgets identifier terminus) : ¬registry.Outlives later identifier seat := by
  intro outlives
  have seated := outlives.seated
  rw [forgets.gone.seat?] at seated
  cases seated

theorem reads_of_departs (departs : operation.departs = true) :
    operation.writesRecords = false ∧ ∀ other, operation ≠ .tryRemove other := by
  cases operation with
  | suspend | endSession | closeConnection => exact ⟨rfl, by simp⟩
  | _ => cases departs

/-- No link is ever attached to a terminus that has expired. -/
theorem Sound.register_ne_of_expired (sound : registry.Sound) {id : TerminusId}
    (hasExpired : registry.HasExpired id) (link : LinkId) (exclusive : Bool) :
    (registry.register link exclusive).1 ≠ .ok id := by
  intro done
  obtain ⟨terminus, known, isExpired⟩ :=
    (sound.evolves_after (.register link exclusive)).hasExpired hasExpired
  rcases sound.register_chronicle (.register link exclusive) link exclusive with
    ⟨error, refused, _⟩ | ⟨_, found, _, _, _, attached, _, _, _, isAttached⟩
  · rw [refused] at done
    cases done
  · rw [attached] at done
    cases done
    obtain ⟨grown, isGrown, isActive, _⟩ := isAttached.holds
    change (registry.register link exclusive).2.termini[id]? = some terminus at known
    rw [known, Option.some.injEq] at isGrown
    rw [← isGrown, isExpired] at isActive
    cases isActive

theorem Sound.forgets_of_gone (sound : registry.Sound) {identifier : Identifier}
    {terminus : TerminusId} (departs : operation.departs = true)
    (seated : registry.seat? identifier.key = some seat)
    (gone : (registry.after operation).Gone identifier.key terminus) :
    (registry.after operation).Forgets identifier terminus := by
  obtain ⟨isReading, untaken⟩ := reads_of_departs departs
  have changes := sound.after_changes operation
  have soundThen := sound.changes changes
  -- It was in the table when the operation began, so whatever the operation drops is noted.
  have swept := (isSwept_of_present (entry_of_seat? seated)).changes isReading untaken changes
  exact ⟨gone, (swept gone.absent).imp_right isPurgePending_iff.2, fun moves =>
    (soundThen.follow moves).register_ne_of_expired (soundThen.hasExpired_follow gone.hasExpired _)⟩

/-- A link is attached to the terminus that its identifier has, if that has no link and has not
expired. -/
theorem register_of_free {id : LinkId} {link : Link} (known : registry.links[id]? = some link)
    (seated : registry.seat? link.identifier.key = some seat) (isFree : seat.link = none)
    (lives : seat.phase ≠ .expired) (exclusive : Bool) :
    (registry.register id exclusive).1 = .ok seat.entry.terminus := by
  have undisplaced : registry.displaced? link.identifier.key id = none := by
    simp [displaced?, seated, isFree]
  obtain ⟨entry, terminus, present, isThere, rfl⟩ := seat?_eq_some_iff.1 seated
  have inPlace : (registry.overwritten link entry terminus).termini[entry.terminus]? =
      some { terminus with settings := link.settings } :=
    (Puts.set isThere _).self
  obtain ⟨whose, attached⟩ :=
    exists_takeOver_of_entered (enter_of_present present isThere) inPlace lives id
  simp only [register_of_seated known seated, undisplaced, Option.any_none, Bool.and_false,
    Bool.false_eq_true, if_false]
  rcases takeOver_cases (enter_of_present present isThere) inPlace id with ⟨error, refused⟩ |
    ⟨_, _, _, taken⟩
  · rw [refused] at attached
    cases attached
  · rw [taken]
    rfl

theorem Sound.outlives_of_suspended (sound : registry.Sound) {identifier : Identifier} {epoch : Nat}
    (departs : operation.departs = true) (seated : registry.seat? identifier.key = some seat)
    (seatedThen : (registry.after operation).seat? identifier.key = some seat.suspended)
    (noted : (registry.after operation).suspended.get? identifier.key = some epoch) :
    registry.Outlives (registry.after operation) identifier seat where
  seated := seatedThen
  noted := by rw [isSuspended, SortedMap.contains, noted, Option.isSome_some]
  held := by
    have stays : (registry.move (.act operation)).entries.get? identifier.key =
        some seat.suspended.entry := entry_of_seat? seatedThen
    have isReading (other : Operation) (same : Move.act operation = .act other) :
        other.writesRecords = false := by
      cases same
      exact (reads_of_departs departs).1
    exact sound.held_move (entry_of_seat? seated) stays isReading
  resumed := by
    intro id link exclusive known isOwn
    rw [← isOwn] at seatedThen
    have attached := register_of_free known seatedThen rfl Phase.noConfusion exclusive
    exact attached

/-- A terminus without a policy does not outlive its link if and only if the registry's timeout is
zero, wherever moves have led to and by whatever its link goes away: by itself, with its session or
with its connection.  With any other timeout it is suspended like a recoverable one, keeps its
records, and has the next link of its identifier.  Its link is taken from it exactly by what
reaches it. -/
theorem unspecified_policy_outlives_iff (config : Config) (storage : Storage) (hasTimers : Bool)
    (moves : List Move) (identifier : Identifier) (seat : Seat) (id : LinkId)
    (operation : Operation) :
    let registry := Registry.follow { create config storage with hasTimers } moves
    let later := registry.after operation
    registry.seat? identifier.key = some seat → seat.link = some id →
      seat.entry.policy = .unspecified → operation.departs = true →
      (later.linkOf seat.entry.terminus = none ↔
        registry.Reaches identifier.key seat (.act operation)) ∧
      (later.linkOf seat.entry.terminus = none →
        (later.Forgets identifier seat.entry.terminus ↔ config.expiryTimeoutMillis = 0) ∧
        (registry.Outlives later identifier seat ↔ config.expiryTimeoutMillis ≠ 0)) := by
  intro registry later seated isLink isUnspecified departs
  have soundFirst := Sound.create config storage hasTimers
  have sound : registry.Sound := soundFirst.follow moves
  have linked : registry.OnlyActiveLinked :=
    (OnlyActiveLinked.create config storage hasTimers).follow soundFirst moves
  have isTimeout : seat.entry.timeout = config.expiryTimeoutMillis.toNat :=
    timeout_of_unspecified config storage hasTimers moves (entry_of_seat? seated) isUnspecified
  have isZero_iff : seat.entry.timeout = 0 ↔ config.expiryTimeoutMillis = 0 := by
    rw [isTimeout, ← UInt64.toNat_inj]
    rfl
  have isActive := linked.seat_linked seated isLink
  obtain ⟨departure, candidates, departsWith⟩ := sound.exists_departsWith departs
  have forgets (reached : registry.Reaches identifier.key seat (.act operation))
      (isZero : seat.entry.timeout = 0) : later.Forgets identifier seat.entry.terminus :=
    sound.forgets_of_gone departs seated
      ((departsWith.of_reached sound seated isActive reached).1 isZero)
  have outlives (reached : registry.Reaches identifier.key seat (.act operation))
      (lasts : seat.entry.timeout ≠ 0) : registry.Outlives later identifier seat := by
    obtain ⟨seatedThen, noted⟩ := (departsWith.of_reached sound seated isActive reached).2 lasts
    exact sound.outlives_of_suspended departs seated seatedThen noted
  have reaches_iff := departsWith.linkOf_eq_none_iff sound linked seated isLink
  refine ⟨reaches_iff, fun isFree => ?_⟩
  have reached := reaches_iff.1 isFree
  rw [ne_eq, ← isZero_iff]
  constructor
  · refine ⟨fun isForgotten => ?_, forgets reached⟩
    by_contra lasts
    exact isForgotten.not_outlives (outlives reached lasts)
  · exact ⟨fun isKept isZero => (forgets reached isZero).not_outlives isKept, outlives reached⟩

end Registry

namespace Sample

/-- A registry whose own timeout is a second. -/
def lasting : Config := { expiryTimeoutMillis := 1000 }

/-- A link whose settings ask for no expiry is registered and has a record. -/
def unspecified : List Move :=
  let settings : Settings := { name := "telemetry", role := .sender }
  [.act (.openLink { identifier, settings, scope := .ofChannel 1 1 }), .act (.register 0 false),
    .act (.noteDelivery 0 ⟨[1]⟩ .received)]

end Sample

namespace Registry

/-- The link is detached, and yet its terminus stays with the record and is that of the next
link. -/
theorem unspecified_outlives_sample :
    let registry := (create Sample.lasting { store := .memory {} }).follow Sample.unspecified
    let detached := registry.suspend 0 .linkDetach
    (registry.entry? Sample.identifier).map (·.policy) = some .unspecified ∧
      registry.linkOf 0 = some 0 ∧ detached.1 = .suspended ∧
      detached.2.linkOf 0 = none ∧ detached.2.find? Sample.identifier = some 0 ∧
      (detached.2.storage.held Sample.identifier).toOption.map (·.size) = some 1 ∧
      (detached.2.register 0 false).1.toOption = some 0 := by
  decide +kernel

/-- It is kept as the timeout says. -/
theorem unspecified_policy_outlives_iff_sample :
    let registry := (create Sample.lasting { store := .memory {} }).follow Sample.unspecified
    let later := registry.after (.suspend 0 .linkDetach)
    ∃ seat, registry.seat? Sample.identifier.key = some seat ∧ seat.link = some 0 ∧
      seat.entry.policy = .unspecified ∧ later.linkOf seat.entry.terminus = none ∧
      registry.Outlives later Sample.identifier seat ∧
      ¬later.Forgets Sample.identifier seat.entry.terminus := by
  intro registry later
  let seat : Seat := ⟨⟨0, some (.ofChannel 1 1), .unspecified, 1000⟩, .active, 0, some 0⟩
  have seated : registry.seat? Sample.identifier.key = some seat := by decide +kernel
  have isFree : later.linkOf seat.entry.terminus = none := by decide +kernel
  obtain ⟨_, kept⟩ := unspecified_policy_outlives_iff Sample.lasting { store := .memory {} } true
    Sample.unspecified Sample.identifier seat 0 (.suspend 0 .linkDetach) seated rfl rfl rfl
  obtain ⟨forgets_iff, outlives_iff⟩ := kept isFree
  have isLasting : Sample.lasting.expiryTimeoutMillis ≠ 0 := by decide
  exact ⟨seat, seated, rfl, rfl, isFree, outlives_iff.2 isLasting, mt forgets_iff.1 isLasting⟩

end Registry

end Reattach
