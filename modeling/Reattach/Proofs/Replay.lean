import Reattach.Proofs.Awaiting
import Reattach.Proofs.Fates

/-!
# The events replay to the table

Whoever folds the events from the first one on has the identifiers of the table at every moment,
with their phases and the epochs of their suspensions.  That is said of one identifier at a time:
a move makes of its seat one of a few things and tells it by the events that are about it
(`Seat.Becomes`).  How the events are folded is an algebra of lists that knows nothing of
registries.
-/

namespace Reattach

/-! ## What events tell -/

/-- How an identifier stands: the phase of its terminus and, if that is suspended, the epoch of
the suspension. -/
structure Sighting where
  phase : Phase
  suspension : Option Nat := none
  deriving DecidableEq

namespace Event

/-- How an identifier stands after an event that is about it. -/
def tell (before : Option Sighting) : Event → Option Sighting
  | associated _ => some { phase := .active }
  | stolen _ => before
  | suspended _ epoch => some { phase := .suspended, suspension := some epoch }
  | expired _ => none

/-- A table of sightings after an event. -/
def tellTable (table : SortedMap Identifier.Key Sighting) :
    Event → SortedMap Identifier.Key Sighting
  | associated identifier => table.insert identifier.key { phase := .active }
  | stolen _ => table
  | suspended identifier epoch =>
      table.insert identifier.key { phase := .suspended, suspension := some epoch }
  | expired identifier => table.erase identifier.key

/-- The table that events tell of, folded in their order. -/
def replay (events : List Event) : SortedMap Identifier.Key Sighting :=
  events.foldl tellTable ∅

/-- The events that are about an identifier. -/
def about (key : Identifier.Key) (events : List Event) : List Event :=
  events.filter fun event => event.identifier.key = key

variable {key : Identifier.Key} {events news : List Event}

theorem about_append (key : Identifier.Key) (events news : List Event) :
    about key (events ++ news) = about key events ++ about key news := List.filter_append _ _

theorem about_of_own (areOwn : ∀ event ∈ events, event.identifier.key = key) :
    about key events = events :=
  List.filter_eq_self.2 fun event member => decide_eq_true (areOwn event member)

theorem about_of_others (areOthers : ∀ event ∈ events, event.identifier.key ≠ key) :
    about key events = [] :=
  List.filter_eq_nil_iff.2 fun event member => by simpa using areOthers event member

theorem eq_nil_of_about (areNone : ∀ key, about key events = []) : events = [] := by
  cases events with
  | nil => rfl
  | cons event rest =>
      have own := areNone event.identifier.key
      rw [about, List.filter_cons_of_pos (by simp)] at own
      cases own

theorem get?_tellTable (table : SortedMap Identifier.Key Sighting) (event : Event)
    (key : Identifier.Key) :
    (tellTable table event).get? key =
      if event.identifier.key = key then tell (table.get? key) event else table.get? key := by
  by_cases isOwn : event.identifier.key = key
  · subst isOwn
    rw [if_pos rfl]
    cases event <;> simp only [tellTable, tell, identifier, SortedMap.get?_insert_self,
      SortedMap.get?_erase_self]
  · rw [if_neg isOwn]
    cases event with
    | associated | suspended => exact SortedMap.get?_insert_of_ne _ _ (Ne.symm isOwn)
    | stolen => rfl
    | expired => exact SortedMap.get?_erase_of_ne _ (Ne.symm isOwn)

/-- A table tells of an identifier what the events about that identifier come to. -/
theorem get?_foldl_tellTable (events : List Event) (table : SortedMap Identifier.Key Sighting)
    (key : Identifier.Key) :
    (events.foldl tellTable table).get? key = (about key events).foldl tell (table.get? key) := by
  induction events generalizing table with
  | nil => rfl
  | cons event rest ih =>
      rw [List.foldl_cons, ih, get?_tellTable]
      by_cases isOwn : event.identifier.key = key
      · simp only [about, List.filter_cons, isOwn, if_true, decide_true, List.foldl_cons]
      · simp only [about, List.filter_cons, isOwn, if_false, decide_false, Bool.false_eq_true]

theorem get?_replay (events : List Event) (key : Identifier.Key) :
    (replay events).get? key = (about key events).foldl tell none :=
  get?_foldl_tellTable events ∅ key

/-! ### Epochs -/

/-- What an event adds to the epochs of the suspensions of one terminus.  An expiry ends them all,
as another terminus comes next. -/
def tellEpochs (epochs : List Nat) : Event → List Nat
  | suspended _ epoch => epochs ++ [epoch]
  | expired _ => []
  | _ => epochs

/-- The epochs in which the latest terminus of the events has been suspended. -/
def epochs (events : List Event) : List Nat := events.foldl tellEpochs []

/-- That among events about one identifier each suspension tells of an epoch later than all
earlier ones of the same terminus. -/
def EpochsGrow (events : List Event) : Prop :=
  ∀ before identifier epoch, before ++ [suspended identifier epoch] <+: events →
    ∀ earlier ∈ epochs before, earlier < epoch

theorem epochs_concat (events : List Event) (event : Event) :
    epochs (events ++ [event]) = tellEpochs (epochs events) event := by
  rw [epochs, List.foldl_append]
  rfl

theorem epochsGrow_nil : EpochsGrow [] := by
  intro before identifier epoch isPrefix
  simp at isPrefix

theorem EpochsGrow.concat {event : Event} (grow : EpochsGrow events)
    (isLater : ∀ identifier epoch, event = suspended identifier epoch →
      ∀ earlier ∈ epochs events, earlier < epoch) : EpochsGrow (events ++ [event]) := by
  intro before identifier epoch isPrefix
  rcases List.prefix_concat_iff.1 isPrefix with same | isBefore
  · obtain ⟨rfl, isEvent⟩ := List.append_inj' same rfl
    exact isLater identifier epoch (List.singleton_inj.1 isEvent).symm
  · exact grow before identifier epoch isBefore

theorem EpochsGrow.concat_other {event : Event} (grow : EpochsGrow events)
    (isOther : ∀ identifier epoch, event ≠ suspended identifier epoch) :
    EpochsGrow (events ++ [event]) :=
  grow.concat fun identifier epoch same => absurd same (isOther identifier epoch)

end Event

/-! ## What becomes of a seat, and what is told of it -/

namespace Seat

/-- What a seat looks like to those who follow the events. -/
def sighting (seat : Seat) : Sighting where
  phase := seat.phase
  suspension := if seat.phase = .suspended then some seat.epoch else none

/-- What becomes of a seat while no link is attached, and what is told of it. -/
inductive Wanes (before : Option Seat) : List Event → Option Seat → Prop where
  | stays : Wanes before [] before
  | suspends {seat : Seat} (identifier : Identifier) (isSeat : before = some seat)
      (isActive : seat.phase = .active) :
      Wanes before [.suspended identifier (seat.epoch + 1)] (some seat.suspended)
  | expires {seat : Seat} (identifier : Identifier) (isSeat : before = some seat)
      (isSuspended : seat.phase = .suspended) : Wanes before [.expired identifier] none
  /-- Without any time it is suspended and expires at once. -/
  | lapses {seat : Seat} (first last : Identifier) (isSeat : before = some seat)
      (isActive : seat.phase = .active) :
      Wanes before [.suspended first (seat.epoch + 1), .expired last] none

/-- What becomes of the seat of an identifier when a link is attached, and what is told of it. -/
structure Waxes (key : Identifier.Key) (id : LinkId) (before : Option Seat) (news : List Event)
    (after : Option Seat) : Prop where
  /-- One attach, and at most one theft. -/
  told : ∃ identifier thefts, news = .associated identifier :: thefts ∧ identifier.key = key ∧
    (thefts = [] ∨ ∃ other, thefts = [.stolen other] ∧ other.key = key)
  seated : ∃ seat, after = some seat ∧ seat.phase = .active ∧ seat.link = some id ∧
    ∀ old, before = some old → old.epoch ≤ seat.epoch

variable {before between after : Option Seat} {news others events : List Event}

/-- No seat wanes twice, but for a suspension that is followed by the expiry. -/
theorem Wanes.trans (first : Wanes before news between) (second : Wanes between others after) :
    Wanes before (news ++ others) after := by
  cases first with
  | stays => exact second
  | suspends identifier isSeat isActive =>
      cases second with
      | stays => exact .suspends identifier isSeat isActive
      | suspends _ isSeatToo isActiveToo | lapses _ _ isSeatToo isActiveToo =>
          cases isSeatToo
          cases isActiveToo
      | expires last _ _ => exact .lapses identifier last isSeat isActive
  | expires _ isSeat isSuspended | lapses _ _ isSeat isActive =>
      cases second with
      | stays => constructor <;> assumption
      | suspends _ isNone | expires _ isNone | lapses _ _ isNone => cases isNone

theorem Wanes.eq_nil (wanes : Wanes before news after) (same : after = before) : news = [] := by
  cases wanes with
  | stays => rfl
  | suspends _ isSeat isActive =>
      rw [isSeat, Option.some.injEq] at same
      rw [← same] at isActive
      cases isActive
  | expires _ isSeat | lapses _ _ isSeat =>
      rw [isSeat] at same
      cases same

theorem Wanes.eq_of_nil (wanes : Wanes before [] after) : after = before := by
  cases wanes
  rfl

/-- That events tell how a seat stands, and of no later suspension than its own. -/
structure IsTold (seat? : Option Seat) (events : List Event) : Prop where
  sighted : events.foldl Event.tell none = seat?.map sighting
  grow : Event.EpochsGrow events
  bounded : ∀ epoch ∈ Event.epochs events, ∃ seat, seat? = some seat ∧ epoch ≤ seat.epoch

theorem isTold_nil : IsTold none [] :=
  ⟨rfl, Event.epochsGrow_nil, by simp [Event.epochs]⟩

/-- A suspension is told of in an epoch of its own. -/
theorem IsTold.suspends {seat : Seat} (isTold : IsTold (some seat) events)
    (identifier : Identifier) :
    IsTold (some seat.suspended) (events ++ [.suspended identifier (seat.epoch + 1)]) where
  sighted := by
    rw [List.foldl_append]
    rfl
  grow := by
    refine isTold.grow.concat fun _ _ same earlier member => ?_
    cases same
    obtain ⟨_, isSeat, notLater⟩ := isTold.bounded earlier member
    cases isSeat
    exact Nat.lt_succ_of_le notLater
  bounded := by
    intro epoch member
    rw [Event.epochs_concat, Event.tellEpochs, List.mem_append, List.mem_singleton] at member
    refine ⟨_, rfl, ?_⟩
    rcases member with isEarlier | rfl
    · obtain ⟨_, isSeat, notLater⟩ := isTold.bounded epoch isEarlier
      cases isSeat
      exact Nat.le_succ_of_le notLater
    · exact Nat.le_refl _

/-- After an expiry all begins anew. -/
theorem IsTold.expires (isTold : IsTold before events) (identifier : Identifier) :
    IsTold none (events ++ [.expired identifier]) where
  sighted := by
    rw [List.foldl_append]
    rfl
  grow := isTold.grow.concat_other (by simp)
  bounded := by simp [Event.epochs_concat, Event.tellEpochs]

theorem IsTold.wanes (isTold : IsTold before events) (wanes : Wanes before news after) :
    IsTold after (events ++ news) := by
  cases wanes with
  | stays => rwa [List.append_nil]
  | suspends identifier isSeat _ =>
      subst isSeat
      exact isTold.suspends identifier
  | expires identifier _ _ => exact isTold.expires identifier
  | lapses first last isSeat _ =>
      subst isSeat
      have suspended := (isTold.suspends first).expires last
      rwa [List.append_assoc] at suspended

/-- A theft changes nothing. -/
theorem IsTold.stolen (isTold : IsTold before events) (identifier : Identifier) :
    IsTold before (events ++ [.stolen identifier]) where
  sighted := by
    rw [List.foldl_append]
    exact isTold.sighted
  grow := isTold.grow.concat_other (by simp)
  bounded := by
    rw [Event.epochs_concat]
    exact isTold.bounded

theorem IsTold.associated {seat : Seat} (isTold : IsTold before events)
    (identifier : Identifier) (isActive : seat.phase = .active)
    (grows : ∀ old, before = some old → old.epoch ≤ seat.epoch) :
    IsTold (some seat) (events ++ [.associated identifier]) where
  sighted := by
    rw [List.foldl_append, Option.map_some, sighting, isActive]
    rfl
  grow := isTold.grow.concat_other (by simp)
  bounded := by
    intro epoch member
    rw [Event.epochs_concat] at member
    obtain ⟨old, isSeat, notLater⟩ := isTold.bounded epoch member
    exact ⟨seat, rfl, Nat.le_trans notLater (grows old isSeat)⟩

theorem Waxes.areOwn {key : Identifier.Key} {id : LinkId}
    (waxes : Waxes key id before news after) : ∀ event ∈ news, event.identifier.key = key := by
  obtain ⟨identifier, thefts, rfl, isOwn, rfl | ⟨other, rfl, isOwnToo⟩⟩ := waxes.told
  · simpa [Event.identifier] using isOwn
  · simpa [Event.identifier] using ⟨isOwn, isOwnToo⟩

theorem IsTold.waxes {key : Identifier.Key} {id : LinkId} (isTold : IsTold before events)
    (waxes : Waxes key id before news after) : IsTold after (events ++ news) := by
  obtain ⟨identifier, thefts, rfl, _, areThefts⟩ := waxes.told
  obtain ⟨seat, rfl, isActive, _, grows⟩ := waxes.seated
  have attached := isTold.associated identifier isActive grows
  rcases areThefts with rfl | ⟨other, rfl, _⟩
  · exact attached
  · have stolen := attached.stolen other
    rwa [List.append_assoc] at stolen

end Seat

namespace Registry

/-- The events that have been published. -/
def told (registry : Registry) : List Event := registry.channel.published.toList.map (·.event)

/-- How the table has an identifier. -/
def sighting? (registry : Registry) (key : Identifier.Key) : Option Sighting :=
  (registry.seat? key).map Seat.sighting

/-- That a registry is as it comes about without termini that were made elsewhere. -/
structure Regular (registry : Registry) : Prop where
  consistent : registry.Consistent
  native : registry.IsNative

variable {operation : Operation} {registry between later : Registry}
variable {key : Identifier.Key} {seat : Seat} {news : List Event}

@[simp] theorem told_publish (registry : Registry) (event : Event) :
    (registry.publish event).told = registry.told ++ [event] := by
  simp [told, publish]

/-- What a terminus of the table does is told. -/
theorem told_moveTerminus {id : TerminusId} {terminus : Terminus}
    (isShared : terminus.isShared = true) (event : Event) :
    (registry.moveTerminus id terminus event).told = registry.told ++ [event] := by
  rw [moveTerminus, if_pos isShared, told_publish]
  rfl

theorem told_suspendTerminus {id : TerminusId} {terminus grown : Terminus}
    (known : registry.termini[id]? = some terminus)
    (suspended : terminus.suspend registry.now = some grown) (isShared : grown.isShared = true) :
    (registry.suspendTerminus id).2.told =
      registry.told ++ [.suspended grown.identifier grown.epoch] := by
  simp only [suspendTerminus, known, Option.bind_some, suspended, told_moveTerminus isShared]

theorem told_expireTerminus {id : TerminusId} {epoch : Option Nat} {terminus grown : Terminus}
    (known : registry.termini[id]? = some terminus)
    (expired : terminus.expire epoch = some grown) (isShared : grown.isShared = true) :
    (registry.expireTerminus id epoch).2.told = registry.told ++ [.expired grown.identifier] := by
  simp only [expireTerminus, known, Option.bind_some, expired, told_moveTerminus isShared]

@[simp] theorem told_dropRecords (registry : Registry) (identifier : Identifier) :
    (registry.dropRecords identifier).told = registry.told := by
  rw [dropRecords_eq]
  rfl

/-- What was told is what the list of happenings has, as far as that is heard of. -/
theorem Chronicle.told_eq {log : List Happening}
    (chronicle : Chronicle operation registry log later) :
    later.told = registry.told ++ (log.filter later.tellsOf).map (·.event) := by
  obtain ⟨notices, published, areEvents⟩ := chronicle.published
  rw [told, published, List.map_append, areEvents]
  rfl

theorem Regular.exists_terminus (regular : registry.Regular)
    (seated : registry.seat? key = some seat) :
    ∃ entry terminus, registry.entries.get? key = some entry ∧
      registry.termini[entry.terminus]? = some terminus ∧ seat = .of entry terminus ∧
      terminus.isShared = true ∧ terminus.identifier.key = key := by
  obtain ⟨entry, terminus, present, known, rfl⟩ := seat?_eq_some_iff.1 seated
  obtain ⟨shared, isKnown, isShared⟩ := regular.native.shared present
  obtain ⟨owner, isThere, isOwn⟩ := regular.consistent.sound.keyed present
  rw [known, Option.some.injEq] at isKnown isThere
  subst isKnown isThere
  exact ⟨entry, _, present, known, rfl, isShared, isOwn⟩

theorem Regular.tellsOf_seat (regular : registry.Regular)
    (seated : registry.seat? key = some seat) (event : Event) :
    registry.tellsOf ⟨some seat.entry.terminus, event⟩ = true := by
  obtain ⟨entry, terminus, _, known, rfl, isShared, _⟩ := regular.exists_terminus seated
  have isThere : registry.termini[(Seat.of entry terminus).entry.terminus]? = some terminus := known
  simp [tellsOf, isThere, isShared]

theorem epoch_le_of_outlive (outlive : Outlive registry.termini later.termini) {last : Seat}
    (seated : registry.seat? key = some seat) (seatedThen : later.seat? key = some last)
    (same : last.entry.terminus = seat.entry.terminus) : seat.epoch ≤ last.epoch := by
  obtain ⟨entry, terminus, _, known, rfl⟩ := seat?_eq_some_iff.1 seated
  obtain ⟨entryThen, grown, _, knownThen, rfl⟩ := seat?_eq_some_iff.1 seatedThen
  obtain ⟨sameGrown, isGrown, _, grows⟩ := outlive _ _ known
  have sameEntry : entryThen.terminus = entry.terminus := same
  rw [sameEntry, isGrown, Option.some.injEq] at knownThen
  rw [← knownThen]
  exact grows

theorem Regular.evolves (regular : registry.Regular)
    (consistent : later.Consistent) (evolves : Evolves .snapshot registry later) :
    later.Regular := by
  obtain ⟨_, chronicle⟩ := evolves
  exact ⟨consistent, chronicle.isNative (.of_own rfl rfl) regular.native⟩

/-! ## Without an attach -/

/-- That all seats wane from one regular registry to a later one, and that it is told how. -/
structure Wanes (registry : Registry) (news : List Event) (later : Registry) : Prop where
  regular : later.Regular
  told : later.told = registry.told ++ news
  seats : ∀ key, Seat.Wanes (registry.seat? key) (Event.about key news) (later.seat? key)

namespace Wanes

theorem trans {others : List Event} (first : Wanes registry news between)
    (second : Wanes between others later) : Wanes registry (news ++ others) later where
  regular := second.regular
  told := by rw [second.told, first.told, List.append_assoc]
  seats := by
    intro key
    rw [Event.about_append]
    exact (first.seats key).trans (second.seats key)

/-- What changes no seat and publishes nothing. -/
theorem quiet (regular : later.Regular) (told : later.told = registry.told)
    (seats : ∀ key, later.seat? key = registry.seat? key) : Wanes registry [] later where
  regular := regular
  told := by rw [told, List.append_nil]
  seats := by
    intro key
    rw [seats]
    exact .stays

/-- What changes one seat, and tells of that. -/
theorem single (key : Identifier.Key) (regular : later.Regular)
    (told : later.told = registry.told ++ news)
    (areOwn : ∀ event ∈ news, event.identifier.key = key)
    (wanes : Seat.Wanes (registry.seat? key) news (later.seat? key))
    (others : ∀ other, other ≠ key → later.seat? other = registry.seat? other) :
    Wanes registry news later where
  regular := regular
  told := told
  seats := by
    intro other
    by_cases same : other = key
    · subst same
      rwa [Event.about_of_own areOwn]
    · rw [others other same, Event.about_of_others]
      · exact .stays
      · intro event member isOwn
        exact same (isOwn.symm.trans (areOwn event member))

end Wanes

namespace Regular

/-- An expiry tells of nothing, or of the one terminus that it takes out of the table. -/
theorem wanes_expireEpoch (regular : registry.Regular) (identifier : Identifier)
    (epoch : Option Nat) :
    ∃ news, Wanes registry news (registry.expireEpoch identifier epoch).2 := by
  have regularThen : (registry.expireEpoch identifier epoch).2.Regular :=
    regular.evolves (regular.consistent.expireEpoch _ _) (.expireEpoch _ _ _)
  rcases regular.consistent.expireEpoch_cases identifier epoch with ⟨unchanged, _⟩ |
    ⟨seat, later, seated, isSuspended, matching, expires, gone, others⟩
  · rw [unchanged]
    exact ⟨[], .quiet regular rfl fun _ => rfl⟩
  · obtain ⟨entry, terminus, present, known, rfl, isShared, isOwn⟩ :=
      regular.exists_terminus seated
    have note := regular.consistent.noted_iff.2 ⟨_, seated, isSuspended, rfl⟩
    have isMet : epoch.all (· == terminus.epoch) = true := by
      cases epoch with
      | none => rfl
      | some wanted => simpa [Seat.of] using matching wanted rfl
    have isSome : (terminus.expire (some terminus.epoch)).isSome = true :=
      Terminus.expire_isSome_iff.2 ⟨isSuspended, by simp⟩
    obtain ⟨grown, expired⟩ := Option.isSome_iff_exists.1 isSome
    obtain ⟨sameIdentifier, sameShared⟩ := (Terminus.Meets.expire expired).keeps
    have told : (registry.expireEpoch identifier epoch).2.told =
        registry.told ++ [.expired grown.identifier] := by
      simp only [Registry.expireEpoch, note, Seat.of, isMet, if_true, present, told_dropRecords]
      exact told_expireTerminus known expired (sameShared.trans isShared)
    rw [expires] at told regularThen ⊢
    refine ⟨_, .single identifier.key regularThen told ?_ ?_ others⟩
    · simp [Event.identifier, sameIdentifier, isOwn]
    · rw [gone.seat?]
      exact .expires _ seated isSuspended

/-- Arranging expiries tells of those that are carried out. -/
theorem wanes_arrangeAll (regular : registry.Regular) (pending : List PendingExpiry) :
    ∃ news, Wanes registry news (registry.arrangeAll pending) := by
  induction pending generalizing registry with
  | nil => exact ⟨[], .quiet regular rfl fun _ => rfl⟩
  | cons expiry rest ih =>
      have once : ∃ news, Wanes registry news (registry.arrange expiry).2 := by
        by_cases isZero : expiry.delay = 0
        · rw [arrange_of_delay_eq_zero registry isZero]
          exact regular.wanes_expireEpoch _ _
        · have timed : (registry.arrange expiry).2 = registry.setTimer expiry := by
            rw [arrange_of_delay_ne_zero registry isZero]
          have consistent : (registry.arrange expiry).2.Consistent :=
            timed ▸ regular.consistent.setTimer expiry
          refine ⟨[], .quiet (regular.evolves consistent (.arrange _ _)) ?_ fun key => ?_⟩
          · rw [timed, setTimer]
            split <;> rfl
          · rw [timed, seat?_setTimer]
      obtain ⟨news, wanes⟩ := once
      obtain ⟨others, wanesThen⟩ := ih wanes.regular
      exact ⟨news ++ others, wanes.trans wanesThen⟩

/-- Suspending a terminus of the table is told, if it was active. -/
theorem wanes_suspendEntry (regular : registry.Regular) {identifier : Identifier} {entry : Entry}
    {departure : Departure} (present : registry.entries.get? identifier.key = some entry)
    (reached : entry.policy.qualifies departure = true) :
    ∃ news, Wanes registry news (registry.suspendEntry identifier entry).2 := by
  have sound := regular.consistent.sound
  have stage := ((Suspending.start .snapshot registry).suspendEntry sound present reached).1
  have regularThen : (registry.suspendEntry identifier entry).2.Regular :=
    regular.evolves (regular.consistent.changes (by simp [Operation.direct?]) stage.changes)
      (.suspendEntry _ _ _)
  obtain ⟨seat, seated, rfl⟩ := sound.exists_seat present
  rcases sound.suspendEntry_cases seated with ⟨_, unchanged⟩ |
    ⟨isActive, later, suspends, seatedThen, others⟩
  · rw [unchanged]
    exact ⟨[], .quiet regular rfl fun _ => rfl⟩
  · obtain ⟨entry, terminus, _, known, rfl, isShared, isOwn⟩ := regular.exists_terminus seated
    obtain ⟨grown, suspended⟩ := Option.isSome_iff_exists.1
      (Terminus.suspend_isSome_iff.2 (isActive : terminus.phase = .active))
    obtain ⟨sameIdentifier, sameShared⟩ := (Terminus.Meets.suspend suspended).keeps
    have nextEpoch : grown.epoch = terminus.epoch + 1 := by
      rw [(Terminus.of_suspend suspended).2]
    have told : (registry.suspendEntry identifier entry).2.told =
        registry.told ++ [.suspended grown.identifier grown.epoch] := by
      have told := told_suspendTerminus known suspended (sameShared.trans isShared)
      simp only [Registry.suspendEntry]
      split <;> rename_i same <;> rw [same] at told
      · exact told
      · exact told
    have sameEntry : (Seat.of entry terminus).entry = entry := rfl
    rw [sameEntry] at suspends regularThen ⊢
    rw [suspends] at told regularThen ⊢
    refine ⟨_, .single identifier.key regularThen told ?_ ?_ others⟩
    · simp [Event.identifier, sameIdentifier, isOwn]
    · rw [seatedThen, nextEpoch]
      exact .suspends _ seated isActive

theorem wanes_suspendAll (regular : registry.Regular) {departure : Departure}
    {candidates : List (Identifier × Entry)}
    (eligible : ∀ candidate ∈ candidates,
      registry.entries.get? candidate.1.key = some candidate.2 ∧
        candidate.2.policy.qualifies departure = true) :
    ∃ news, Wanes registry news (registry.suspendAll candidates).2 := by
  induction candidates generalizing registry with
  | nil => exact ⟨[], .quiet regular rfl fun _ => rfl⟩
  | cons candidate rest ih =>
      obtain ⟨present, reached⟩ := eligible candidate List.mem_cons_self
      obtain ⟨news, wanes⟩ := regular.wanes_suspendEntry present reached
      have sameEntries := ((Suspending.start .snapshot registry).suspendEntry
        regular.consistent.sound present reached).1.entries
      obtain ⟨others, wanesThen⟩ := ih wanes.regular fun other member => by
        rw [sameEntries]
        exact eligible other (List.mem_cons_of_mem _ member)
      exact ⟨news ++ others, wanes.trans wanesThen⟩

theorem wanes_suspendScope (regular : registry.Regular) (departure : Departure)
    (inScope : Scope → Bool) (order : TableOrder) :
    ∃ news, Wanes registry news (registry.suspendScope departure inScope order).2 := by
  let listed := order.arrange (registry.candidates departure inScope)
  have reordered : listed.Perm (registry.candidates departure inScope) := order.perm_arrange _
  obtain ⟨news, wanes⟩ :=
    regular.wanes_suspendAll (regular.consistent.sound.of_mem_candidates reordered)
  obtain ⟨others, wanesThen⟩ := wanes.regular.wanes_arrangeAll (registry.suspendAll listed).1
  exact ⟨news ++ others, wanes.trans wanesThen⟩

theorem wanes_suspend (regular : registry.Regular) (id : LinkId) (departure : Departure) :
    ∃ news, Wanes registry news (registry.suspend id departure).2 := by
  have detaches : ∃ news, Wanes registry news (registry.detach id departure).2 := by
    have unchanged : ∃ news, Wanes registry news registry :=
      ⟨[], .quiet regular rfl fun _ => rfl⟩
    simp only [detach, entry?]
    split
    · exact unchanged
    · split
      · exact unchanged
      · next entry present =>
          split
          · exact unchanged
          · split
            · exact unchanged
            · next reached =>
                have qualifies : entry.policy.qualifies departure = true := by simpa using reached
                exact regular.wanes_suspendEntry present qualifies
  obtain ⟨news, wanes⟩ := detaches
  obtain ⟨others, wanesThen⟩ := wanes.regular.wanes_arrangeAll (registry.detach id departure).1
  rw [suspend_eq]
  exact ⟨news ++ others, wanes.trans wanesThen⟩

end Regular

end Registry

/-- Whether an operation leaves it to links and expiries who is in the table and how termini
stand: it puts in none and takes out none, and moves none without the registry being told. -/
def Operation.isRegular : Operation → Bool
  | .tryAdd _ | .tryRemove _ | .associate _ _ | .suspendTerminus _ | .expireTerminus _ _ => false
  | _ => true

/-- The same for a move. -/
def Move.IsRegular : Move → Prop
  | .act operation => operation.isRegular = true
  | .pass _ => True
  | .fire _ => True

theorem Operation.direct?_of_regular {operation : Operation}
    (isRegular : operation.isRegular = true) : operation.direct? = none := by
  cases operation <;> first | rfl | cases isRegular

theorem Operation.seedsNothing_of_regular {operation : Operation}
    (isRegular : operation.isRegular = true) (registry : Registry) :
    registry.SeedsNothing operation := by
  cases operation <;> first | exact .of_own rfl rfl | cases isRegular

namespace Registry

variable {operation : Operation} {registry later : Registry} {move : Move}
variable {key : Identifier.Key} {seat : Seat} {news : List Event}

/-- Operations that neither attach nor suspend nor expire publish nothing. -/
theorem told_after_of_quiet (isQuiet : operation.isQuiet = true)
    (isRegular : operation.isRegular = true)
    (notAsked : ∀ identifier, operation ≠ .expire identifier) :
    (registry.after operation).told = registry.told := by
  cases operation with
  | register | suspend | endSession | closeConnection | tryAdd | tryRemove => cases isQuiet
  | associate | suspendTerminus | expireTerminus => cases isRegular
  | expire identifier => exact absurd rfl (notAsked identifier)
  | updateSettings id settings =>
      change (registry.updateSettings id settings).told = _
      simp only [updateSettings]
      split <;> rfl
  | closeLink id =>
      change (registry.closeLink id).told = _
      simp only [closeLink]
      split <;> rfl
  | failOnSteal =>
      simp only [after, Operation.isInstant, if_true, Watch.perform, Watch.onLink]
      split <;> rfl
  | noteDelivery | settleDelivery | planRecovery =>
      simp only [after, Operation.isInstant, if_true, Watch.perform, Watch.onTerminus]
      split <;> rfl
  | snapshot =>
      obtain ⟨storage, described⟩ := describeAll_eq registry.entries.values registry
      change (registry.describeAll registry.entries.values).2.told = _
      rw [described]
      rfl
  | openLink | createTerminus | applyPlan | callStore | setOutages | wait | await | cancel => rfl

namespace Regular

theorem create (config : Config) (storage : Storage) (hasTimers : Bool) :
    Regular { Registry.create config storage with hasTimers } :=
  ⟨.create config storage hasTimers, isNative_create config storage hasTimers⟩

theorem dropTimer (regular : registry.Regular) (index : Nat) :
    (registry.dropTimer index).Regular :=
  ⟨regular.consistent.dropTimer index, regular.native.shared, regular.native.linked⟩

theorem after (regular : registry.Regular) (isRegular : operation.isRegular = true) :
    (registry.after operation).Regular := by
  obtain ⟨_, chronicle⟩ := regular.consistent.sound.evolves_after operation
  refine ⟨regular.consistent.changes ?_ (regular.consistent.sound.after_changes operation),
    chronicle.isNative (operation.seedsNothing_of_regular isRegular registry) regular.native⟩
  simp [Operation.direct?_of_regular isRegular]

end Regular

/-! ## Every move -/

/-- That a move attaches a link under an identifier. -/
def AttachesTo (registry : Registry) (key : Identifier.Key) (id : LinkId) : Move → Prop
  | .act (.register other exclusive) =>
      other = id ∧ ∃ link terminus, registry.links[id]? = some link ∧ link.identifier.key = key ∧
        (registry.register id exclusive).1 = .ok terminus
  | _ => False

/-- That a move fails or finds nothing to do, as its answer says. -/
def IsVoid (registry : Registry) : Move → Prop
  | .act (.register id exclusive) => ∃ error, (registry.register id exclusive).1 = .error error
  | .act (.suspend id departure) =>
      (registry.suspend id departure).1 ≠ .suspended ∧ (registry.suspend id departure).1 ≠ .expired
  | .act (.endSession session order) => (registry.endSession session order).1 = 0
  | .act (.closeConnection connection order) => (registry.closeConnection connection order).1 = 0
  | .act (.expire identifier) => (registry.expire identifier).1 = false
  | .act _ => True
  | .pass _ => True
  | .fire index => ∀ timer, registry.timers[index]? = some timer → timer.due ≤ registry.now →
      registry.suspended.get? timer.identifier.key ≠ some timer.epoch

/-- The events of a move tell what becomes of each seat, and nothing else. -/
structure Tells (registry : Registry) (move : Move) (news : List Event) (later : Registry) :
    Prop where
  told : later.told = registry.told ++ news
  attached : ∀ key id, registry.AttachesTo key id move →
    Seat.Waxes key id (registry.seat? key) news (later.seat? key)
  others : ∀ key, (∀ id, ¬registry.AttachesTo key id move) →
    Seat.Wanes (registry.seat? key) (Event.about key news) (later.seat? key)

theorem Wanes.tells (wanes : Wanes registry news later)
    (unattached : ∀ key id, ¬registry.AttachesTo key id move) : Tells registry move news later where
  told := wanes.told
  attached := fun key id attaches => absurd attaches (unattached key id)
  others := fun key _ => wanes.seats key

theorem Tells.eq_nil_iff (tells : Tells registry move news later) :
    news = [] ↔ (∀ key id, ¬registry.AttachesTo key id move) ∧
      ∀ key, later.seat? key = registry.seat? key := by
  constructor
  · rintro rfl
    have unattached : ∀ key id, ¬registry.AttachesTo key id move := by
      intro key id attaches
      obtain ⟨_, _, isNil, _⟩ := (tells.attached key id attaches).told
      cases isNil
    exact ⟨unattached, fun key => (tells.others key (unattached key)).eq_of_nil⟩
  · rintro ⟨unattached, same⟩
    refine Event.eq_nil_of_about fun key => ?_
    exact (tells.others key (unattached key)).eq_nil (same key)

theorem Departs.seat?_ne {keys : List Identifier.Key} (departs : Departs registry later keys)
    (listed : key ∈ keys) (seated : registry.seat? key = some seat)
    (isActive : seat.phase = .active) : later.seat? key ≠ registry.seat? key := by
  rw [seated]
  by_cases isZero : seat.entry.timeout = 0
  · rw [(departs.gone key listed seat seated isActive isZero).seat?]
    simp
  · rw [(departs.suspended key listed seat seated isActive isZero).1]
    intro same
    have phase := congrArg Seat.phase (Option.some.inj same)
    rw [isActive] at phase
    cases phase

namespace Regular

theorem expireEpoch_eq_false_iff (regular : registry.Regular) (identifier : Identifier)
    (epoch : Option Nat) :
    (registry.expireEpoch identifier epoch).1 = false ↔
      ∀ key, (registry.expireEpoch identifier epoch).2.seat? key = registry.seat? key := by
  rcases regular.consistent.expireEpoch_cases identifier epoch with ⟨unchanged, _⟩ |
    ⟨seat, later, seated, _, _, expires, gone, _⟩
  · simp [unchanged]
  · rw [expires]
    refine iff_of_false (by simp) fun same => ?_
    have seatedThen := same identifier.key
    rw [gone.seat?, seated] at seatedThen
    cases seatedThen

theorem expireEpoch_some_eq_false_iff (regular : registry.Regular) (identifier : Identifier)
    (epoch : Nat) :
    (registry.expireEpoch identifier (some epoch)).1 = false ↔
      registry.suspended.get? identifier.key ≠ some epoch := by
  rcases regular.consistent.expireEpoch_cases identifier (some epoch) with ⟨unchanged, mismatch⟩ |
    ⟨seat, later, seated, isSuspended, matching, expires, _⟩
  · refine iff_of_true (by rw [unchanged]) fun noted => ?_
    obtain ⟨seat, seated, isSuspended, sameEpoch⟩ := regular.consistent.noted_iff.1 noted
    obtain ⟨wanted, isWanted, apart⟩ := mismatch seat seated isSuspended
    cases isWanted
    exact apart sameEpoch.symm
  · refine iff_of_false (by simp [expires]) fun unnoted => unnoted ?_
    exact regular.consistent.noted_iff.2 ⟨seat, seated, isSuspended, (matching epoch rfl).symm⟩

/-- The end of a scope changes a seat if it counts any, and only then. -/
theorem suspendScope_eq_zero_iff (regular : registry.Regular) (departure : Departure)
    (inScope : Scope → Bool) (order : TableOrder) :
    (registry.suspendScope departure inScope order).1 = 0 ↔
      ∀ key, (registry.suspendScope departure inScope order).2.seat? key = registry.seat? key := by
  have sound := regular.consistent.sound
  have reordered := order.perm_arrange (registry.candidates departure inScope)
  have departs := regular.consistent.candidates_depart reordered
  have eligible := sound.of_mem_candidates reordered
  have called := (sound.suspendAll_eq (sound.nodup_candidates reordered) eligible).1
  have areOf := fun candidate member => (eligible candidate member).1
  change (registry.suspendAll _).1.length = 0 ↔ ∀ key, Registry.seat? _ key = _
  rw [List.length_eq_zero_iff, called]
  constructor
  · intro noneCalled key
    refine departs.stays key fun seat seated isActive listed => ?_
    obtain ⟨expiry, member, _⟩ := exists_called areOf listed seated isActive
    rw [noneCalled] at member
    cases member
  · intro same
    refine List.eq_nil_iff_forall_not_mem.2 fun expiry member => ?_
    obtain ⟨listed, seat, seated, isActive, _⟩ := of_mem_called areOf member
    exact departs.seat?_ne listed seated isActive (same _)

/-- A timer that runs is void unless it takes a seat. -/
theorem isVoid_fire_iff (regular : registry.Regular) (index : Nat) :
    registry.IsVoid (.fire index) ↔
      ∀ key, (registry.fire index).seat? key = registry.seat? key := by
  rcases registry.fire_cases index with ⟨unchanged, notDue⟩ | ⟨timer, isSet, isDue, expires⟩
  · rw [unchanged]
    exact iff_of_true (fun timer isSet isDue => absurd isDue (Nat.not_le_of_lt
      (notDue timer isSet))) fun _ => rfl
  · have dropped := regular.dropTimer index
    rw [expires]
    refine Iff.trans ?_ (dropped.expireEpoch_eq_false_iff _ _)
    rw [dropped.expireEpoch_some_eq_false_iff]
    refine ⟨fun isVoid => isVoid timer isSet isDue, fun unnoted other isOther _ => ?_⟩
    rw [isSet, Option.some.injEq] at isOther
    exact isOther ▸ unnoted

/-- That a link goes away is void unless it changes the seat that the link has. -/
theorem isVoid_suspend_iff (regular : registry.Regular) (id : LinkId) (departure : Departure) :
    registry.IsVoid (.act (.suspend id departure)) ↔
      ∀ key, (registry.suspend id departure).2.seat? key = registry.seat? key := by
  rcases regular.consistent.suspend_cases id departure with
    ⟨unchanged, notSuspended, notExpired, _⟩ | ⟨key, seat, seated, isLeft, _, departs, outcome⟩
  · rw [unchanged]
    exact iff_of_true ⟨notSuspended, notExpired⟩ fun _ => rfl
  · refine iff_of_false (fun isVoid => ?_) fun same => ?_
    · by_cases isZero : seat.entry.timeout = 0
      · exact isVoid.2 (outcome.trans (if_pos isZero))
      · exact isVoid.1 (outcome.trans (if_neg isZero))
    · exact departs.seat?_ne (List.mem_singleton_self key) seated
        (regular.consistent.seat_linked seated isLeft.1) (same key)

/-- A move is void if it attaches no link and changes no seat, and only then. -/
theorem isVoid_iff (regular : registry.Regular) (isRegular : move.IsRegular) :
    registry.IsVoid move ↔ (∀ key id, ¬registry.AttachesTo key id move) ∧
      ∀ key, (registry.move move).seat? key = registry.seat? key := by
  have consistent := regular.consistent
  have quietly {operation : Operation} (isQuiet : operation.isQuiet = true)
      (isOwn : operation.isRegular = true) (notAsked : ∀ identifier, operation ≠ .expire identifier)
      (key : Identifier.Key) : (registry.after operation).seat? key = registry.seat? key :=
    consistent.seat?_after isQuiet (by simp [Operation.direct?_of_regular isOwn]) notAsked
  cases move with
  | pass time => exact iff_of_true trivial ⟨fun _ _ => id, fun _ => rfl⟩
  | fire index =>
      exact (regular.isVoid_fire_iff index).trans
        ⟨fun same => ⟨fun _ _ => id, same⟩, fun both => both.2⟩
  | act operation =>
      cases operation with
      | register id exclusive =>
          rcases consistent.register_cases id exclusive with ⟨error, storage, refused⟩ |
            ⟨link, terminus, attached, known, _, _, registered⟩
          · refine iff_of_true ⟨error, by rw [refused]⟩ ⟨?_, fun key => ?_⟩
            · rintro key _ ⟨rfl, _, _, _, _, done⟩
              rw [refused] at done
              cases done
            · change (registry.register id exclusive).2.seat? key = _
              rw [refused]
              rfl
          · refine iff_of_false ?_ fun both => both.1 link.identifier.key id
              ⟨rfl, link, terminus, known, rfl, by rw [registered]⟩
            rintro ⟨error, failed⟩
            rw [registered] at failed
            cases failed
      | suspend id departure =>
          exact (regular.isVoid_suspend_iff id departure).trans
            ⟨fun same => ⟨fun _ _ attaches => attaches, same⟩, fun both => both.2⟩
      | endSession session order | closeConnection connection order =>
          exact (regular.suspendScope_eq_zero_iff _ _ order).trans
            ⟨fun same => ⟨fun _ _ => id, same⟩, fun both => both.2⟩
      | expire identifier =>
          exact (regular.expireEpoch_eq_false_iff _ _).trans
            ⟨fun same => ⟨fun _ _ => id, same⟩, fun both => both.2⟩
      | tryAdd | tryRemove | associate | suspendTerminus | expireTerminus => cases isRegular
      | _ =>
          exact iff_of_true trivial ⟨fun _ _ => id, quietly rfl rfl (by simp)⟩

/-- A link that is registered is told of by one attach and, if another link was closed for it, by
one theft. -/
theorem tells_register (regular : registry.Regular) (id : LinkId) (exclusive : Bool) :
    ∃ news, Tells registry (.act (.register id exclusive)) news
      (registry.register id exclusive).2 := by
  have isRegular : (Operation.register id exclusive).isRegular = true := rfl
  have regularThen : (registry.register id exclusive).2.Regular := regular.after isRegular
  have changes : Changes .snapshot registry registry (registry.register id exclusive).2 :=
    regular.consistent.sound.register_changes id exclusive
  rcases regular.consistent.register_cases id exclusive with ⟨error, storage, refused⟩ |
    ⟨link, terminus, attached, known, attaches, _, registered⟩
  · refine ⟨[], Wanes.tells (.quiet regularThen ?_ fun key => ?_) ?_⟩
    · rw [refused]
      rfl
    · rw [refused]
      rfl
    · rintro key _ ⟨rfl, _, _, _, _, done⟩
      rw [refused] at done
      cases done
  · have seats (other : Identifier.Key) :
        (registry.register id exclusive).2.seat? other = attached.seat? other := by
      rw [registered, seat?_closeDisplaced]
    have isDone : (registry.register id exclusive).1 = .ok terminus := by rw [registered]
    rcases regular.consistent.sound.register_chronicle .snapshot id exclusive with
      ⟨error, failed, _⟩ |
      ⟨same, owner, identifier, thefts, isSame, isOwner, isOwn, areThefts, chronicle, _⟩
    · rw [isDone] at failed
      cases failed
    rw [known, Option.some.injEq] at isSame
    subst isSame
    rw [isDone, Except.ok.injEq] at isOwner
    subst isOwner
    obtain ⟨epoch, seated⟩ := attaches.seated
    rw [← seats] at seated
    have told : (registry.register id exclusive).2.told =
        registry.told ++ .associated identifier :: thefts.map (·.event) := by
      have attachHeard : (registry.register id exclusive).2.tellsOf
          ⟨some terminus, .associated identifier⟩ = true := regularThen.tellsOf_seat seated _
      have theftsHeard : thefts.filter (registry.register id exclusive).2.tellsOf = thefts := by
        rcases areThefts with rfl | rfl <;> rfl
      rw [chronicle.told_eq, List.filter_cons_of_pos attachHeard, theftsHeard, List.map_cons]
    have waxes : Seat.Waxes link.identifier.key id (registry.seat? link.identifier.key)
        (.associated identifier :: thefts.map (·.event))
        ((registry.register id exclusive).2.seat? link.identifier.key) := by
      refine ⟨⟨identifier, _, rfl, isOwn, ?_⟩, _, seated, rfl, rfl, fun old isOld => ?_⟩
      · rcases areThefts with rfl | rfl
        · exact .inl rfl
        · exact .inr ⟨link.identifier, rfl, rfl⟩
      · exact epoch_le_of_outlive changes.outlive isOld seated (attaches.same old isOld).symm
    refine ⟨_, told, ?_, fun key unattached => ?_⟩
    · rintro key other ⟨rfl, found, _, isFound, rfl, _⟩
      rw [known, Option.some.injEq] at isFound
      subst isFound
      exact waxes
    · have apart : key ≠ link.identifier.key := by
        rintro rfl
        exact unattached id ⟨rfl, link, terminus, known, rfl, isDone⟩
      rw [seats, attaches.others key apart, Event.about_of_others]
      · exact .stays
      · intro event member isKey
        exact apart (isKey.symm.trans (waxes.areOwn event member))

/-- What a move makes of the table is told. -/
theorem tells_move (regular : registry.Regular) (isRegular : move.IsRegular) :
    ∃ news, Tells registry move news (registry.move move) ∧ (registry.move move).Regular := by
  have ofWanes (later : Registry) (wanes : ∃ news, Wanes registry news later)
      (unattached : ∀ key id, ¬registry.AttachesTo key id move) :
      ∃ news, Tells registry move news later ∧ later.Regular := by
    obtain ⟨news, wanes⟩ := wanes
    exact ⟨news, wanes.tells unattached, wanes.regular⟩
  cases move with
  | pass time =>
      have passed : Regular { registry with now := time } :=
        ⟨regular.consistent.withNow time, regular.native.shared, regular.native.linked⟩
      exact ofWanes _ ⟨[], .quiet passed rfl fun _ => rfl⟩ fun _ _ attaches => attaches
  | fire index =>
      refine ofWanes _ ?_ fun _ _ attaches => attaches
      rcases registry.fire_cases index with ⟨unchanged, _⟩ | ⟨timer, _, _, expires⟩
      · rw [Registry.move, unchanged]
        exact ⟨[], .quiet regular rfl fun _ => rfl⟩
      · rw [Registry.move, expires]
        obtain ⟨news, wanes⟩ :=
          (regular.dropTimer index).wanes_expireEpoch timer.identifier (some timer.epoch)
        exact ⟨news, wanes.regular, wanes.told, wanes.seats⟩
  | act operation =>
      cases operation with
      | register id exclusive =>
          obtain ⟨news, tells⟩ := regular.tells_register id exclusive
          exact ⟨news, tells, regular.after isRegular⟩
      | suspend id departure =>
          exact ofWanes _ (regular.wanes_suspend id departure) fun _ _ attaches => attaches
      | endSession session order | closeConnection connection order =>
          exact ofWanes _ (regular.wanes_suspendScope _ _ order) fun _ _ attaches => attaches
      | expire identifier =>
          exact ofWanes _ (regular.wanes_expireEpoch identifier none) fun _ _ attaches => attaches
      | tryAdd | tryRemove | associate | suspendTerminus | expireTerminus => cases isRegular
      | _ =>
          refine ofWanes _ ⟨[], .quiet (regular.after isRegular) ?_ fun key => ?_⟩
            fun _ _ attaches => attaches
          · exact told_after_of_quiet rfl isRegular (by simp)
          · exact regular.consistent.seat?_after rfl
              (by simp [Operation.direct?_of_regular isRegular]) (by simp)

/-- What has been told of the seats so far, a move goes on with. -/
theorem isTold_move (regular : registry.Regular) (isRegular : move.IsRegular)
    (isTold : ∀ key, Seat.IsTold (registry.seat? key) (Event.about key registry.told))
    (key : Identifier.Key) :
    Seat.IsTold ((registry.move move).seat? key)
      (Event.about key (registry.move move).told) := by
  obtain ⟨news, tells, _⟩ := regular.tells_move isRegular
  rw [tells.told, Event.about_append]
  by_cases attached : ∃ id, registry.AttachesTo key id move
  · obtain ⟨id, attaches⟩ := attached
    have waxes := tells.attached key id attaches
    rw [Event.about_of_own waxes.areOwn]
    exact (isTold key).waxes waxes
  · exact (isTold key).wanes (tells.others key fun id attaches => attached ⟨id, attaches⟩)

theorem isTold_follow (regular : registry.Regular) (moves : List Move)
    (areRegular : ∀ move ∈ moves, move.IsRegular)
    (isTold : ∀ key, Seat.IsTold (registry.seat? key) (Event.about key registry.told)) :
    (registry.follow moves).Regular ∧
      ∀ key, Seat.IsTold ((registry.follow moves).seat? key)
        (Event.about key (registry.follow moves).told) := by
  induction moves generalizing registry with
  | nil => exact ⟨regular, isTold⟩
  | cons move rest ih =>
      have isRegular := areRegular move List.mem_cons_self
      obtain ⟨_, _, regularThen⟩ := regular.tells_move isRegular
      exact ih regularThen (fun other member => areRegular other (List.mem_cons_of_mem _ member))
        (regular.isTold_move isRegular isTold)

end Regular

/-- At every moment of a registry that nobody puts termini into, takes them from or moves them
behind its back, the events that were published replay to its table, and each suspension was told
of in a later epoch than all earlier ones of its terminus.  A registration is told of by one attach,
a suspension by its epoch and an expiry as such, each once, and what fails or finds nothing to do
is not told of, but everything else is. -/
theorem events_replay_to_table (config : Config) (storage : Storage) (hasTimers : Bool)
    (moves : List Move) (areRegular : ∀ move ∈ moves, move.IsRegular) :
    let registry := { Registry.create config storage with hasTimers }.follow moves
    (∀ key, (Event.replay registry.told).get? key = registry.sighting? key) ∧
      (∀ key, Event.EpochsGrow (Event.about key registry.told)) ∧
      ∀ move : Move, move.IsRegular → ∃ news,
        Tells registry move news (registry.move move) ∧
          (news = [] ↔ registry.IsVoid move) := by
  intro registry
  have isNew := Regular.create config storage hasTimers
  obtain ⟨regular, isTold⟩ := isNew.isTold_follow moves areRegular fun _ => Seat.isTold_nil
  refine ⟨fun key => ?_, fun key => (isTold key).grow, fun move isRegular => ?_⟩
  · rw [Event.get?_replay]
    exact (isTold key).sighted
  · obtain ⟨news, tells, _⟩ := regular.tells_move isRegular
    exact ⟨news, tells, tells.eq_nil_iff.trans (regular.isVoid_iff isRegular).symm⟩

/-- A link is attached and goes away: the events tell of the suspension in its first epoch.  That it
goes away once more is not told. -/
theorem events_replay_to_table_sample :
    let moves : List Move :=
      [.act (.openLink (Sample.link "link-detach" 60)), .act (.register 0 false),
        .act (.suspend 0 .linkDetach)]
    let registry := Sample.registry.follow moves
    (∀ move ∈ moves, move.IsRegular) ∧
      (Event.replay registry.told).get? Sample.identifier.key = some ⟨.suspended, some 1⟩ ∧
      (registry.move (.act (.suspend 0 .linkDetach))).told = registry.told := by
  intro moves registry
  have areRegular : ∀ move ∈ moves, move.IsRegular := by
    simp [moves, Move.IsRegular, Operation.isRegular]
  obtain ⟨replayed, _, tells⟩ :=
    events_replay_to_table default { store := .memory {} } true moves areRegular
  obtain ⟨news, told, isVoid⟩ := tells (.act (.suspend 0 .linkDetach)) rfl
  have nothingDone : registry.IsVoid (.act (.suspend 0 .linkDetach)) := by
    refine ⟨?_, ?_⟩ <;> decide +kernel
  obtain rfl := isVoid.2 nothingDone
  refine ⟨areRegular, (replayed Sample.identifier.key).trans ?_, ?_⟩
  · decide +kernel
  · exact told.told.trans (List.append_nil _)

end Registry

end Reattach
