import Reattach.Proofs.Seats
import Reattach.Proofs.Timers

/-!
# What becomes of a seat

A move can do six things to the seat of an identifier: attach a link to it, fill it with a
terminus from elsewhere, suspend its terminus, let it expire or take it out, or leave it as it
is.  `Consistent.fate` tells which of them happens, and why, for every move that spares the
table.  What is to be shown of single seats goes by these cases from here on.
-/

namespace Reattach

/-- Whether a terminus goes with a scope that ends: its latest link was attached there, and its
policy is reached. -/
def Entry.goesWith (entry : Entry) (departure : Departure) (inScope : Scope → Bool) : Bool :=
  entry.scope.any inScope && entry.policy.qualifies departure

/-- Whether an operation neither suspends nor enters nor takes out termini.  It may let one
expire. -/
def Operation.isQuiet : Operation → Bool
  | .register _ _ | .suspend _ _ | .endSession _ _ | .closeConnection _ _ | .tryAdd _
  | .tryRemove _ => false
  | _ => true

namespace Registry

variable {operation : Operation} {registry later : Registry} {move : Move}
variable {key : Identifier.Key} {seat : Seat}

/-- The settings of a registry, and who sets its timers, are fixed when it is made. -/
theorem Sound.constants_follow (sound : registry.Sound) (moves : List Move)
    (sparing : registry.Sparing moves) :
    (registry.follow moves).config = registry.config ∧
      (registry.follow moves).hasTimers = registry.hasTimers := by
  let kept (later : Registry) : Prop :=
    later.config = registry.config ∧ later.hasTimers = registry.hasTimers
  have before : kept registry := ⟨rfl, rfl⟩
  have behind : kept (registry.follow moves) := by
    refine sound.follow_induction before ?_ ?_ ?_ moves sparing
    · intro _ _ same
      exact same
    · intro _ _ same
      exact same
    · intro _ _ _ _ _ _ change same
      obtain ⟨_, config, hasTimers⟩ := change.constants
      exact ⟨config.trans same.1, hasTimers.trans same.2⟩
  exact behind

/-! ## Suspended together -/

/-- That a timer has been set for a suspension, if there is someone to set it with, and is due
when the time of the suspension is over. -/
def IsTimed (registry later : Registry) (key : Identifier.Key) (epoch timeout : Nat) : Prop :=
  registry.hasTimers = true → ∃ timer ∈ later.timers, timer.IsFor key epoch ∧
    timer.due = registry.wakeTime timeout

/-- What it comes to if the termini of some identifiers are suspended together and their
expiries arranged: the active ones among them are gone if they have no time and suspended
if they have, and all others stay. -/
structure Departs (registry later : Registry) (keys : List Identifier.Key) : Prop where
  consistent : later.Consistent
  stays : ∀ key, (∀ seat, registry.seat? key = some seat → seat.phase = .active → key ∉ keys) →
    later.seat? key = registry.seat? key
  suspended : ∀ key ∈ keys, ∀ seat, registry.seat? key = some seat → seat.phase = .active →
    seat.entry.timeout ≠ 0 → later.seat? key = some seat.suspended ∧
      IsTimed registry later key (seat.epoch + 1) seat.entry.timeout
  gone : ∀ key ∈ keys, ∀ seat, registry.seat? key = some seat → seat.phase = .active →
    seat.entry.timeout = 0 → later.Gone key seat.entry.terminus

theorem of_mem_called {candidates : List (Identifier × Entry)}
    (areOf : ∀ candidate ∈ candidates,
      registry.entries.get? candidate.1.key = some candidate.2)
    {expiry : PendingExpiry} (member : expiry ∈ candidates.filterMap registry.called?) :
    expiry.identifier.key ∈ candidates.map (·.1.key) ∧
      ∃ seat, registry.seat? expiry.identifier.key = some seat ∧ seat.phase = .active ∧
        expiry.epoch = seat.epoch + 1 ∧ expiry.delay = seat.entry.timeout := by
  obtain ⟨candidate, isCandidate, isCalled⟩ := List.mem_filterMap.1 member
  obtain ⟨seat, seated, isActive, rfl⟩ := called?_eq_some_iff.1 isCalled
  have present := entry_of_seat? seated
  rw [areOf candidate isCandidate, Option.some.injEq] at present
  exact ⟨List.mem_map_of_mem isCandidate, seat, seated, isActive, rfl,
    congrArg Entry.timeout present⟩

theorem exists_called {candidates : List (Identifier × Entry)}
    (areOf : ∀ candidate ∈ candidates,
      registry.entries.get? candidate.1.key = some candidate.2)
    (listed : key ∈ candidates.map (·.1.key)) (seated : registry.seat? key = some seat)
    (isActive : seat.phase = .active) :
    ∃ expiry ∈ candidates.filterMap registry.called?, expiry.identifier.key = key ∧
      expiry.epoch = seat.epoch + 1 ∧ expiry.delay = seat.entry.timeout := by
  obtain ⟨candidate, isCandidate, rfl⟩ := List.mem_map.1 listed
  have present := entry_of_seat? seated
  rw [areOf candidate isCandidate, Option.some.injEq] at present
  refine ⟨⟨candidate.1, seat.epoch + 1, candidate.2.timeout⟩, ?_, rfl, rfl, by rw [present]⟩
  exact List.mem_filterMap.2
    ⟨candidate, isCandidate, called?_eq_some_iff.2 ⟨seat, seated, isActive, rfl⟩⟩

/-- Candidates of different identifiers depart together, in whatever order they come. -/
theorem Consistent.departs (consistent : registry.Consistent) {departure : Departure}
    {candidates : List (Identifier × Entry)}
    (distinct : (candidates.map (·.1.key)).Nodup)
    (eligible : ∀ candidate ∈ candidates,
      registry.entries.get? candidate.1.key = some candidate.2 ∧
        candidate.2.policy.qualifies departure = true) :
    Departs registry
      ((registry.suspendAll candidates).2.arrangeAll (registry.suspendAll candidates).1)
      (candidates.map (·.1.key)) := by
  have sound := consistent.sound
  have areOf := fun candidate member => (eligible candidate member).1
  obtain ⟨called, seats⟩ := sound.suspendAll_eq distinct eligible
  have stage := ((Suspending.start .snapshot registry).suspendAll sound eligible).1.changes
  have stagedConsistent := consistent.changes (by simp [Operation.direct?]) stage
  have constants := stage.constants
  rw [called]
  generalize (registry.suspendAll candidates).2 = staged at *
  have seatedThen {key : Identifier.Key} {seat : Seat} (listed : key ∈ candidates.map (·.1.key))
      (seated : registry.seat? key = some seat) (isActive : seat.phase = .active) :
      staged.seat? key = some seat.suspended := by
    rw [seats, seated, Option.map_some, Seat.suspendedIn, if_pos ⟨isActive, listed⟩]
  have arranges := stagedConsistent.arrangeAll (nodup_called distinct) fun expiry member => by
    obtain ⟨listed, seat, seated, isActive, isEpoch, _⟩ := of_mem_called areOf member
    exact ⟨_, seatedThen listed seated isActive, rfl, isEpoch.symm⟩
  refine ⟨arranges.consistent, fun key spared => ?_,
    fun key listed seat seated isActive lasts => ?_,
    fun key listed seat seated isActive isZero => ?_⟩
  · rw [arranges.stays key, seats]
    · cases seated : registry.seat? key with
      | none => rfl
      | some seat =>
          rw [Option.map_some, Seat.suspendedIn,
            if_neg fun both => spared seat seated both.1 both.2]
    · intro expiry member same
      obtain ⟨listed, seat, seated, isActive, _⟩ := of_mem_called areOf member
      rw [same] at listed seated
      exact absurd listed (spared seat seated isActive)
  · constructor
    · rw [arranges.stays key, seatedThen listed seated isActive]
      intro other isOther same
      obtain ⟨_, found, isFound, _, _, isDelay⟩ := of_mem_called areOf isOther
      rw [same, seated] at isFound
      cases isFound
      rwa [isDelay]
    · intro hasTimers
      obtain ⟨expiry, member, isOwn, isEpoch, isDelay⟩ :=
        exists_called areOf listed seated isActive
      refine ⟨staged.timerFor expiry, ?_, ⟨isOwn, isEpoch⟩, ?_⟩
      · exact arranges.timed (constants.2.2.trans hasTimers) expiry member (by rwa [isDelay])
      · simp only [timerFor, wakeTime, isDelay, constants.1]
  · obtain ⟨expiry, member, rfl, _, isDelay⟩ := exists_called areOf listed seated isActive
    exact arranges.gone expiry member (isDelay.trans isZero) seat.suspended
      (seatedThen listed seated isActive)

/-! ## One link goes away -/

theorem isAssociated_of_seat? (seated : registry.seat? key = some seat) (id : LinkId) :
    registry.isAssociated seat.entry.terminus id = (seat.link == some id) := by
  obtain ⟨entry, terminus, _, known, rfl⟩ := seat?_eq_some_iff.1 seated
  simp [isAssociated, linkOf, Seat.of, known]

theorem Consistent.arrange_fst (consistent : registry.Consistent) {pending : PendingExpiry}
    (calls : registry.IsCalledFor pending) :
    (registry.arrange pending).1 = decide (pending.delay = 0) := by
  by_cases isZero : pending.delay = 0
  · obtain ⟨_, _, _, expires, _⟩ := consistent.expireEpoch_of_called calls
    rw [arrange_of_delay_eq_zero registry isZero, expires]
    exact (decide_eq_true isZero).symm
  · rw [arrange_of_delay_ne_zero registry isZero]
    exact (decide_eq_false isZero).symm

/-- One active terminus departs by itself, and it is told whether it expired. -/
theorem Consistent.suspendEntry_departs (consistent : registry.Consistent)
    {identifier : Identifier} {departure : Departure}
    (seated : registry.seat? identifier.key = some seat)
    (qualifies : seat.entry.policy.qualifies departure = true) (isActive : seat.phase = .active) :
    let result : SuspendOutcome × Registry :=
      match registry.suspendEntry identifier seat.entry with
      | (none, registry) => (.alreadySuspended, registry)
      | (some pending, registry) =>
          ((if (registry.arrange pending).1 then .expired else .suspended),
            (registry.arrange pending).2)
    Departs registry result.2 [identifier.key] ∧
      result.1 = if seat.entry.timeout = 0 then .expired else .suspended := by
  have present := entry_of_seat? seated
  have eligible : ∀ candidate ∈ [(identifier, seat.entry)],
      registry.entries.get? candidate.1.key = some candidate.2 ∧
        candidate.2.policy.qualifies departure = true := by
    simp [present, qualifies]
  have departs := consistent.departs (by simp) eligible
  rcases consistent.sound.suspendEntry_cases seated with ⟨notActive, _⟩ |
    ⟨_, later, suspends, seatedThen, _⟩
  · exact absurd isActive notActive
  · have laterConsistent : later.Consistent := by
      have stage := (Suspending.start .snapshot registry).suspendEntry consistent.sound present
        qualifies
      rw [suspends] at stage
      exact consistent.changes (by simp [Operation.direct?]) stage.1.changes
    simp only [Registry.suspendAll, suspends] at departs
    simp only [suspends]
    have calls : later.IsCalledFor ⟨identifier, seat.epoch + 1, seat.entry.timeout⟩ :=
      ⟨_, seatedThen, rfl, rfl⟩
    refine ⟨departs, ?_⟩
    rw [laterConsistent.arrange_fst calls]
    simp only [decide_eq_true_eq]

/-- That a link that goes away takes its terminus with it: it is the one that the terminus of its
identifier has, and the policy is reached. -/
def IsLeftBy (registry : Registry) (id : LinkId) (departure : Departure)
    (key : Identifier.Key) (seat : Seat) : Prop :=
  seat.link = some id ∧ seat.entry.policy.qualifies departure = true ∧
    ∃ link, registry.links[id]? = some link ∧ link.identifier.key = key

/-- A link takes one terminus with it at most. -/
theorem IsLeftBy.unique {id : LinkId} {departure : Departure} {other : Identifier.Key}
    {found : Seat} (isLeft : registry.IsLeftBy id departure key seat)
    (isLeftToo : registry.IsLeftBy id departure other found) : other = key := by
  obtain ⟨_, _, link, known, rfl⟩ := isLeft
  obtain ⟨_, _, _, isKnown, rfl⟩ := isLeftToo
  rw [known] at isKnown
  cases isKnown
  rfl

/-- A link that takes its terminus with it suspends it, or lets it expire if it has no time. -/
theorem Consistent.suspend_of_left (consistent : registry.Consistent) {id : LinkId}
    {departure : Departure} (seated : registry.seat? key = some seat)
    (isLeft : registry.IsLeftBy id departure key seat) :
    Departs registry (registry.suspend id departure).2 [key] ∧
      (registry.suspend id departure).1 =
        if seat.entry.timeout = 0 then .expired else .suspended := by
  obtain ⟨isLink, qualifies, link, known, rfl⟩ := isLeft
  simp only [suspend, known, suspendFor, entry?, entry_of_seat? seated,
    isAssociated_of_seat? seated, isLink, beq_self_eq_true, qualifies, Bool.not_true,
    Bool.false_eq_true, if_false]
  exact consistent.suspendEntry_departs seated qualifies (consistent.seat_linked seated isLink)

/-- A link that takes no terminus with it changes nothing. -/
theorem Sound.suspend_of_unleft (sound : registry.Sound) {id : LinkId} {departure : Departure}
    (unleft : ∀ key seat, registry.seat? key = some seat →
      ¬registry.IsLeftBy id departure key seat) :
    (registry.suspend id departure).2 = registry ∧
      (registry.suspend id departure).1 ≠ .suspended ∧
      (registry.suspend id departure).1 ≠ .expired := by
  simp only [suspend]
  cases known : registry.links[id]? with
  | none => simp
  | some link =>
      simp only [suspendFor, entry?]
      cases present : registry.entries.get? link.identifier.key with
      | none => simp
      | some entry =>
          obtain ⟨seat, seated, rfl⟩ := sound.exists_seat present
          simp only [isAssociated_of_seat? seated]
          split
          · simp
          · next isOwn =>
              split
              · simp
              · next reached =>
                  refine absurd ?_ (unleft _ seat seated)
                  exact ⟨by simpa using isOwn, by simpa using reached, link, known, rfl⟩

theorem Consistent.suspend_cases (consistent : registry.Consistent) (id : LinkId)
    (departure : Departure) :
    (registry.suspend id departure).2 = registry ∧
        (registry.suspend id departure).1 ≠ .suspended ∧
        (registry.suspend id departure).1 ≠ .expired ∧
        (∀ key seat, registry.seat? key = some seat → ¬registry.IsLeftBy id departure key seat) ∨
      ∃ key seat, registry.seat? key = some seat ∧ registry.IsLeftBy id departure key seat ∧
        (∀ other found, registry.seat? other = some found →
          registry.IsLeftBy id departure other found → other = key) ∧
        Departs registry (registry.suspend id departure).2 [key] ∧
        (registry.suspend id departure).1 =
          if seat.entry.timeout = 0 then .expired else .suspended := by
  by_cases left : ∃ key seat, registry.seat? key = some seat ∧
      registry.IsLeftBy id departure key seat
  · obtain ⟨key, seat, seated, isLeft⟩ := left
    exact .inr ⟨key, seat, seated, isLeft, fun _ _ _ => isLeft.unique,
      consistent.suspend_of_left seated isLeft⟩
  · have unleft : ∀ key seat, registry.seat? key = some seat →
        ¬registry.IsLeftBy id departure key seat :=
      fun key seat seated isLeft => left ⟨key, seat, seated, isLeft⟩
    obtain ⟨unchanged, notSuspended, notExpired⟩ := consistent.sound.suspend_of_unleft unleft
    exact .inl ⟨unchanged, notSuspended, notExpired, unleft⟩

/-! ## A scope goes away -/

theorem Sound.map_key_candidates (sound : registry.Sound) (departure : Departure)
    (inScope : Scope → Bool) :
    (registry.candidates departure inScope).map (·.1.key) =
      (registry.entries.toList.filter fun binding =>
        binding.2.goesWith departure inScope).map Prod.fst := by
  have ofBindings (bindings : List (Identifier.Key × Entry))
      (isPart : ∀ binding ∈ bindings, registry.entries.get? binding.1 = some binding.2) :
      ((bindings.map Prod.snd).filterMap fun entry =>
          if entry.goesWith departure inScope then
            registry.termini[entry.terminus]?.map fun terminus => (terminus.identifier, entry)
          else none).map (·.1.key) =
        (bindings.filter fun binding => binding.2.goesWith departure inScope).map Prod.fst := by
    induction bindings with
    | nil => rfl
    | cons binding rest ih =>
        have others := ih fun other member => isPart other (List.mem_cons_of_mem _ member)
        obtain ⟨terminus, known, isOwn⟩ := sound.keyed (isPart binding List.mem_cons_self)
        rw [List.map_cons, List.filterMap_cons, List.filter_cons]
        by_cases takes : binding.2.goesWith departure inScope = true
        · rw [if_pos takes, if_pos takes, known, Option.map_some, List.map_cons, List.map_cons,
            others, isOwn]
        · rw [if_neg takes, if_neg takes, others]
  exact ofBindings _ fun binding member =>
    (registry.entries.mem_toList_iff binding.1 binding.2).1 member

theorem Sound.nodup_candidates (sound : registry.Sound) {departure : Departure}
    {inScope : Scope → Bool} {listed : List (Identifier × Entry)}
    (reordered : listed.Perm (registry.candidates departure inScope)) :
    (listed.map (·.1.key)).Nodup := by
  rw [(reordered.map _).nodup_iff, sound.map_key_candidates]
  exact registry.entries.nodup_keys.sublist (List.filter_sublist.map _)

/-- An identifier is among the candidates if the end of the scope takes its terminus. -/
theorem Sound.mem_candidates_iff (sound : registry.Sound) {departure : Departure}
    {inScope : Scope → Bool} {listed : List (Identifier × Entry)}
    (reordered : listed.Perm (registry.candidates departure inScope))
    (seated : registry.seat? key = some seat) :
    key ∈ listed.map (·.1.key) ↔ seat.entry.goesWith departure inScope = true := by
  rw [(reordered.map _).mem_iff, sound.map_key_candidates]
  simp only [List.mem_map, List.mem_filter, Prod.exists, exists_and_right, exists_eq_right,
    registry.entries.mem_toList_iff, entry_of_seat? seated, Option.some.injEq]
  constructor
  · rintro ⟨_, rfl, takes⟩
    exact takes
  · intro takes
    exact ⟨_, rfl, takes⟩

/-- Candidates of a scope depart together, in whatever order they come. -/
theorem Consistent.candidates_depart (consistent : registry.Consistent) {departure : Departure}
    {inScope : Scope → Bool} {listed : List (Identifier × Entry)}
    (reordered : listed.Perm (registry.candidates departure inScope)) :
    Departs registry ((registry.suspendAll listed).2.arrangeAll (registry.suspendAll listed).1)
      (listed.map (·.1.key)) := by
  apply consistent.departs
  · exact consistent.sound.nodup_candidates reordered
  · exact consistent.sound.of_mem_candidates reordered

/-! ## What a move means for a seat -/

/-- That a move takes the link of an active terminus away by an event that its policy is reached
by: its own link goes away, or the session or connection of its latest link. -/
def Reaches (registry : Registry) (key : Identifier.Key) (seat : Seat) : Move → Prop
  | .act (.suspend id departure) => registry.IsLeftBy id departure key seat
  | .act (.endSession session _) =>
      seat.entry.goesWith .sessionEnd (fun scope => scope.session == session) = true
  | .act (.closeConnection connection _) =>
      seat.entry.goesWith .connectionClose (fun scope => scope.connection == connection) = true
  | _ => False

/-- That a move enters an identifier in the table, with a new terminus or the one it has: a link
is registered under it, or a terminus is put in for it.  The link's scope and settings count from
then on, or the terminus' settings. -/
def EntersAs (registry : Registry) (key : Identifier.Key) (scope : Option Scope)
    (settings : Settings) : Move → Prop
  | .act (.register id exclusive) =>
      ∃ link terminus, registry.links[id]? = some link ∧ link.identifier.key = key ∧
        (registry.register id exclusive).1 = .ok terminus ∧
        scope = some link.scope ∧ settings = link.settings
  | .act (.tryAdd id) =>
      ∃ terminus, registry.termini[id]? = some terminus ∧ terminus.identifier.key = key ∧
        (registry.tryAdd id).1 = true ∧ scope = none ∧ settings = terminus.settings
  | _ => False

/-- What a move makes of the seat of an identifier. -/
inductive Fate (registry : Registry) (key : Identifier.Key) (move : Move)
    (later : Registry) : Prop where
  | stays (same : later.seat? key = registry.seat? key)
      (unreached : ∀ seat, registry.seat? key = some seat → seat.phase = .active →
        ¬registry.Reaches key seat move)
      (unentered : ∀ scope settings, ¬registry.EntersAs key scope settings move)
      (untaken : ∀ identifier, move = .act (.tryRemove identifier) → identifier.key ≠ key)
  | attached {id : LinkId} {exclusive : Bool} {link : Link} {terminus : TerminusId} {epoch : Nat}
      (asked : move = .act (.register id exclusive)) (known : registry.links[id]? = some link)
      (isOwn : link.identifier.key = key)
      (done : (registry.register id exclusive).1 = .ok terminus)
      (seated : later.seat? key =
        some ⟨registry.enteredEntry link terminus, .active, epoch, some id⟩)
      (sameTerminus : ∀ seat, registry.seat? key = some seat → seat.entry.terminus = terminus)
  | seeded {id : TerminusId} {terminus : Terminus} (asked : move = .act (.tryAdd id))
      (known : registry.termini[id]? = some terminus) (isOwn : terminus.identifier.key = key)
      (done : (registry.tryAdd id).1 = true) (vacant : registry.seat? key = none)
      (seated : later.seat? key = some (.of (registry.seededEntry id terminus) terminus))
      (timed : terminus.phase = .suspended →
        (registry.seededEntry id terminus).timeout ≠ 0 ∧
          IsTimed registry later key terminus.epoch (registry.seededEntry id terminus).timeout)
  | spent {id : TerminusId} {terminus : Terminus} (asked : move = .act (.tryAdd id))
      (known : registry.termini[id]? = some terminus) (isOwn : terminus.identifier.key = key)
      (done : (registry.tryAdd id).1 = true) (vacant : registry.seat? key = none)
      (gone : later.Gone key id)
  | suspended {seat : Seat} (seated : registry.seat? key = some seat)
      (isActive : seat.phase = .active) (reached : registry.Reaches key seat move)
      (lasts : seat.entry.timeout ≠ 0) (seatedThen : later.seat? key = some seat.suspended)
      (timed : IsTimed registry later key (seat.epoch + 1) seat.entry.timeout)
  | expired {seat : Seat} (seated : registry.seat? key = some seat)
      (reason : seat.phase = .suspended ∨
        seat.phase = .active ∧ registry.Reaches key seat move ∧ seat.entry.timeout = 0)
      (gone : later.Gone key seat.entry.terminus)
  | removed {identifier : Identifier} (asked : move = .act (.tryRemove identifier))
      (isOwn : identifier.key = key) (absent : later.entries.get? key = none)

theorem Fate.of_quiet (isQuiet : operation.isQuiet = true)
    (same : later.seat? key = registry.seat? key) : Fate registry key (.act operation) later := by
  cases operation with
  | register | suspend | endSession | closeConnection | tryAdd | tryRemove => cases isQuiet
  | _ =>
      exact .stays same (fun _ _ _ reached => reached) (fun _ _ entered => entered) (by simp)

/-- A move that makes termini depart together makes of a seat what that comes to. -/
theorem Fate.of_departs {keys : List Identifier.Key} (departs : Departs registry later keys)
    (reach : ∀ seat, registry.seat? key = some seat → seat.phase = .active →
      (key ∈ keys ↔ registry.Reaches key seat move))
    (unentered : ∀ scope settings, ¬registry.EntersAs key scope settings move)
    (untaken : ∀ identifier, move ≠ .act (.tryRemove identifier)) :
    Fate registry key move later := by
  by_cases goes : ∃ seat, registry.seat? key = some seat ∧ seat.phase = .active ∧ key ∈ keys
  · obtain ⟨seat, seated, isActive, listed⟩ := goes
    have reached := (reach seat seated isActive).1 listed
    by_cases isZero : seat.entry.timeout = 0
    · exact .expired seated (.inr ⟨isActive, reached, isZero⟩)
        (departs.gone key listed seat seated isActive isZero)
    · obtain ⟨seatedThen, timed⟩ := departs.suspended key listed seat seated isActive isZero
      exact .suspended seated isActive reached isZero seatedThen timed
  · refine .stays ?_ ?_ unentered fun identifier asked => absurd asked (untaken identifier)
    · apply departs.stays
      intro seat seated isActive listed
      exact goes ⟨seat, seated, isActive, listed⟩
    · intro seat seated isActive reached
      exact goes ⟨seat, seated, isActive, (reach seat seated isActive).2 reached⟩

/-- A terminus that is put into the table has a seat then, or is gone if it has no time. -/
theorem Fate.of_seeds {id : TerminusId} {terminus : Terminus} {seeded : Registry}
    (seeds : Seeds registry seeded id terminus) (done : (registry.tryAdd id).1 = true)
    (arranges : Arranges seeded later (registry.seededExpiry id terminus)) :
    Fate registry terminus.identifier.key (.act (.tryAdd id)) later := by
  by_cases isSpent : terminus.phase = .suspended ∧ (registry.seededEntry id terminus).timeout = 0
  · refine .spent rfl seeds.known rfl done seeds.vacant ?_
    exact arranges.gone _ (mem_seededExpiry_iff.2 ⟨isSpent.1, rfl⟩) isSpent.2 _ seeds.seated
  · have lasts (isSuspended : terminus.phase = .suspended) :
        (registry.seededEntry id terminus).timeout ≠ 0 := fun isZero =>
      isSpent ⟨isSuspended, isZero⟩
    refine .seeded rfl seeds.known rfl done seeds.vacant ?_ fun isSuspended =>
      ⟨lasts isSuspended, fun hasTimers => ?_⟩
    · rw [arranges.stays, seeds.seated]
      intro expiry member _
      obtain ⟨isSuspended, rfl⟩ := mem_seededExpiry_iff.1 member
      exact lasts isSuspended
    · refine ⟨_, arranges.timed (seeds.constants.2.trans hasTimers) _
        (mem_seededExpiry_iff.2 ⟨isSuspended, rfl⟩) (lasts isSuspended), ⟨rfl, rfl⟩, ?_⟩
      simp only [timerFor, wakeTime, seeds.constants.1]

theorem Fate.of_tryRemove (registry : Registry) (identifier : Identifier) (key : Identifier.Key) :
    Fate registry key (.act (.tryRemove identifier)) (registry.tryRemove identifier).2 := by
  by_cases isOwn : identifier.key = key
  · subst isOwn
    exact .removed rfl rfl (SortedMap.get?_erase_self _ _)
  · refine .stays ?_ (fun _ _ _ reached => reached) (fun _ _ entered => entered) ?_
    · rw [seat?_tryRemove, if_neg (Ne.symm isOwn)]
    · intro other asked
      cases asked
      exact isOwn

theorem describeAll_eq (entries : List Entry) (registry : Registry) :
    ∃ storage, (registry.describeAll entries).2 = { registry with storage } := by
  induction entries generalizing registry with
  | nil => exact ⟨registry.storage, rfl⟩
  | cons entry rest ih =>
      simp only [describeAll]
      split
      · exact ih registry
      · next terminus _ =>
          obtain ⟨storage, described⟩ := ih (registry.describe entry terminus).2
          exact ⟨storage, described⟩

namespace Consistent

/-- The operations that are quiet leave every seat, but for an expiry that is asked for. -/
theorem seat?_after (consistent : registry.Consistent) (isQuiet : operation.isQuiet = true)
    (spares : ∀ id ∈ operation.direct?, ¬registry.Holds id)
    (notAsked : ∀ identifier, operation ≠ .expire identifier) :
    (registry.after operation).seat? key = registry.seat? key := by
  have ofDirect {id : TerminusId} {terminus : Terminus} {termini : Array Terminus}
      {channel : Channel} (isDirect : id ∈ operation.direct?)
      (puts : Puts registry.termini id terminus termini) :
      seat? { registry with termini, channel } key = registry.seat? key := by
    refine seat?_of_puts puts rfl fun entry present same => ?_
    exact spares id isDirect ⟨key, entry, present, same⟩
  cases operation with
  | register | suspend | endSession | closeConnection | tryAdd | tryRemove => cases isQuiet
  | expire identifier => exact absurd rfl (notAsked identifier)
  | createTerminus identifier settings =>
      refine seat?_of_puts (Puts.push _ _) rfl (consistent.terminus_ne_of_new ?_)
      exact Array.getElem?_eq_none (Nat.le_refl _)
  | updateSettings id settings =>
      change (registry.updateSettings id settings).seat? key = _
      cases known : registry.termini[id]? with
      | none => simp only [updateSettings, known]
      | some terminus =>
          obtain ⟨termini, updated, puts⟩ := updateSettings_eq registry known settings
          rw [updated]
          exact seat?_of_puts_same known puts rfl fun _ => rfl
  | associate id link =>
      change (registry.associate id link).2.seat? key = _
      cases known : registry.termini[id]? with
      | none => simp only [associate, known]
      | some terminus =>
          rcases associate_cases registry known link with ⟨error, refused, _⟩ |
            ⟨displaced, grown, channel, termini, _, puts, changed⟩
          · rw [refused]
          · rw [changed]
            exact ofDirect rfl puts
  | suspendTerminus id =>
      change (registry.suspendTerminus id).2.seat? key = _
      cases known : registry.termini[id]? with
      | none => simp only [suspendTerminus, known, Option.bind_none]
      | some terminus =>
          rcases suspendTerminus_cases known with ⟨unchanged, _⟩ |
            ⟨grown, channel, termini, _, puts, changed⟩
          · rw [unchanged]
          · rw [changed]
            exact ofDirect rfl puts
  | expireTerminus id epoch =>
      change (registry.expireTerminus id epoch).2.seat? key = _
      cases known : registry.termini[id]? with
      | none => simp only [expireTerminus, known, Option.bind_none]
      | some terminus =>
          obtain ⟨channel, termini, changed, puts⟩ := expireTerminus_eq registry known epoch
          rw [changed]
          exact ofDirect rfl puts
  | closeLink id =>
      simp only [after, Operation.isInstant, if_true, Watch.perform, Watch.withRegistry, closeLink]
      split <;> rfl
  | failOnSteal id fails =>
      simp only [after, Operation.isInstant, if_true, Watch.perform, Watch.onLink]
      split <;> rfl
  | noteDelivery | settleDelivery | planRecovery =>
      simp only [after, Operation.isInstant, if_true, Watch.perform, Watch.onTerminus]
      split <;> rfl
  | snapshot =>
      obtain ⟨storage, described⟩ := describeAll_eq registry.entries.values registry
      change (registry.describeAll registry.entries.values).2.seat? key = _
      rw [described]
      rfl
  | openLink | applyPlan | callStore | setOutages | wait | await | cancel => rfl

theorem fate_expireEpoch {moment : Registry} (consistent : moment.Consistent)
    (sameSeat : moment.seat? key = registry.seat? key) (identifier : Identifier)
    (epoch : Option Nat)
    (unreached : ∀ seat, registry.seat? key = some seat → seat.phase = .active →
      ¬registry.Reaches key seat move)
    (unentered : ∀ scope settings, ¬registry.EntersAs key scope settings move)
    (untaken : ∀ identifier, move ≠ .act (.tryRemove identifier)) :
    Fate registry key move (moment.expireEpoch identifier epoch).2 := by
  rcases consistent.expireEpoch_cases identifier epoch with ⟨unchanged, _⟩ |
    ⟨seat, later, seated, isSuspended, _, expires, gone, others⟩
  · rw [unchanged]
    exact .stays sameSeat unreached unentered fun other asked => absurd asked (untaken other)
  · rw [expires]
    by_cases isOwn : key = identifier.key
    · subst isOwn
      exact .expired (sameSeat.symm.trans seated) (.inl isSuspended) gone
    · exact .stays ((others key isOwn).trans sameSeat) unreached unentered fun other asked =>
        absurd asked (untaken other)

theorem fate_register (consistent : registry.Consistent) (id : LinkId) (exclusive : Bool)
    (key : Identifier.Key) :
    Fate registry key (.act (.register id exclusive)) (registry.register id exclusive).2 := by
  rcases consistent.register_cases id exclusive with ⟨error, storage, refused⟩ |
    ⟨link, terminus, attached, known, attaches, _, registered⟩
  · rw [refused]
    refine .stays rfl (fun _ _ _ reached => reached) (fun scope settings entered => ?_) (by simp)
    obtain ⟨_, _, _, _, done, _⟩ := entered
    rw [refused] at done
    cases done
  · have seats (other : Identifier.Key) :
        (registry.register id exclusive).2.seat? other = attached.seat? other := by
      rw [registered, seat?_closeDisplaced]
    by_cases isOwn : link.identifier.key = key
    · subst isOwn
      obtain ⟨epoch, seated⟩ := attaches.seated
      exact .attached rfl known rfl (by rw [registered]) ((seats _).trans seated) attaches.same
    · refine .stays ((seats key).trans (attaches.others key (Ne.symm isOwn)))
        (fun _ _ _ reached => reached) (fun scope settings entered => ?_) (by simp)
      obtain ⟨other, _, isKnown, isKey, _⟩ := entered
      rw [known] at isKnown
      cases isKnown
      exact isOwn isKey

theorem fate_tryAdd (consistent : registry.Consistent) (id : TerminusId) (key : Identifier.Key) :
    Fate registry key (.act (.tryAdd id)) (registry.tryAdd id).2 := by
  rcases consistent.tryAdd_cases id with ⟨refused, same⟩ |
    ⟨terminus, seeded, done, seeds, arranges⟩
  · refine .stays (same key) (fun _ _ _ reached => reached) (fun scope settings entered => ?_)
      (by simp)
    obtain ⟨_, _, _, done, _⟩ := entered
    rw [refused] at done
    cases done
  · by_cases isOwn : terminus.identifier.key = key
    · subst isOwn
      exact .of_seeds seeds done arranges
    · refine .stays ?_ (fun _ _ _ reached => reached) (fun scope settings entered => ?_) (by simp)
      · rw [arranges.stays key, seeds.others key (Ne.symm isOwn)]
        intro expiry member same
        obtain ⟨_, rfl⟩ := mem_seededExpiry_iff.1 member
        exact absurd same isOwn
      · obtain ⟨other, isKnown, isKey, _⟩ := entered
        rw [seeds.known] at isKnown
        cases isKnown
        exact isOwn isKey

theorem fate_suspend (consistent : registry.Consistent) (id : LinkId) (departure : Departure)
    (key : Identifier.Key) :
    Fate registry key (.act (.suspend id departure)) (registry.suspend id departure).2 := by
  rcases consistent.suspend_cases id departure with ⟨unchanged, _, _, unreached⟩ |
    ⟨own, seat, seated, isLeft, isOnly, departs, _⟩
  · rw [unchanged]
    exact .stays rfl (fun seat seated _ => unreached key seat seated)
      (fun _ _ entered => entered) (by simp)
  · refine .of_departs departs (fun found isFound _ => ?_) (fun _ _ entered => entered) (by simp)
    rw [List.mem_singleton]
    constructor
    · rintro rfl
      rw [seated] at isFound
      cases isFound
      exact isLeft
    · exact isOnly key found isFound

/-- What becomes of a seat when an operation is carried out. -/
theorem fate_after (consistent : registry.Consistent)
    (spares : ∀ id ∈ operation.direct?, ¬registry.Holds id) (key : Identifier.Key) :
    Fate registry key (.act operation) (registry.after operation) := by
  have sound := consistent.sound
  cases operation with
  | register id exclusive => exact consistent.fate_register id exclusive key
  | tryAdd id => exact consistent.fate_tryAdd id key
  | suspend id departure => exact consistent.fate_suspend id departure key
  | tryRemove identifier => exact .of_tryRemove registry identifier key
  | endSession session order | closeConnection connection order =>
      exact .of_departs (consistent.candidates_depart (order.perm_arrange _))
        (fun seat seated _ => sound.mem_candidates_iff (order.perm_arrange _) seated)
        (fun _ _ entered => entered) (by simp)
  | expire identifier =>
      exact consistent.fate_expireEpoch rfl identifier none (fun _ _ _ reached => reached)
        (fun _ _ entered => entered) (by simp)
  | _ => exact .of_quiet rfl (consistent.seat?_after rfl spares (by simp))

/-- What becomes of a seat by a move that spares the table. -/
theorem fate (consistent : registry.Consistent) (move : Move) (spares : move.SparesTable registry)
    (key : Identifier.Key) : Fate registry key move (registry.move move) := by
  cases move with
  | act operation => exact consistent.fate_after spares key
  | pass time =>
      exact .stays rfl (fun _ _ _ reached => reached) (fun _ _ entered => entered) (by simp)
  | fire index =>
      rcases registry.fire_cases index with ⟨unchanged, _⟩ | ⟨timer, _, _, expires⟩
      · rw [Registry.move, unchanged]
        exact .stays rfl (fun _ _ _ reached => reached) (fun _ _ entered => entered) (by simp)
      · have sameSeat : (registry.dropTimer index).seat? key = registry.seat? key := rfl
        have unreached (seat : Seat) (_ : registry.seat? key = some seat)
            (_ : seat.phase = .active) : ¬registry.Reaches key seat (.fire index) := id
        have unentered (scope : Option Scope) (settings : Settings) :
            ¬registry.EntersAs key scope settings (.fire index) := id
        rw [Registry.move, expires]
        exact (consistent.dropTimer index).fate_expireEpoch sameSeat timer.identifier
          (some timer.epoch) unreached unentered (by simp)

end Consistent

end Registry

end Reattach
