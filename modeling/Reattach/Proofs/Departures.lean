import Mathlib.Data.List.Nodup
import Reattach.Proofs.Fates

/-!
# Who is suspended, and by what

An active terminus is suspended when its own link goes away, or together with the others of a
session or connection.  Whether an event reaches it is a matter of the table alone: of the scope
and the policy that the move brought which last entered the identifier there.
`departures_exact` says so for all registries that moves lead to which spare the table, and that
what is told of a suspension is what has happened.
-/

namespace Reattach

namespace TableOrder

variable (order : TableOrder)

theorem pairwise_insert (entry : Identifier × Entry) {entries : List (Identifier × Entry)}
    (sorted : entries.Pairwise fun first second => order first.1.key ≤ order second.1.key) :
    (order.insert entry entries).Pairwise fun first second =>
      order first.1.key ≤ order second.1.key := by
  induction entries with
  | nil => exact List.pairwise_singleton _ _
  | cons head rest ih =>
      obtain ⟨fromHead, sortedRest⟩ := List.pairwise_cons.1 sorted
      rw [insert]
      split
      · next isBefore =>
          refine List.pairwise_cons.2 ⟨fun other member => ?_, ih sortedRest⟩
          rcases List.mem_cons.1 ((order.perm_insert entry rest).mem_iff.1 member) with rfl | among
          · exact Nat.le_of_lt isBefore
          · exact fromHead other among
      · next notBefore =>
          have first := Nat.le_of_not_lt notBefore
          refine List.pairwise_cons.2 ⟨fun other member => ?_, sorted⟩
          rcases List.mem_cons.1 member with rfl | among
          · exact first
          · exact Nat.le_trans first (fromHead other among)

theorem pairwise_arrange (entries : List (Identifier × Entry)) :
    (order.arrange entries).Pairwise fun first second =>
      order first.1.key ≤ order second.1.key := by
  induction entries with
  | nil => exact .nil
  | cons entry rest ih => exact order.pairwise_insert entry ih

/-- Entries of different identifiers are come upon in any way there is, by some order. -/
theorem exists_arrange_eq {entries listed : List (Identifier × Entry)}
    (reordered : listed.Perm entries) (distinct : (listed.map (·.1.key)).Nodup) :
    ∃ order : TableOrder, order.arrange entries = listed := by
  let order : TableOrder := fun key => (listed.map (·.1.key)).idxOf key
  have place (index : Nat) (inRange : index < listed.length) :
      order listed[index].1.key = index := by
    have found := distinct.idxOf_getElem index (by rwa [List.length_map])
    rwa [List.getElem_map] at found
  have inPlace : listed.Pairwise fun first second => order first.1.key ≤ order second.1.key := by
    rw [List.pairwise_iff_getElem]
    intro first second _ _ isBefore
    rw [place, place]
    exact Nat.le_of_lt isBefore
  have arranged := order.perm_arrange entries
  refine ⟨order, List.Perm.eq_of_pairwise (fun first second isFirst isSecond below above => ?_)
    (order.pairwise_arrange entries) inPlace (arranged.trans reordered.symm)⟩
  have isListed : first ∈ listed := reordered.mem_iff.2 (arranged.mem_iff.1 isFirst)
  have sameKey : first.1.key = second.1.key :=
    (List.idxOf_inj (List.mem_map_of_mem isListed)).1 (Nat.le_antisymm below above)
  exact List.inj_on_of_nodup_map distinct isListed isSecond sameKey

end TableOrder

/-- That the table says of a terminus what a scope and settings come to. -/
def Entry.IsOf (entry : Entry) (config : Config) (scope : Option Scope)
    (settings : Settings) : Prop :=
  entry.scope = scope ∧ (entry.policy, entry.timeout) = config.resolve settings

namespace Registry

variable {origin registry later : Registry} {move : Move} {moves : List Move}
variable {key : Identifier.Key} {seat : Seat} {scope : Option Scope} {settings : Settings}

/-! ## The last to enter an identifier -/

/-- That the last of some moves that entered an identifier brought this scope and these
settings. -/
inductive LastEntered (origin : Registry) (key : Identifier.Key) :
    List Move → Option Scope → Settings → Prop
  | now {moves : List Move} {move : Move} {scope : Option Scope} {settings : Settings}
      (enters : (origin.follow moves).EntersAs key scope settings move) :
      LastEntered origin key (moves ++ [move]) scope settings
  | since {moves : List Move} {move : Move} {scope : Option Scope} {settings : Settings}
      (before : LastEntered origin key moves scope settings)
      (unentered : ∀ scope settings, ¬(origin.follow moves).EntersAs key scope settings move) :
      LastEntered origin key (moves ++ [move]) scope settings

theorem EntersAs.unique {other : Option Scope} {others : Settings}
    (enters : registry.EntersAs key scope settings move)
    (also : registry.EntersAs key other others move) : scope = other ∧ settings = others := by
  cases move with
  | pass _ | fire _ => exact enters.elim
  | act operation =>
      cases operation with
      | register id exclusive =>
          obtain ⟨link, _, known, _, _, rfl, rfl⟩ := enters
          obtain ⟨_, _, isKnown, _, _, rfl, rfl⟩ := also
          rw [known] at isKnown
          cases isKnown
          exact ⟨rfl, rfl⟩
      | tryAdd id =>
          obtain ⟨terminus, known, _, _, rfl, rfl⟩ := enters
          obtain ⟨_, isKnown, _, _, rfl, rfl⟩ := also
          rw [known] at isKnown
          cases isKnown
          exact ⟨rfl, rfl⟩
      | _ => exact enters.elim

theorem LastEntered.unique {other : Option Scope} {others : Settings}
    (last : LastEntered origin key moves scope settings)
    (also : LastEntered origin key moves other others) : scope = other ∧ settings = others := by
  induction last with
  | @now earlier move scope settings enters =>
      generalize same : earlier ++ [move] = all at also
      cases also with
      | now entersToo =>
          obtain ⟨rfl, rfl⟩ := List.append_singleton_inj.1 same
          exact enters.unique entersToo
      | since _ unentered =>
          obtain ⟨rfl, rfl⟩ := List.append_singleton_inj.1 same
          exact absurd enters (unentered scope settings)
  | @since earlier move scope settings _ unentered ih =>
      generalize same : earlier ++ [move] = all at also
      cases also with
      | now entersToo =>
          obtain ⟨rfl, rfl⟩ := List.append_singleton_inj.1 same
          exact absurd entersToo (unentered other others)
      | since before _ =>
          obtain ⟨rfl, rfl⟩ := List.append_singleton_inj.1 same
          exact ih before

/-- What takes a link away enters nothing. -/
theorem Reaches.unentered (reached : registry.Reaches key seat move) :
    ¬registry.EntersAs key scope settings move := by
  intro enters
  cases move with
  | pass _ | fire _ => exact enters
  | act operation =>
      cases operation with
      | register _ _ | tryAdd _ => exact reached
      | _ => exact enters

/-- What the table says of an identifier is what the last move brought that entered it. -/
theorem Consistent.exists_lastEntered (consistent : origin.Consistent)
    (isEmpty : ∀ key, origin.seat? key = none) (sparing : origin.Sparing moves)
    (seated : (origin.follow moves).seat? key = some seat) :
    ∃ scope settings, LastEntered origin key moves scope settings ∧
      seat.entry.IsOf origin.config scope settings := by
  induction moves using List.reverseRecOn generalizing seat with
  | nil =>
      rw [follow_nil, isEmpty] at seated
      cases seated
  | append_singleton earlier move ih =>
      obtain ⟨sparingBefore, spares, _⟩ := sparing.of_append
      have consistentBefore := consistent.follow earlier sparingBefore
      have config := (consistent.sound.constants_follow earlier sparingBefore).1
      rw [follow_append, follow_cons, follow_nil] at seated
      cases consistentBefore.fate move spares key with
      | stays same _ unentered _ =>
          obtain ⟨scope, settings, last, isOf⟩ := ih sparingBefore (same.symm.trans seated)
          exact ⟨scope, settings, .since last unentered, isOf⟩
      | @attached id exclusive link terminus _ asked known isOwn done seatedThen _ =>
          subst asked
          rw [seatedThen, Option.some.injEq] at seated
          subst seated
          refine ⟨some link.scope, link.settings, .now ⟨link, terminus, known, isOwn, done, rfl,
            rfl⟩, rfl, ?_⟩
          rw [← config]
          rfl
      | @seeded id terminus asked known isOwn done _ seatedThen _ =>
          subst asked
          rw [seatedThen, Option.some.injEq] at seated
          subst seated
          refine ⟨none, terminus.settings, .now ⟨terminus, known, isOwn, done, rfl, rfl⟩, rfl, ?_⟩
          rw [← config]
          rfl
      | @suspended before seatedBefore _ reached _ seatedThen _ =>
          rw [seatedThen, Option.some.injEq] at seated
          subst seated
          obtain ⟨scope, settings, last, isOf⟩ := ih sparingBefore seatedBefore
          exact ⟨scope, settings, .since last fun _ _ => reached.unentered, isOf⟩
      | spent _ _ _ _ _ gone =>
          rw [gone.seat?] at seated
          cases seated
      | expired _ _ gone =>
          rw [gone.seat?] at seated
          cases seated
      | removed _ _ absent =>
          rw [seat?_of_absent absent] at seated
          cases seated

/-! ## What a suspension comes to -/

/-- That the terminus of a seat has been suspended, and is noted. -/
def IsSuspendedFrom (later : Registry) (key : Identifier.Key) (seat : Seat) : Prop :=
  later.seat? key = some seat.suspended ∧ later.suspended.get? key = some (seat.epoch + 1)

/-- What becomes of a terminus that departs: it is gone if it has no time, and suspended if it
has. -/
def HasDeparted (later : Registry) (key : Identifier.Key) (seat : Seat) : Prop :=
  if seat.entry.timeout = 0 then later.Gone key seat.entry.terminus
  else later.IsSuspendedFrom key seat

theorem Departs.hasDeparted {keys : List Identifier.Key} (departs : Departs registry later keys)
    (listed : key ∈ keys) (seated : registry.seat? key = some seat)
    (isActive : seat.phase = .active) : later.HasDeparted key seat := by
  rw [HasDeparted]
  split
  · next isZero => exact departs.gone key listed seat seated isActive isZero
  · next lasts =>
      obtain ⟨seatedThen, _⟩ := departs.suspended key listed seat seated isActive lasts
      exact ⟨seatedThen, departs.consistent.noted_iff.2 ⟨_, seatedThen, rfl, rfl⟩⟩

/-- That a link's going away suspends the terminus that it takes with it and no other, and that
what is told of it is true. -/
structure SuspendsTruly (registry : Registry) (id : LinkId) (departure : Departure) : Prop where
  departed : ∀ key seat, registry.seat? key = some seat →
    registry.IsLeftBy id departure key seat →
      (registry.suspend id departure).2.HasDeparted key seat
  others : ∀ key, (∀ seat, registry.seat? key = some seat →
      ¬registry.IsLeftBy id departure key seat) →
    (registry.suspend id departure).2.seat? key = registry.seat? key
  expired_iff : (registry.suspend id departure).1 = .expired ↔
    ∃ key seat, registry.seat? key = some seat ∧ registry.IsLeftBy id departure key seat ∧
      seat.entry.timeout = 0
  suspended_iff : (registry.suspend id departure).1 = .suspended ↔
    ∃ key seat, registry.seat? key = some seat ∧ registry.IsLeftBy id departure key seat ∧
      seat.entry.timeout ≠ 0
  untouched : (registry.suspend id departure).1 ≠ .expired →
    (registry.suspend id departure).1 ≠ .suspended →
      (registry.suspend id departure).2 = registry

theorem Consistent.suspendsTruly (consistent : registry.Consistent) (id : LinkId)
    (departure : Departure) : registry.SuspendsTruly id departure := by
  rcases consistent.suspend_cases id departure with
    ⟨unchanged, notSuspended, notExpired, unreached⟩ |
    ⟨own, seat, seated, isLeft, isOnly, departs, told⟩
  · refine ⟨fun key seat seated isLeft => absurd isLeft (unreached key seat seated),
      fun key _ => by rw [unchanged], iff_of_false notExpired ?_, iff_of_false notSuspended ?_,
      fun _ _ => unchanged⟩
    · rintro ⟨key, seat, seated, isLeft, _⟩
      exact unreached key seat seated isLeft
    · rintro ⟨key, seat, seated, isLeft, _⟩
      exact unreached key seat seated isLeft
  · -- The one seat that is left is the witness of what is told, and any other one is it.
    have same {found : Seat} {key : Identifier.Key} (isFound : registry.seat? key = some found)
        (isLeftToo : registry.IsLeftBy id departure key found) : key = own ∧ found = seat := by
      obtain rfl := isOnly key found isFound isLeftToo
      rw [seated] at isFound
      cases isFound
      exact ⟨rfl, rfl⟩
    have isExpired : (registry.suspend id departure).1 = .expired ↔ seat.entry.timeout = 0 := by
      rw [told]
      split <;> simp [*]
    have isSuspended : (registry.suspend id departure).1 = .suspended ↔
        seat.entry.timeout ≠ 0 := by
      rw [told]
      split <;> simp [*]
    refine ⟨fun key found isFound isLeftToo => ?_, fun key unleft => ?_, isExpired.trans ?_,
      isSuspended.trans ?_, fun notExpired notSuspended => ?_⟩
    · obtain ⟨rfl, rfl⟩ := same isFound isLeftToo
      exact departs.hasDeparted (by simp) seated (consistent.seat_linked seated isLeft.1)
    · apply departs.stays
      intro found isFound _ listed
      obtain rfl := List.mem_singleton.1 listed
      exact unleft found isFound (by rwa [(Option.some.inj (isFound.symm.trans seated))])
    · constructor
      · exact fun isZero => ⟨own, seat, seated, isLeft, isZero⟩
      · rintro ⟨key, found, isFound, isLeftToo, isZero⟩
        obtain ⟨rfl, rfl⟩ := same isFound isLeftToo
        exact isZero
    · constructor
      · exact fun lasts => ⟨own, seat, seated, isLeft, lasts⟩
      · rintro ⟨key, found, isFound, isLeftToo, lasts⟩
        obtain ⟨rfl, rfl⟩ := same isFound isLeftToo
        exact lasts
    · exact absurd (isSuspended.2 fun isZero => notExpired (isExpired.2 isZero)) notSuspended

/-! ## What the end of a scope comes to -/

/-- Whether the end of a scope suspends the terminus of an identifier: it is active, its latest
link was attached in the scope and its policy is reached. -/
def losesIn (registry : Registry) (departure : Departure) (inScope : Scope → Bool)
    (key : Identifier.Key) : Bool :=
  (registry.seat? key).any fun seat =>
    decide (seat.phase = .active) && seat.entry.goesWith departure inScope

/-- A scope ends, and its termini are come upon as they are listed. -/
def suspendInOrder (registry : Registry) (listed : List (Identifier × Entry)) : Nat × Registry :=
  let (pending, registry) := registry.suspendAll listed
  (pending.length, registry.arrangeAll pending)

/-- There is an order of the table for every way in which the termini of a scope can be come
upon. -/
theorem Sound.exists_suspendScope_eq (sound : registry.Sound) {departure : Departure}
    {inScope : Scope → Bool} {listed : List (Identifier × Entry)}
    (reordered : listed.Perm (registry.candidates departure inScope)) :
    ∃ order, registry.suspendScope departure inScope order = registry.suspendInOrder listed := by
  obtain ⟨order, arranged⟩ :=
    TableOrder.exists_arrange_eq reordered (sound.nodup_candidates reordered)
  refine ⟨order, ?_⟩
  rw [suspendScope, arranged]
  rfl

/-- That the end of a scope suspends the active termini that go with it and no others, and that
what is told of it is their number. -/
structure EndsScope (registry : Registry) (departure : Departure) (inScope : Scope → Bool)
    (result : Nat × Registry) : Prop where
  departed : ∀ key seat, registry.seat? key = some seat → seat.phase = .active →
    seat.entry.goesWith departure inScope = true → result.2.HasDeparted key seat
  others : ∀ key, registry.losesIn departure inScope key = false →
    result.2.seat? key = registry.seat? key
  count : result.1 = registry.entries.keys.countP (registry.losesIn departure inScope)

theorem losesIn_eq_true_iff {departure : Departure} {inScope : Scope → Bool} :
    registry.losesIn departure inScope key = true ↔
      ∃ seat, registry.seat? key = some seat ∧ seat.phase = .active ∧
        seat.entry.goesWith departure inScope = true := by
  simp [losesIn, Option.any_eq_true]

theorem length_called (candidates : List (Identifier × Entry)) :
    (candidates.filterMap registry.called?).length =
      (candidates.map (·.1.key)).countP fun key =>
        (registry.seat? key).any fun seat => decide (seat.phase = .active) := by
  induction candidates with
  | nil => rfl
  | cons candidate rest ih =>
      rw [List.map_cons, List.countP_cons, List.filterMap_cons, called?]
      cases registry.seat? candidate.1.key with
      | none => simpa using ih
      | some seat => by_cases isActive : seat.phase = .active <;> simp [isActive, ih]

/-- The candidates that are active are the identifiers that lose their link. -/
theorem Sound.countP_candidates (sound : registry.Sound) (departure : Departure)
    (inScope : Scope → Bool) :
    ((registry.candidates departure inScope).map (·.1.key)).countP (fun key =>
        (registry.seat? key).any fun seat => decide (seat.phase = .active)) =
      registry.entries.keys.countP (registry.losesIn departure inScope) := by
  rw [sound.map_key_candidates, SortedMap.keys, List.countP_map, List.countP_filter,
    List.countP_map]
  apply List.countP_congr
  rintro ⟨key, entry⟩ member
  have present := (registry.entries.mem_toList_iff key entry).1 member
  obtain ⟨seat, seated, rfl⟩ := sound.exists_seat present
  simp [losesIn, seated]

theorem Consistent.endsScope (consistent : registry.Consistent) (departure : Departure)
    (inScope : Scope → Bool) (order : TableOrder) :
    registry.EndsScope departure inScope (registry.suspendScope departure inScope order) := by
  let listed := order.arrange (registry.candidates departure inScope)
  have reordered : listed.Perm (registry.candidates departure inScope) := order.perm_arrange _
  have sound := consistent.sound
  have departs := consistent.candidates_depart reordered
  refine ⟨fun key seat seated isActive goes => ?_, fun key keeps => ?_, ?_⟩
  · apply departs.hasDeparted _ seated isActive
    exact (sound.mem_candidates_iff reordered seated).2 goes
  · apply departs.stays
    intro seat seated isActive member
    have goes := (sound.mem_candidates_iff reordered seated).1 member
    rw [losesIn_eq_true_iff.2 ⟨seat, seated, isActive, goes⟩] at keeps
    cases keeps
  · have distinct := sound.nodup_candidates reordered
    have eligible := sound.of_mem_candidates reordered
    calc (registry.suspendAll listed).1.length
      _ = (listed.filterMap registry.called?).length := by
        rw [(sound.suspendAll_eq distinct eligible).1]
      _ = _ := length_called listed
      _ = _ := (reordered.map (·.1.key)).countP_eq _
      _ = _ := sound.countP_candidates departure inScope

/-! ## Nothing else suspends -/

/-- That nothing but the departure of its link and being taken out makes an active terminus other
than active, and nothing but a new link changes it at all. -/
def KeepsActive (registry : Registry) (move : Move) : Prop :=
  ∀ key seat, registry.seat? key = some seat → seat.phase = .active →
    ¬registry.Reaches key seat move →
    (∀ identifier, move = .act (.tryRemove identifier) → identifier.key ≠ key) →
    ∃ still, (registry.move move).seat? key = some still ∧ still.phase = .active ∧
      still.entry.terminus = seat.entry.terminus ∧
      ((∀ scope settings, ¬registry.EntersAs key scope settings move) → still = seat)

theorem Consistent.keepsActive (consistent : registry.Consistent)
    (spares : move.SparesTable registry) : registry.KeepsActive move := by
  intro key seat seated isActive unreached untaken
  have occupied : registry.seat? key ≠ none := by
    rw [seated]
    exact Option.some_ne_none seat
  cases consistent.fate move spares key with
  | stays same _ _ _ => exact ⟨seat, same.trans seated, isActive, rfl, fun _ => rfl⟩
  | @attached id exclusive link terminus _ asked known isOwn done seatedThen sameTerminus =>
      refine ⟨_, seatedThen, rfl, (sameTerminus seat seated).symm, fun unentered => ?_⟩
      subst asked
      exact absurd ⟨link, terminus, known, isOwn, done, rfl, rfl⟩ (unentered _ _)
  | seeded _ _ _ _ vacant => exact absurd vacant occupied
  | spent _ _ _ _ vacant => exact absurd vacant occupied
  | @suspended found isFound _ reached =>
      rw [seated] at isFound
      cases isFound
      exact absurd reached unreached
  | @expired found isFound reason _ =>
      rw [seated] at isFound
      cases isFound
      rcases reason with isSuspended | ⟨_, reached, _⟩
      · rw [isActive] at isSuspended
        cases isSuspended
      · exact absurd reached unreached
  | removed asked isOwn _ => exact absurd isOwn (untaken _ asked)

/-- Who is suspended in a registry that moves have led to which spare the table.  What the table
says of an identifier is what the last move brought that entered it.  A link that goes away
takes the terminus with it that has it and whose policy is reached, and what is told of that is
true.  The end of a session or connection takes the active termini with it whose latest link was
attached there and whose policy is reached, in whatever order they are come upon, and tells
their number.  No other move makes an active terminus other than active, unless it takes it
out. -/
theorem departures_exact (config : Config) (storage : Storage) (hasTimers : Bool)
    (moves : List Move) :
    let origin : Registry := { create config storage with hasTimers }
    let registry := origin.follow moves
    origin.Sparing moves →
      (∀ key entry, registry.entries.get? key = some entry →
        (∃ seat, registry.seat? key = some seat ∧ seat.entry = entry) ∧
        (∃ scope settings, LastEntered origin key moves scope settings) ∧
        ∀ scope settings, LastEntered origin key moves scope settings →
          entry.IsOf config scope settings) ∧
      (∀ id departure, registry.SuspendsTruly id departure) ∧
      (∀ departure inScope (order : List (Identifier × Entry)),
        order.Perm (registry.candidates departure inScope) →
        registry.EndsScope departure inScope (registry.suspendInOrder order)) ∧
      (∀ session order, registry.EndsScope .sessionEnd (fun scope => scope.session == session)
        (registry.endSession session order)) ∧
      (∀ connection order, registry.EndsScope .connectionClose
        (fun scope => scope.connection == connection)
        (registry.closeConnection connection order)) ∧
      ∀ move, move.SparesTable registry → registry.KeepsActive move := by
  intro origin registry sparing
  have isNew : origin.Consistent := Consistent.create config storage hasTimers
  have consistent : registry.Consistent := isNew.follow moves sparing
  refine ⟨fun key entry present => ?_, consistent.suspendsTruly,
    fun departure inScope listed reordered => ?_, fun session => consistent.endsScope _ _,
    fun connection => consistent.endsScope _ _, fun move => consistent.keepsActive⟩
  · obtain ⟨seat, seated, rfl⟩ := consistent.sound.exists_seat present
    obtain ⟨scope, settings, last, isOf⟩ :=
      isNew.exists_lastEntered (fun _ => rfl) sparing seated
    refine ⟨⟨seat, seated, rfl⟩, ⟨scope, settings, last⟩, fun other others also => ?_⟩
    obtain ⟨rfl, rfl⟩ := last.unique also
    exact isOf
  · obtain ⟨order, same⟩ := consistent.sound.exists_suspendScope_eq reordered
    rw [← same]
    exact consistent.endsScope departure inScope order

end Registry

namespace Sample

/-- A link that departs with its session, and another one on the same session that does so by
itself and leaves its terminus no time. -/
def twoOnSession : List Move :=
  let brief : Identifier := ⟨"brief", .receiver, none, by decide⟩
  [.act (.openLink (link "session-end" 1)), .act (.register 0 false),
    .act (.openLink { link "link-detach" 0 with identifier := brief }),
    .act (.register 1 false)]

end Sample

namespace Registry

/-- The first one stays when it is detached, the second one is gone then, and the end of the
session takes both. -/
theorem departures_exact_sample :
    let registry := Sample.registry.follow Sample.twoOnSession
    Sample.registry.Sparing Sample.twoOnSession ∧
      (registry.suspend 0 .linkDetach).1 = .retained ∧
      (registry.suspend 0 .linkDetach).2 = registry ∧
      (registry.suspend 1 .linkDetach).1 = .expired ∧
      registry.EndsScope .sessionEnd (fun scope => scope.session == ⟨1, 1⟩)
        (registry.endSession ⟨1, 1⟩ .byKey) ∧
      (registry.endSession ⟨1, 1⟩ .byKey).1 = 2 := by
  intro registry
  have sparing : Sample.registry.Sparing Sample.twoOnSession := by
    apply sparing_of_indirect
    simp [Sample.twoOnSession, Operation.direct?]
  obtain ⟨_, suspends, _, ends, _⟩ :=
    departures_exact default { store := .memory {} } true Sample.twoOnSession sparing
  have retained : (registry.suspend 0 .linkDetach).1 = .retained := by decide +kernel
  have told := suspends 0 .linkDetach
  refine ⟨sparing, retained, told.untouched ?_ ?_, by decide +kernel, ends ⟨1, 1⟩ .byKey,
    by decide +kernel⟩
  · intro isExpired
    cases retained.symm.trans isExpired
  · intro isSuspended
    cases retained.symm.trans isSuspended

end Registry

end Reattach
