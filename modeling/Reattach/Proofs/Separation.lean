import Reattach.Proofs.Chronicle
import Reattach.Proofs.Holders
import Reattach.Proofs.Losses

/-!
# Identifiers are kept apart

All identifiers share one table, one store and one list of links.  What is done for one of them
leaves what there is of every other: its entry, its termini and links, what is noted about it and
its records.  The one call that could reach further is closing the link that an attach displaces;
it does not, since termini of the table have links of their own identifier.
-/

namespace Reattach

theorem Storage.agreesOn_removeAll (storage : Storage) {identifier other : Identifier}
    (apart : other.key ≠ identifier.key) :
    storage.store.AgreesOn (storage.removeAll identifier).2.store other := by
  refine ⟨storage.held_removeAll_of_ne apart, fun tag => ?_⟩
  simp only [removeAll]
  split
  · rfl
  · exact Store.retrieve_removeAll_of_ne apart tag

namespace Registry

variable {registry between later : Registry} {move : Move}
variable {key : Identifier.Key} {identifier : Identifier} {id : LinkId} {link : Link}

/-- That nothing has happened to what there is of any identifier but one. -/
structure LeavesOthers (key : Identifier.Key) (registry later : Registry) : Prop where
  entries : ∀ other, other ≠ key → later.entries.get? other = registry.entries.get? other
  suspended : ∀ other, other ≠ key →
    later.suspended.get? other = registry.suspended.get? other
  purging : ∀ other, other ≠ key → later.purging.get? other = registry.purging.get? other
  termini : ∀ (id : TerminusId) terminus, terminus.identifier.key ≠ key →
    (later.termini[id]? = some terminus ↔ registry.termini[id]? = some terminus)
  links : ∀ (id : LinkId) link, link.identifier.key ≠ key →
    (later.links[id]? = some link ↔ registry.links[id]? = some link)
  records : ∀ other : Identifier, other.key ≠ key →
    registry.storage.store.AgreesOn later.storage.store other

namespace LeavesOthers

theorem refl (key : Identifier.Key) (registry : Registry) : LeavesOthers key registry registry :=
  ⟨fun _ _ => rfl, fun _ _ => rfl, fun _ _ => rfl, fun _ _ _ => .rfl, fun _ _ _ => .rfl,
    fun _ _ => ⟨rfl, fun _ => rfl⟩⟩

theorem trans (first : LeavesOthers key registry between)
    (second : LeavesOthers key between later) : LeavesOthers key registry later where
  entries := fun other apart => (second.entries other apart).trans (first.entries other apart)
  suspended := fun other apart => (second.suspended other apart).trans (first.suspended other apart)
  purging := fun other apart => (second.purging other apart).trans (first.purging other apart)
  termini := fun id terminus apart =>
    (second.termini id terminus apart).trans (first.termini id terminus apart)
  links := fun id link apart => (second.links id link apart).trans (first.links id link apart)
  records := fun other apart =>
    ⟨(second.records other apart).together.trans (first.records other apart).together,
      fun tag =>
        ((second.records other apart).each tag).trans ((first.records other apart).each tag)⟩

/-- What puts a terminus of the identifier in place, and is told or noted under it. -/
theorem of_puts {whose : TerminusId} {terminus : Terminus} {termini : Array Terminus}
    {entries : SortedMap Identifier.Key Entry} {suspended : SortedMap Identifier.Key Nat}
    (channel : Channel) (puts : Puts registry.termini whose terminus termini)
    (isOwn : terminus.identifier.key = key)
    (wasOwn : ∀ old, registry.termini[whose]? = some old → old.identifier.key = key)
    (entered : ∀ other, other ≠ key → entries.get? other = registry.entries.get? other)
    (noted : ∀ other, other ≠ key → suspended.get? other = registry.suspended.get? other) :
    LeavesOthers key registry { registry with termini, entries, suspended, channel } where
  entries := entered
  suspended := noted
  purging := fun _ _ => rfl
  termini := by
    intro id found apart
    by_cases same : id = whose
    · subst same
      refine iff_of_false (fun known => ?_) fun known => apart (wasOwn found known)
      rw [puts.self, Option.some.injEq] at known
      exact apart (known ▸ isOwn)
    · rw [puts.of_ne same]
  links := fun _ _ _ => .rfl
  records := fun _ _ => ⟨rfl, fun _ => rfl⟩

/-! ### Expiry -/

theorem expireEpoch (sound : registry.Sound) (identifier : Identifier) (epoch : Option Nat) :
    LeavesOthers identifier.key registry (registry.expireEpoch identifier epoch).2 := by
  rcases sound.expireEpoch_cases identifier epoch with ⟨unchanged, _⟩ |
    ⟨noted, entry, terminus, channel, termini, _, _, present, known, puts, changed⟩
  · rw [unchanged]
    exact refl _ _
  · obtain ⟨owner, isThere, isOwn⟩ := sound.keyed present
    rw [known, Option.some.injEq] at isThere
    subst isThere
    have keeps : ((terminus.expire (some noted)).getD terminus).identifier =
        terminus.identifier := by
      cases expired : terminus.expire (some noted) with
      | none => rfl
      | some grown => exact (Terminus.Moves.expire expired).keeps.1
    have takes : LeavesOthers identifier.key registry { registry with
        termini
        entries := registry.entries.erase identifier.key
        suspended := registry.suspended.erase identifier.key
        channel } := by
      refine of_puts channel puts (by rw [keeps, isOwn]) (fun old isOld => ?_)
        (fun other apart => SortedMap.get?_erase_of_ne _ apart)
        (fun other apart => SortedMap.get?_erase_of_ne _ apart)
      rw [known, Option.some.injEq] at isOld
      exact isOld ▸ isOwn
    rw [changed]
    refine ⟨takes.entries, takes.suspended, fun other apart => ?_, takes.termini, takes.links,
      fun other apart => registry.storage.agreesOn_removeAll apart⟩
    simp only [purgingAfter]
    split
    · rfl
    · exact SortedMap.get?_insert_of_ne _ _ apart

theorem finishPurge (registry : Registry) (identifier : Identifier) :
    LeavesOthers identifier.key registry (registry.finishPurge identifier).2 := by
  have calls (purging : SortedMap Identifier.Key Unit)
      (keeps : ∀ other, other ≠ identifier.key →
        purging.get? other = registry.purging.get? other) :
      LeavesOthers identifier.key registry
        { registry with storage := (registry.storage.removeAll identifier).2, purging } :=
    ⟨fun _ _ => rfl, fun _ _ => rfl, keeps, fun _ _ _ => .rfl, fun _ _ _ => .rfl,
      fun other apart => registry.storage.agreesOn_removeAll apart⟩
  rcases finishPurge_cases registry identifier with ⟨unchanged, _⟩ | ⟨_, _, failed⟩ |
    ⟨_, _, dropped⟩
  · rw [unchanged]
    exact refl _ _
  · rw [failed]
    exact calls _ fun _ _ => rfl
  · rw [dropped]
    exact calls _ fun other apart => SortedMap.get?_erase_of_ne _ apart

theorem withTimers (registry : Registry) (timers : List Timer) :
    LeavesOthers key registry { registry with timers } :=
  ⟨fun _ _ => rfl, fun _ _ => rfl, fun _ _ => rfl, fun _ _ _ => .rfl, fun _ _ _ => .rfl,
    fun _ _ => ⟨rfl, fun _ => rfl⟩⟩

theorem arrange (sound : registry.Sound) (pending : PendingExpiry) :
    LeavesOthers pending.identifier.key registry (registry.arrange pending).2 := by
  by_cases isZero : pending.delay = 0
  · rw [arrange_of_delay_eq_zero registry isZero]
    exact expireEpoch sound _ _
  · rw [arrange_of_delay_ne_zero registry isZero, setTimer]
    split
    · exact withTimers registry _
    · exact refl _ _

/-! ### Suspension -/

theorem suspendEntry (sound : registry.Sound) {identifier : Identifier} {entry : Entry}
    (present : registry.entries.get? identifier.key = some entry) :
    LeavesOthers identifier.key registry (registry.suspendEntry identifier entry).2 := by
  obtain ⟨terminus, known, isOwn⟩ := sound.keyed present
  rw [Registry.suspendEntry]
  rcases suspendTerminus_cases known with ⟨unchanged, _⟩ |
    ⟨grown, channel, termini, suspended, puts, changed⟩
  · rw [unchanged]
    exact refl _ _
  · rw [changed]
    refine of_puts channel puts ?_ (fun old isOld => ?_) (fun _ _ => rfl)
      (fun other apart => SortedMap.get?_insert_of_ne _ _ apart)
    · rw [(Terminus.Moves.suspend suspended).keeps.1, isOwn]
    · rw [known, Option.some.injEq] at isOld
      exact isOld ▸ isOwn

theorem suspend (sound : registry.Sound) (known : registry.links[id]? = some link)
    (departure : Departure) :
    LeavesOthers link.identifier.key registry (registry.suspend id departure).2 := by
  simp only [Registry.suspend, known, suspendFor, entry?]
  cases present : registry.entries.get? link.identifier.key with
  | none => exact refl _ _
  | some entry =>
      have suspends := suspendEntry sound present
      simp only
      split
      · exact refl _ _
      · split
        · exact refl _ _
        · next reached =>
            have stage := ((Suspending.start .snapshot registry).suspendEntry sound present
              (by simpa using reached : entry.policy.qualifies departure = true)).1
            have soundThen := sound.changes stage.changes
            split
            · next same => rwa [same] at suspends
            · next pending staged same =>
                rw [same] at suspends soundThen
                have isOwn : pending.identifier = link.identifier := by
                  simp only [Registry.suspendEntry] at same
                  split at same <;> cases same
                  rfl
                have arranges := arrange soundThen pending
                rw [isOwn] at arranges
                exact suspends.trans arranges

/-! ### Putting in and taking out -/

/-- What is told and noted under the identifier alone. -/
theorem of_table {entries : SortedMap Identifier.Key Entry}
    {suspended : SortedMap Identifier.Key Nat}
    (entered : ∀ other, other ≠ key → entries.get? other = registry.entries.get? other)
    (noted : ∀ other, other ≠ key → suspended.get? other = registry.suspended.get? other) :
    LeavesOthers key registry { registry with entries, suspended } :=
  ⟨entered, noted, fun _ _ => rfl, fun _ _ _ => .rfl, fun _ _ _ => .rfl,
    fun _ _ => ⟨rfl, fun _ => rfl⟩⟩

theorem seed (registry : Registry) (id : TerminusId) (terminus : Terminus) :
    LeavesOthers terminus.identifier.key registry (registry.seed id terminus).2 := by
  rw [seed_eq]
  refine of_table (fun other apart => SortedMap.get?_insert_of_ne _ _ apart) fun other apart => ?_
  split
  · exact SortedMap.get?_insert_of_ne _ _ apart
  · rfl

theorem tryRemove (registry : Registry) (identifier : Identifier) :
    LeavesOthers identifier.key registry (registry.tryRemove identifier).2 :=
  of_table (fun _ apart => SortedMap.get?_erase_of_ne _ apart)
    fun _ apart => SortedMap.get?_erase_of_ne _ apart

theorem tryAdd (sound : registry.Sound) {id : TerminusId} {terminus : Terminus}
    (known : registry.termini[id]? = some terminus) :
    LeavesOthers terminus.identifier.key registry (registry.tryAdd id).2 := by
  have purges := finishPurge registry terminus.identifier
  simp only [Registry.tryAdd, known, addKnown, entry?]
  cases absent : registry.entries.get? terminus.identifier.key with
  | some _ => exact refl _ _
  | none =>
      obtain ⟨purging, isPurged⟩ := finishPurge_purging (.tryAdd id) absent
      simp only
      rcases purged : registry.finishPurge terminus.identifier with ⟨_ | _, ready⟩ <;>
        rw [purged] at purges purging isPurged
      · exact purges
      · simp only
        split
        · exact purges
        · next lives =>
            have seeds := purges.trans (seed ready id terminus)
            have soundThen :=
              sound.changes (purging.seed sound known absent (isPurged rfl) lives).1
            split
            · next same => rwa [same] at seeds
            · next pending seeded same =>
                rw [same] at seeds soundThen
                have isOwn : pending.identifier = terminus.identifier := by
                  simp only [Registry.seed] at same
                  split at same <;> cases same
                  rfl
                have arranges := arrange soundThen pending
                rw [isOwn] at arranges
                exact seeds.trans arranges

/-! ### Attaching -/

theorem enter (sound : registry.Sound) (link : Link) :
    LeavesOthers link.identifier.key registry (registry.enter link).2 := by
  rcases sound.enter_cases link with
    ⟨id, terminus, termini, _, isNew, isOwn, _, _, puts, entered⟩ |
    ⟨old, terminus, termini, present, known, puts, entered⟩
  · rw [entered]
    refine of_puts registry.channel puts (by rw [isOwn]) (fun old isOld => ?_)
      (fun other apart => SortedMap.get?_insert_of_ne _ _ apart) fun _ _ => rfl
    rw [isNew] at isOld
    cases isOld
  · obtain ⟨found, isFound, isOwn⟩ := sound.keyed present
    rw [known, Option.some.injEq] at isFound
    subst isFound
    rw [entered]
    refine of_puts registry.channel puts isOwn (fun old isOld => ?_)
      (fun other apart => SortedMap.get?_insert_of_ne _ _ apart) fun _ _ => rfl
    rw [known, Option.some.injEq] at isOld
    exact isOld ▸ isOwn

theorem closeDisplaced {displaced : Option LinkId} (identifier : Identifier)
    (isOwn : ∀ old, displaced = some old →
      ∃ link, registry.links[old]? = some link ∧ link.identifier.key = key) :
    LeavesOthers key registry (registry.closeDisplaced identifier displaced) := by
  cases displaced with
  | none => exact refl _ _
  | some old =>
      obtain ⟨link, known, sameKey⟩ := isOwn old rfl
      simp only [Registry.closeDisplaced, steal, known]
      split
      · refine ⟨fun _ _ => rfl, fun _ _ => rfl, fun _ _ => rfl, fun _ _ _ => .rfl,
          fun id found apart => ?_, fun _ _ => ⟨rfl, fun _ => rfl⟩⟩
        simp only [publish, putLink, getElem?_links_set known]
        split
        · next same =>
            rw [same, known]
            refine iff_of_false ?_ ?_
            · rintro ⟨⟩
              exact apart sameKey
            · rintro ⟨⟩
              exact apart sameKey
        · rfl
      · exact refl _ _

theorem takeOver (consistent : registry.Consistent) (owns : registry.OwnsLinks) (link : Link)
    (id : LinkId) : LeavesOthers link.identifier.key registry (registry.takeOver link id).2 := by
  have enters := enter consistent.sound link
  obtain ⟨whose, terminus, ready, entered, isEntered⟩ := consistent.enters link
  obtain ⟨found, entry, isFound, isOwn, present, isEntry, sameLinks⟩ :=
    consistent.sound.enter_spec link
  rw [entered] at enters isFound sameLinks
  rw [isEntered.puts.self, Option.some.injEq] at isFound
  subst isFound
  rcases takeOver_cases entered isEntered.puts.self id with ⟨error, refused⟩ |
    ⟨displaced, grown, associated, taken⟩
  · rw [refused]
    exact enters
  · have isGrown := (Terminus.of_associate associated).2
    have isDisplaced : displaced = registry.displaced? link.identifier.key id := by
      rw [Terminus.displaced_eq associated, isEntered.isLink, displaced?]
    obtain ⟨channel, moved⟩ := moveTerminus_eq ready whose grown (.associated grown.identifier)
    simp only [moved] at taken
    rw [taken]
    have attaches : LeavesOthers link.identifier.key ready { ready with
        termini := ready.termini.setIfInBounds whose grown
        channel
        suspended := ready.suspended.erase link.identifier.key } := by
      refine of_puts channel (.set isEntered.puts.self grown) (by rw [isGrown, isOwn])
        (fun old isOld => ?_) (fun _ _ => rfl) fun other apart => SortedMap.get?_erase_of_ne _ apart
      rw [isEntered.puts.self, Option.some.injEq] at isOld
      exact isOld ▸ isOwn
    refine (enters.trans attaches).trans (closeDisplaced _ fun old isOld => ?_)
    obtain ⟨oldLink, knownOld, isOwnLink⟩ :=
      owns _ old (displaced?_eq_some_iff.1 (isDisplaced.symm.trans isOld)).1
    exact ⟨oldLink, (congrArg (·[old]?) sameLinks).trans knownOld, isOwnLink⟩

/-- A link that is registered touches no other identifier than its own. -/
theorem register (consistent : registry.Consistent) (owns : registry.OwnsLinks)
    (known : registry.links[id]? = some link) (exclusive : Bool) :
    LeavesOthers link.identifier.key registry (registry.register id exclusive).2 := by
  have prepares : LeavesOthers link.identifier.key registry
      (registry.prepare link.identifier).2 := by
    simp only [prepare]
    split
    · exact refl _ _
    · exact finishPurge _ _
  obtain ⟨storage, purging, isPrepared, _⟩ := registry.prepare_cases link.identifier
  have consistentThen := consistent.prepare link.identifier
  have ownsThen : (registry.prepare link.identifier).2.OwnsLinks := by
    rw [isPrepared]
    exact owns
  simp only [Registry.register, known, attach]
  split <;> rename_i prepared <;> rw [prepared] at prepares consistentThen ownsThen
  · exact prepares
  · split
    · exact prepares
    · exact prepares.trans (takeOver consistentThen ownsThen link id)

end LeavesOthers

/-! ## Moves -/

/-- That a move is made for one identifier: a link of it is registered or goes away, it is expired,
a terminus of it is put in or taken out, or a timer of it runs out. -/
def IsFor (registry : Registry) (key : Identifier.Key) : Move → Prop
  | .act (.register id _) | .act (.suspend id _) =>
      ∀ link, registry.links[id]? = some link → link.identifier.key = key
  | .act (.expire identifier) | .act (.tryRemove identifier) => identifier.key = key
  | .act (.tryAdd id) =>
      ∀ terminus, registry.termini[id]? = some terminus → terminus.identifier.key = key
  | .fire index => ∀ timer, registry.timers[index]? = some timer → timer.identifier.key = key
  | _ => False

/-- A move that is made for one identifier leaves what there is of every other. -/
theorem Consistent.leavesOthers_move (consistent : registry.Consistent) (owns : registry.OwnsLinks)
    (isFor : registry.IsFor key move) : LeavesOthers key registry (registry.move move) := by
  cases move with
  | pass time => cases isFor
  | fire index =>
      rcases registry.fire_cases index with ⟨unchanged, _⟩ | ⟨timer, isSet, _, expires⟩
      · rw [Registry.move, unchanged]
        exact .refl _ _
      · rw [Registry.move, expires, ← isFor timer isSet]
        have drops : LeavesOthers timer.identifier.key registry (registry.dropTimer index) :=
          .withTimers registry _
        exact drops.trans (.expireEpoch (consistent.sound.dropTimer index) _ _)
  | act operation =>
      cases operation with
      | register id exclusive =>
          change LeavesOthers key registry (registry.register id exclusive).2
          cases known : registry.links[id]? with
          | none =>
              simp only [register, known]
              exact .refl _ _
          | some link => exact isFor link known ▸ .register consistent owns known exclusive
      | suspend id departure =>
          change LeavesOthers key registry (registry.suspend id departure).2
          cases known : registry.links[id]? with
          | none =>
              simp only [suspend, known]
              exact .refl _ _
          | some link => exact isFor link known ▸ .suspend consistent.sound known departure
      | tryAdd id =>
          change LeavesOthers key registry (registry.tryAdd id).2
          cases known : registry.termini[id]? with
          | none =>
              simp only [tryAdd, known]
              exact .refl _ _
          | some terminus => exact isFor terminus known ▸ .tryAdd consistent.sound known
      | expire identifier =>
          exact (show identifier.key = key from isFor) ▸ .expireEpoch consistent.sound identifier _
      | tryRemove identifier =>
          exact (show identifier.key = key from isFor) ▸ .tryRemove registry identifier
      | _ => cases isFor

/-! ## Runs -/

/-- That all of a list of moves seed termini with links of their own. -/
def SeedingOwn (registry : Registry) : List Move → Prop
  | [] => True
  | first :: rest => registry.SeedsOwn first ∧ (registry.move first).SeedingOwn rest

theorem OwnsLinks.create (config : Config) (storage : Storage) (hasTimers : Bool) :
    OwnsLinks { Registry.create config storage with hasTimers } := by
  rintro key id ⟨seat, seated, _⟩
  cases seated

theorem OwnsLinks.follow (owns : registry.OwnsLinks) (consistent : registry.Consistent)
    {moves : List Move} (sparing : registry.Sparing moves) (seeding : registry.SeedingOwn moves) :
    (registry.follow moves).OwnsLinks := by
  induction moves generalizing registry with
  | nil => exact owns
  | cons first rest ih =>
      have consistentThen := consistent.follow [first] ⟨sparing.1, trivial⟩
      exact ih (owns.moved consistent sparing.1 seeding.1) consistentThen sparing.2 seeding.2

/-- What it comes to that a link is registered where the terminus is suspended: the terminus is
active with the link, and the store was not called. -/
structure Resumes (registry later : Registry) (id : LinkId) (link : Link) (seat : Seat) : Prop where
  seated : ∃ epoch, later.seat? link.identifier.key =
    some ⟨registry.enteredEntry link seat.entry.terminus, .active, epoch, some id⟩
  storage : later.storage = registry.storage

/-- A suspended terminus takes a link, whether or not that is to be its only one. -/
theorem Consistent.register_of_suspended (consistent : registry.Consistent)
    (known : registry.links[id]? = some link) {seat : Seat}
    (seated : registry.seat? link.identifier.key = some seat)
    (isSuspended : seat.phase = .suspended) (exclusive : Bool) :
    (registry.register id exclusive).1 = .ok seat.entry.terminus ∧
      registry.Resumes (registry.register id exclusive).2 id link seat := by
  have unlinked : seat.link = none := by
    by_contra isLinked
    obtain ⟨old, isLink⟩ := Option.ne_none_iff_exists'.1 isLinked
    have isActive := consistent.seat_linked seated isLink
    rw [isSuspended] at isActive
    cases isActive
  have notHeld : registry.displaced? link.identifier.key id = none := by
    simp [displaced?, seated, unlinked]
  have takesOver : registry.register id exclusive = registry.takeOver link id := by
    rw [register_of_seated known seated, notHeld]
    simp
  have leaves := LeavesStore.takeOver registry link id
  obtain ⟨terminus, attached, attaches, taken⟩ := consistent.takeOver_eq link id
  obtain rfl := attaches.same seat seated
  obtain ⟨epoch, seatedThen⟩ := attaches.seated
  rw [takesOver]
  refine ⟨by rw [taken], ⟨epoch, ?_⟩, leaves.storage⟩
  rw [taken, seat?_closeDisplaced]
  exact seatedThen

/-- Identifiers are kept apart, wherever moves have led to that go behind nobody's back and seed no
terminus with a link of another identifier.  What is done for one identifier leaves what there is of
every other.  No move loses a record but in one of the ways there are.  A link that is registered
where the terminus is suspended has that same terminus, and its records are as they were. -/
theorem identifiers_kept_apart (config : Config) (storage : Storage) (hasTimers : Bool)
    (moves : List Move) :
    let origin : Registry := { create config storage with hasTimers }
    let registry := origin.follow moves
    origin.Sparing moves → origin.SeedingOwn moves →
      (∀ key move, registry.IsFor key move → LeavesOthers key registry (registry.move move)) ∧
      (∀ move, registry.storage.LosesOnly (registry.Drops · · move)
        (registry.move move).storage) ∧
      ∀ (id : LinkId) (link : Link) (seat : Seat) (exclusive : Bool),
        registry.links[id]? = some link → registry.seat? link.identifier.key = some seat →
        seat.phase = .suspended →
        (registry.register id exclusive).1 = .ok seat.entry.terminus ∧
          registry.Resumes (registry.register id exclusive).2 id link seat := by
  intro origin registry sparing seeding
  have isNew : origin.Consistent := Consistent.create config storage hasTimers
  have consistent : registry.Consistent := isNew.follow moves sparing
  have owns : registry.OwnsLinks :=
    (OwnsLinks.create config storage hasTimers).follow isNew sparing seeding
  exact ⟨fun key move isFor => consistent.leavesOthers_move owns isFor,
    consistent.sound.losesOnly_move,
    fun id link seat exclusive known seated isSuspended =>
      consistent.register_of_suspended known seated isSuspended exclusive⟩

end Registry

/-- A terminus with a record is suspended, and one of the same name but another role has a link. -/
def Sample.oneOfEachRole : List Move :=
  let other : Link := { link "link-detach" 1 with identifier := identifier.peer none }
  [.act (.openLink (link "link-detach" 1)), .act (.register 0 false),
    .act (.noteDelivery 0 ⟨[1]⟩ .received), .act (.suspend 0 .linkDetach),
    .act (.openLink other), .act (.register 1 false)]

namespace Registry

/-- That the other link goes away does not touch the suspended terminus, and an exclusive attach
finds that one with its record. -/
theorem identifiers_kept_apart_sample :
    let registry := Sample.registry.follow Sample.oneOfEachRole
    let leaves := Move.act (.suspend 1 .linkDetach)
    let record : Record := { tag := ⟨[1]⟩, state := .received }
    Sample.registry.Sparing Sample.oneOfEachRole ∧
      Sample.registry.SeedingOwn Sample.oneOfEachRole ∧
      (registry.move leaves).entries.get? Sample.identifier.key =
        registry.entries.get? Sample.identifier.key ∧
      registry.storage.LosesOnly (registry.Drops · · leaves) (registry.move leaves).storage ∧
      (registry.register 0 true).1.toOption = some 0 ∧
      (registry.register 0 true).2.storage.HasOnRecord Sample.identifier ⟨[1]⟩ record := by
  intro registry leaves record
  have sparing : Sample.registry.Sparing Sample.oneOfEachRole :=
    sparing_of_indirect (by simp [Sample.oneOfEachRole, Operation.direct?])
  have seeding : Sample.registry.SeedingOwn Sample.oneOfEachRole := by
    simp [Sample.oneOfEachRole, SeedingOwn, SeedsOwn]
  obtain ⟨apart, loses, resumes⟩ :=
    identifiers_kept_apart default { store := .memory {} } true Sample.oneOfEachRole sparing seeding
  have known : registry.links[0]? = some (Sample.link "link-detach" 1) := rfl
  have knownOther : (registry.links[1]?).map (·.identifier) = some (Sample.identifier.peer none) :=
    rfl
  have isFor : registry.IsFor (Sample.identifier.peer none).key leaves := by
    intro link isKnown
    rw [isKnown, Option.map_some, Option.some.injEq] at knownOther
    rw [knownOther]
  have leavesOther := (apart _ leaves isFor).entries Sample.identifier.key (by decide +kernel)
  have onRecord : registry.storage.HasOnRecord Sample.identifier ⟨[1]⟩ record :=
    eq_ok_of_toOption (by decide +kernel)
  let seat : Seat := ⟨⟨0, some (.ofChannel 1 1), .linkDetach, 1000⟩, .suspended, 1, none⟩
  have seated : registry.seat? Sample.identifier.key = some seat := by decide +kernel
  obtain ⟨done, resumed⟩ := resumes 0 (Sample.link "link-detach" 1) seat true known seated rfl
  have resumes : registry.Resumes (registry.register 0 true).2 0 _ seat := resumed
  have atFirst : (registry.register 0 true).1.toOption = some 0 := congrArg Except.toOption done
  have still : (registry.register 0 true).2.storage.HasOnRecord Sample.identifier ⟨[1]⟩ record := by
    rw [resumes.storage]
    exact onRecord
  exact ⟨sparing, seeding, leavesOther, loses leaves, atFirst, still⟩

end Registry

end Reattach
