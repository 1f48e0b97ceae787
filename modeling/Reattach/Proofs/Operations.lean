import Reattach.Proofs.Pending

/-!
# Operations as chains of changes

Every operation that is done at once is a chain of changes.  Operations that suspend do
so before they arrange any expiry: `arranged` is the moment in between, with the expiries
that are called for and the registry as it then is.
-/

namespace Reattach.Registry

variable {operation : Operation} {origin registry later : Registry}

/-! ## Suspending -/

/-- That a registry is reached by suspending termini of `origin`. -/
structure Suspending (operation : Operation) (origin registry : Registry) : Prop where
  changes : Changes operation origin origin registry
  entries : registry.entries = origin.entries
  timers : registry.timers = origin.timers

theorem Suspending.start (operation : Operation) (origin : Registry) :
    Suspending operation origin origin :=
  ⟨.refl, rfl, rfl⟩

theorem Suspending.suspendEntry (stage : Suspending operation origin registry)
    (sound : origin.Sound) {identifier : Identifier} {entry : Entry} {departure : Departure}
    (present : origin.entries.get? identifier.key = some entry)
    (reached : entry.policy.qualifies departure = true) :
    Suspending operation origin (registry.suspendEntry identifier entry).2 ∧
      (∀ pending ∈ (registry.suspendEntry identifier entry).1,
        CallsFor origin (registry.suspendEntry identifier entry).2 pending) ∧
      ∀ pending, CallsFor origin registry pending →
        CallsFor origin (registry.suspendEntry identifier entry).2 pending := by
  have soundNow := sound.changes stage.changes
  have presentNow : registry.entries.get? identifier.key = some entry := by
    rw [stage.entries, present]
  rcases soundNow.keyed presentNow with ⟨terminus, known, _⟩
  rw [Registry.suspendEntry]
  rcases suspendTerminus_cases known with ⟨unchanged, _⟩ |
    ⟨grown, channel, termini, suspended, puts, changed⟩
  · rw [unchanged]
    exact ⟨stage, by simp, fun _ calls => calls⟩
  · rw [changed]
    rcases Terminus.of_suspend suspended with ⟨wasActive, isGrown⟩
    have hasPhase : grown.phase = .suspended := by rw [isGrown]
    refine ⟨⟨?_, stage.entries, stage.timers⟩, ?_, ?_⟩
    · exact stage.changes.tail (.suspend channel stage.timers stage.entries presentNow reached
        known suspended puts)
    · intro pending member
      cases member
      refine ⟨by simp, ?_, entry, grown, presentNow, rfl, puts.self, hasPhase, rfl⟩
      intro noted
      rcases sound.noted noted with ⟨found, old, isFound, wasKnown, notLater⟩
      rw [present] at isFound
      cases isFound
      -- What was noted before is no later than the epoch that the terminus had then.
      rcases stage.changes.outlive _ _ wasKnown with ⟨since, isSince, _, grows⟩
      rw [known] at isSince
      cases isSince
      simp only [isGrown] at notLater
      omega
    · intro pending calls
      rcases calls.holder with ⟨found, holder, isFound, isTimeout, isKnown, isSuspended, isEpoch⟩
      by_cases same : pending.identifier.key = identifier.key
      · rw [same, presentNow] at isFound
        cases isFound
        rw [known] at isKnown
        cases isKnown
        rw [wasActive] at isSuspended
        cases isSuspended
      · refine ⟨?_, calls.isNew, found, holder, isFound, isTimeout, ?_, isSuspended, isEpoch⟩
        · exact (SortedMap.get?_insert_of_ne _ _ same).trans calls.noted
        · exact (puts.of_ne (soundNow.terminus_ne presentNow isFound same)).trans isKnown

/-- Suspending termini one after the other calls for the expiries that it tells. -/
theorem Suspending.suspendAll (stage : Suspending operation origin registry)
    (sound : origin.Sound) {departure : Departure} {candidates : List (Identifier × Entry)}
    (eligible : ∀ candidate ∈ candidates,
      origin.entries.get? candidate.1.key = some candidate.2 ∧
        candidate.2.policy.qualifies departure = true) :
    Suspending operation origin (registry.suspendAll candidates).2 ∧
      (∀ pending ∈ (registry.suspendAll candidates).1,
        CallsFor origin (registry.suspendAll candidates).2 pending) ∧
      ∀ pending, CallsFor origin registry pending →
        CallsFor origin (registry.suspendAll candidates).2 pending := by
  induction candidates generalizing registry with
  | nil => exact ⟨stage, by simp [Registry.suspendAll], fun _ calls => calls⟩
  | cons candidate rest ih =>
      rcases candidate with ⟨identifier, entry⟩
      rcases eligible (identifier, entry) List.mem_cons_self with ⟨present, reached⟩
      rcases stage.suspendEntry sound present reached with ⟨once, called, kept⟩
      obtain ⟨stages, calledLater, keptLater⟩ := ih once fun other member =>
        eligible other (List.mem_cons_of_mem _ member)
      refine ⟨stages, ?_, fun pending calls => keptLater pending (kept pending calls)⟩
      intro pending member
      simp only [Registry.suspendAll, List.mem_append, Option.mem_toList] at member
      rcases member with isFirst | isLater
      · exact keptLater pending (called pending isFirst)
      · exact calledLater pending isLater

theorem Sound.of_mem_candidates (sound : registry.Sound) {departure : Departure}
    {inScope : Scope → Bool} {listed : List (Identifier × Entry)}
    (reordered : listed.Perm (registry.candidates departure inScope)) :
    ∀ candidate ∈ listed, registry.entries.get? candidate.1.key = some candidate.2 ∧
      candidate.2.policy.qualifies departure = true := by
  intro candidate member
  have among := reordered.mem_iff.1 member
  simp only [candidates, SortedMap.values, List.mem_filterMap, List.mem_map] at among
  rcases among with ⟨entry, ⟨⟨key, found⟩, inTable, rfl⟩, isCandidate⟩
  have present := (registry.entries.mem_toList_iff key found).1 inTable
  rcases sound.keyed present with ⟨terminus, known, isOwn⟩
  simp only [known, Option.map_some] at isCandidate
  split at isCandidate
  · next qualifies =>
      cases isCandidate
      simp only [Bool.and_eq_true] at qualifies
      exact ⟨isOwn ▸ present, qualifies.2⟩
  · cases isCandidate

theorem Sound.candidates_suspending (sound : registry.Sound) (departure : Departure)
    (inScope : Scope → Bool) (order : TableOrder) :
    let listed := order.arrange (registry.candidates departure inScope)
    Suspending operation registry (registry.suspendAll listed).2 ∧
      ∀ pending ∈ (registry.suspendAll listed).1,
        CallsFor registry (registry.suspendAll listed).2 pending := by
  intro listed
  have reordered : listed.Perm (registry.candidates departure inScope) := order.perm_arrange _
  obtain ⟨stage, called, _⟩ :=
    (Suspending.start operation registry).suspendAll sound (sound.of_mem_candidates reordered)
  exact ⟨stage, called⟩

/-! ## Purging -/

/-- What is left to be dropped for an identifier is dropped or, if the store fails, stays. -/
theorem finishPurge_cases (registry : Registry) (identifier : Identifier) :
    registry.finishPurge identifier = (.ok (), registry) ∧
        registry.purging.get? identifier.key = none ∨
      (∃ error, (registry.storage.removeAll identifier).1 = .error error ∧
        registry.finishPurge identifier =
          (.error error, { registry with storage := (registry.storage.removeAll identifier).2 })) ∨
      ∃ count, (registry.storage.removeAll identifier).1 = .ok count ∧
        registry.finishPurge identifier =
          (.ok (), { registry with
            storage := (registry.storage.removeAll identifier).2
            purging := registry.purging.erase identifier.key }) := by
  by_cases isPending : registry.isPurgePending identifier = true
  · rw [finishPurge, if_pos isPending]
    rcases registry.storage.removeAll identifier with ⟨error | count, storage⟩
    · exact .inr (.inl ⟨error, rfl, rfl⟩)
    · exact .inr (.inr ⟨count, rfl, rfl⟩)
  · rw [finishPurge, if_neg isPending]
    refine .inl ⟨rfl, ?_⟩
    simpa [isPurgePending, SortedMap.contains] using isPending

/-- That a registry is reached by dropping records that expired termini have left. -/
structure Purging (operation : Operation) (origin registry : Registry) : Prop where
  changes : Changes operation origin origin registry
  entries : registry.entries = origin.entries
  termini : registry.termini = origin.termini
  suspended : registry.suspended = origin.suspended
  timers : registry.timers = origin.timers
  config : registry.config = origin.config

theorem Purging.start (operation : Operation) (origin : Registry) :
    Purging operation origin origin :=
  ⟨.refl, rfl, rfl, rfl, rfl, rfl⟩

theorem finishPurge_purging (operation : Operation) {identifier : Identifier}
    (absent : origin.entries.get? identifier.key = none) :
    Purging operation origin (origin.finishPurge identifier).2 ∧
      ((origin.finishPurge identifier).1 = .ok () →
        (origin.finishPurge identifier).2.purging.get? identifier.key = none) := by
  rcases finishPurge_cases origin identifier with
    ⟨unchanged, isNone⟩ | ⟨error, _, failed⟩ | ⟨count, removed, dropped⟩
  · rw [unchanged]
    exact ⟨.start _ _, fun _ => isNone⟩
  · rw [failed]
    refine ⟨⟨?_, rfl, rfl, rfl, rfl, rfl⟩, ?_⟩
    · exact .single (.purge identifier absent (.inl rfl) (.inl rfl))
    · intro isOk
      cases isOk
  · rw [dropped]
    refine ⟨⟨?_, rfl, rfl, rfl, rfl, rfl⟩, fun _ => SortedMap.get?_erase_self _ _⟩
    exact .single (.purge identifier absent (.inr rfl) (.inr ⟨count, removed⟩))

/-! ## Seeding -/

/-- Put a terminus into the table as far as that goes without arranging its expiry; tells
whether it is in, and the expiry that is called for. -/
def accept (registry : Registry) (id : TerminusId) :
    (Bool × List PendingExpiry) × Registry :=
  match registry.termini[id]? with
  | none => ((false, []), registry)
  | some terminus =>
      match registry.entry? terminus.identifier with
      | some _ => ((false, []), registry)
      | none =>
          match registry.finishPurge terminus.identifier with
          | (.error _, registry) => ((false, []), registry)
          | (.ok (), registry) =>
              if terminus.phase = .expired then
                ((false, []), registry)
              else
                let (pending, registry) := registry.seed id terminus
                ((true, pending.toList), registry)

theorem tryAdd_eq (registry : Registry) (id : TerminusId) :
    registry.tryAdd id =
      ((registry.accept id).1.1, (registry.accept id).2.arrangeAll (registry.accept id).1.2) := by
  simp only [tryAdd, accept]
  cases registry.termini[id]? with
  | none => rfl
  | some terminus =>
      simp only [addKnown]
      cases registry.entry? terminus.identifier with
      | some _ => rfl
      | none =>
          rcases registry.finishPurge terminus.identifier with ⟨error | _, purged⟩
          · rfl
          · by_cases hasExpired : terminus.phase = .expired
            · simp only [hasExpired, if_true]
              rfl
            · simp only [hasExpired, if_false]
              rcases purged.seed id terminus with ⟨_ | pending, seeded⟩
              · rfl
              · rfl

/-- What is put into the table is seeded there, after any records were dropped that an
earlier terminus has left. -/
theorem accept_cases (operation : Operation) (registry : Registry) (id : TerminusId) :
    (∃ purged, Purging operation registry purged ∧ registry.accept id = ((false, []), purged)) ∨
      ∃ terminus purged, registry.termini[id]? = some terminus ∧
        registry.entries.get? terminus.identifier.key = none ∧ terminus.phase ≠ .expired ∧
        Purging operation registry purged ∧
        purged.purging.get? terminus.identifier.key = none ∧
        registry.accept id =
          ((true, (purged.seed id terminus).1.toList), (purged.seed id terminus).2) := by
  simp only [accept, entry?]
  cases known : registry.termini[id]? with
  | none => exact .inl ⟨registry, .start _ _, rfl⟩
  | some terminus =>
      simp only
      cases absent : registry.entries.get? terminus.identifier.key with
      | some _ => exact .inl ⟨registry, .start _ _, rfl⟩
      | none =>
          rcases finishPurge_purging operation absent with
            ⟨purges, isPurged⟩
          simp only
          split
          · next purged failed =>
              rw [failed] at purges
              exact .inl ⟨purged, purges, rfl⟩
          · next purged done =>
              rw [done] at purges isPurged
              split
              · exact .inl ⟨purged, purges, rfl⟩
              · next lives =>
                  exact .inr ⟨terminus, purged, rfl, absent, lives, purges, isPurged rfl, rfl⟩

theorem Sound.not_noted (sound : registry.Sound) {key : Identifier.Key}
    (absent : registry.entries.get? key = none) (epoch : Nat) :
    registry.suspended.get? key ≠ some epoch := by
  intro noted
  rcases sound.noted noted with ⟨entry, _, present, _⟩
  rw [absent] at present
  cases present

/-- What the table says about a terminus that was put into it. -/
def seededEntry (registry : Registry) (id : TerminusId) (terminus : Terminus) : Entry where
  terminus := id
  scope := none
  policy := (registry.config.resolve terminus.settings).1
  timeout := (registry.config.resolve terminus.settings).2

theorem seed_eq (registry : Registry) (id : TerminusId) (terminus : Terminus) :
    (registry.seed id terminus).2 =
      { registry with
        entries :=
          registry.entries.insert terminus.identifier.key (registry.seededEntry id terminus)
        suspended :=
          if terminus.phase = .suspended then
            registry.suspended.insert terminus.identifier.key terminus.epoch
          else
            registry.suspended } := by
  simp only [seed]
  split
  · rfl
  · rfl

/-- Seeding is a change, and calls for the expiry of a suspended terminus. -/
theorem Purging.seed {purged : Registry} (purges : Purging operation origin purged)
    (sound : origin.Sound) {id : TerminusId} {terminus : Terminus}
    (known : origin.termini[id]? = some terminus)
    (absent : origin.entries.get? terminus.identifier.key = none)
    (isPurged : purged.purging.get? terminus.identifier.key = none)
    (lives : terminus.phase ≠ .expired) :
    Changes operation origin origin (purged.seed id terminus).2 ∧
      ∀ pending ∈ (purged.seed id terminus).1,
        CallsFor origin (purged.seed id terminus).2 pending := by
  have knownNow : purged.termini[id]? = some terminus := by rw [purges.termini, known]
  have vacant : purged.entries.get? terminus.identifier.key = none := by
    rw [purges.entries, absent]
  constructor
  · rw [seed_eq]
    exact purges.changes.tail
      (.seed absent vacant purges.timers isPurged knownNow lives rfl rfl)
  · intro pending member
    simp only [Registry.seed] at member ⊢
    split at member
    · next isSuspended =>
        cases member
        rw [if_pos isSuspended]
        exact ⟨SortedMap.get?_insert_self _ _ _, sound.not_noted absent _, _, terminus,
          SortedMap.get?_insert_self _ _ _, rfl, knownNow, isSuspended, rfl⟩
    · cases member

/-! ## Attaching -/

theorem updateSettings_eq (registry : Registry) {id : TerminusId} {terminus : Terminus}
    (known : registry.termini[id]? = some terminus) (settings : Settings) :
    ∃ termini, registry.updateSettings id settings = { registry with termini } ∧
      Puts registry.termini id { terminus with settings } termini := by
  simp only [updateSettings, known, putTerminus]
  exact ⟨_, rfl, .set known _⟩

theorem associate_cases (registry : Registry) {id : TerminusId} {terminus : Terminus}
    (known : registry.termini[id]? = some terminus) (link : LinkId) :
    (∃ error, registry.associate id link = (.error error, registry) ∧
        terminus.phase = .expired) ∨
      ∃ displaced grown channel termini, terminus.associate link = .ok (displaced, grown) ∧
        Puts registry.termini id grown termini ∧
        registry.associate id link = (.ok displaced, { registry with termini, channel }) := by
  simp only [associate, known]
  cases associated : terminus.associate link with
  | error fault =>
      exact .inl ⟨_, rfl, (Terminus.associate_eq_error_iff.1 associated).1⟩
  | ok result =>
      rcases result with ⟨displaced, grown⟩
      rcases moveTerminus_eq registry id grown (.associated grown.identifier) with
        ⟨channel, moved⟩
      exact .inr ⟨displaced, grown, channel, _, rfl, .set known grown, by simp only [moved]⟩

/-- What the table says about a terminus whose latest link is the given one. -/
def enteredEntry (registry : Registry) (link : Link) (id : TerminusId) : Entry where
  terminus := id
  scope := some link.scope
  policy := (registry.config.resolve link.settings).1
  timeout := (registry.config.resolve link.settings).2

/-- A link is entered with a new terminus or with the one that the table has. -/
theorem Sound.enter_cases (sound : registry.Sound) (link : Link) :
    (∃ id terminus termini, registry.entries.get? link.identifier.key = none ∧
        registry.termini[id]? = none ∧ terminus.identifier = link.identifier ∧
        terminus.link = none ∧ terminus.phase = .active ∧
        Puts registry.termini id terminus termini ∧
        registry.enter link = (id, { registry with
          termini
          entries :=
            registry.entries.insert link.identifier.key (registry.enteredEntry link id) })) ∨
      ∃ old terminus termini, registry.entries.get? link.identifier.key = some old ∧
        registry.termini[old.terminus]? = some terminus ∧
        Puts registry.termini old.terminus { terminus with settings := link.settings } termini ∧
        registry.enter link = (old.terminus, { registry with
          termini
          entries := registry.entries.insert link.identifier.key
            (registry.enteredEntry link old.terminus) }) := by
  simp only [enter, entry?]
  cases present : registry.entries.get? link.identifier.key with
  | none =>
      let fresh : Terminus :=
        { identifier := link.identifier, settings := link.settings, isShared := true }
      have created := Puts.push registry.termini fresh
      obtain ⟨termini, updated, puts⟩ :=
        updateSettings_eq { registry with
          termini := registry.termini.push fresh
          entries := registry.entries.insert link.identifier.key
            (registry.enteredEntry link registry.termini.size) } created.self link.settings
      refine .inl ⟨_, _, termini, rfl, ?_, rfl, rfl, rfl, created.trans puts, ?_⟩
      · exact Array.getElem?_eq_none (Nat.le_refl _)
      · exact congrArg (Prod.mk _) updated
  | some old =>
      rcases sound.keyed present with ⟨terminus, known, _⟩
      obtain ⟨termini, updated, puts⟩ :=
        updateSettings_eq { registry with
          entries := registry.entries.insert link.identifier.key
            (registry.enteredEntry link old.terminus) } known link.settings
      exact .inr ⟨old, terminus, termini, rfl, known, puts, congrArg (Prod.mk _) updated⟩

theorem steal_changes (registry : Registry) (identifier : Identifier) (previous : LinkId) :
    Changes operation origin registry (registry.steal identifier previous) := by
  simp only [steal]
  split
  · exact .refl
  · split
    · exact .single (.links _ _)
    · exact .refl

/-- Attaching a link is a chain of changes. -/
theorem Sound.takeOver_changes (sound : registry.Sound) (link : Link) (id : LinkId)
    (untimed : registry.timers = origin.timers)
    (purged : registry.entries.get? link.identifier.key = none →
      origin.entries.get? link.identifier.key = none ∧
        registry.purging.get? link.identifier.key = none) :
    Changes operation origin registry (registry.takeOver link id).2 := by
  simp only [takeOver]
  rcases sound.enter_cases link with
    ⟨fresh, terminus, termini, vacant, isNew, isOwn, _, isActive, created, entered⟩ |
    ⟨old, terminus, termini, present, known, updated, entered⟩
  · rw [entered]
    rcases purged vacant with ⟨absent, isPurged⟩
    rcases associate_cases { registry with
        termini
        entries := registry.entries.insert link.identifier.key
          (registry.enteredEntry link fresh) } created.self id with
      ⟨error, _, hasExpired⟩ | ⟨displaced, grown, channel, moved, associated, puts, changed⟩
    · rw [isActive] at hasExpired
      cases hasExpired
    · rcases Terminus.of_associate associated with ⟨_, isGrown⟩
      have attached : Changes operation origin registry { registry with
          termini := moved
          channel
          entries := registry.entries.insert link.identifier.key
            (registry.enteredEntry link fresh)
          suspended := registry.suspended.erase link.identifier.key } :=
        .single (.enter channel absent vacant untimed isPurged isNew (created.trans puts)
          (by rw [isGrown, isOwn]) (by rw [isGrown]))
      simp only [changed]
      cases displaced with
      | none => exact attached
      | some previous => exact attached.trans (steal_changes _ _ _)
  · rw [entered]
    rcases associate_cases { registry with
        termini
        entries := registry.entries.insert link.identifier.key
          (registry.enteredEntry link old.terminus) } updated.self id with
      ⟨error, refused, hasExpired⟩ | ⟨displaced, grown, channel, moved, associated, puts, changed⟩
    · simp only [refused]
      exact .single (.refuse link.settings untimed present rfl known hasExpired updated)
    · have keeps := (Terminus.Moves.associate associated).keeps
      rcases Terminus.of_associate associated with ⟨_, isGrown⟩
      have attached : Changes operation origin registry { registry with
          termini := moved
          channel
          entries := registry.entries.insert link.identifier.key
            (registry.enteredEntry link old.terminus)
          suspended := registry.suspended.erase link.identifier.key } :=
        .single (.reenter channel untimed present rfl known keeps (by rw [isGrown])
          (updated.trans puts))
      simp only [changed]
      cases displaced with
      | none => exact attached
      | some previous => exact attached.trans (steal_changes _ _ _)

theorem Sound.register_changes (sound : registry.Sound) (id : LinkId) (exclusive : Bool) :
    Changes operation registry registry (registry.register id exclusive).2 := by
  simp only [register]
  cases registry.links[id]? with
  | none => exact .refl
  | some link =>
      simp only [attach, prepare, entry?]
      cases vacant : registry.entries.get? link.identifier.key with
      | some entry =>
          simp only
          split
          · exact .refl
          · exact sound.takeOver_changes link id rfl (by simp [vacant])
      | none =>
          rcases finishPurge_purging operation vacant with ⟨purges, isPurged⟩
          simp only
          rcases purged : registry.finishPurge link.identifier with ⟨error | _, after⟩
          · rw [purged] at purges
            exact purges.changes
          · rw [purged] at purges isPurged
            simp only
            split
            · exact purges.changes
            · apply purges.changes.trans
              have soundNow := sound.changes purges.changes
              exact soundNow.takeOver_changes link id purges.timers fun _ =>
                ⟨vacant, isPurged rfl⟩

/-! ## All operations -/

/-- Suspend the terminus of a link that goes away as far as that goes without arranging its
expiry, and tell the expiry that is called for. -/
def detach (registry : Registry) (id : LinkId) (departure : Departure) :
    List PendingExpiry × Registry :=
  match registry.links[id]? with
  | none => ([], registry)
  | some link =>
      match registry.entry? link.identifier with
      | none => ([], registry)
      | some entry =>
          if !registry.isAssociated entry.terminus id then ([], registry)
          else if !entry.policy.qualifies departure then ([], registry)
          else
            let (pending, registry) := registry.suspendEntry link.identifier entry
            (pending.toList, registry)

theorem suspend_eq (registry : Registry) (id : LinkId) (departure : Departure) :
    (registry.suspend id departure).2 =
      (registry.detach id departure).2.arrangeAll (registry.detach id departure).1 := by
  simp only [suspend, detach]
  cases registry.links[id]? with
  | none => rfl
  | some link =>
      simp only [suspendFor]
      cases registry.entry? link.identifier with
      | none => rfl
      | some entry =>
          simp only
          split
          · rfl
          · split
            · rfl
            · rcases registry.suspendEntry link.identifier entry with ⟨_ | pending, after⟩
              · rfl
              · rfl

theorem Sound.detach_suspending (sound : registry.Sound) (id : LinkId)
    (departure : Departure) :
    Suspending operation registry (registry.detach id departure).2 ∧
      ∀ pending ∈ (registry.detach id departure).1,
        CallsFor registry (registry.detach id departure).2 pending := by
  have unchanged : Suspending operation registry registry ∧
      ∀ pending ∈ ([] : List PendingExpiry), CallsFor registry registry pending :=
    ⟨.start operation registry, by simp⟩
  simp only [detach, entry?]
  cases registry.links[id]? with
  | none => exact unchanged
  | some link =>
      simp only
      cases present : registry.entries.get? link.identifier.key with
      | none => exact unchanged
      | some entry =>
          simp only
          split
          · exact unchanged
          · split
            · exact unchanged
            · next reached =>
                have qualifies : entry.policy.qualifies departure = true := by
                  simpa using reached
                obtain ⟨stage, called, _⟩ :=
                  (Suspending.start operation registry).suspendEntry sound present qualifies
                exact ⟨stage, fun pending member => called pending (Option.mem_toList.1 member)⟩

/-- The expiries that an operation calls for, and the registry before they are arranged. -/
def arranged (registry : Registry) : Operation → List PendingExpiry × Registry
  | .suspend link departure => registry.detach link departure
  | .endSession session order =>
      registry.suspendAll <| order.arrange <|
        registry.candidates .sessionEnd fun scope => scope.session == session
  | .closeConnection connection order =>
      registry.suspendAll <| order.arrange <|
        registry.candidates .connectionClose fun scope => scope.connection == connection
  | .tryAdd id => ((registry.accept id).1.2, (registry.accept id).2)
  | operation => ([], registry.after operation)

/-- What remains of an operation once it has suspended termini is arranging expiries. -/
theorem after_eq_arrangeAll (registry : Registry) (operation : Operation) :
    registry.after operation =
      (registry.arranged operation).2.arrangeAll (registry.arranged operation).1 := by
  cases operation with
  | suspend link departure => exact registry.suspend_eq link departure
  | tryAdd id => exact congrArg Prod.snd (registry.tryAdd_eq id)
  | _ => rfl

theorem describeAll_changes (entries : List Entry) (registry : Registry) :
    Changes operation origin registry (registry.describeAll entries).2 := by
  induction entries generalizing registry with
  | nil => exact .refl
  | cons entry rest ih =>
      simp only [describeAll]
      split
      · exact ih registry
      · next terminus _ =>
          refine .head ?_ (ih (registry.describe entry terminus).2)
          exact .store (.inr (registry.storage.retrieveAll_store terminus.identifier))

theorem closeLink_changes (registry : Registry) (id : LinkId) :
    Changes operation origin registry (registry.closeLink id) := by
  simp only [closeLink]
  split
  · exact .refl
  · exact .single (.links _ _)

theorem updateSettings_changes (registry : Registry) (id : TerminusId) (settings : Settings) :
    Changes operation origin registry (registry.updateSettings id settings) := by
  cases known : registry.termini[id]? with
  | none => simp only [updateSettings, known, Relation.ReflTransGen.refl]
  | some terminus =>
      rcases updateSettings_eq registry known settings with ⟨termini, updated, puts⟩
      rw [updated]
      exact .single (.refresh settings known puts)

theorem associate_changes (registry : Registry) (id : TerminusId) (link : LinkId) :
    Changes (.associate id link) registry registry (registry.associate id link).2 := by
  cases known : registry.termini[id]? with
  | none => simp only [associate, known, Relation.ReflTransGen.refl]
  | some terminus =>
      rcases associate_cases registry known link with ⟨error, refused, _⟩ |
        ⟨displaced, grown, channel, termini, associated, puts, changed⟩
      · rw [refused]
      · rw [changed]
        exact .single (.direct channel rfl rfl known (.associate associated) puts)

theorem suspendTerminus_changes (registry : Registry) (id : TerminusId) :
    Changes (.suspendTerminus id) registry registry (registry.suspendTerminus id).2 := by
  cases known : registry.termini[id]? with
  | none => simp only [suspendTerminus, known, Option.bind_none, Relation.ReflTransGen.refl]
  | some terminus =>
      rcases suspendTerminus_cases known with ⟨unchanged, _⟩ |
        ⟨grown, channel, termini, suspended, puts, changed⟩
      · rw [unchanged]
      · rw [changed]
        exact .single (.direct channel rfl rfl known (.suspend suspended) puts)

theorem expireTerminus_changes (registry : Registry) (id : TerminusId) (epoch : Option Nat) :
    Changes (.expireTerminus id epoch) registry registry
      (registry.expireTerminus id epoch).2 := by
  cases known : registry.termini[id]? with
  | none => simp only [expireTerminus, known, Option.bind_none, Relation.ReflTransGen.refl]
  | some terminus =>
      rcases expireTerminus_eq registry known epoch with ⟨channel, termini, changed, puts⟩
      cases expired : terminus.expire epoch with
      | none => simp only [expireTerminus, known, Option.bind_some, expired,
          Relation.ReflTransGen.refl]
      | some grown =>
          rw [expired] at puts
          rw [changed]
          exact .single (.direct channel rfl rfl known (.expire expired) puts)

/-- Up to the moment at which expiries are arranged an operation is a chain of changes, and
each of the expiries is called for. -/
theorem Sound.arranged_changes (sound : registry.Sound) (operation : Operation) :
    Changes operation registry registry (registry.arranged operation).2 ∧
      ∀ pending ∈ (registry.arranged operation).1,
        CallsFor registry (registry.arranged operation).2 pending := by
  cases operation with
  | suspend link departure =>
      rcases sound.detach_suspending link departure with ⟨stage, called⟩
      exact ⟨stage.changes, called⟩
  | endSession session order | closeConnection connection order =>
      exact (sound.candidates_suspending _ _ order).imp_left Suspending.changes
  | tryAdd id =>
      rcases accept_cases (.tryAdd id) registry id with ⟨purged, purges, accepted⟩ |
        ⟨terminus, purged, known, absent, lives, purges, isPurged, accepted⟩
      · simp only [arranged, accepted]
        exact ⟨purges.changes, by simp⟩
      · simp only [arranged, accepted, Option.mem_toList]
        exact purges.seed sound known absent isPurged lives
  | openLink link => exact ⟨.single (.links _ _), by simp [arranged]⟩
  | closeLink id => exact ⟨closeLink_changes registry id, by simp [arranged]⟩
  | failOnSteal id fails =>
      refine ⟨?_, by simp [arranged]⟩
      simp only [arranged, after, Operation.isInstant, Watch.perform, Watch.onLink]
      cases registry.links[id]? with
      | none => exact .refl
      | some link => exact .single (.links _ _)
  | register id exclusive => exact ⟨sound.register_changes id exclusive, by simp [arranged]⟩
  | expire identifier =>
      exact ⟨sound.expireEpoch_changes identifier none (.inl rfl), by simp [arranged]⟩
  | tryRemove identifier => exact ⟨.single (.remove identifier rfl), by simp [arranged]⟩
  | snapshot => exact ⟨describeAll_changes _ _, by simp [arranged]⟩
  | createTerminus identifier settings =>
      refine ⟨.single (.create ?_ (.push _ _) ⟨rfl, rfl⟩), by simp [arranged]⟩
      exact Array.getElem?_eq_none (Nat.le_refl _)
  | updateSettings id settings =>
      exact ⟨updateSettings_changes registry id settings, by simp [arranged]⟩
  | associate id link => exact ⟨associate_changes registry id link, by simp [arranged]⟩
  | suspendTerminus id => exact ⟨suspendTerminus_changes registry id, by simp [arranged]⟩
  | expireTerminus id epoch => exact ⟨expireTerminus_changes registry id epoch, by simp [arranged]⟩
  | noteDelivery id _ _ | settleDelivery id _ =>
      refine ⟨?_, by simp [arranged]⟩
      simp only [arranged, after, Operation.isInstant, Watch.perform, Watch.onTerminus]
      cases registry.termini[id]? with
      | none => exact .refl
      | some terminus => exact .single (.store (.inl rfl))
  | planRecovery id theirs =>
      refine ⟨?_, by simp [arranged]⟩
      simp only [arranged, after, Operation.isInstant, Watch.perform, Watch.onTerminus]
      cases registry.termini[id]? with
      | none => exact .refl
      | some terminus => exact .single (.store (.inr (Storage.planRecovery_store ..)))
  | applyPlan plan => exact ⟨.single (.store (.inl rfl)), by simp [arranged]⟩
  | callStore call => exact ⟨.single (.store (.inl rfl)), by simp [arranged]⟩
  | setOutages outages => exact ⟨.single (.store (.inr rfl)), by simp [arranged]⟩
  | wait _ | await _ _ _ | cancel _ => exact ⟨.refl, by simp [arranged]⟩

/-- While the expiries that are called for are arranged, those to come are ready. -/
theorem Sound.arranging (sound : registry.Sound) {earlier rest : List PendingExpiry}
    (called : (registry.arranged operation).1 = earlier ++ rest) :
    Changes operation registry registry ((registry.arranged operation).2.arrangeAll earlier) ∧
      ∀ pending ∈ rest,
        IsReady registry ((registry.arranged operation).2.arrangeAll earlier) pending := by
  rcases sound.arranged_changes operation with ⟨changes, calls⟩
  have ready (pending : PendingExpiry) (member : pending ∈ earlier ++ rest) :
      IsReady registry (registry.arranged operation).2 pending :=
    .inl (calls pending (called ▸ member))
  obtain ⟨arranges, keeps⟩ := (sound.changes changes).arrangeAll operation fun pending member =>
    ready pending (List.mem_append_left _ member)
  exact ⟨changes.trans arranges, fun pending member =>
    keeps pending (ready pending (List.mem_append_right _ member))⟩

/-- Every operation is a chain of changes. -/
theorem Sound.after_changes (sound : registry.Sound) (operation : Operation) :
    Changes operation registry registry (registry.after operation) := by
  rw [after_eq_arrangeAll]
  exact (sound.arranging (List.append_nil _).symm).1

/-! ## All moves -/

theorem Sound.withNow (sound : registry.Sound) (now : Nat) :
    Sound { registry with now } :=
  ⟨sound.keyed, sound.noted⟩

theorem Sound.dropTimer (sound : registry.Sound) (index : Nat) :
    (registry.dropTimer index).Sound :=
  ⟨sound.keyed, sound.noted⟩

/-- Either a timer is not due and nothing happens, or it goes and an expiry is tried. -/
theorem fire_cases (registry : Registry) (index : Nat) :
    registry.fire index = registry ∧
        (∀ timer, registry.timers[index]? = some timer → registry.now < timer.due) ∨
      ∃ timer, registry.timers[index]? = some timer ∧ timer.due ≤ registry.now ∧
        registry.fire index =
          ((registry.dropTimer index).expireEpoch timer.identifier (some timer.epoch)).2 := by
  simp only [fire]
  cases isSet : registry.timers[index]? with
  | none => exact .inl ⟨rfl, by simp⟩
  | some timer =>
      by_cases isDue : timer.due ≤ registry.now
      · exact .inr ⟨timer, rfl, isDue, by simp only [isDue, if_true]⟩
      · refine .inl ⟨by simp only [isDue, if_false], ?_⟩
        intro other same
        cases same
        exact Nat.lt_of_not_le isDue

/-- What a registry has, and still has when a timer has gone and its expiry has been tried, it has
after the timer has fired. -/
@[elab_as_elim] theorem fire_induction {kept : Registry → Prop} (index : Nat)
    (holds : kept registry)
    (expired : ∀ timer : Timer,
      kept ((registry.dropTimer index).expireEpoch timer.identifier (some timer.epoch)).2) :
    kept (registry.fire index) := by
  rcases registry.fire_cases index with ⟨unchanged, _⟩ | ⟨timer, _, _, expires⟩
  · rw [unchanged]
    exact holds
  · rw [expires]
    exact expired timer

/-- The expiry that a timer tries is a chain of changes. -/
theorem Sound.fired_changes (sound : registry.Sound) (index : Nat) (timer : Timer) :
    Changes (.expire timer.identifier) (registry.dropTimer index) (registry.dropTimer index)
      ((registry.dropTimer index).expireEpoch timer.identifier (some timer.epoch)).2 :=
  (sound.dropTimer index).expireEpoch_changes timer.identifier _ (.inl rfl)

/-- Either a timer goes at most, as it finds no suspension that it is for, or it takes the
terminus of its suspension out of the table and drops the records. -/
theorem Sound.fired_cases (sound : registry.Sound) (index : Nat) :
    (∃ timers, registry.fire index = { registry with timers } ∧
        ∀ timer, registry.timers[index]? = some timer → timer.due ≤ registry.now →
          registry.suspended.get? timer.identifier.key ≠ some timer.epoch) ∨
      ∃ timer termini channel, registry.timers[index]? = some timer ∧
        timer.due ≤ registry.now ∧
        registry.suspended.get? timer.identifier.key = some timer.epoch ∧
        registry.fire index = { registry with
          termini, channel
          timers := registry.timers.eraseIdx index
          entries := registry.entries.erase timer.identifier.key
          suspended := registry.suspended.erase timer.identifier.key
          storage := (registry.storage.removeAll timer.identifier).2
          purging := registry.purgingAfter timer.identifier } := by
  rcases registry.fire_cases index with ⟨unchanged, notDue⟩ | ⟨timer, isSet, isDue, expires⟩
  · refine .inl ⟨registry.timers, unchanged, ?_⟩
    intro timer isSet isDue
    exact absurd isDue (Nat.not_le_of_lt (notDue timer isSet))
  · rcases (sound.dropTimer index).expireEpoch_cases timer.identifier (some timer.epoch) with
      ⟨unchanged, mismatch⟩ |
      ⟨noted, _, _, channel, termini, isNoted, matching, _, _, _, changed⟩
    · refine .inl ⟨registry.timers.eraseIdx index, by rw [expires, unchanged]; rfl, ?_⟩
      intro other isOther _ noted
      rw [isSet] at isOther
      cases isOther
      rcases mismatch timer.epoch noted with ⟨wanted, isWanted, apart⟩
      exact apart (Option.some.inj isWanted).symm
    · have sameEpoch : timer.epoch = noted := matching timer.epoch rfl
      subst sameEpoch
      exact .inr ⟨timer, termini, channel, isSet, isDue, isNoted, by rw [expires, changed]; rfl⟩

/-- What all changes of an operation keep, the operation keeps. -/
theorem Sound.changes_induction {kept : Registry → Prop} (sound : origin.Sound)
    (holds : kept origin)
    (changed : ∀ registry later, registry.Sound → Change operation origin registry later →
      kept registry → kept later)
    (changes : Changes operation origin origin later) : kept later := by
  induction changes with
  | refl => exact holds
  | tail first last ih => exact changed _ _ (sound.changes first) last ih

/-- What time, the loss of a timer and all changes keep, every move keeps.  Changes may be
taken to spare the table if the move does. -/
theorem Sound.move_induction {kept : Registry → Prop} (sound : registry.Sound)
    (holds : kept registry)
    (passed : ∀ registry now, kept registry → kept { registry with now })
    (dropped : ∀ registry index, kept registry → kept (registry.dropTimer index))
    (changed : ∀ operation origin registry later,
      (∀ id ∈ operation.direct?, ¬origin.Holds id) → registry.Sound →
        Change operation origin registry later → kept registry → kept later)
    (move : Move) (spares : move.SparesTable registry) : kept (registry.move move) := by
  cases move with
  | act operation =>
      exact sound.changes_induction holds (fun before after => changed _ _ before after spares)
        (sound.after_changes operation)
  | pass time => exact passed registry time holds
  | fire index =>
      rw [Registry.move]
      refine fire_induction index holds fun timer => ?_
      exact (sound.dropTimer index).changes_induction (dropped registry index holds)
        (fun before after => changed _ _ before after (by simp [Operation.direct?]))
        (sound.fired_changes index timer)

theorem Sound.move (sound : registry.Sound) (move : Move) : (registry.move move).Sound := by
  cases move with
  | act operation => exact sound.changes (sound.after_changes operation)
  | pass time => exact sound.withNow time
  | fire index =>
      rw [Registry.move]
      refine fire_induction index sound fun timer => ?_
      exact (sound.dropTimer index).changes (sound.fired_changes index timer)

theorem Sound.follow (sound : registry.Sound) (moves : List Move) :
    (registry.follow moves).Sound := by
  induction moves generalizing registry with
  | nil => exact sound
  | cons move rest ih => exact ih (sound.move move)

/-- The same for moves made one after the other. -/
theorem Sound.follow_induction {kept : Registry → Prop} (sound : registry.Sound)
    (holds : kept registry)
    (passed : ∀ registry now, kept registry → kept { registry with now })
    (dropped : ∀ registry index, kept registry → kept (registry.dropTimer index))
    (changed : ∀ operation origin registry later,
      (∀ id ∈ operation.direct?, ¬origin.Holds id) → registry.Sound →
        Change operation origin registry later → kept registry → kept later)
    (moves : List Move) (sparing : registry.Sparing moves) : kept (registry.follow moves) := by
  induction moves generalizing registry with
  | nil => exact holds
  | cons move rest ih =>
      have holdsThen := sound.move_induction holds passed dropped changed move sparing.1
      exact ih (sound.move move) holdsThen sparing.2

theorem Sound.create (config : Config) (storage : Storage) (hasTimers : Bool) :
    Sound { Registry.create config storage with hasTimers } := by
  constructor
  · intro key entry present
    cases present
  · intro key epoch noted
    cases noted

end Reattach.Registry
