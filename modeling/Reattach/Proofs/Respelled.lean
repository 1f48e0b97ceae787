import Reattach.Proofs.Respelling

/-!
# Registries in another spelling

What is done to a registry whose identifiers are respelled is what is done to the registry itself,
respelled.
-/

namespace Reattach

variable (spelling : Respelling)

/-! ## One terminus, one link -/

namespace Link

variable (link : Link)

@[simp] theorem identifier_respell :
    (link.respell spelling).identifier = spelling.identifier link.identifier := rfl

end Link

namespace Terminus

variable (terminus : Terminus)

@[simp] theorem identifier_respell :
    (terminus.respell spelling).identifier = spelling.identifier terminus.identifier := rfl

@[simp] theorem isShared_respell :
    (terminus.respell spelling).isShared = terminus.isShared := rfl

@[simp] theorem phase_respell : (terminus.respell spelling).phase = terminus.phase := rfl

theorem associate_respell (link : LinkId) :
    (terminus.respell spelling).associate link =
      ((terminus.associate link).mapError (·.respell spelling)).map
        (Prod.map id (·.respell spelling)) := by
  obtain ⟨identifier, settings, isShared, linked, phase, epoch, suspendedAt⟩ := terminus
  cases phase <;> rfl

theorem suspend_respell (now : Nat) :
    (terminus.respell spelling).suspend now =
      (terminus.suspend now).map (·.respell spelling) := by
  obtain ⟨identifier, settings, isShared, linked, phase, epoch, suspendedAt⟩ := terminus
  cases phase <;> rfl

theorem expire_respell (epoch : Option Nat) :
    (terminus.respell spelling).expire epoch =
      (terminus.expire epoch).map (·.respell spelling) := by
  obtain ⟨identifier, settings, isShared, linked, phase, current, suspendedAt⟩ := terminus
  cases phase with
  | suspended =>
      by_cases matching : epoch.all (· == current) = true <;>
        simp [expire, Terminus.respell, matching]
  | _ => rfl

end Terminus

theorem Channel.publish_respell (channel : Channel) (time : Nat) (event : Event) :
    (channel.respell spelling).publish time (event.respell spelling) =
      (channel.publish time event).respell spelling := by
  simp [Channel.respell, Channel.publish, Notice.respell]

namespace Registry

variable (registry : Registry)

/-! ## What a registry says -/

@[simp] theorem storage_respell : (registry.respell spelling).storage = registry.storage := rfl

@[simp] theorem hasTimers_respell :
    (registry.respell spelling).hasTimers = registry.hasTimers := rfl

@[simp] theorem now_respell : (registry.respell spelling).now = registry.now := rfl

@[simp] theorem entries_respell : (registry.respell spelling).entries = registry.entries := rfl

@[simp] theorem suspended_respell :
    (registry.respell spelling).suspended = registry.suspended := rfl

@[simp] theorem purging_respell : (registry.respell spelling).purging = registry.purging := rfl

@[simp] theorem timers_respell :
    (registry.respell spelling).timers = registry.timers.map (·.respell spelling) := rfl

@[simp] theorem channel_respell :
    (registry.respell spelling).channel = registry.channel.respell spelling := rfl

@[simp] theorem getElem?_links_respell (id : LinkId) :
    (registry.respell spelling).links[id]? = registry.links[id]?.map (·.respell spelling) :=
  Array.getElem?_map

@[simp] theorem getElem?_termini_respell (id : TerminusId) :
    (registry.respell spelling).termini[id]? = registry.termini[id]?.map (·.respell spelling) :=
  Array.getElem?_map

@[simp] theorem isOpen_respell (id : LinkId) :
    (registry.respell spelling).isOpen id = registry.isOpen id := by
  simp only [isOpen, getElem?_links_respell, Option.any_map]
  rfl

@[simp] theorem linkOf_respell (id : TerminusId) :
    (registry.respell spelling).linkOf id = registry.linkOf id := by
  simp only [linkOf, getElem?_termini_respell, Option.bind_map]
  rfl

@[simp] theorem hasLiveLink_respell (id : TerminusId) :
    (registry.respell spelling).hasLiveLink id = registry.hasLiveLink id := by
  have sameOpen : (registry.respell spelling).isOpen = registry.isOpen :=
    funext fun id => registry.isOpen_respell spelling id
  rw [hasLiveLink, hasLiveLink, linkOf_respell, sameOpen]

@[simp] theorem isAssociated_respell (id : TerminusId) (link : LinkId) :
    (registry.respell spelling).isAssociated id link = registry.isAssociated id link := by
  rw [isAssociated, isAssociated, linkOf_respell]

@[simp] theorem entry?_respell (identifier : Identifier) :
    entry? (registry.respell spelling) (spelling.identifier identifier) =
      registry.entry? identifier := by
  simp [ entry?]

@[simp] theorem find?_respell (identifier : Identifier) :
    (registry.respell spelling).find? (spelling.identifier identifier) =
      registry.find? identifier := by
  simp [find?]

@[simp] theorem isPurgePending_respell (identifier : Identifier) :
    (registry.respell spelling).isPurgePending (spelling.identifier identifier) =
      registry.isPurgePending identifier := by
  simp [isPurgePending]

@[simp] theorem isHeldByOther_respell (identifier : Identifier) (link : LinkId) :
    (registry.respell spelling).isHeldByOther (spelling.identifier identifier) link =
      registry.isHeldByOther identifier link := by
  simp [isHeldByOther]

@[simp] theorem wakeTime_respell (millis : Nat) :
    (registry.respell spelling).wakeTime millis = registry.wakeTime millis := rfl

/-! ## Links and termini by number -/

theorem openLink_respell (link : Link) :
    (registry.respell spelling).openLink (link.respell spelling) =
      (registry.openLink link).map id (·.respell spelling) := by
  simp [openLink, Registry.respell]

theorem addTerminus_respell (terminus : Terminus) :
    (registry.respell spelling).addTerminus (terminus.respell spelling) =
      (registry.addTerminus terminus).map id (·.respell spelling) := by
  simp [addTerminus, Registry.respell]

theorem putLink_respell (id : LinkId) (link : Link) :
    (registry.respell spelling).putLink id (link.respell spelling) =
      (registry.putLink id link).respell spelling := by
  simp [putLink, Registry.respell, Array.map_setIfInBounds]

theorem putTerminus_respell (id : TerminusId) (terminus : Terminus) :
    (registry.respell spelling).putTerminus id (terminus.respell spelling) =
      (registry.putTerminus id terminus).respell spelling := by
  simp [putTerminus, Registry.respell, Array.map_setIfInBounds]

theorem closeLink_respell (id : LinkId) :
    (registry.respell spelling).closeLink id = (registry.closeLink id).respell spelling := by
  simp only [closeLink, getElem?_links_respell]
  cases registry.links[id]? with
  | none => rfl
  | some link => exact registry.putLink_respell spelling id link.close

theorem updateSettings_respell (id : TerminusId) (settings : Settings) :
    (registry.respell spelling).updateSettings id (settings.respell spelling) =
      (registry.updateSettings id settings).respell spelling := by
  simp only [updateSettings, getElem?_termini_respell]
  cases registry.termini[id]? with
  | none => rfl
  | some terminus => exact registry.putTerminus_respell spelling id { terminus with settings }

/-! ## The life of one terminus -/

theorem publish_respell (event : Event) :
    (registry.respell spelling).publish (event.respell spelling) =
      (registry.publish event).respell spelling := by
  simp only [publish, channel_respell, now_respell, Channel.publish_respell]
  rfl

theorem moveTerminus_respell (id : TerminusId) (terminus : Terminus) (event : Event) :
    (registry.respell spelling).moveTerminus id (terminus.respell spelling)
        (event.respell spelling) =
      (registry.moveTerminus id terminus event).respell spelling := by
  simp only [moveTerminus, putTerminus_respell, publish_respell, Terminus.isShared_respell]
  split <;> rfl

theorem associate_respell (id : TerminusId) (link : LinkId) :
    (registry.respell spelling).associate id link =
      (registry.associate id link).map (Except.mapError (·.respell spelling))
        (·.respell spelling) := by
  simp only [associate, getElem?_termini_respell]
  cases registry.termini[id]? with
  | none => rfl
  | some terminus =>
      simp only [Option.map_some, Terminus.associate_respell]
      rcases terminus.associate link with fault | ⟨displaced, grown⟩
      · rfl
      · exact congrArg (Prod.mk _)
          (registry.moveTerminus_respell spelling id grown (.associated grown.identifier))

theorem suspendTerminus_respell (whose : TerminusId) :
    (registry.respell spelling).suspendTerminus whose =
      (registry.suspendTerminus whose).map id (·.respell spelling) := by
  simp only [suspendTerminus, getElem?_termini_respell, now_respell]
  cases registry.termini[whose]? with
  | none => rfl
  | some terminus =>
      simp only [Option.map_some, Option.bind_some, Terminus.suspend_respell]
      cases terminus.suspend registry.now with
      | none => rfl
      | some grown =>
          exact congrArg (Prod.mk _)
            (registry.moveTerminus_respell spelling _ grown (.suspended grown.identifier _))

theorem expireTerminus_respell (whose : TerminusId) (epoch : Option Nat) :
    (registry.respell spelling).expireTerminus whose epoch =
      (registry.expireTerminus whose epoch).map id (·.respell spelling) := by
  simp only [expireTerminus, getElem?_termini_respell]
  cases registry.termini[whose]? with
  | none => rfl
  | some terminus =>
      simp only [Option.map_some, Option.bind_some, Terminus.expire_respell]
      cases terminus.expire epoch with
      | none => rfl
      | some grown =>
          exact congrArg (Prod.mk _)
            (registry.moveTerminus_respell spelling _ grown (.expired grown.identifier))

/-! ## Expiry -/

theorem dropRecords_respell (identifier : Identifier) :
    (registry.respell spelling).dropRecords (spelling.identifier identifier) =
      (registry.dropRecords identifier).respell spelling := by
  simp only [dropRecords, storage_respell, Storage.removeAll_respell, purging_respell,
    spelling.key_identifier]
  rcases registry.storage.removeAll identifier with ⟨_ | _, _⟩ <;> rfl

theorem expireEpoch_respell (identifier : Identifier) (epoch : Option Nat) :
    (registry.respell spelling).expireEpoch (spelling.identifier identifier) epoch =
      (registry.expireEpoch identifier epoch).map id (·.respell spelling) := by
  simp only [expireEpoch, spelling.key_identifier, suspended_respell, entries_respell]
  cases registry.suspended.get? identifier.key with
  | none => rfl
  | some current =>
      by_cases matching : epoch.all (· == current) = true
      · simp only [matching, if_true]
        cases registry.entries.get? identifier.key with
        | none => rfl
        | some entry =>
            let gone : Registry := { registry with
              suspended := registry.suspended.erase identifier.key
              entries := registry.entries.erase identifier.key }
            have expires := congrArg Prod.snd
              (gone.expireTerminus_respell spelling entry.terminus (some current))
            have drops := (gone.expireTerminus entry.terminus (some current)).2.dropRecords_respell
              spelling identifier
            exact congrArg (Prod.mk true)
              ((congrArg (dropRecords · (spelling.identifier identifier)) expires).trans drops)
      · simp only [matching]
        rfl

theorem expire_respell (identifier : Identifier) :
    (registry.respell spelling).expire (spelling.identifier identifier) =
      (registry.expire identifier).map id (·.respell spelling) :=
  registry.expireEpoch_respell spelling identifier none

theorem finishPurge_respell (identifier : Identifier) :
    (registry.respell spelling).finishPurge (spelling.identifier identifier) =
      (registry.finishPurge identifier).map (Except.mapError (·.respell spelling))
        (·.respell spelling) := by
  simp only [finishPurge, isPurgePending_respell, storage_respell, Storage.removeAll_respell,
    purging_respell, spelling.key_identifier]
  split
  · rcases registry.storage.removeAll identifier with ⟨_ | _, _⟩ <;> rfl
  · rfl

end Registry

def Registry.PendingExpiry.respell (pending : Registry.PendingExpiry) : Registry.PendingExpiry :=
  { pending with identifier := spelling.identifier pending.identifier }

namespace Registry

variable (registry : Registry)

theorem setTimer_respell (pending : PendingExpiry) :
    (registry.respell spelling).setTimer (pending.respell spelling) =
      (registry.setTimer pending).respell spelling := by
  by_cases timed : registry.hasTimers = true
  · simp only [setTimer, hasTimers_respell, timed, if_true]
    simp only [Registry.respell, List.map_append]
    rfl
  · simp only [setTimer, hasTimers_respell, timed]
    rfl

theorem arrange_respell (pending : PendingExpiry) :
    (registry.respell spelling).arrange (pending.respell spelling) =
      (registry.arrange pending).map id (·.respell spelling) := by
  have sameDelay : (pending.respell spelling).delay = pending.delay := rfl
  simp only [arrange, sameDelay, setTimer_respell]
  split
  · exact registry.expireEpoch_respell spelling pending.identifier (some pending.epoch)
  · rfl

theorem runTimers_respell :
    (registry.respell spelling).runTimers = registry.runTimers.respell spelling := by
  simp only [runTimers, List.partition_eq_filter_filter, timers_respell, now_respell,
    List.filter_map, List.foldl_map]
  let left : Registry := { registry with
    timers := registry.timers.filter fun timer => !decide (timer.due ≤ registry.now) }
  change List.foldl _ (left.respell spelling) _ = _
  refine List.foldl_hom (Registry.respell spelling) fun registry timer => ?_
  exact congrArg Prod.snd
    (registry.expireEpoch_respell spelling timer.identifier (some timer.epoch))

/-! ## Attaching -/

theorem enter_respell (link : Link) :
    (registry.respell spelling).enter (link.respell spelling) =
      (registry.enter link).map id (·.respell spelling) := by
  let fresh : Terminus :=
    { identifier := link.identifier, settings := link.settings, isShared := true }
  have adds : (registry.respell spelling).addTerminus
      { identifier := spelling.identifier link.identifier
        settings := (link.respell spelling).settings, isShared := true } =
      (registry.addTerminus fresh).map id (·.respell spelling) :=
    registry.addTerminus_respell spelling fresh
  unfold enter
  rw [Link.identifier_respell, entry?_respell, spelling.key_identifier, adds]
  cases registry.entry? link.identifier with
  | none =>
      exact congrArg (Prod.mk _) (updateSettings_respell spelling
        { (registry.addTerminus fresh).2 with
          entries := registry.entries.insert link.identifier.key _ } _ link.settings)
  | some entry =>
      exact congrArg (Prod.mk _) (updateSettings_respell spelling { registry with
        entries := registry.entries.insert link.identifier.key _ } entry.terminus link.settings)

theorem steal_respell (identifier : Identifier) (previous : LinkId) :
    (registry.respell spelling).steal (spelling.identifier identifier) previous =
      (registry.steal identifier previous).respell spelling := by
  simp only [steal, getElem?_links_respell]
  cases registry.links[previous]? with
  | none => rfl
  | some link =>
      have sameOpen : (link.respell spelling).isOpen = link.isOpen := rfl
      simp only [Option.map_some, sameOpen]
      split
      · have puts := registry.putLink_respell spelling previous
          (link.takenOver (.linkStolen link.identifier)).2
        have publishes := (registry.putLink previous
          (link.takenOver (.linkStolen link.identifier)).2).publish_respell spelling
            (.stolen identifier)
        exact (congrArg (publish · (.stolen (spelling.identifier identifier))) puts).trans publishes
      · rfl

theorem prepare_respell (identifier : Identifier) :
    (registry.respell spelling).prepare (spelling.identifier identifier) =
      (registry.prepare identifier).map (Except.mapError (·.respell spelling))
        (·.respell spelling) := by
  simp only [prepare, entry?_respell, finishPurge_respell]
  split <;> rfl

theorem takeOver_respell (link : Link) (which : LinkId) :
    (registry.respell spelling).takeOver (link.respell spelling) which =
      (registry.takeOver link which).map (Except.mapError (·.respell spelling))
        (·.respell spelling) := by
  simp only [takeOver, enter_respell, Link.identifier_respell, spelling.key_identifier]
  rcases registry.enter link with ⟨terminus, entered⟩
  simp only [Prod.map, id, associate_respell]
  rcases entered.associate terminus which with ⟨error | _ | previous, associated⟩
  · rfl
  · rfl
  · exact congrArg (Prod.mk _) (steal_respell spelling { associated with
      suspended := associated.suspended.erase link.identifier.key } link.identifier previous)

theorem attach_respell (link : Link) (which : LinkId) (exclusive : Bool) :
    (registry.respell spelling).attach (link.respell spelling) which exclusive =
      (registry.attach link which exclusive).map (Except.mapError (·.respell spelling))
        (·.respell spelling) := by
  simp only [attach, Link.identifier_respell, prepare_respell]
  rcases registry.prepare link.identifier with ⟨error | _, prepared⟩
  · rfl
  · simp only [Prod.map, Except.mapError, isHeldByOther_respell]
    split
    · rfl
    · exact prepared.takeOver_respell spelling link which

theorem register_respell (which : LinkId) (exclusive : Bool) :
    (registry.respell spelling).register which exclusive =
      (registry.register which exclusive).map (Except.mapError (·.respell spelling))
        (·.respell spelling) := by
  simp only [register, getElem?_links_respell]
  cases registry.links[which]? with
  | none => rfl
  | some link => exact registry.attach_respell spelling link which exclusive

/-! ## Putting termini in and taking them out -/

theorem seed_respell (whose : TerminusId) (terminus : Terminus) :
    (registry.respell spelling).seed whose (terminus.respell spelling) =
      (registry.seed whose terminus).map (Option.map (·.respell spelling))
        (·.respell spelling) := by
  simp only [seed, Terminus.identifier_respell, spelling.key_identifier, Terminus.phase_respell]
  split <;> rfl

theorem addKnown_respell (whose : TerminusId) (terminus : Terminus) :
    (registry.respell spelling).addKnown whose (terminus.respell spelling) =
      (registry.addKnown whose terminus).map id (·.respell spelling) := by
  simp only [addKnown, Terminus.identifier_respell, entry?_respell, finishPurge_respell,
    Terminus.phase_respell]
  cases registry.entry? terminus.identifier with
  | some _ => rfl
  | none =>
      rcases registry.finishPurge terminus.identifier with ⟨error | _, purged⟩
      · rfl
      · simp only [Prod.map, Except.mapError, seed_respell]
        split
        · rfl
        · rcases purged.seed whose terminus with ⟨_ | pending, seeded⟩
          · rfl
          · exact congrArg (Prod.mk true)
              (congrArg Prod.snd (seeded.arrange_respell spelling pending))

theorem tryAdd_respell (whose : TerminusId) :
    (registry.respell spelling).tryAdd whose =
      (registry.tryAdd whose).map id (·.respell spelling) := by
  simp only [tryAdd, getElem?_termini_respell]
  cases registry.termini[whose]? with
  | none => rfl
  | some terminus => exact registry.addKnown_respell spelling whose terminus

theorem tryRemove_respell (identifier : Identifier) :
    (registry.respell spelling).tryRemove (spelling.identifier identifier) =
      (registry.tryRemove identifier).map id (·.respell spelling) := by
  simp only [tryRemove, find?_respell, spelling.key_identifier]
  rfl

end Registry

/-! ## Suspension -/

namespace TableOrder

variable (order : TableOrder)

theorem insert_respell (entry : Identifier × Entry) (entries : List (Identifier × Entry)) :
    order.insert (entry.map spelling.identifier id)
        (entries.map (Prod.map spelling.identifier id)) =
      (order.insert entry entries).map (Prod.map spelling.identifier id) := by
  induction entries with
  | nil => rfl
  | cons head rest ih =>
      simp only [List.map_cons, insert, Prod.map_fst, spelling.key_identifier]
      split
      · rw [ih, List.map_cons]
      · rfl

/-- An order goes by keys, so a respelled table is gone through the same way. -/
theorem arrange_respell (entries : List (Identifier × Entry)) :
    order.arrange (entries.map (Prod.map spelling.identifier id)) =
      (order.arrange entries).map (Prod.map spelling.identifier id) := by
  induction entries with
  | nil => rfl
  | cons entry rest ih =>
      simp only [arrange, List.map_cons, List.foldr_cons] at ih ⊢
      rw [ih, insert_respell]

end TableOrder

namespace Registry

variable (registry : Registry)

theorem suspendEntry_respell (identifier : Identifier) (entry : Entry) :
    (registry.respell spelling).suspendEntry (spelling.identifier identifier) entry =
      (registry.suspendEntry identifier entry).map (Option.map (·.respell spelling))
        (·.respell spelling) := by
  simp only [suspendEntry, suspendTerminus_respell, spelling.key_identifier]
  rcases registry.suspendTerminus entry.terminus with ⟨_ | epoch, suspended⟩ <;> rfl

theorem suspendFor_respell (link : Link) (which : LinkId) (departure : Departure) :
    (registry.respell spelling).suspendFor (link.respell spelling) which departure =
      (registry.suspendFor link which departure).map id (·.respell spelling) := by
  simp only [suspendFor, Link.identifier_respell, entry?_respell, isAssociated_respell,
    suspendEntry_respell]
  cases registry.entry? link.identifier with
  | none => rfl
  | some entry =>
      simp only
      split
      · rfl
      · split
        · rfl
        · rcases registry.suspendEntry link.identifier entry with ⟨_ | pending, suspended⟩
          · rfl
          · simp only [Prod.map, Option.map_some, arrange_respell, id]

theorem suspend_respell (which : LinkId) (departure : Departure) :
    (registry.respell spelling).suspend which departure =
      (registry.suspend which departure).map id (·.respell spelling) := by
  simp only [suspend, getElem?_links_respell]
  cases registry.links[which]? with
  | none => rfl
  | some link => exact registry.suspendFor_respell spelling link which departure

theorem candidates_respell (departure : Departure) (inScope : Scope → Bool) :
    (registry.respell spelling).candidates departure inScope =
      (registry.candidates departure inScope).map (Prod.map spelling.identifier id) := by
  simp only [candidates, entries_respell, getElem?_termini_respell, List.map_filterMap]
  refine congrArg (List.filterMap · registry.entries.values) (funext fun entry => ?_)
  split
  · rw [Option.map_map, Option.map_map]
    rfl
  · rfl

theorem suspendAll_respell (candidates : List (Identifier × Entry)) :
    (registry.respell spelling).suspendAll (candidates.map (Prod.map spelling.identifier id)) =
      (registry.suspendAll candidates).map (List.map (·.respell spelling))
        (·.respell spelling) := by
  induction candidates generalizing registry with
  | nil => rfl
  | cons candidate rest ih =>
      obtain ⟨identifier, entry⟩ := candidate
      have suspends := registry.suspendEntry_respell spelling identifier entry
      simp only [List.map_cons, Prod.map, id, suspendAll] at suspends ⊢
      rw [suspends]
      simp only [ih, Prod.map, List.map_append, Option.toList_map]

theorem arrangeAll_respell (pending : List PendingExpiry) :
    (registry.respell spelling).arrangeAll (pending.map (·.respell spelling)) =
      (registry.arrangeAll pending).respell spelling := by
  rw [arrangeAll, List.foldl_map]
  exact List.foldl_hom (Registry.respell spelling) fun (registry : Registry) expiry =>
    congrArg Prod.snd (registry.arrange_respell spelling expiry)

theorem suspendScope_respell (departure : Departure) (inScope : Scope → Bool)
    (order : TableOrder) :
    (registry.respell spelling).suspendScope departure inScope order =
      (registry.suspendScope departure inScope order).map id (·.respell spelling) := by
  simp only [suspendScope, candidates_respell, TableOrder.arrange_respell, suspendAll_respell,
    Prod.map, List.length_map, arrangeAll_respell, id]

end Registry

/-! ## Snapshots

What a snapshot says of each terminus is the same; the order goes by the spelling. -/

def Snapshot.respell (snapshot : Snapshot) : Snapshot :=
  { snapshot with identifier := spelling.identifier snapshot.identifier }

namespace Registry

variable (registry : Registry)

theorem describe_respell (entry : Entry) (terminus : Terminus) :
    (registry.respell spelling).describe entry (terminus.respell spelling) =
      (registry.describe entry terminus).map (·.respell spelling) (·.respell spelling) := by
  simp only [describe, storage_respell, Terminus.identifier_respell, Storage.retrieveAll_respell,
    hasLiveLink_respell]
  rcases registry.storage.retrieveAll terminus.identifier with ⟨_ | _, _⟩ <;> rfl

theorem describeAll_respell (entries : List Entry) :
    (registry.respell spelling).describeAll entries =
      (registry.describeAll entries).map (List.map (·.respell spelling)) (·.respell spelling) := by
  induction entries generalizing registry with
  | nil => rfl
  | cons entry rest ih =>
      simp only [describeAll, getElem?_termini_respell]
      cases registry.termini[entry.terminus]? with
      | none => exact ih registry
      | some terminus => simp only [Option.map_some, describe_respell, ih, Prod.map, List.map_cons]

/-- The order of a snapshot is that of its places; what is listed is what there is. -/
theorem snapshot_perm :
    registry.snapshot.1.Perm (registry.describeAll registry.entries.values).1 := by
  have sorts := (List.mergeSort_perm
    ((registry.describeAll registry.entries.values).1.map
      fun snapshot => (SnapshotKey.of snapshot.identifier, snapshot))
    fun left right => (compare left.1 right.1).isLE).map Prod.snd
  rw [List.map_map] at sorts
  exact sorts.trans (.of_eq (List.map_id _))

theorem snapshot_respell_perm :
    ((registry.respell spelling).snapshot.1).Perm
      (registry.snapshot.1.map (·.respell spelling)) := by
  refine (snapshot_perm _).trans (.trans (.of_eq ?_) ((registry.snapshot_perm.map _).symm))
  exact congrArg Prod.fst (registry.describeAll_respell spelling registry.entries.values)

theorem snapshot_respell_snd :
    (registry.respell spelling).snapshot.2 = registry.snapshot.2.respell spelling :=
  congrArg Prod.snd (registry.describeAll_respell spelling registry.entries.values)

end Registry

end Reattach
