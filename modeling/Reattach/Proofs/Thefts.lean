import Reattach.Proofs.Moves

/-!
# What is done to links

Only four operations touch links: a link is opened, closed by its owner, told to fail when it
is taken over, or taken over by another one that is attached in its place.  The last of these is
the only one that tells of a theft.  Everything else leaves both, the links and what was told of
them, and this module says so of one function after the other.
-/

namespace Reattach

/-- Whether an event tells that a link of an identifier was taken over. -/
def Event.isTheftOf (key : Identifier.Key) : Event → Bool
  | .stolen identifier => identifier.key == key
  | _ => false

namespace Registry

/-- How often it was told of an identifier that a link of it was taken over. -/
def thefts (registry : Registry) (key : Identifier.Key) : Nat :=
  registry.channel.published.toList.countP fun notice => notice.event.isTheftOf key

/-- That nothing was done to links and no theft was told of. -/
structure LeavesLinks (registry later : Registry) : Prop where
  links : later.links = registry.links
  thefts : ∀ key, later.thefts key = registry.thefts key

theorem thefts_publish (registry : Registry) (event : Event) (key : Identifier.Key) :
    (registry.publish event).thefts key =
      registry.thefts key + if event.isTheftOf key then 1 else 0 := by
  simp only [thefts, publish, Channel.toList_published_publish, List.countP_append,
    List.countP_singleton]

namespace LeavesLinks

theorem refl (registry : Registry) : LeavesLinks registry registry := ⟨rfl, fun _ => rfl⟩

theorem trans {registry between later : Registry} (first : LeavesLinks registry between)
    (second : LeavesLinks between later) : LeavesLinks registry later :=
  ⟨second.links.trans first.links, fun key => (second.thefts key).trans (first.thefts key)⟩

/-! ## The life of one terminus -/

theorem moveTerminus (registry : Registry) (id : TerminusId) (terminus : Terminus)
    {event : Event} (isNoTheft : ∀ key, event.isTheftOf key = false) :
    LeavesLinks registry (registry.moveTerminus id terminus event) := by
  have putting : LeavesLinks registry (registry.putTerminus id terminus) := ⟨rfl, fun _ => rfl⟩
  rw [Registry.moveTerminus]
  split
  · refine putting.trans ⟨rfl, fun key => ?_⟩
    rw [thefts_publish, isNoTheft key]
    rfl
  · exact putting

theorem associate (registry : Registry) (id : TerminusId) (link : LinkId) :
    LeavesLinks registry (registry.associate id link).2 := by
  simp only [Registry.associate]
  split
  · exact refl registry
  · split
    · exact refl registry
    · exact moveTerminus _ _ _ fun _ => rfl

theorem suspendTerminus (registry : Registry) (id : TerminusId) :
    LeavesLinks registry (registry.suspendTerminus id).2 := by
  simp only [Registry.suspendTerminus]
  split
  · exact refl registry
  · exact moveTerminus _ _ _ fun _ => rfl

theorem expireTerminus (registry : Registry) (id : TerminusId) (epoch : Option Nat) :
    LeavesLinks registry (registry.expireTerminus id epoch).2 := by
  simp only [Registry.expireTerminus]
  split
  · exact refl registry
  · exact moveTerminus _ _ _ fun _ => rfl

theorem updateSettings (registry : Registry) (id : TerminusId) (settings : Settings) :
    LeavesLinks registry (registry.updateSettings id settings) := by
  simp only [Registry.updateSettings]
  split
  · exact refl registry
  · exact ⟨rfl, fun _ => rfl⟩

/-! ## Expiry -/

theorem dropRecords (registry : Registry) (identifier : Identifier) :
    LeavesLinks registry (registry.dropRecords identifier) := by
  simp only [Registry.dropRecords]
  split <;> exact ⟨rfl, fun _ => rfl⟩

theorem expireEpoch (registry : Registry) (identifier : Identifier) (epoch : Option Nat) :
    LeavesLinks registry (registry.expireEpoch identifier epoch).2 := by
  simp only [Registry.expireEpoch]
  split
  · exact refl registry
  · split
    · split
      · exact ⟨rfl, fun _ => rfl⟩
      · refine trans ?_ (dropRecords _ identifier)
        refine trans ?_ (expireTerminus _ _ _)
        exact ⟨rfl, fun _ => rfl⟩
    · exact refl registry

theorem finishPurge (registry : Registry) (identifier : Identifier) :
    LeavesLinks registry (registry.finishPurge identifier).2 := by
  simp only [Registry.finishPurge]
  split
  · split <;> exact ⟨rfl, fun _ => rfl⟩
  · exact refl registry

theorem arrange (registry : Registry) (pending : PendingExpiry) :
    LeavesLinks registry (registry.arrange pending).2 := by
  simp only [Registry.arrange]
  split
  · exact expireEpoch _ _ _
  · simp only [Registry.setTimer]
    split <;> exact ⟨rfl, fun _ => rfl⟩

theorem arrangeAll (registry : Registry) (pending : List PendingExpiry) :
    LeavesLinks registry (registry.arrangeAll pending) := by
  induction pending generalizing registry with
  | nil => exact refl registry
  | cons expiry rest ih => exact (arrange registry expiry).trans (ih _)

/-! ## Suspension -/

theorem suspendEntry (registry : Registry) (identifier : Identifier) (entry : Entry) :
    LeavesLinks registry (registry.suspendEntry identifier entry).2 := by
  have suspends := suspendTerminus registry entry.terminus
  simp only [Registry.suspendEntry]
  split
  · next same =>
      rw [same] at suspends
      exact suspends
  · next same =>
      rw [same] at suspends
      exact suspends.trans ⟨rfl, fun _ => rfl⟩

theorem suspend (registry : Registry) (id : LinkId) (departure : Departure) :
    LeavesLinks registry (registry.suspend id departure).2 := by
  simp only [Registry.suspend]
  split
  · exact refl registry
  · next link _ =>
      simp only [Registry.suspendFor]
      split
      · exact refl registry
      · next entry _ =>
          have suspends := suspendEntry registry link.identifier entry
          split
          · exact refl registry
          · split
            · exact refl registry
            · split
              · next same =>
                  rw [same] at suspends
                  exact suspends
              · next same =>
                  rw [same] at suspends
                  exact suspends.trans (arrange _ _)

theorem suspendAll (registry : Registry) (candidates : List (Identifier × Entry)) :
    LeavesLinks registry (registry.suspendAll candidates).2 := by
  induction candidates generalizing registry with
  | nil => exact refl registry
  | cons candidate rest ih => exact (suspendEntry registry _ _).trans (ih _)

theorem suspendScope (registry : Registry) (departure : Departure) (inScope : Scope → Bool)
    (order : TableOrder) : LeavesLinks registry (registry.suspendScope departure inScope order).2 :=
  (suspendAll registry _).trans (arrangeAll _ _)

/-! ## Putting in, entering and describing -/

theorem tryAdd (registry : Registry) (id : TerminusId) :
    LeavesLinks registry (registry.tryAdd id).2 := by
  simp only [Registry.tryAdd]
  split
  · exact refl registry
  · next terminus _ =>
      have purges := finishPurge registry terminus.identifier
      simp only [Registry.addKnown]
      split
      · exact refl registry
      · split
        · next same =>
            rw [same] at purges
            exact purges
        · next ready same =>
            rw [same] at purges
            have seeds : LeavesLinks ready (ready.seed id terminus).2 := by
              simp only [Registry.seed]
              split <;> exact ⟨rfl, fun _ => rfl⟩
            split
            · exact purges
            · split
              · next isSeeded =>
                  rw [isSeeded] at seeds
                  exact purges.trans seeds
              · next isSeeded =>
                  rw [isSeeded] at seeds
                  exact purges.trans (seeds.trans (arrange _ _))

theorem enter (registry : Registry) (link : Link) :
    LeavesLinks registry (registry.enter link).2 := by
  simp only [Registry.enter]
  split
  · refine trans ?_ (updateSettings _ _ _)
    exact ⟨rfl, fun _ => rfl⟩
  · refine trans ?_ (updateSettings _ _ _)
    exact ⟨rfl, fun _ => rfl⟩

/-- Attaching a link leaves all links, until the one that it displaces is closed. -/
theorem entered {registry ready grown : Registry} {link : Link} {id : LinkId}
    {terminus : TerminusId} {displaced : Option LinkId}
    (enters : registry.enter link = (terminus, ready))
    (associates : ready.associate terminus id = (.ok displaced, grown)) :
    LeavesLinks registry
      { grown with suspended := grown.suspended.erase link.identifier.key } := by
  have first := enter registry link
  have second := associate ready terminus id
  rw [enters] at first
  rw [associates] at second
  exact first.trans (second.trans ⟨rfl, fun _ => rfl⟩)

theorem describeAll (registry : Registry) (entries : List Entry) :
    LeavesLinks registry (registry.describeAll entries).2 := by
  induction entries generalizing registry with
  | nil => exact refl registry
  | cons entry rest ih =>
      simp only [Registry.describeAll]
      split
      · exact ih registry
      · refine trans ?_ (ih _)
        exact ⟨rfl, fun _ => rfl⟩

end LeavesLinks

end Registry

/-- Whether an operation is there to do something to links. -/
def Operation.touchesLinks : Operation → Bool
  | .openLink _ | .closeLink _ | .failOnSteal _ _ | .register _ _ => true
  | _ => false

namespace Registry

/-- Operations that are not for links leave them. -/
theorem LeavesLinks.after (registry : Registry) {operation : Operation}
    (untouched : operation.touchesLinks = false) :
    LeavesLinks registry (registry.after operation) := by
  cases operation with
  | openLink | closeLink | failOnSteal | register => cases untouched
  | suspend id departure => exact suspend registry id departure
  | endSession session order | closeConnection connection order =>
      exact suspendScope registry _ _ order
  | expire identifier => exact expireEpoch registry identifier none
  | tryAdd id => exact tryAdd registry id
  | snapshot => exact describeAll registry _
  | updateSettings id settings => exact updateSettings registry id settings
  | associate id link => exact associate registry id link
  | suspendTerminus id => exact suspendTerminus registry id
  | expireTerminus id epoch => exact expireTerminus registry id epoch
  | noteDelivery id | settleDelivery id | planRecovery id =>
      simp only [Registry.after, Operation.isInstant, if_true, Watch.perform, Watch.onTerminus]
      split <;> exact ⟨rfl, fun _ => rfl⟩
  | _ => exact ⟨rfl, fun _ => rfl⟩

/-- A timer leaves the links. -/
theorem LeavesLinks.fire (registry : Registry) (index : Nat) :
    LeavesLinks registry (registry.fire index) := by
  simp only [Registry.fire]
  split
  · exact refl registry
  · split
    · refine trans ?_ (expireEpoch _ _ _)
      exact ⟨rfl, fun _ => rfl⟩
    · exact refl registry

end Registry

end Reattach
