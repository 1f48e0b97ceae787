import Reattach.Operation
import Reattach.Proofs.StorageKey

/-!
# Writing identifiers in another way

A respelling puts an equal identifier in the place of each.  What an operation of the registry does
to a registry whose identifiers are respelled is what it does to the registry itself, respelled:
each function commutes with a respelling.  Stores do not notice it at all, but for the identifier
that an error names.
-/

namespace Reattach

/-- Another way of writing identifiers, and the names in settings. -/
structure Respelling where
  identifier : Identifier → Identifier
  name : String → String
  key_identifier : ∀ other, (identifier other).key = other.key

attribute [simp] Respelling.key_identifier

variable (spelling : Respelling)

namespace Respelling

@[simp] theorem storageKey_identifier (identifier : Identifier) :
    (spelling.identifier identifier).storageKey = identifier.storageKey :=
  Identifier.storageKey_eq_iff.2 (spelling.key_identifier identifier)

@[simp] theorem role_identifier (identifier : Identifier) :
    (spelling.identifier identifier).role = identifier.role :=
  congrArg Identifier.Key.role (spelling.key_identifier identifier)

@[simp] theorem identifier_beq_identifier (left right : Identifier) :
    (spelling.identifier left == spelling.identifier right) = (left == right) := by
  rw [Bool.eq_iff_iff, Identifier.beq_iff_key_eq, Identifier.beq_iff_key_eq]
  simp

end Respelling

/-! ## Values in another spelling -/

def Fault.respell : Fault → Fault
  | .duplicateTerminus identifier => .duplicateTerminus (spelling.identifier identifier)
  | .linkStolen identifier => .linkStolen (spelling.identifier identifier)
  | .terminusExpired identifier => .terminusExpired (spelling.identifier identifier)
  | other => other

/-- Only an outage names the identifier as it was asked for. -/
def StoreError.respell : StoreError → StoreError
  | .unavailable identifier => .unavailable (spelling.identifier identifier)
  | other => other

def RegistryError.respell : RegistryError → RegistryError
  | .fault cause => .fault (cause.respell spelling)
  | .store cause => .store (cause.respell spelling)
  | other => other

def Settings.respell (settings : Settings) : Settings :=
  { settings with name := spelling.name settings.name }

def Terminus.respell (terminus : Terminus) : Terminus :=
  { terminus with
    identifier := spelling.identifier terminus.identifier
    settings := terminus.settings.respell spelling }

def Link.respell (link : Link) : Link :=
  { link with
    identifier := spelling.identifier link.identifier
    settings := link.settings.respell spelling
    closedWith := link.closedWith.map (·.respell spelling) }

def Event.respell : Event → Event
  | .associated identifier => .associated (spelling.identifier identifier)
  | .stolen identifier => .stolen (spelling.identifier identifier)
  | .suspended identifier epoch => .suspended (spelling.identifier identifier) epoch
  | .expired identifier => .expired (spelling.identifier identifier)

def Notice.respell (notice : Notice) : Notice :=
  { notice with event := notice.event.respell spelling }

def Channel.respell (channel : Channel) : Channel :=
  { channel with published := channel.published.map (·.respell spelling) }

def Timer.respell (timer : Timer) : Timer :=
  { timer with identifier := spelling.identifier timer.identifier }

/-- The tables and the store go by keys, which are the same in every spelling. -/
def Registry.respell (registry : Registry) : Registry :=
  { registry with
    links := registry.links.map (·.respell spelling)
    termini := registry.termini.map (·.respell spelling)
    channel := registry.channel.respell spelling
    timers := registry.timers.map (·.respell spelling) }

/-! ## Records -/

namespace Store

variable (store : Store) (identifier : Identifier) (tag : Tag) (record : Record)

theorem save_respell :
    store.save (spelling.identifier identifier) record = store.save identifier record := by
  cases store with
  | memory store => simp [save, MemoryStore.save, MemoryStore.retrieveAll]
  | rows store => simp [save, RowStore.save, RowStore.retrieve, RowKey.of]

theorem retrieve_respell :
    store.retrieve (spelling.identifier identifier) tag = store.retrieve identifier tag := by
  cases store with
  | memory store => simp [retrieve, MemoryStore.retrieve, MemoryStore.retrieveAll]
  | rows store => simp [retrieve, RowStore.retrieve, RowKey.of]

theorem retrieveAll_respell :
    store.retrieveAll (spelling.identifier identifier) = store.retrieveAll identifier := by
  cases store with
  | memory store => simp [retrieveAll, MemoryStore.retrieveAll]
  | rows store => simp [retrieveAll, RowStore.retrieveAll, RowStore.rowsOf]

theorem remove_respell :
    store.remove (spelling.identifier identifier) tag = store.remove identifier tag := by
  cases store with
  | memory store =>
      simp only [remove, MemoryStore.remove, MemoryStore.retrieveAll, MemoryStore.withRecords,
        Respelling.key_identifier]
      rfl
  | rows store => simp [remove, RowStore.remove, RowKey.of]

theorem removeAll_respell :
    store.removeAll (spelling.identifier identifier) = store.removeAll identifier := by
  cases store with
  | memory store => simp [removeAll, MemoryStore.removeAll, MemoryStore.retrieveAll]
  | rows store => simp [removeAll, RowStore.removeAll, RowStore.rowsOf]

/-! No error of a store itself names an identifier as it was asked for. -/

variable {store identifier tag record} {error : StoreError}

theorem respell_of_mayReplace {existing : Option Record} {next : Record}
    (failed : Record.mayReplace existing next = .error error) : error.respell spelling = error := by
  simp only [Record.mayReplace] at failed
  split at failed
  · cases failed
  · split at failed <;> cases failed
    rfl

theorem respell_of_decode {key : RowKey} {row : Row} (failed : row.decode key = .error error) :
    error.respell spelling = error := by
  simp only [Row.decode] at failed
  split at failed
  · cases failed
    rfl
  · split at failed <;> cases failed
    rfl

theorem respell_of_decodeRows {records : Records} {rows : List (RowKey × Row)}
    (failed : RowStore.decodeRows records rows = .error error) :
    error.respell spelling = error := by
  induction rows generalizing records with
  | nil => cases failed
  | cons row rest ih =>
      simp only [RowStore.decodeRows] at failed
      split at failed
      · next undecodable =>
          cases failed
          exact respell_of_decode spelling undecodable
      · exact ih failed

theorem respell_of_retrieve (failed : store.retrieve identifier tag = .error error) :
    error.respell spelling = error := by
  cases store with
  | memory store => cases failed
  | rows store =>
      simp only [retrieve, RowStore.retrieve] at failed
      split at failed
      · cases failed
      · split at failed
        · next undecodable =>
            cases failed
            exact respell_of_decode spelling undecodable
        · cases failed

theorem respell_of_retrieveAll (failed : store.retrieveAll identifier = .error error) :
    error.respell spelling = error := by
  cases store with
  | memory store => cases failed
  | rows store => exact respell_of_decodeRows spelling failed

theorem respell_of_save (failed : store.save identifier record = .error error) :
    error.respell spelling = error := by
  cases store with
  | memory store =>
      simp only [save, MemoryStore.save] at failed
      split at failed
      · next refused =>
          cases failed
          exact respell_of_mayReplace spelling refused
      · cases failed
  | rows store =>
      simp only [save, RowStore.save] at failed
      split at failed
      · next unread =>
          cases failed
          have unread : (Store.rows store).retrieve identifier record.tag = .error error := unread
          exact respell_of_retrieve spelling unread
      · split at failed
        · next refused =>
            cases failed
            exact respell_of_mayReplace spelling refused
        · cases failed

end Store

namespace Storage

variable (storage : Storage) (identifier : Identifier) (tag : Tag) (record : Record)

theorem save_respell : storage.save (spelling.identifier identifier) record =
    (storage.save identifier record).map (Except.mapError (·.respell spelling)) id := by
  simp only [save, Store.save_respell]
  split
  · rfl
  · split
    · next failed => exact congrArg (Prod.mk · _) (congrArg _ (Store.respell_of_save _ failed).symm)
    · rfl

theorem retrieve_respell : storage.retrieve (spelling.identifier identifier) tag =
    (storage.retrieve identifier tag).map (Except.mapError (·.respell spelling)) id := by
  simp only [retrieve, Store.retrieve_respell]
  split
  · rfl
  · cases found : storage.store.retrieve identifier tag with
    | error error =>
        exact congrArg (Prod.mk · _) (congrArg _ (Store.respell_of_retrieve _ found).symm)
    | ok _ => rfl

theorem retrieveAll_respell : storage.retrieveAll (spelling.identifier identifier) =
    (storage.retrieveAll identifier).map (Except.mapError (·.respell spelling)) id := by
  simp only [retrieveAll, Store.retrieveAll_respell]
  split
  · rfl
  · cases found : storage.store.retrieveAll identifier with
    | error error =>
        exact congrArg (Prod.mk · _) (congrArg _ (Store.respell_of_retrieveAll _ found).symm)
    | ok _ => rfl

theorem remove_respell : storage.remove (spelling.identifier identifier) tag =
    (storage.remove identifier tag).map (Except.mapError (·.respell spelling)) id := by
  simp only [remove, Store.remove_respell]
  split <;> rfl

theorem removeAll_respell : storage.removeAll (spelling.identifier identifier) =
    (storage.removeAll identifier).map (Except.mapError (·.respell spelling)) id := by
  simp only [removeAll, Store.removeAll_respell]
  split <;> rfl

/-! ### Deliveries and recovery -/

theorem noteDelivery_respell (state : State) :
    storage.noteDelivery (spelling.identifier identifier) tag state =
      (storage.noteDelivery identifier tag state).map
        (Except.mapError (·.respell spelling)) id := by
  simp only [noteDelivery, retrieve_respell]
  rcases storage.retrieve identifier tag with ⟨error | _ | existing, left⟩
  · rfl
  · exact left.save_respell spelling identifier _
  · simp only [Prod.map, Except.mapError, id]
    split
    · rfl
    · exact left.save_respell spelling identifier _

theorem unsettled_respell : storage.unsettled (spelling.identifier identifier) =
    (storage.unsettled identifier).map (Except.mapError (·.respell spelling)) id := by
  simp only [unsettled, retrieveAll_respell]
  rcases storage.retrieveAll identifier with ⟨error | records, left⟩ <;> rfl

end Storage

def RecoveryPlan.respell (plan : RecoveryPlan) : RecoveryPlan :=
  { plan with identifier := spelling.identifier plan.identifier }

/-- The reply to a plan that may fail. -/
def RecoveryPlan.respellResult : Except StoreError RecoveryPlan → Except StoreError RecoveryPlan
  | .error error => .error (error.respell spelling)
  | .ok plan => .ok (plan.respell spelling)

theorem RecoveryPlan.ofMaps_respell (identifier : Identifier) (mode : SettleMode)
    (ours theirs : Unsettled) :
    ofMaps (spelling.identifier identifier) mode ours theirs =
      (ofMaps identifier mode ours theirs).respell spelling := by
  simp [ofMaps, RecoveryPlan.respell]

namespace Storage

variable (storage : Storage) (identifier : Identifier)

theorem planRecovery_respell (mode : SettleMode) (theirs : Unsettled) :
    storage.planRecovery (spelling.identifier identifier) mode theirs =
      (storage.planRecovery identifier mode theirs).map
        (RecoveryPlan.respellResult spelling) id := by
  simp only [planRecovery, unsettled_respell]
  rcases storage.unsettled identifier with ⟨error | ours, left⟩
  · rfl
  · simp only [Prod.map, Except.mapError, RecoveryPlan.ofMaps_respell]
    rfl

theorem dropPlanned_respell (step : RecoveryStep) :
    storage.dropPlanned (spelling.identifier identifier) step =
      (storage.dropPlanned identifier step).map (Except.mapError (·.respell spelling)) id := by
  simp only [dropPlanned, remove_respell]
  split
  · rfl
  · rcases storage.remove identifier step.tag with ⟨error | _, left⟩ <;> rfl

theorem markResumed_respell (tag : Tag) :
    storage.markResumed (spelling.identifier identifier) tag =
      (storage.markResumed identifier tag).map (Except.mapError (·.respell spelling)) id := by
  simp only [markResumed, retrieve_respell]
  rcases storage.retrieve identifier tag with ⟨error | _ | record, left⟩
  · rfl
  · rfl
  · exact left.save_respell spelling identifier _

theorem carryOut_respell (step : RecoveryStep) :
    storage.carryOut (spelling.identifier identifier) step =
      (storage.carryOut identifier step).map (Except.mapError (·.respell spelling)) id := by
  simp only [carryOut, dropPlanned_respell, markResumed_respell]
  split
  · split
    · rfl
    · split <;> rfl
  · rfl
  · rfl

theorem carryOutAll_respell (steps : List RecoveryStep) :
    storage.carryOutAll (spelling.identifier identifier) steps =
      (storage.carryOutAll identifier steps).map (Except.mapError (·.respell spelling)) id := by
  induction steps generalizing storage with
  | nil => rfl
  | cons step rest ih =>
      simp only [carryOutAll, carryOut_respell]
      rcases storage.carryOut identifier step with ⟨error | _, left⟩
      · rfl
      · simp only [Prod.map, Except.mapError, id, ih]
        rcases left.carryOutAll identifier rest with ⟨error | frames, last⟩ <;> rfl

theorem applyPlan_respell (plan : RecoveryPlan) :
    storage.applyPlan (plan.respell spelling) =
      (storage.applyPlan plan).map (Except.mapError (·.respell spelling)) id :=
  storage.carryOutAll_respell spelling plan.identifier plan.steps

end Storage

def StoreCall.respell : StoreCall → StoreCall
  | .save identifier record => .save (spelling.identifier identifier) record
  | .retrieve identifier tag => .retrieve (spelling.identifier identifier) tag
  | .retrieveAll identifier => .retrieveAll (spelling.identifier identifier)
  | .remove identifier tag => .remove (spelling.identifier identifier) tag
  | .removeAll identifier => .removeAll (spelling.identifier identifier)

theorem Storage.call_respell (storage : Storage) (call : StoreCall) :
    storage.call (call.respell spelling) =
      (storage.call call).map (Except.mapError (·.respell spelling)) id := by
  have later {Value : Type} (reply : Value → StoreReply)
      (result : Except StoreError Value × Storage) :
      (result.map (Except.mapError (·.respell spelling)) id).map (Except.map reply) id =
        (result.map (Except.map reply) id).map (Except.mapError (·.respell spelling)) id := by
    rcases result with ⟨_ | _, _⟩ <;> rfl
  cases call with
  | save | retrieve | retrieveAll | remove | removeAll =>
      simp only [StoreCall.respell, Storage.call, save_respell, retrieve_respell,
        retrieveAll_respell, remove_respell, removeAll_respell, later]

end Reattach
