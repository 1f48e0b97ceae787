import Reattach.Delivery.Unsettled
import Reattach.Store

/-!
# The deliveries of a terminus

A terminus has no deliveries of its own; these are the operations on its records in
the store.
-/

namespace Reattach

/-- The states of records, by tag. -/
def Records.unsettled (records : Records) : Unsettled := records.mapValues (·.state)

namespace Storage

/-- Note the state of a delivery: its record moves on, or comes to be. -/
def noteDelivery (storage : Storage) (identifier : Identifier) (tag : Tag) (state : State) :
    Except StoreError Unit × Storage :=
  match storage.retrieve identifier tag with
  | (.error error, storage) => (.error error, storage)
  | (.ok none, storage) => storage.save identifier { tag, state }
  | (.ok (some existing), storage) =>
      match existing.advance state with
      | .error fault => (.error (.transition fault), storage)
      | .ok record => storage.save identifier record

/-- The states of all unsettled deliveries. -/
def unsettled (storage : Storage) (identifier : Identifier) :
    Except StoreError Unsettled × Storage :=
  match storage.retrieveAll identifier with
  | (.error error, storage) => (.error error, storage)
  | (.ok records, storage) => (.ok records.unsettled, storage)

end Storage

end Reattach
