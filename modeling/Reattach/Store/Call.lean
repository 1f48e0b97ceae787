import Reattach.Store

/-!
# Calls to a store

The five calls that a store answers, and its replies, as values: two stores can be
asked the same things one after the other and their replies compared.
-/

namespace Reattach

/-- Something a store is asked for. -/
inductive StoreCall where
  | save (identifier : Identifier) (record : Record)
  | retrieve (identifier : Identifier) (tag : Tag)
  | retrieveAll (identifier : Identifier)
  | remove (identifier : Identifier) (tag : Tag)
  | removeAll (identifier : Identifier)

/-- What a store replies to a call that succeeds. -/
inductive StoreReply where
  | saved
  | found (record : Option Record)
  | records (records : Records)
  | removed (wasThere : Bool)
  | removedAll (count : Nat)
  deriving DecidableEq

/-- The reply of a store to a call, and what the call leaves. -/
def Storage.call (storage : Storage) : StoreCall → Except StoreError StoreReply × Storage
  | .save identifier record =>
      (storage.save identifier record).map (Except.map fun _ => .saved) id
  | .retrieve identifier tag => (storage.retrieve identifier tag).map (Except.map .found) id
  | .retrieveAll identifier => (storage.retrieveAll identifier).map (Except.map .records) id
  | .remove identifier tag => (storage.remove identifier tag).map (Except.map .removed) id
  | .removeAll identifier => (storage.removeAll identifier).map (Except.map .removedAll) id

/-- The replies of a store to calls made one after the other, and what they leave. -/
def Storage.callAll (storage : Storage) :
    List StoreCall → List (Except StoreError StoreReply) × Storage
  | [] => ([], storage)
  | call :: rest =>
      let (reply, storage) := storage.call call
      let (replies, storage) := callAll storage rest
      (reply :: replies, storage)

end Reattach
