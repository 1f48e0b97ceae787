import Reattach.Exchange.Names
import Reattach.Store

/-!
# JSON form of a store of rows

A store that outlasts a run is kept as the list of its rows.
-/

namespace Reattach

def RowStore.rowJson (row : RowKey × Row) : Json :=
  .obj [("terminus", .str row.1.terminus), ("tag", .str row.1.tag), ("state", .str row.2.state),
    ("resumed", .bool row.2.resumed)]

/-- The row of its four columns. -/
def RowStore.rowOfJson? (value : Json) : Option (RowKey × Row) := do
  let members ← Members.ofJson? ["terminus", "tag", "state", "resumed"] value
  let terminus ← members.required "terminus" Json.readString
  let tag ← members.required "tag" Json.readString
  let state ← members.required "state" Json.readString
  let resumed ← members.required "resumed" Json.readBool
  some (⟨terminus, tag⟩, ⟨state, resumed⟩)

def RowStore.toJson (store : RowStore) : Json :=
  .arr (store.rows.toList.map RowStore.rowJson)

def RowStore.ofJson? (value : Json) : Option RowStore :=
  (Json.readList RowStore.rowOfJson? value).map fun rows => ⟨SortedMap.ofList rows⟩

end Reattach
