/-!
# Where a link is attached

A link is attached on a channel of a connection; the two together are a session.
-/

namespace Reattach

/-- A session: a channel of a connection. -/
structure Session where
  connection : UInt64
  channel : UInt16
  deriving DecidableEq, Repr

def connectionName (connection : UInt64) : String := "conn-" ++ toString connection

def Session.name (session : Session) : String :=
  connectionName session.connection ++ "/ch-" ++ toString session.channel

/-- Where a live link is attached. -/
structure Scope where
  session : Session
  deriving DecidableEq, Repr

namespace Scope

/-- The connection of a link. -/
def connection (scope : Scope) : UInt64 := scope.session.connection

/-- The scope of a link on a channel of a connection. -/
def ofChannel (connection : UInt64) (channel : UInt16) : Scope := ⟨⟨connection, channel⟩⟩

end Scope

end Reattach
