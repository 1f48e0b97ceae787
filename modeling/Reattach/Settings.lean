import Reattach.Delivery.Unsettled
import Reattach.Policy
import Reattach.Role

/-!
# What two ends agree on when a link is attached

Both ends of a link have an address, and the address of the end that keeps a
terminus carries its expiry policy.  Which of the two addresses that is depends on
the role and on whose settings they are.
-/

namespace Reattach

/-- When the sending end counts a delivery as settled. -/
inductive SettleMode where
  | onSend
  | onReceive
  | onDispose
  deriving DecidableEq, Repr

namespace SettleMode

instance : Inhabited SettleMode := ⟨onReceive⟩

def name : SettleMode → String
  | onSend => "settle_on_send"
  | onReceive => "settle_on_receive"
  | onDispose => "settle_on_dispose"

def byName : List (String × SettleMode) :=
  [onSend, onReceive, onDispose].map fun mode => (mode.name, mode)

end SettleMode

/-- One end's address, with the symbol of an expiry policy and its timeout. -/
structure Address where
  address : Option String := none
  expiryPolicy : Option String := none
  timeoutSecs : UInt32 := 0
  deriving DecidableEq

/-- The expiry that an address asks for.  A symbol of no policy asks for none. -/
def Address.expiry? (address : Address) : Option Expiry := do
  let symbol ← address.expiryPolicy
  let policy ← ExpiryPolicy.ofSymbol? symbol
  some ⟨policy, address.timeoutSecs⟩

/-- The settings of an attached link that recovery reads or writes. -/
structure Settings where
  name : String
  role : Role
  source : Address := {}
  target : Address := {}
  settleMode : SettleMode := default
  properties : SortedMap String String := ∅
  unsettled : Option Unsettled := none
  deriving DecidableEq

namespace Settings

/-- The address that carries the expiry of a terminus: the target for a receiver's own
settings and the source for a sender's, and the other way round for settings that
came from the other end. -/
def expiryAddress (settings : Settings) (isRemote : Bool) : Address :=
  if settings.role.isReceiver != isRemote then settings.target else settings.source

/-- The expiry that the settings ask for. -/
def expiry? (settings : Settings) (isRemote : Bool) : Option Expiry :=
  (settings.expiryAddress isRemote).expiry?

/-- Whether the terminus outlives its link by these settings. -/
def isRecoverable (settings : Settings) (isRemote : Bool) : Bool :=
  (settings.expiry? isRemote).isSome

/-- The settings, with their own address asking for an expiry. -/
def withExpiry (settings : Settings) (expiry : Expiry) : Settings :=
  let asking (address : Address) : Address :=
    { address with expiryPolicy := expiry.policy.symbol?, timeoutSecs := expiry.timeoutSecs }
  if settings.role.isReceiver then
    { settings with target := asking settings.target }
  else
    { settings with source := asking settings.source }

end Settings

end Reattach
