import Reattach.Settings

/-!
# Configuration of a registry

A registry has an expiry of its own for termini whose settings ask for none, and a
bound on how many events it keeps for a subscriber that falls behind.
-/

namespace Reattach

/-- What a registry does where a link's settings do not say. -/
structure Config where
  expiryPolicy : ExpiryPolicy := .unspecified
  expiryTimeoutMillis : UInt64 := 0
  eventCapacity : UInt64 := 64
  deriving DecidableEq

namespace Config

instance : Inhabited Config := ⟨{}⟩

/-- The policy and the timeout in milliseconds that govern a terminus with the given
settings. -/
def resolve (config : Config) (settings : Settings) : ExpiryPolicy × Nat :=
  match settings.expiry? false with
  | some expiry => (expiry.policy, expiry.timeoutMillis)
  | none => (config.expiryPolicy, config.expiryTimeoutMillis.toNat)

/-- The timeout in whole seconds, rounded up, as far as thirty-two bits go. -/
def wireTimeoutSecs (config : Config) : UInt32 :=
  UInt32.ofNat (min ((config.expiryTimeoutMillis.toNat + 999) / 1000) (UInt32.size - 1))

/-- Settings to be sent out, asking for the registry's own expiry. -/
def stamp (config : Config) (settings : Settings) : Settings :=
  settings.withExpiry ⟨config.expiryPolicy, config.wireTimeoutSecs⟩

/-- How many events are kept for a subscriber: at least one, and a power of two. -/
def eventsKept (config : Config) : Nat := config.eventCapacity.toNat.nextPowerOfTwo

theorem eventsKept_pos (config : Config) : 0 < config.eventsKept :=
  Nat.pos_of_isPowerOfTwo (Nat.isPowerOfTwo_nextPowerOfTwo _)

end Config

end Reattach
