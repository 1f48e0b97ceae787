import Mathlib.Algebra.Order.Floor.Div
import Reattach.Config

/-!
# What stamped settings ask for

A registry writes its own expiry on the settings that it sends out, and reads expiries off
settings.  The two fit: stamped settings govern a terminus as the configuration of the registry
does, but for the timeout, which is told in whole seconds and in thirty-two bits.  A policy that
is unspecified cannot be told, and then the timeout is not read off the settings either.
-/

namespace Reattach

/-- A policy is read from the symbol that tells it, and an unspecified one has no symbol. -/
theorem ExpiryPolicy.bind_symbol?_ofSymbol? (policy : ExpiryPolicy) :
    policy.symbol?.bind ofSymbol? = if policy = .unspecified then none else some policy := by
  cases policy <;> decide

theorem Address.expiry?_eq_map (address : Address) :
    address.expiry? = (address.expiryPolicy.bind ExpiryPolicy.ofSymbol?).map
      fun policy => ⟨policy, address.timeoutSecs⟩ := by
  simp only [expiry?, Option.bind_eq_bind, Option.map_eq_bind, Option.bind_assoc]
  rfl

/-! ## Writing on settings -/

namespace Settings

/-- That settings differ at most in the expiry that their own address asks for, which is the
target of a receiver and the source of a sender. -/
structure SameButExpiry (settings other : Settings) : Prop where
  name : other.name = settings.name
  role : other.role = settings.role
  settleMode : other.settleMode = settings.settleMode
  properties : other.properties = settings.properties
  unsettled : other.unsettled = settings.unsettled
  addresses : match settings.role with
    | .receiver => other.source = settings.source ∧
        other.target.address = settings.target.address
    | .sender => other.target = settings.target ∧
        other.source.address = settings.source.address

variable (settings : Settings) (expiry : Expiry)

theorem sameButExpiry_withExpiry : settings.SameButExpiry (settings.withExpiry expiry) := by
  obtain ⟨name, role, source, target, settleMode, properties, unsettled⟩ := settings
  cases role with
  | sender => exact ⟨rfl, rfl, rfl, rfl, rfl, rfl, rfl⟩
  | receiver => exact ⟨rfl, rfl, rfl, rfl, rfl, rfl, rfl⟩

theorem expiryAddress_withExpiry :
    (settings.withExpiry expiry).expiryAddress false =
      { settings.expiryAddress false with
        expiryPolicy := expiry.policy.symbol?, timeoutSecs := expiry.timeoutSecs } := by
  obtain ⟨name, role, source, target, settleMode, properties, unsettled⟩ := settings
  cases role <;> rfl

/-- The expiry that is written is the one that is read, unless its policy has no symbol. -/
theorem expiry?_withExpiry :
    (settings.withExpiry expiry).expiry? false =
      if expiry.policy = .unspecified then none else some expiry := by
  rw [expiry?, expiryAddress_withExpiry, Address.expiry?_eq_map,
    ExpiryPolicy.bind_symbol?_ofSymbol?]
  split <;> rfl

theorem withExpiry_withExpiry (later : Expiry) :
    (settings.withExpiry expiry).withExpiry later = settings.withExpiry later := by
  obtain ⟨name, role, source, target, settleMode, properties, unsettled⟩ := settings
  cases role <;> rfl

end Settings

/-! ## Reading what was stamped -/

namespace Config

variable (config : Config) (settings : Settings)

/-- Timeouts are told in seconds, rounded up, as far as thirty-two bits go. -/
theorem toNat_wireTimeoutSecs :
    config.wireTimeoutSecs.toNat =
      min (config.expiryTimeoutMillis.toNat ⌈/⌉ 1000) (2 ^ 32 - 1) := by
  rw [wireTimeoutSecs, Nat.ceilDiv_eq_add_pred_div]
  apply UInt32.toNat_ofNat_of_lt'
  exact Nat.lt_of_le_of_lt (Nat.min_le_right _ _) (by decide)

/-- Any registry goes by what another one stamped, unless no policy was told. -/
theorem resolve_stamp (reader : Config) :
    reader.resolve (config.stamp settings) =
      if config.expiryPolicy = .unspecified then
        (reader.expiryPolicy, reader.expiryTimeoutMillis.toNat)
      else
        (config.expiryPolicy, config.wireTimeoutSecs.toNat * 1000) := by
  rw [resolve, stamp, Settings.expiry?_withExpiry]
  by_cases isUntold : config.expiryPolicy = .unspecified
  · rw [if_pos isUntold, if_pos isUntold]
  · rw [if_neg isUntold, if_neg isUntold]
    rfl

/-- A timeout that is told is as long as the configured one, or all that can be told. -/
theorem le_wireTimeout_iff :
    config.expiryTimeoutMillis.toNat ≤ config.wireTimeoutSecs.toNat * 1000 ↔
      config.expiryTimeoutMillis.toNat ≤ (2 ^ 32 - 1) * 1000 := by
  rw [toNat_wireTimeoutSecs, Nat.ceilDiv_eq_add_pred_div]
  omega

/-- Less than a second is added by rounding. -/
theorem wireTimeout_lt :
    config.wireTimeoutSecs.toNat * 1000 < config.expiryTimeoutMillis.toNat + 1000 := by
  rw [toNat_wireTimeoutSecs, Nat.ceilDiv_eq_add_pred_div]
  omega

/-- What a registry makes of settings that it has stamped.  It reads its own policy off them, and
its own timeout if that policy is unspecified; else the timeout is the configured one in whole
seconds, rounded up, as far as thirty-two bits go.  It is never a second longer than the
configured one, and shorter only if those bits cannot tell it.  Stamping again changes nothing,
and nothing but the expiry of the settings' own address was changed. -/
theorem stamped_settings_resolve_back (config : Config) (settings : Settings) :
    let stamped := config.stamp settings
    let configured := config.expiryTimeoutMillis.toNat
    let timeout := (config.resolve stamped).2
    (config.resolve stamped).1 = config.expiryPolicy ∧
      timeout = (if config.expiryPolicy = .unspecified then configured
        else min (configured ⌈/⌉ 1000) (2 ^ 32 - 1) * 1000) ∧
      (configured ≤ timeout ↔
        config.expiryPolicy = .unspecified ∨ configured ≤ (2 ^ 32 - 1) * 1000) ∧
      timeout < configured + 1000 ∧
      config.stamp stamped = stamped ∧
      settings.SameButExpiry stamped := by
  intro stamped configured timeout
  have again : config.stamp stamped = stamped := settings.withExpiry_withExpiry _ _
  have same : settings.SameButExpiry stamped := settings.sameButExpiry_withExpiry _
  have resolved : config.resolve stamped = _ := config.resolve_stamp settings config
  by_cases isUntold : config.expiryPolicy = .unspecified
  · rw [if_pos isUntold] at resolved
    have own : timeout = configured := congrArg Prod.snd resolved
    rw [resolved, own, if_pos isUntold]
    have longEnough : configured ≤ configured ↔
        config.expiryPolicy = .unspecified ∨ configured ≤ (2 ^ 32 - 1) * 1000 :=
      iff_of_true (Nat.le_refl configured) (.inl isUntold)
    exact ⟨rfl, rfl, longEnough, Nat.lt_add_of_pos_right (by decide), again, same⟩
  · rw [if_neg isUntold] at resolved
    have told : timeout = config.wireTimeoutSecs.toNat * 1000 := congrArg Prod.snd resolved
    rw [resolved, told, if_neg isUntold, or_iff_right isUntold]
    have rounded : config.wireTimeoutSecs.toNat * 1000 =
        min (configured ⌈/⌉ 1000) (2 ^ 32 - 1) * 1000 := by
      rw [toNat_wireTimeoutSecs]
    exact ⟨rfl, rounded, config.le_wireTimeout_iff, config.wireTimeout_lt, again, same⟩

/-- The longest timeout of a configuration is cut, and the longest that is not is told as it is. -/
example :
    let settings : Settings := { name := "orders", role := .receiver }
    let read (millis : UInt64) : ExpiryPolicy × Nat :=
      resolve ⟨.never, millis, 1⟩ (stamp ⟨.never, millis, 1⟩ settings)
    read 18446744073709551615 = (.never, 4294967295000) ∧
      read 4294967295000 = (.never, 4294967295000) ∧ read 1 = (.never, 1000) := by
  decide +kernel

end Config

end Reattach
