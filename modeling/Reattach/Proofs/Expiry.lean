import Reattach.Proofs.Consistency

/-!
# What decides an expiry

An expiry goes by what the table has noted and never asks the terminus.  A suspension
that ended without the registry being told is still noted, and an expiry then takes a
terminus that is in use.
-/

namespace Reattach

namespace Registry

variable {operation : Operation} {origin registry moment : Registry}
variable {identifier : Identifier} {epoch : Option Nat}

/-- The moments of a move at which an expiry is tried, and the suspension that it is for: when
it is asked for, when a timer runs out, and when a terminus has no time at all. -/
inductive Tries (registry : Registry) :
    Move → Registry → Identifier → Option Nat → Prop where
  | asked (identifier : Identifier) :
      Tries registry (.act (.expire identifier)) registry identifier none
  | timer {index : Nat} {timer : Timer} (isSet : registry.timers[index]? = some timer)
      (isDue : timer.due ≤ registry.now) :
      Tries registry (.fire index) (registry.dropTimer index) timer.identifier
        (some timer.epoch)
  | atOnce {operation : Operation} {earlier rest : List PendingExpiry}
      {pending : PendingExpiry}
      (called : (registry.arranged operation).1 = earlier ++ pending :: rest)
      (isZero : pending.delay = 0) :
      Tries registry (.act operation) ((registry.arranged operation).2.arrangeAll earlier)
        pending.identifier (some pending.epoch)

/-- That the terminus of an identifier is suspended, in the given epoch if one is given. -/
def MayExpire (registry : Registry) (identifier : Identifier) (epoch : Option Nat) : Prop :=
  ∃ current, registry.standing? identifier.key = some (.suspended, current) ∧
    ∀ wanted ∈ epoch, wanted = current

/-- That the terminus of an identifier has moved on from the suspension that is noted: it
is active or has expired, or it is suspended in a later epoch than the one that is given. -/
def IsOvertaken (registry : Registry) (identifier : Identifier) (epoch : Option Nat) : Prop :=
  ∃ noted phase current, registry.suspended.get? identifier.key = some noted ∧
    (∀ wanted ∈ epoch, wanted = noted) ∧
    registry.standing? identifier.key = some (phase, current) ∧
    (phase ≠ .suspended ∨ epoch ≠ none ∧ noted < current)

/-- What is noted decides. -/
theorem Sound.expireEpoch_iff (sound : registry.Sound) :
    (registry.expireEpoch identifier epoch).1 = true ↔
      ∃ noted, registry.suspended.get? identifier.key = some noted ∧
        ∀ wanted ∈ epoch, wanted = noted := by
  rcases sound.expireEpoch_cases identifier epoch with ⟨unchanged, mismatch⟩ |
    ⟨noted, _, _, _, _, note, matching, _, _, _, changed⟩
  · rw [unchanged]
    constructor
    · intro isTrue
      cases isTrue
    · intro noting
      rcases noting with ⟨noted, note, matching⟩
      rcases mismatch noted note with ⟨wanted, isWanted, apart⟩
      exact absurd (matching wanted isWanted) apart
  · rw [changed]
    exact ⟨fun _ => ⟨noted, note, matching⟩, fun _ => rfl⟩

/-- An expiry that does not come about changes nothing. -/
theorem Sound.expireEpoch_eq_of_false (sound : registry.Sound)
    (isFalse : (registry.expireEpoch identifier epoch).1 = false) :
    (registry.expireEpoch identifier epoch).2 = registry := by
  rcases sound.expireEpoch_cases identifier epoch with ⟨unchanged, _⟩ |
    ⟨_, _, _, _, _, _, _, _, _, _, changed⟩
  · rw [unchanged]
  · rw [changed] at isFalse
    cases isFalse

/-- An expiry that comes about takes the terminus out and drops its records. -/
theorem Sound.expireEpoch_of_true (sound : registry.Sound)
    (isTrue : (registry.expireEpoch identifier epoch).1 = true) :
    (registry.expireEpoch identifier epoch).2.entries.get? identifier.key = none ∧
      (registry.expireEpoch identifier epoch).2.storage =
        (registry.storage.removeAll identifier).2 := by
  rcases sound.expireEpoch_cases identifier epoch with ⟨unchanged, _⟩ |
    ⟨_, _, _, _, _, _, _, _, _, _, changed⟩
  · rw [unchanged] at isTrue
    cases isTrue
  · rw [changed]
    exact ⟨SortedMap.get?_erase_self _ _, rfl⟩

/-- An expiry comes about for a terminus that may not expire exactly if the terminus has
moved on from the suspension that is noted. -/
theorem Sound.expires_wrongly_iff (sound : registry.Sound) :
    (registry.expireEpoch identifier epoch).1 = true ∧ ¬registry.MayExpire identifier epoch ↔
      registry.IsOvertaken identifier epoch := by
  rw [sound.expireEpoch_iff]
  constructor
  · intro wrongly
    rcases wrongly with ⟨⟨noted, note, matching⟩, mayNot⟩
    rcases sound.noted note with ⟨entry, terminus, present, known, notLater⟩
    have standing := standing?_eq present known
    refine ⟨noted, terminus.phase, terminus.epoch, note, matching, standing, ?_⟩
    by_cases isSuspended : terminus.phase = .suspended
    · right
      rw [isSuspended] at standing
      have mismatch : ¬∀ wanted ∈ epoch, wanted = terminus.epoch := fun all =>
        mayNot ⟨terminus.epoch, standing, all⟩
      cases epoch with
      | none => exact absurd (by simp) mismatch
      | some wanted =>
          have isNoted := matching wanted rfl
          have apart : wanted ≠ terminus.epoch := by simpa using mismatch
          exact ⟨by simp, by omega⟩
    · exact .inl isSuspended
  · intro overtaken
    rcases overtaken with ⟨noted, phase, current, note, matching, standing, movedOn⟩
    refine ⟨⟨noted, note, matching⟩, ?_⟩
    intro mayExpire
    rcases mayExpire with ⟨other, isStanding, reached⟩
    rw [standing] at isStanding
    rcases Prod.mk.inj (Option.some.inj isStanding) with ⟨rfl, rfl⟩
    rcases movedOn with notSuspended | ⟨isGiven, isLater⟩
    · exact notSuspended rfl
    · cases epoch with
      | none => exact isGiven rfl
      | some wanted =>
          have isNoted := matching wanted rfl
          have isCurrent := reached wanted rfl
          omega

theorem InStep.not_isOvertaken (inStep : registry.InStep identifier.key) :
    ¬registry.IsOvertaken identifier epoch := by
  intro overtaken
  rcases overtaken with ⟨noted, phase, current, note, _, standing, movedOn⟩
  have isStanding := (inStep.noted_iff noted).1 note
  rw [standing] at isStanding
  rcases Prod.mk.inj (Option.some.inj isStanding) with ⟨rfl, rfl⟩
  rcases movedOn with notSuspended | ⟨_, isLater⟩
  · exact notSuspended rfl
  · exact Nat.lt_irrefl _ isLater

theorem IsReady.not_isOvertaken {pending : PendingExpiry}
    (ready : IsReady origin registry pending) :
    ¬registry.IsOvertaken pending.identifier (some pending.epoch) := by
  intro overtaken
  rcases overtaken with ⟨noted, phase, current, note, matching, standing, movedOn⟩
  rcases ready with calls | done
  · rcases calls.holder with ⟨entry, terminus, present, _, known, isSuspended, isEpoch⟩
    rw [standing?_eq present known] at standing
    rcases Prod.mk.inj (Option.some.inj standing) with ⟨rfl, rfl⟩
    have isNoted := matching pending.epoch rfl
    rcases movedOn with notSuspended | ⟨_, isLater⟩
    · exact notSuspended isSuspended
    · omega
  · rw [done.2] at note
    cases note

namespace Tries

variable {move : Move}

theorem sound (sound : registry.Sound) (tries : Tries registry move moment identifier epoch) :
    moment.Sound := by
  cases tries with
  | asked => exact sound
  | timer => exact sound.dropTimer _
  | atOnce called _ => exact sound.changes (sound.arranging called).1

/-- What a move makes of the registry is what the expiry leaves, but for expiries that are
arranged after it. -/
theorem move_eq (tries : Tries registry move moment identifier epoch) :
    ∃ rest, registry.move move = (moment.expireEpoch identifier epoch).2.arrangeAll rest := by
  cases tries with
  | asked => exact ⟨[], rfl⟩
  | @timer index timer isSet isDue =>
      refine ⟨[], ?_⟩
      simp only [Registry.move, fire, isSet, isDue, if_true]
      rfl
  | @atOnce operation earlier rest pending called isZero =>
      refine ⟨rest, ?_⟩
      rw [Registry.move, after_eq_arrangeAll, called]
      simp only [arrangeAll, List.foldl_append, List.foldl_cons,
        arrange_of_delay_eq_zero _ isZero]

/-- A terminus that has no time at all is still suspended when it expires. -/
theorem not_isOvertaken_of_atOnce (sound : registry.Sound)
    (tries : Tries registry (.act operation) moment identifier epoch)
    (isUnasked : operation ≠ .expire identifier) : ¬moment.IsOvertaken identifier epoch := by
  cases tries with
  | asked => exact absurd rfl isUnasked
  | atOnce called _ =>
      exact ((sound.arranging called).2 _ List.mem_cons_self).not_isOvertaken

/-- No terminus moves on from what is noted unless it is moved without the registry being
told. -/
theorem not_isOvertaken_of_consistent (consistent : registry.Consistent)
    (tries : Tries registry move moment identifier epoch) :
    ¬moment.IsOvertaken identifier epoch := by
  cases tries with
  | asked => exact (consistent.inStep _).not_isOvertaken
  | timer => exact ((consistent.dropTimer _).inStep _).not_isOvertaken
  | atOnce called isZero =>
      have tries := Tries.atOnce called isZero
      apply tries.not_isOvertaken_of_atOnce consistent.sound
      intro same
      subst same
      simp [arranged] at called

end Tries

/-- What comes of an expiry, whatever was done before.  If it does not come about, it
changes nothing; if it does, the terminus leaves the table and its records are dropped.
It comes about for a terminus that is not suspended, or not in the epoch that the expiry
is for, exactly if the terminus has moved on from the suspension that is noted: never for
want of time, and only after a terminus of the table was moved without the registry being
told. -/
theorem expiry_goes_by_note (config : Config) (storage : Storage) (hasTimers : Bool)
    (moves : List Move) (move : Move) (moment : Registry) (identifier : Identifier)
    (epoch : Option Nat) :
    let origin : Registry := { create config storage with hasTimers }
    let result := moment.expireEpoch identifier epoch
    Tries (origin.follow moves) move moment identifier epoch →
      (∃ rest, (origin.follow moves).move move = result.2.arrangeAll rest) ∧
      (result.1 = false → result.2 = moment) ∧
      (result.1 = true → result.2.entries.get? identifier.key = none ∧
        result.2.storage = (moment.storage.removeAll identifier).2) ∧
      (result.1 = true ∧ ¬moment.MayExpire identifier epoch ↔
        moment.IsOvertaken identifier epoch) ∧
      (∀ operation, move = .act operation → operation ≠ .expire identifier →
        ¬moment.IsOvertaken identifier epoch) ∧
      (origin.Sparing moves → ¬moment.IsOvertaken identifier epoch) := by
  intro origin result tries
  have soundBefore : (origin.follow moves).Sound :=
    (Sound.create config storage hasTimers).follow moves
  have sound := tries.sound soundBefore
  refine ⟨tries.move_eq, sound.expireEpoch_eq_of_false, sound.expireEpoch_of_true,
    sound.expires_wrongly_iff, ?_, ?_⟩
  · intro operation same isUnasked
    subst same
    exact tries.not_isOvertaken_of_atOnce soundBefore isUnasked
  · intro sparing
    exact tries.not_isOvertaken_of_consistent
      ((Consistent.create config storage hasTimers).follow moves sparing)

end Registry

/-- A suspended terminus of the table is given a link without the registry being told. -/
def Sample.attachedAlone : List Move :=
  [.act (.openLink (link "link-detach" 1)), .act (.register 0 false),
    .act (.suspend 0 .linkDetach), .act (.associate 0 0)]

namespace Registry

/-- It is active, and an expiry takes it out all the same. -/
theorem expires_active_sample :
    let registry := Sample.registry.follow Sample.attachedAlone
    registry.standing? Sample.identifier.key = some (.active, 2) ∧
      registry.linkOf 0 = some 0 ∧ (registry.expire Sample.identifier).1 = true ∧
      (registry.expire Sample.identifier).2.entries.get? Sample.identifier.key = none := by
  decide +kernel

/-- It has moved on from the suspension that is noted, so the registry was not told of
something. -/
theorem expiry_goes_by_note_sample :
    (Sample.registry.follow Sample.attachedAlone).IsOvertaken Sample.identifier none ∧
      ¬Sample.registry.Sparing Sample.attachedAlone := by
  let registry := Sample.registry.follow Sample.attachedAlone
  have standing : registry.standing? Sample.identifier.key = some (.active, 2) := by
    decide +kernel
  have expires : (registry.expireEpoch Sample.identifier none).1 = true := by decide +kernel
  have mayNot : ¬registry.MayExpire Sample.identifier none := by
    intro mayExpire
    rcases mayExpire with ⟨current, isSuspended, _⟩
    rw [standing] at isSuspended
    cases isSuspended
  obtain ⟨_, _, _, wrongly, _, sparing⟩ := expiry_goes_by_note default { store := .memory {} }
    true Sample.attachedAlone (.act (.expire Sample.identifier)) registry Sample.identifier none
    (.asked Sample.identifier)
  have overtaken := wrongly.1 ⟨expires, mayNot⟩
  exact ⟨overtaken, fun isSparing => sparing isSparing overtaken⟩

end Registry

end Reattach
