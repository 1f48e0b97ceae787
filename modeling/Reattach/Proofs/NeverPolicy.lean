import Reattach.Proofs.Expiry
import Reattach.Proofs.Timers

/-!
# Termini that are never to expire

No event reaches the policy `never`, and a terminus under it is therefore never suspended
while it is in the table.  It can be put into the table suspended, and then its time runs
like that of any other.
-/

namespace Reattach

namespace Registry

variable {operation : Operation} {origin registry later : Registry} {key : Identifier.Key}

/-- That a move is a request that the terminus of an identifier leave the table: it is to be
taken out, or to expire while it is suspended. -/
def IsToldToGo (registry : Registry) (key : Identifier.Key) (move : Move) : Prop :=
  ∃ identifier : Identifier, identifier.key = key ∧
    (move = .act (.tryRemove identifier) ∨
      move = .act (.expire identifier) ∧ registry.isSuspended identifier = true)

/-- That a move is the running out of a timer for the suspension of an identifier. -/
def RunsOut (registry : Registry) (key : Identifier.Key) (move : Move) : Prop :=
  ∃ index timer epoch, move = .fire index ∧ registry.timers[index]? = some timer ∧
    timer.due ≤ registry.now ∧ timer.IsFor key epoch ∧
    registry.suspended.get? key = some epoch

/-! ## Records of termini that stay -/

/-- What is kept of an identifier of the table: it has left, or its records are as before. -/
def Retains (origin registry : Registry) (identifier : Identifier) : Prop :=
  registry.entries.get? identifier.key = none ∨
    registry.storage.held identifier = origin.storage.held identifier

/-- A change that is not there to change records leaves those of termini that stay. -/
theorem Retains.change {identifier : Identifier} {entry : Entry}
    (retains : Retains origin registry identifier)
    (present : origin.entries.get? identifier.key = some entry)
    (isReading : operation.writesRecords = false)
    (change : Change operation origin registry later) : Retains origin later identifier := by
  cases change with
  | links | create | refresh | direct | suspend | setTimer => exact retains
  | store kept =>
      rcases kept with writes | same
      · rw [isReading] at writes
        cases writes
      · exact retains.imp_right (congrArg (Store.retrieveAll identifier) same).trans
  | purge other absent =>
      exact retains.imp_right
        (Storage.held_removeAll_of_ne _ (SortedMap.ne_of_get? present absent)).trans
  | enter _ absent =>
      exact retains.imp_left
        (SortedMap.get?_insert_of_ne _ _ (SortedMap.ne_of_get? present absent)).trans
  | seed absent =>
      exact retains.imp_left
        (SortedMap.get?_insert_of_ne _ _ (SortedMap.ne_of_get? present absent)).trans
  | @reenter other _ _ _ _ _ _ _ isThere | @refuse other _ _ _ _ _ _ isThere =>
      rcases retains with absent | same
      · refine .inl ((SortedMap.get?_insert_of_ne _ _ ?_).trans absent)
        intro same
        subst same
        rw [isThere] at absent
        cases absent
      · exact .inr same
  | expire other =>
      by_cases same : identifier.key = other.key
      · exact .inl (by simp only [same, SortedMap.get?_erase_self])
      · refine retains.imp ?_ (Storage.held_removeAll_of_ne _ same).trans
        exact (SortedMap.get?_erase_of_ne _ same).trans
  | remove other _ =>
      refine retains.imp_left fun absent => ?_
      simp only [SortedMap.get?_erase, absent, ite_self]

theorem Retains.changes {identifier : Identifier} {entry : Entry}
    (retains : Retains origin registry identifier)
    (present : origin.entries.get? identifier.key = some entry)
    (isReading : operation.writesRecords = false)
    (changes : Changes operation origin registry later) : Retains origin later identifier := by
  induction changes with
  | refl => exact retains
  | tail _ last ih => exact ih.change present isReading last

/-- A terminus that stays in the table keeps its records, unless the move is there to change
records. -/
theorem Sound.held_move (sound : registry.Sound) {identifier : Identifier}
    {entry found : Entry} {move : Move}
    (present : registry.entries.get? identifier.key = some entry)
    (stays : (registry.move move).entries.get? identifier.key = some found)
    (isReading : ∀ operation, move = .act operation → operation.writesRecords = false) :
    (registry.move move).storage.held identifier = registry.storage.held identifier := by
  cases move with
  | act operation =>
      have retains : Retains registry registry identifier := .inr rfl
      rcases retains.changes present (isReading operation rfl)
        (sound.after_changes operation) with absent | same
      · exact absurd absent (SortedMap.get?_ne_none stays)
      · exact same
  | pass time => rfl
  | fire index => exact sound.held_fire stays

/-! ## The policy never -/

/-- That an identifier is still in the table, and not suspended anew. -/
structure Keeps (origin registry : Registry) (key : Identifier.Key) : Prop where
  present : registry.entries.get? key ≠ none
  noted : ∀ epoch, registry.suspended.get? key = some epoch →
    origin.suspended.get? key = some epoch

/-- A change keeps an identifier whose policy is `never`, unless it is asked for. -/
theorem Keeps.change (keeps : Keeps origin registry key) {entry : Entry}
    (present : origin.entries.get? key = some entry) (isNever : entry.policy = .never)
    (unasked : ∀ identifier : Identifier, identifier.key = key →
      operation ≠ .expire identifier ∧ operation ≠ .tryRemove identifier)
    (change : Change operation origin registry later) : Keeps origin later key := by
  cases change with
  | links | store | create | refresh | direct | purge | setTimer =>
      exact ⟨keeps.present, keeps.noted⟩
  | @enter other _ _ _ _ absent =>
      constructor
      · rw [SortedMap.get?_insert_of_ne _ _ (SortedMap.ne_of_get? present absent)]
        exact keeps.present
      · intro epoch noted
        exact keeps.noted epoch (SortedMap.get?_erase_eq_some_iff.1 noted).2
  | @reenter other =>
      constructor
      · rw [SortedMap.get?_insert]
        split
        · simp
        · exact keeps.present
      · intro epoch noted
        exact keeps.noted epoch (SortedMap.get?_erase_eq_some_iff.1 noted).2
  | @refuse other =>
      constructor
      · rw [SortedMap.get?_insert]
        split
        · simp
        · exact keeps.present
      · exact keeps.noted
  | @suspend other found _ _ _ departure _ _ untouched isFound reached =>
      constructor
      · exact keeps.present
      · intro epoch noted
        rcases SortedMap.get?_insert_eq_some_iff.1 noted with ⟨rfl, _⟩ | ⟨_, wasNoted⟩
        · -- The entry is the one from before the operation, and no event reaches its policy.
          rw [untouched, present] at isFound
          cases isFound
          rw [isNever, ExpiryPolicy.not_qualifies_never] at reached
          cases reached
        · exact keeps.noted epoch wasNoted
  | @expire _ _ _ _ current identifier _ reason noted =>
      have apart : key ≠ identifier.key := by
        intro same
        subst same
        rcases reason with asked | isNew
        · exact (unasked identifier rfl).1 asked
        · exact isNew (keeps.noted current noted)
      constructor
      · rw [SortedMap.get?_erase_of_ne _ apart]
        exact keeps.present
      · intro epoch stillNoted
        exact keeps.noted epoch (SortedMap.get?_erase_eq_some_iff.1 stillNoted).2
  | @seed _ terminus _ absent =>
      have apart := SortedMap.ne_of_get? present absent
      constructor
      · rw [SortedMap.get?_insert_of_ne _ _ apart]
        exact keeps.present
      · intro epoch noted
        simp only at noted
        split at noted
        · rw [SortedMap.get?_insert_of_ne _ _ apart] at noted
          exact keeps.noted epoch noted
        · exact keeps.noted epoch noted
  | remove identifier asked =>
      have apart : key ≠ identifier.key := by
        intro same
        subst same
        exact (unasked identifier rfl).2 asked
      constructor
      · rw [SortedMap.get?_erase_of_ne _ apart]
        exact keeps.present
      · intro epoch noted
        exact keeps.noted epoch (SortedMap.get?_erase_eq_some_iff.1 noted).2

theorem Keeps.changes (keeps : Keeps origin registry key) {entry : Entry}
    (present : origin.entries.get? key = some entry) (isNever : entry.policy = .never)
    (unasked : ∀ identifier : Identifier, identifier.key = key →
      operation ≠ .expire identifier ∧ operation ≠ .tryRemove identifier)
    (changes : Changes operation origin registry later) : Keeps origin later key := by
  induction changes with
  | refl => exact keeps
  | tail _ last ih => exact ih.change present isNever unasked last

/-- That termini with the policy `never` that are noted as suspended were put into the table
that way: none of them ever had a link there. -/
def NeverIsSeeded (registry : Registry) : Prop :=
  ∀ key entry epoch, registry.entries.get? key = some entry → entry.policy = .never →
    registry.suspended.get? key = some epoch → entry.scope = none

theorem NeverIsSeeded.change (seeded : registry.NeverIsSeeded) (consistent : registry.Consistent)
    (change : Change operation origin registry later) : later.NeverIsSeeded := by
  intro key entry epoch present isNever noted
  cases change with
  | links | store | create | refresh | direct | purge | setTimer =>
      exact seeded key entry epoch present isNever noted
  | enter | reenter =>
      rcases SortedMap.get?_erase_eq_some_iff.1 noted with ⟨apart, wasNoted⟩
      rw [SortedMap.get?_insert_of_ne _ _ apart] at present
      exact seeded key entry epoch present isNever wasNoted
  | @refuse other _ _ _ _ _ _ isThere _ known hasExpired =>
      have standing := standing?_eq isThere known
      rw [hasExpired] at standing
      exact absurd standing ((consistent.inStep other).lives _)
  | @suspend other found _ _ _ _ _ _ _ isFound reached =>
      rcases SortedMap.get?_insert_eq_some_iff.1 noted with ⟨rfl, _⟩ | ⟨_, wasNoted⟩
      · rw [isFound] at present
        cases present
        rw [isNever, ExpiryPolicy.not_qualifies_never] at reached
        cases reached
      · exact seeded key entry epoch present isNever wasNoted
  | expire | remove =>
      exact seeded key entry epoch (SortedMap.get?_erase_eq_some_iff.1 present).2 isNever
        (SortedMap.get?_erase_eq_some_iff.1 noted).2
  | @seed _ terminus found absent _ _ _ _ _ _ isUnscoped =>
      rcases SortedMap.get?_insert_eq_some_iff.1 present with ⟨_, rfl⟩ | ⟨apart, wasPresent⟩
      · exact isUnscoped
      · simp only at noted
        split at noted
        · rw [SortedMap.get?_insert_of_ne _ _ apart] at noted
          exact seeded key entry epoch wasPresent isNever noted
        · exact seeded key entry epoch wasPresent isNever noted

/-- What the policy `never` means for what is noted holds after all moves that spare the
table. -/
theorem Consistent.neverIsSeeded_follow (consistent : registry.Consistent)
    (seeded : registry.NeverIsSeeded) (moves : List Move) (sparing : registry.Sparing moves) :
    (registry.follow moves).NeverIsSeeded := by
  let kept (registry : Registry) : Prop := registry.Consistent ∧ registry.NeverIsSeeded
  have holds : kept (registry.follow moves) := by
    refine consistent.sound.follow_induction ⟨consistent, seeded⟩ ?_ ?_ ?_ moves sparing
    · intro registry now both
      exact ⟨both.1.withNow now, both.2⟩
    · intro registry index both
      exact ⟨both.1.dropTimer index, both.2⟩
    · intro operation origin registry later spares _ change both
      exact ⟨both.1.change spares change, both.2.change both.1 change⟩
  exact holds.2

theorem Sound.runsOut_of_removed (sound : registry.Sound) {entry : Entry} {index : Nat}
    (present : registry.entries.get? key = some entry)
    (removed : (registry.fire index).entries.get? key = none) :
    RunsOut registry key (.fire index) := by
  rcases sound.fired_cases index with ⟨timers, unchanged, _⟩ |
    ⟨timer, termini, channel, isSet, isDue, isNoted, changed⟩
  · rw [unchanged] at removed
    exact absurd removed (SortedMap.get?_ne_none present)
  · rw [changed] at removed
    have same : key = timer.identifier.key := SortedMap.eq_of_get?_erase present removed
    subst same
    exact ⟨index, timer, timer.epoch, rfl, isSet, isDue, ⟨rfl, rfl⟩, isNoted⟩

/-- A terminus whose policy is `never` leaves the table when it is told to or when a timer
runs out, and not otherwise. -/
theorem Sound.never_leaves_iff (sound : registry.Sound) {entry : Entry}
    (present : registry.entries.get? key = some entry) (isNever : entry.policy = .never)
    (move : Move) :
    (registry.move move).entries.get? key = none ↔
      registry.IsToldToGo key move ∨ registry.RunsOut key move := by
  constructor
  · intro removed
    cases move with
    | act operation =>
        left
        by_contra notTold
        have unasked (identifier : Identifier) (isKey : identifier.key = key) :
            operation ≠ .expire identifier ∧ operation ≠ .tryRemove identifier := by
          constructor
          · intro same
            subst same
            have notSuspended : ¬registry.isSuspended identifier = true := fun isSuspended =>
              notTold ⟨identifier, isKey, .inr ⟨rfl, isSuspended⟩⟩
            have notExpired : (registry.expireEpoch identifier none).1 = false := by
              rw [Bool.eq_false_iff, ne_eq, sound.expireEpoch_iff]
              intro noting
              rcases noting with ⟨noted, note, _⟩
              exact notSuspended (by rw [isSuspended, SortedMap.contains, note]; rfl)
            have unchanged : registry.move (.act (.expire identifier)) = registry :=
              sound.expireEpoch_eq_of_false notExpired
            rw [unchanged, present] at removed
            cases removed
          · intro same
            subst same
            exact notTold ⟨identifier, isKey, .inl rfl⟩
        have keeps : Keeps registry registry key :=
          ⟨by simp [present], fun _ noted => noted⟩
        exact (keeps.changes present isNever unasked (sound.after_changes operation)).present
          removed
    | pass time => exact absurd removed (SortedMap.get?_ne_none present)
    | fire index => exact .inr (sound.runsOut_of_removed present removed)
  · intro leaving
    rcases leaving with
      ⟨identifier, rfl, rfl | ⟨rfl, isSuspended⟩⟩ |
      ⟨index, timer, epoch, rfl, isSet, isDue, isFor, noted⟩
    · exact SortedMap.get?_erase_self _ _
    · rw [Registry.isSuspended, SortedMap.contains, Option.isSome_iff_exists] at isSuspended
      rcases isSuspended with ⟨epoch, noted⟩
      have expires : (registry.expireEpoch identifier none).1 = true :=
        sound.expireEpoch_iff.2 ⟨epoch, noted, by simp⟩
      exact (sound.expireEpoch_of_true expires).1
    · exact (sound.fire_removes_iff noted index).2 ⟨timer, isSet, isFor, isDue⟩

/-- A terminus that is put into the table is not there afterwards exactly if it is suspended
and has no time at all. -/
theorem Sound.seeded_leaves_iff (sound : registry.Sound) {id : TerminusId}
    {terminus : Terminus} (known : registry.termini[id]? = some terminus)
    (accepted : (registry.tryAdd id).1 = true) :
    (registry.tryAdd id).2.entries.get? terminus.identifier.key = none ↔
      terminus.phase = .suspended ∧ (registry.config.resolve terminus.settings).2 = 0 := by
  rw [tryAdd_eq] at accepted ⊢
  rcases accept_cases (.tryAdd id) registry id with ⟨purged, _, refused⟩ |
    ⟨found, purged, isFound, absent, lives, purges, isPurged, isIn⟩
  · rw [refused] at accepted
    cases accepted
  · rw [known] at isFound
    cases isFound
    rcases purges.seed sound known absent isPurged lives with ⟨changes, calls⟩
    have entered : (purged.seed id terminus).2.entries.get? terminus.identifier.key =
        some (purged.seededEntry id terminus) := by
      rw [seed_eq]
      exact SortedMap.get?_insert_self _ _ _
    have soundThen := sound.changes changes
    rw [isIn, ← purges.config]
    by_cases isSuspended : terminus.phase = .suspended
    · have called : (purged.seed id terminus).1 =
          some ⟨terminus.identifier, terminus.epoch,
            (purged.config.resolve terminus.settings).2⟩ := by
        simp only [Registry.seed, isSuspended, if_true]
      have noted := (calls _ called).noted
      simp only [called, Option.toList_some, arrangeAll_cons, arrangeAll_nil, isSuspended,
        true_and]
      by_cases isZero : (purged.config.resolve terminus.settings).2 = 0
      · rw [arrange_of_delay_eq_zero _ isZero]
        have expires : ((purged.seed id terminus).2.expireEpoch terminus.identifier
            (some terminus.epoch)).1 = true :=
          soundThen.expireEpoch_iff.2 ⟨terminus.epoch, noted, by simp⟩
        exact iff_of_true (soundThen.expireEpoch_of_true expires).1 isZero
      · rw [arrange_of_delay_ne_zero _ isZero]
        refine iff_of_false ?_ isZero
        rw [setTimer]
        split
        · exact SortedMap.get?_ne_none entered
        · exact SortedMap.get?_ne_none entered
    · have uncalled : (purged.seed id terminus).1 = none := by
        simp only [Registry.seed, isSuspended, if_false]
      simp only [uncalled, Option.toList_none, arrangeAll_nil, isSuspended, false_and, iff_false]
      exact SortedMap.get?_ne_none entered

/-- What becomes of termini whose policy is `never`, whatever was done before to a table that
is told of all that happens to its termini.  Such a terminus leaves the table when it is told
to, or by a timer, which runs for it only if it was put into the table suspended.  A terminus
that is put into the table with this policy is gone at once exactly if it is suspended and
has no time.  Those that stay keep their records. -/
theorem never_policy_leaves (config : Config) (storage : Storage) (hasTimers : Bool)
    (moves : List Move) :
    let origin : Registry := { create config storage with hasTimers }
    let registry := origin.follow moves
    origin.Sparing moves →
      (∀ key entry move, registry.entries.get? key = some entry → entry.policy = .never →
        ((registry.move move).entries.get? key = none ↔
          registry.IsToldToGo key move ∨ registry.RunsOut key move ∧ entry.scope = none)) ∧
      (∀ (id : TerminusId) (terminus : Terminus), registry.termini[id]? = some terminus →
        (registry.config.resolve terminus.settings).1 = .never →
        (registry.tryAdd id).1 = true →
        ((registry.tryAdd id).2.entries.get? terminus.identifier.key = none ↔
          terminus.phase = .suspended ∧
            (registry.config.resolve terminus.settings).2 = 0)) ∧
      ∀ (identifier : Identifier) entry found move,
        registry.entries.get? identifier.key = some entry → entry.policy = .never →
        (registry.move move).entries.get? identifier.key = some found →
        (∀ operation, move = .act operation → operation.writesRecords = false) →
        (registry.move move).storage.held identifier = registry.storage.held identifier := by
  intro origin registry sparing
  have consistent : registry.Consistent :=
    (Consistent.create config storage hasTimers).follow moves sparing
  have isEmpty : origin.NeverIsSeeded := by
    intro key entry epoch present
    cases present
  have seeded : registry.NeverIsSeeded :=
    (Consistent.create config storage hasTimers).neverIsSeeded_follow isEmpty moves sparing
  have sound := consistent.sound
  refine ⟨?_, fun id terminus known _ accepted => sound.seeded_leaves_iff known accepted,
    fun identifier entry found move present _ stays isReading =>
      sound.held_move present stays isReading⟩
  intro key entry move present isNever
  rw [sound.never_leaves_iff present isNever move]
  constructor
  · intro leaving
    rcases leaving with told | runsOut
    · exact .inl told
    · refine .inr ⟨runsOut, ?_⟩
      rcases runsOut with ⟨_, _, epoch, _, _, _, _, noted⟩
      exact seeded key entry epoch present isNever noted
  · intro leaving
    rcases leaving with told | ⟨runsOut, _⟩
    · exact .inl told
    · exact .inr runsOut

end Registry

/-- A terminus with the policy `never` is suspended before it is put into the table. -/
def Sample.neverSuspended (timeoutSecs : UInt32) : List Move :=
  [.act (.createTerminus identifier (settings "never" timeoutSecs)), .act (.suspendTerminus 0)]

namespace Registry

/-- Without a time it is gone at once, and with one it is gone when that is over. -/
theorem never_expires_sample :
    let untimed := Sample.registry.follow (Sample.neverSuspended 0)
    let timed := Sample.registry.follow
      (Sample.neverSuspended 1 ++ [.act (.tryAdd 0), .pass 1000])
    (untimed.config.resolve (Sample.settings "never" 0)).1 = .never ∧
      (untimed.tryAdd 0).1 = true ∧
      (untimed.tryAdd 0).2.entries.get? Sample.identifier.key = none ∧
      (timed.entries.get? Sample.identifier.key).map (·.policy) = some .never ∧
      (timed.fire 0).entries.get? Sample.identifier.key = none := by
  decide +kernel

/-- It is a timer that runs out for it. -/
theorem never_policy_leaves_sample :
    let moves := Sample.neverSuspended 1 ++ [.act (.tryAdd 0), .pass 1000]
    Sample.registry.Sparing moves ∧
      (Sample.registry.follow moves).RunsOut Sample.identifier.key (.fire 0) := by
  intro moves
  have sparing : Sample.registry.Sparing moves := by
    simp only [moves, Sample.neverSuspended, List.cons_append, List.nil_append, Sparing,
      Move.SparesTable, Operation.direct?, Option.mem_def]
    refine ⟨by simp, ?_, by simp⟩
    intro id _ holds
    rcases holds with ⟨key, entry, present, _⟩
    cases present
  rcases never_policy_leaves default { store := .memory {} } true moves sparing with
    ⟨leaves, _, _⟩
  have left := (leaves Sample.identifier.key ⟨0, none, .never, 1000⟩ (.fire 0)
    (by decide +kernel) rfl).1 (by decide +kernel)
  rcases left with ⟨identifier, _, told | ⟨told, _⟩⟩ | ⟨runsOut, _⟩
  · cases told
  · cases told
  · exact ⟨sparing, runsOut⟩

end Registry

end Reattach
