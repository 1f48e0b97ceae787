import Reattach.Proofs.Operations

/-!
# The table and its termini in step

A suspension is written down twice, in the table and in the terminus.  As long as no
terminus of the table is moved without the registry being told, both agree, whatever is
done, in whatever order, and whenever the store fails.
-/

namespace Reattach.Registry

/-- The phase and the epoch of the terminus that the table has for an identifier. -/
def standing? (registry : Registry) (key : Identifier.Key) : Option (Phase × Nat) :=
  (registry.entries.get? key).bind fun entry =>
    registry.termini[entry.terminus]?.map fun terminus => (terminus.phase, terminus.epoch)

/-- That all that a registry knows of an identifier agrees. -/
structure InStep (registry : Registry) (key : Identifier.Key) : Prop where
  /-- An identifier is noted as suspended in the epoch in which its terminus is suspended. -/
  noted_iff : ∀ epoch,
    registry.suspended.get? key = some epoch ↔ registry.standing? key = some (.suspended, epoch)
  /-- A terminus of the table has not expired. -/
  lives : ∀ epoch, registry.standing? key ≠ some (.expired, epoch)
  /-- Where records of an expired terminus are left to be dropped, there is no other terminus. -/
  purged : registry.purging.get? key = some () → registry.entries.get? key = none

/-- That the table and the termini agree. -/
structure Consistent (registry : Registry) : Prop where
  inStep : ∀ key, registry.InStep key
  /-- A terminus of the table is there under its own identifier. -/
  keyed : ∀ key entry, registry.entries.get? key = some entry →
    ∃ terminus, registry.termini[entry.terminus]? = some terminus ∧ terminus.identifier.key = key
  /-- A terminus that has a link is active. -/
  linked : ∀ (id : TerminusId) (terminus : Terminus), registry.termini[id]? = some terminus →
    terminus.link ≠ none → terminus.phase = .active

variable {operation : Operation} {origin registry later : Registry} {key : Identifier.Key}

theorem standing?_eq {entry : Entry} {terminus : Terminus}
    (present : registry.entries.get? key = some entry)
    (known : registry.termini[entry.terminus]? = some terminus) :
    registry.standing? key = some (terminus.phase, terminus.epoch) := by
  rw [standing?, present, Option.bind_some, known, Option.map_some]

theorem standing?_of_absent (absent : registry.entries.get? key = none) :
    registry.standing? key = none := by
  rw [standing?, absent, Option.bind_none]

theorem standing?_congr (entries : later.entries.get? key = registry.entries.get? key)
    (termini : ∀ entry, registry.entries.get? key = some entry →
      later.termini[entry.terminus]? = registry.termini[entry.terminus]?) :
    later.standing? key = registry.standing? key := by
  rw [standing?, standing?, entries]
  cases present : registry.entries.get? key with
  | none => rfl
  | some entry => rw [Option.bind_some, Option.bind_some, termini entry present]

theorem standing?_of_puts_same {id : TerminusId} {terminus grown : Terminus}
    (known : registry.termini[id]? = some terminus)
    (puts : Puts registry.termini id grown later.termini)
    (entries : later.entries = registry.entries) (phase : grown.phase = terminus.phase)
    (epoch : grown.epoch = terminus.epoch) : later.standing? key = registry.standing? key := by
  rw [standing?, standing?, entries]
  cases registry.entries.get? key with
  | none => rfl
  | some entry =>
      simp only [Option.bind_some]
      by_cases same : entry.terminus = id
      · rw [same, puts.self, known, Option.map_some, Option.map_some, phase, epoch]
      · rw [puts.of_ne same]

/-! ## Links of active termini -/

/-- That only active termini have a link. -/
def OnlyActiveLinked (registry : Registry) : Prop :=
  ∀ (id : TerminusId) (terminus : Terminus), registry.termini[id]? = some terminus →
    terminus.link ≠ none → terminus.phase = .active

namespace OnlyActiveLinked

/-- Whoever is put in place keeps that rule. -/
theorem of_puts (linked : registry.OnlyActiveLinked) {id : TerminusId} {terminus : Terminus}
    (puts : Puts registry.termini id terminus later.termini)
    (isLinked : terminus.link ≠ none → terminus.phase = .active) : later.OnlyActiveLinked := by
  intro other found known
  by_cases same : other = id
  · rw [same, puts.self] at known
    cases known
    exact isLinked
  · rw [puts.of_ne same] at known
    exact linked other found known

theorem of_moves (linked : registry.OnlyActiveLinked) {id : TerminusId}
    {terminus grown : Terminus} (known : registry.termini[id]? = some terminus)
    (moves : terminus.Moves grown) (puts : Puts registry.termini id grown later.termini) :
    later.OnlyActiveLinked :=
  linked.of_puts puts (moves.linked (linked id terminus known))

/-- So do all changes. -/
theorem change (linked : registry.OnlyActiveLinked)
    (change : Change operation origin registry later) : later.OnlyActiveLinked := by
  cases change with
  | links | store | setTimer | purge | seed | remove => exact linked
  | create _ puts isFresh => exact linked.of_puts puts fun _ => isFresh.2
  | @refresh id terminus _ _ known puts => exact linked.of_puts puts (linked id terminus known)
  | direct _ _ _ known moves puts => exact linked.of_moves known moves puts
  | enter _ _ _ _ _ _ puts _ isActive => exact linked.of_puts puts fun _ => isActive
  | reenter _ _ _ _ _ _ isActive puts => exact linked.of_puts puts fun _ => isActive
  | @refuse _ _ _ terminus _ _ _ _ _ known _ puts =>
      exact linked.of_puts puts (linked _ terminus known)
  | suspend _ _ _ _ _ known suspended puts => exact linked.of_moves known (.suspend suspended) puts
  | @expire _ terminus _ _ epoch _ _ _ _ _ known expires puts =>
      cases expired : terminus.expire (some epoch) with
      | none =>
          rw [expired, Option.getD_none] at expires
          exact linked.of_puts puts (expires ▸ linked _ terminus known)
      | some grown =>
          rw [expired, Option.getD_some] at expires
          exact linked.of_moves known (.expire expired) (expires ▸ puts)

end OnlyActiveLinked

namespace InStep

theorem congr (inStep : registry.InStep key)
    (standing : later.standing? key = registry.standing? key)
    (notes : later.suspended.get? key = registry.suspended.get? key)
    (purged : later.purging.get? key = some () → later.entries.get? key = none) :
    later.InStep key := by
  constructor
  · intro epoch
    rw [notes, standing]
    exact inStep.noted_iff epoch
  · intro epoch
    rw [standing]
    exact inStep.lives epoch
  · exact purged

theorem of_absent (absent : registry.entries.get? key = none)
    (isUnnoted : registry.suspended.get? key = none) : registry.InStep key := by
  have noStanding := standing?_of_absent absent
  constructor
  · intro epoch
    simp [isUnnoted, noStanding]
  · intro epoch
    simp [noStanding]
  · exact fun _ => absent

theorem of_active {entry : Entry} {terminus : Terminus}
    (present : registry.entries.get? key = some entry)
    (known : registry.termini[entry.terminus]? = some terminus)
    (isActive : terminus.phase = .active) (isUnnoted : registry.suspended.get? key = none)
    (purged : registry.purging.get? key = none) : registry.InStep key := by
  have standing := standing?_eq present known
  rw [isActive] at standing
  constructor
  · intro other
    simp [isUnnoted, standing]
  · intro other
    simp [standing]
  · intro pending
    rw [purged] at pending
    cases pending

theorem of_suspended {entry : Entry} {terminus : Terminus}
    (present : registry.entries.get? key = some entry)
    (known : registry.termini[entry.terminus]? = some terminus)
    (isSuspended : terminus.phase = .suspended)
    (noted : registry.suspended.get? key = some terminus.epoch)
    (purged : registry.purging.get? key = none) : registry.InStep key := by
  have standing := standing?_eq present known
  rw [isSuspended] at standing
  constructor
  · intro other
    simp [noted, standing]
  · intro other
    simp [standing]
  · intro pending
    rw [purged] at pending
    cases pending

theorem purged_of_present (inStep : registry.InStep key) {entry : Entry}
    (present : registry.entries.get? key = some entry) : registry.purging.get? key = none := by
  cases pending : registry.purging.get? key with
  | none => rfl
  | some _ =>
      have absent := inStep.purged pending
      rw [present] at absent
      cases absent

end InStep

namespace Consistent

theorem sound (consistent : registry.Consistent) : registry.Sound := by
  constructor
  · intro key entry present
    exact consistent.keyed key entry present
  · intro key epoch noted
    have standing := ((consistent.inStep key).noted_iff epoch).1 noted
    simp only [standing?, Option.bind_eq_some_iff, Option.map_eq_some_iff] at standing
    rcases standing with ⟨entry, present, terminus, known, same⟩
    exact ⟨entry, terminus, present, known, Nat.le_of_eq (Prod.mk.inj same).2.symm⟩

theorem create (config : Config) (storage : Storage) (hasTimers : Bool) :
    Consistent { Registry.create config storage with hasTimers } := by
  constructor
  · intro key
    exact .of_absent rfl rfl
  · intro key entry present
    cases present
  · intro id terminus known
    cases known

/-- A terminus that is put in place while no other entry has it leaves others in step. -/
theorem inStep_of_puts (consistent : registry.Consistent) {id : TerminusId}
    {terminus : Terminus} (puts : Puts registry.termini id terminus later.termini)
    (entries : later.entries.get? key = registry.entries.get? key)
    (notes : later.suspended.get? key = registry.suspended.get? key)
    (purged : later.purging.get? key = some () → registry.purging.get? key = some ())
    (apart : ∀ entry, registry.entries.get? key = some entry → entry.terminus ≠ id) :
    later.InStep key := by
  refine (consistent.inStep key).congr (standing?_congr entries ?_) notes ?_
  · intro entry present
    exact puts.of_ne (apart entry present)
  · intro pending
    rw [entries]
    exact (consistent.inStep key).purged (purged pending)

theorem terminus_ne_of_new (consistent : registry.Consistent) {id : TerminusId}
    (isNew : registry.termini[id]? = none) (entry : Entry)
    (present : registry.entries.get? key = some entry) : entry.terminus ≠ id := by
  intro same
  rcases consistent.keyed key entry present with ⟨terminus, known, _⟩
  rw [same, isNew] at known
  cases known

/-- Changes keep all identifiers in step, as long as only termini that are not in the table
are moved without the registry being told. -/
theorem inStep_change (consistent : registry.Consistent)
    (spares : ∀ id ∈ operation.direct?, ¬origin.Holds id)
    (change : Change operation origin registry later) (other : Identifier.Key) :
    later.InStep other := by
  have sound := consistent.sound
  cases change with
  | links | store | setTimer =>
      exact (consistent.inStep other).congr rfl rfl (consistent.inStep other).purged
  | @create id terminus _ isNew puts isFresh =>
      exact consistent.inStep_of_puts puts rfl rfl (fun pending => pending)
        (consistent.terminus_ne_of_new isNew)
  | @refresh id terminus _ settings known puts =>
      exact (consistent.inStep other).congr (standing?_of_puts_same known puts rfl rfl rfl) rfl
        (consistent.inStep other).purged
  | @direct id terminus _ _ _ isDirect untouched known moves puts =>
      refine consistent.inStep_of_puts puts rfl rfl (fun pending => pending) ?_
      -- The terminus was not in the table before the operation, and the table is the same.
      intro entry present same
      exact spares id isDirect ⟨other, entry, untouched ▸ present, same⟩
  | @purge _ identifier _ dropped =>
      refine (consistent.inStep other).congr rfl rfl fun pending => ?_
      rcases dropped with rfl | rfl
      · exact (consistent.inStep other).purged pending
      · exact (consistent.inStep other).purged (SortedMap.get?_erase_eq_some_iff.1 pending).2
  | @enter key entry terminus _ _ _ _ _ isPurged isNew puts _ isActive =>
      by_cases same : other = key
      · subst same
        exact .of_active (SortedMap.get?_insert_self _ _ _) puts.self isActive
          (SortedMap.get?_erase_self _ _) isPurged
      · exact consistent.inStep_of_puts puts (SortedMap.get?_insert_of_ne _ _ same)
          (SortedMap.get?_erase_of_ne _ same) (fun pending => pending)
          (consistent.terminus_ne_of_new isNew)
  | @reenter key old entry _ grown _ _ _ present isOld known _ isActive puts =>
      by_cases same : other = key
      · subst same
        exact .of_active (SortedMap.get?_insert_self _ _ _) (isOld ▸ puts.self) isActive
          (SortedMap.get?_erase_self _ _) ((consistent.inStep other).purged_of_present present)
      · exact consistent.inStep_of_puts puts (SortedMap.get?_insert_of_ne _ _ same)
          (SortedMap.get?_erase_of_ne _ same) (fun pending => pending)
          (fun found isFound => sound.terminus_ne present isFound same)
  | @refuse key old entry terminus _ _ _ present _ known hasExpired _ =>
      have standing := standing?_eq present known
      rw [hasExpired] at standing
      exact absurd standing ((consistent.inStep key).lives _)
  | @suspend key entry terminus grown _ _ _ _ _ present _ known suspended puts =>
      by_cases same : other = key
      · subst same
        have hasPhase : grown.phase = .suspended := by rw [(Terminus.of_suspend suspended).2]
        exact .of_suspended present puts.self hasPhase (SortedMap.get?_insert_self _ _ _)
          ((consistent.inStep other).purged_of_present present)
      · exact consistent.inStep_of_puts puts rfl (SortedMap.get?_insert_of_ne _ _ same)
          (fun pending => pending) (fun found isFound => sound.terminus_ne present isFound same)
  | @expire entry terminus _ _ epoch identifier _ _ _ present known expires puts =>
      by_cases same : other = identifier.key
      · subst same
        exact .of_absent (SortedMap.get?_erase_self _ _) (SortedMap.get?_erase_self _ _)
      · refine consistent.inStep_of_puts puts (SortedMap.get?_erase_of_ne _ same)
          (SortedMap.get?_erase_of_ne _ same) ?_
          (fun found isFound => sound.terminus_ne present isFound same)
        simp only [purgingAfter]
        split
        · exact fun pending => pending
        · rw [SortedMap.get?_insert_of_ne _ _ same]
          exact fun pending => pending
  | @seed id terminus entry _ vacant _ isPurged known lives isOwn _ =>
      by_cases same : other = terminus.identifier.key
      · subst same
        have isUnnoted : registry.suspended.get? terminus.identifier.key = none :=
          Option.eq_none_iff_forall_ne_some.2 (sound.not_noted vacant)
        have entered := SortedMap.get?_insert_self registry.entries terminus.identifier.key entry
        cases phase : terminus.phase with
        | active => exact .of_active entered (isOwn ▸ known) phase isUnnoted isPurged
        | suspended =>
            exact .of_suspended entered (isOwn ▸ known) phase (SortedMap.get?_insert_self _ _ _)
              isPurged
        | expired => exact absurd phase lives
      · apply (consistent.inStep other).congr
        · exact standing?_congr (SortedMap.get?_insert_of_ne _ _ same) fun _ _ => rfl
        · simp only
          split
          · exact SortedMap.get?_insert_of_ne _ _ same
          · rfl
        · intro pending
          exact (SortedMap.get?_insert_of_ne _ _ same).trans
            ((consistent.inStep other).purged pending)
  | remove identifier _ =>
      by_cases same : other = identifier.key
      · subst same
        exact .of_absent (SortedMap.get?_erase_self _ _) (SortedMap.get?_erase_self _ _)
      · refine (consistent.inStep other).congr ?_ (SortedMap.get?_erase_of_ne _ same) ?_
        · exact standing?_congr (SortedMap.get?_erase_of_ne _ same) fun _ _ => rfl
        · intro pending
          exact (SortedMap.get?_erase_of_ne _ same).trans
            ((consistent.inStep other).purged pending)

/-- Changes keep the table and the termini in step. -/
theorem change (consistent : registry.Consistent)
    (spares : ∀ id ∈ operation.direct?, ¬origin.Holds id)
    (change : Change operation origin registry later) : later.Consistent :=
  ⟨consistent.inStep_change spares change, fun _ _ => (consistent.sound.change change).keyed,
    OnlyActiveLinked.change consistent.linked change⟩

theorem withNow (consistent : registry.Consistent) (now : Nat) :
    Consistent { registry with now } :=
  ⟨fun key => (consistent.inStep key).congr rfl rfl (consistent.inStep key).purged,
    consistent.keyed, consistent.linked⟩

theorem dropTimer (consistent : registry.Consistent) (index : Nat) :
    (registry.dropTimer index).Consistent :=
  ⟨fun key => (consistent.inStep key).congr rfl rfl (consistent.inStep key).purged,
    consistent.keyed, consistent.linked⟩

/-- All moves that spare the table keep the table and the termini in step. -/
theorem follow (consistent : registry.Consistent) (moves : List Move)
    (sparing : registry.Sparing moves) : (registry.follow moves).Consistent := by
  refine consistent.sound.follow_induction consistent ?_ ?_ ?_ moves sparing
  · intro registry now kept
    exact kept.withNow now
  · intro registry index kept
    exact kept.dropTimer index
  · intro operation origin registry later spares _ change kept
    exact kept.change spares change

/-- So does every run that spares the table. -/
theorem run {watch : Watch} (consistent : watch.registry.Consistent)
    {operations : List Operation} (sparing : watch.Sparing operations) :
    (watch.run operations).2.registry.Consistent := by
  obtain ⟨moves, movesSparing, followed⟩ := watch.exists_sparing_run sparing
  rw [← followed]
  exact consistent.follow moves movesSparing

end Consistent

/-- From a new registry on the table and the termini are in step after every list of moves
that spares the table, with any storage and any outages. -/
theorem consistent_of_sparing (config : Config) (storage : Storage) (hasTimers : Bool)
    (moves : List Move)
    (sparing : Sparing { create config storage with hasTimers } moves) :
    Consistent (follow { create config storage with hasTimers } moves) :=
  (Consistent.create config storage hasTimers).follow moves sparing

/-- A terminus is suspended before it is put into the table, expires there, and is followed
by another one for the same link, which is suspended as well. -/
theorem consistent_of_sparing_sample :
    let moves : List Move :=
      [.act (.createTerminus Sample.identifier (Sample.settings "link-detach" 1)),
        .act (.suspendTerminus 0), .act (.tryAdd 0), .pass 1000, .fire 0,
        .act (.openLink (Sample.link "link-detach" 1)), .act (.register 0 false),
        .act (.suspend 0 .linkDetach)]
    Sample.registry.Sparing moves ∧ (Sample.registry.follow moves).Consistent ∧
      (Sample.registry.follow moves).standing? Sample.identifier.key = some (.suspended, 1) := by
  intro moves
  have sparing : Sample.registry.Sparing moves := by
    simp only [moves, Sparing, Move.SparesTable, Operation.direct?, Option.mem_def]
    refine ⟨by simp, ?_, by simp⟩
    intro id _ holds
    rcases holds with ⟨key, entry, present, _⟩
    cases present
  refine ⟨sparing, ?_, by decide +kernel⟩
  exact consistent_of_sparing default { store := .memory {} } true moves sparing

end Reattach.Registry
