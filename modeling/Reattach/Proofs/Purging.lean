import Reattach.Proofs.Bare
import Reattach.Proofs.Expiry

/-!
# What expired termini leave

The records of a terminus are dropped when it expires.  If the store fails, the identifier is
noted, and whoever wants to use it again drops the records first.  So whatever fails, and
however often, no later terminus of the identifier meets them.
-/

namespace Reattach

/-- That a move notes deliveries only through a terminus of the table, and saves no records
past it. -/
def Move.RecordsInTable (registry : Registry) : Move → Prop
  | .act (.noteDelivery id _ _) => registry.Holds id
  | .act (.callStore (.save _ _)) => False
  | _ => True

namespace Registry

/-- That all of a list of moves do. -/
def RecordsInTable (registry : Registry) : List Move → Prop
  | [] => True
  | first :: rest => first.RecordsInTable registry ∧ (registry.move first).RecordsInTable rest

/-- That a move takes the terminus of a key out of the table by letting it expire. -/
def Expires (registry : Registry) (key : Identifier.Key) (move : Move) : Prop :=
  ∃ moment identifier epoch, Tries registry move moment identifier epoch ∧
    identifier.key = key ∧ (moment.expireEpoch identifier epoch).1 = true

/-- That a move takes the terminus of a key out of the table as it is. -/
def TakesOut (registry : Registry) (key : Identifier.Key) (move : Move) : Prop :=
  ∃ identifier : Identifier, identifier.key = key ∧ move = .act (.tryRemove identifier) ∧
    registry.entries.get? key ≠ none

/-- That the last move to take the terminus of a key out of the table let it expire. -/
inductive LeftByExpiry (registry : Registry) (key : Identifier.Key) : List Move → Prop where
  | expires {moves : List Move} {move : Move}
      (expires : (registry.follow moves).Expires key move) :
      LeftByExpiry registry key (moves ++ [move])
  | later {moves : List Move} {move : Move} (left : LeftByExpiry registry key moves)
      (stays : ¬(registry.follow moves).TakesOut key move) :
      LeftByExpiry registry key (moves ++ [move])

variable {operation : Operation} {origin registry later : Registry}
variable {key : Identifier.Key} {identifier : Identifier}

theorem recordsInTable_append {first second : List Move} :
    registry.RecordsInTable (first ++ second) ↔
      registry.RecordsInTable first ∧ (registry.follow first).RecordsInTable second := by
  induction first generalizing registry with
  | nil => simp [RecordsInTable]
  | cons move rest ih => simp only [List.cons_append, RecordsInTable, ih, and_assoc, follow_cons]

/-! ## Nothing is left unnoted -/

/-- That an identifier without a terminus has no records, or they are noted as still to be
dropped. -/
def IsSwept (registry : Registry) (identifier : Identifier) : Prop :=
  registry.entries.get? identifier.key = none →
    registry.storage.IsBare identifier ∨ registry.purging.get? identifier.key ≠ none

theorem isSwept_of_present {entry : Entry}
    (present : registry.entries.get? identifier.key = some entry) :
    registry.IsSwept identifier :=
  fun absent => absurd absent (SortedMap.get?_ne_none present)

theorem IsSwept.insert (swept : registry.IsSwept identifier) {entry : Entry}
    (entries : later.entries = registry.entries.insert key entry)
    (storage : later.storage = registry.storage) (purging : later.purging = registry.purging) :
    later.IsSwept identifier := by
  intro absent
  rw [entries] at absent
  rw [storage, purging]
  by_cases same : identifier.key = key
  · rw [same, SortedMap.get?_insert_self] at absent
    cases absent
  · rw [SortedMap.get?_insert_of_ne _ _ same] at absent
    exact swept absent

/-- Every change leaves identifiers swept, unless it is there to change records or to take
termini out of the table as they are. -/
theorem IsSwept.change (swept : registry.IsSwept identifier)
    (isReading : operation.writesRecords = false)
    (untaken : ∀ other, operation ≠ .tryRemove other)
    (change : Change operation origin registry later) : later.IsSwept identifier := by
  cases change with
  | links | create | refresh | direct | suspend | setTimer => exact swept
  | store kept =>
      intro absent
      rcases kept with writes | same
      · rw [isReading] at writes
        cases writes
      · exact (swept absent).imp_left (congrArg (Store.retrieveAll identifier) same).trans
  | purge other _ dropped emptied =>
      intro absent
      by_cases same : identifier.key = other.key
      · cases outcome : (registry.storage.removeAll other).1 with
        | ok _ =>
            have isBare := Storage.held_removeAll_of_ok outcome
            exact .inl ((Storage.held_congr _ same).trans isBare)
        | error _ =>
            have stays := Storage.held_removeAll_of_error outcome identifier
            rcases emptied with unchanged | ⟨_, removed⟩
            · rw [unchanged]
              exact (swept absent).imp_left stays.trans
            · rw [outcome] at removed
              cases removed
      · refine (swept absent).imp (Storage.held_removeAll_of_ne _ same).trans ?_
        rcases dropped with unchanged | erased
        · rw [unchanged]
          exact id
        · rw [erased, SortedMap.get?_erase_of_ne _ same]
          exact id
  | enter | reenter | refuse | seed => exact swept.insert rfl rfl rfl
  | expire other =>
      intro absent
      by_cases same : identifier.key = other.key
      · cases outcome : (registry.storage.removeAll other).1 with
        | ok _ =>
            have isBare := Storage.held_removeAll_of_ok outcome
            exact .inl ((Storage.held_congr _ same).trans isBare)
        | error _ => simp [purgingAfter, outcome, same]
      · simp only [SortedMap.get?_erase_of_ne _ same] at absent
        refine (swept absent).imp (Storage.held_removeAll_of_ne _ same).trans ?_
        simp only [purgingAfter]
        split
        · exact id
        · rw [SortedMap.get?_insert_of_ne _ _ same]
          exact id
  | remove other asked => exact absurd asked (untaken other)

theorem IsSwept.changes (swept : registry.IsSwept identifier)
    (isReading : operation.writesRecords = false)
    (untaken : ∀ other, operation ≠ .tryRemove other)
    (changes : Changes operation origin registry later) : later.IsSwept identifier := by
  induction changes with
  | refl => exact swept
  | tail _ last ih => exact ih.change isReading untaken last

theorem IsSwept.withStorage (swept : registry.IsSwept identifier) {storage : Storage}
    (keeps : registry.entries.get? identifier.key = none →
      registry.storage.IsBare identifier → storage.IsBare identifier) :
    IsSwept { registry with storage } identifier :=
  fun absent => (swept absent).imp_left (keeps absent)

theorem Sound.isSwept_noteDelivery (sound : registry.Sound)
    (swept : registry.IsSwept identifier) {id : TerminusId} (tag : Tag) (state : State)
    (holds : registry.Holds id) :
    (registry.after (.noteDelivery id tag state)).IsSwept identifier := by
  obtain ⟨key, entry, present, rfl⟩ := holds
  obtain ⟨terminus, known, isOwn⟩ := sound.keyed present
  simp only [after, Operation.isInstant, if_true, Watch.perform, Watch.onTerminus, known]
  apply swept.withStorage
  intro absent isBare
  have apart : identifier.key ≠ terminus.identifier.key := by
    rw [isOwn]
    exact (SortedMap.ne_of_get? present absent).symm
  exact (Storage.held_noteDelivery_of_ne _ apart tag state).trans isBare

/-- Every move that notes deliveries through the table leaves an identifier swept, unless it
takes its terminus out as it is. -/
theorem Sound.isSwept_move (sound : registry.Sound) (swept : registry.IsSwept identifier)
    {move : Move} (inTable : move.RecordsInTable registry)
    (stays : ¬registry.TakesOut identifier.key move) :
    (registry.move move).IsSwept identifier := by
  cases move with
  | pass time => exact swept
  | fire index =>
      have sweptThen : (registry.dropTimer index).IsSwept identifier := swept
      rw [Registry.move]
      refine fire_induction index swept fun timer => ?_
      exact sweptThen.changes rfl (by simp) (sound.fired_changes index timer)
  | act operation =>
      cases operation with
      | noteDelivery id tag state => exact sound.isSwept_noteDelivery swept tag state inTable
      | settleDelivery id tag =>
          simp only [Registry.move, after, Operation.isInstant, if_true, Watch.perform,
            Watch.onTerminus]
          split
          · exact swept
          · exact swept.withStorage fun _ isBare => isBare.remove _ tag
      | applyPlan plan =>
          exact swept.withStorage fun _ isBare => isBare.carryOutAll plan.identifier plan.steps
      | callStore call =>
          refine swept.withStorage fun _ isBare => isBare.call ?_
          rintro other record rfl
          exact inTable
      | tryRemove other =>
          intro absent
          by_cases same : identifier.key = other.key
          · have wasAbsent : registry.entries.get? identifier.key = none := by
              by_contra isPresent
              exact stays ⟨other, same.symm, rfl, isPresent⟩
            exact swept wasAbsent
          · exact swept ((SortedMap.get?_erase_of_ne _ same).symm.trans absent)
      | _ => exact swept.changes rfl (by simp) (sound.after_changes _)

theorem reads_of_arranged (calls : (registry.arranged operation).1 ≠ []) :
    operation.writesRecords = false ∧ ∀ other, operation ≠ .tryRemove other := by
  cases operation with
  | noteDelivery | settleDelivery | applyPlan | callStore | tryRemove => exact absurd rfl calls
  | _ => exact ⟨rfl, by simp⟩

/-- A move that lets a terminus expire leaves its identifier swept. -/
theorem Sound.isSwept_of_expires (sound : registry.Sound) {move : Move}
    (expires : registry.Expires identifier.key move) :
    (registry.move move).IsSwept identifier := by
  obtain ⟨moment, other, epoch, tries, same, isTrue⟩ := expires
  -- It is in the table when it expires, and what happens from then on are changes.
  obtain ⟨noted, note, _⟩ := (tries.sound sound).expireEpoch_iff.1 isTrue
  obtain ⟨entry, _, present, _⟩ := (tries.sound sound).noted note
  have swept : moment.IsSwept identifier := isSwept_of_present (same ▸ present)
  cases tries with
  | asked other => exact swept.changes rfl (by simp) (sound.after_changes (.expire other))
  | @timer index timer isSet isDue =>
      simp only [Registry.move, fire, isSet, isDue, if_true]
      exact swept.changes rfl (by simp) (sound.fired_changes index timer)
  | @atOnce operation earlier rest pending called _ =>
      have ready := (sound.arranging called).2
      have soundThen := sound.changes (sound.arranging called).1
      obtain ⟨isReading, untaken⟩ := reads_of_arranged (List.ne_nil_of_mem
        (called ▸ List.mem_append_right earlier List.mem_cons_self))
      rw [Registry.move, after_eq_arrangeAll, called, arrangeAll_append]
      exact swept.changes isReading untaken (soundThen.arrangeAll operation ready).1

/-- An identifier whose terminus has left by expiry is swept from then on. -/
theorem isSwept_of_leftByExpiry {moves : List Move} (sound : registry.Sound)
    (left : registry.LeftByExpiry identifier.key moves)
    (inTable : registry.RecordsInTable moves) : (registry.follow moves).IsSwept identifier := by
  induction left with
  | expires expires =>
      rw [follow_append]
      exact (sound.follow _).isSwept_of_expires expires
  | later left stays ih =>
      rw [recordsInTable_append] at inTable
      rw [follow_append]
      exact (sound.follow _).isSwept_move (ih inTable.1) inTable.2.1 stays

/-! ## Where records are still to be dropped -/

/-- That no identifier is in the table of which records are still to be dropped. -/
def PurgesOutside (registry : Registry) : Prop :=
  ∀ key, registry.purging.get? key ≠ none → registry.entries.get? key = none

theorem PurgesOutside.insert (outside : registry.PurgesOutside)
    (purged : registry.purging.get? key = none) {entry : Entry}
    (entries : later.entries = registry.entries.insert key entry)
    (purging : later.purging = registry.purging) : later.PurgesOutside := by
  intro other pending
  rw [purging] at pending
  have apart : other ≠ key := by
    rintro rfl
    exact pending purged
  rw [entries, SortedMap.get?_insert_of_ne _ _ apart]
  exact outside other pending

theorem PurgesOutside.purged_of_present (outside : registry.PurgesOutside) {entry : Entry}
    (present : registry.entries.get? key = some entry) : registry.purging.get? key = none := by
  by_contra pending
  rw [outside key pending] at present
  cases present

theorem PurgesOutside.change (outside : registry.PurgesOutside)
    (change : Change operation origin registry later) : later.PurgesOutside := by
  cases change with
  | links | store | create | refresh | direct | suspend | setTimer => exact outside
  | purge _ _ dropped =>
      rcases dropped with rfl | rfl
      · exact outside
      · intro other pending
        apply outside other
        intro purged
        simp [SortedMap.get?_erase, purged] at pending
  | enter _ _ _ _ purged => exact outside.insert purged rfl rfl
  | seed _ _ _ purged => exact outside.insert purged rfl rfl
  | reenter _ _ present => exact outside.insert (outside.purged_of_present present) rfl rfl
  | refuse _ _ present => exact outside.insert (outside.purged_of_present present) rfl rfl
  | remove other _ =>
      intro key pending
      simp only [SortedMap.get?_erase, outside key pending, ite_self]
  | expire other =>
      intro key pending
      by_cases same : key = other.key
      · simp only [same, SortedMap.get?_erase_self]
      · simp only [SortedMap.get?_erase_of_ne _ same]
        apply outside key
        simp only [purgingAfter] at pending
        split at pending
        · exact pending
        · rwa [SortedMap.get?_insert_of_ne _ _ same] at pending

theorem PurgesOutside.changes (outside : registry.PurgesOutside)
    (changes : Changes operation origin registry later) : later.PurgesOutside := by
  induction changes with
  | refl => exact outside
  | tail _ last ih => exact ih.change last

theorem Sound.purgesOutside_move (sound : registry.Sound) (outside : registry.PurgesOutside)
    (move : Move) : (registry.move move).PurgesOutside := by
  cases move with
  | act operation => exact outside.changes (sound.after_changes operation)
  | pass time => exact outside
  | fire index =>
      have outsideThen : (registry.dropTimer index).PurgesOutside := outside
      rw [Registry.move]
      refine fire_induction index outside fun timer => ?_
      exact outsideThen.changes (sound.fired_changes index timer)

theorem Sound.purgesOutside_follow (sound : registry.Sound) (outside : registry.PurgesOutside)
    (moves : List Move) : (registry.follow moves).PurgesOutside := by
  induction moves generalizing registry with
  | nil => exact outside
  | cons move rest ih => exact ih (sound.move move) (sound.purgesOutside_move outside move)

/-! ## Using an identifier again -/

theorem isPurgePending_iff :
    registry.isPurgePending identifier = true ↔ registry.purging.get? identifier.key ≠ none := by
  rw [isPurgePending, SortedMap.contains, Option.isSome_iff_ne_none]

/-- That an operation, where records of an identifier are still to be dropped, begins by
dropping them, and then goes on as if they had never been there.  If the store fails, so
does the operation, and the table, all records and what is noted about them stay. -/
def DropsFirst {Result : Type} (registry : Registry) (identifier : Identifier)
    (refusal : StoreError → Result) (operate : Registry → Result × Registry) : Prop :=
  let dropped := registry.storage.removeAll identifier
  (∃ error, dropped.1 = .error error ∧
      operate registry = (refusal error, { registry with storage := dropped.2 }) ∧
      ∀ other, dropped.2.held other = registry.storage.held other) ∨
    ∃ count, dropped.1 = .ok count ∧ dropped.2.IsBare identifier ∧
      operate registry = operate { registry with
        storage := dropped.2
        purging := registry.purging.erase identifier.key }

theorem finishPurge_of_pending {registry : Registry} {identifier : Identifier}
    (pending : registry.isPurgePending identifier = true) :
    let dropped := registry.storage.removeAll identifier
    (∃ error, dropped.1 = .error error ∧
        registry.finishPurge identifier = (.error error, { registry with storage := dropped.2 }) ∧
        ∀ other, dropped.2.held other = registry.storage.held other) ∨
      ∃ count, dropped.1 = .ok count ∧ dropped.2.IsBare identifier ∧
        registry.finishPurge identifier = (.ok (), { registry with
          storage := dropped.2
          purging := registry.purging.erase identifier.key }) := by
  intro dropped
  obtain ⟨_, purged⟩ | ⟨error, failed, refused⟩ | ⟨count, removed, purges⟩ :=
    finishPurge_cases registry identifier
  · exact absurd purged (isPurgePending_iff.1 pending)
  · exact .inl ⟨error, failed, refused, Storage.held_removeAll_of_error failed⟩
  · exact .inr ⟨count, removed, Storage.held_removeAll_of_ok removed, purges⟩

theorem finishPurge_of_purged {registry : Registry} {identifier : Identifier}
    (purged : registry.purging.get? identifier.key = none) :
    registry.finishPurge identifier = (.ok (), registry) := by
  simp [finishPurge, isPurgePending, SortedMap.contains, purged]

/-- An operation drops first if it is refused where dropping is, and otherwise goes on from
where dropping has led. -/
theorem dropsFirst_of_finishPurge {Result : Type} {refusal : StoreError → Result}
    {operate goOn : Registry → Result × Registry}
    (pending : registry.isPurgePending identifier = true)
    (refuses : ∀ error later, registry.finishPurge identifier = (.error error, later) →
      operate registry = (refusal error, later))
    (goesOn : ∀ storage purging later,
      finishPurge { registry with storage, purging } identifier = (.ok (), later) →
        operate { registry with storage, purging } = goOn later) :
    registry.DropsFirst identifier refusal operate := by
  rcases finishPurge_of_pending pending with
    ⟨error, failed, refused, stays⟩ | ⟨count, removed, isBare, purged⟩
  · exact .inl ⟨error, failed, refuses _ _ refused, stays⟩
  · refine .inr ⟨count, removed, isBare, (goesOn _ _ _ purged).trans (goesOn _ _ _ ?_).symm⟩
    -- A second time there is nothing left to be dropped.
    exact finishPurge_of_purged (SortedMap.get?_erase_self _ _)

theorem register_of_finishPurge {id : LinkId} {link : Link} {exclusive : Bool}
    (known : registry.links[id]? = some link)
    (absent : registry.entries.get? link.identifier.key = none)
    (purges : registry.finishPurge link.identifier = (.ok (), later)) :
    registry.register id exclusive =
      if exclusive && later.isHeldByOther link.identifier id then
        (.error (.fault (.duplicateTerminus link.identifier)), later)
      else
        later.takeOver link id := by
  simp only [register, known, attach, prepare, entry?, absent, purges]

/-- Attaching a link drops first what an earlier terminus has left. -/
theorem register_dropsFirst {id : LinkId} {link : Link} (known : registry.links[id]? = some link)
    (absent : registry.entries.get? link.identifier.key = none)
    (pending : registry.isPurgePending link.identifier = true) (exclusive : Bool) :
    registry.DropsFirst link.identifier (fun error => .error (.store error))
      fun registry => registry.register id exclusive := by
  apply dropsFirst_of_finishPurge pending
  · intro error later refused
    simp only [register, known, attach, prepare, entry?, absent, refused]
  · intro storage purging later purges
    apply register_of_finishPurge
    · exact known
    · exact absent
    · exact purges

theorem tryAdd_of_finishPurge {id : TerminusId} {terminus : Terminus}
    (known : registry.termini[id]? = some terminus)
    (absent : registry.entries.get? terminus.identifier.key = none)
    (purges : registry.finishPurge terminus.identifier = (.ok (), later)) :
    registry.tryAdd id =
      if terminus.phase = .expired then
        (false, later)
      else
        (true, (later.seed id terminus).2.arrangeAll (later.seed id terminus).1.toList) := by
  simp only [tryAdd_eq, accept, known, entry?, absent, purges]
  split
  · rfl
  · rfl

/-- So does putting a terminus into the table. -/
theorem tryAdd_dropsFirst {id : TerminusId} {terminus : Terminus}
    (known : registry.termini[id]? = some terminus)
    (absent : registry.entries.get? terminus.identifier.key = none)
    (pending : registry.isPurgePending terminus.identifier = true) :
    registry.DropsFirst terminus.identifier (fun _ => false)
      fun registry => registry.tryAdd id := by
  apply dropsFirst_of_finishPurge pending
  · intro error later refused
    simp only [tryAdd, known, addKnown, entry?, absent, refused]
  · intro storage purging later purges
    apply tryAdd_of_finishPurge
    · exact known
    · exact absent
    · exact purges

/-! ## New termini -/

/-- That a terminus, which is that of an identifier in the table, has no records. -/
def StartsBare (registry : Registry) (identifier : Identifier) (id : TerminusId) : Prop :=
  (registry.entries.get? identifier.key).map (·.terminus) = some id ∧
    ∃ created, registry.termini[id]? = some created ∧ created.identifier = identifier ∧
      registry.storage.IsBare created.identifier

/-- Attaching a link to an identifier that is not in the table makes a terminus for it. -/
theorem Sound.takeOver_of_absent (sound : registry.Sound) {link : Link}
    (absent : registry.entries.get? link.identifier.key = none) (id : LinkId) :
    ∃ fresh created termini channel, termini[fresh]? = some created ∧
      created.identifier = link.identifier ∧
      registry.takeOver link id = (.ok fresh, { registry with
        termini
        channel
        entries :=
          registry.entries.insert link.identifier.key (registry.enteredEntry link fresh)
        suspended := registry.suspended.erase link.identifier.key }) := by
  rcases sound.enter_cases link with
    ⟨fresh, terminus, termini, _, _, isOwn, isFree, isActive, created, entered⟩ |
    ⟨_, _, _, present, _⟩
  · rcases associate_cases { registry with
        termini
        entries := registry.entries.insert link.identifier.key
          (registry.enteredEntry link fresh) } created.self id with
      ⟨_, _, hasExpired⟩ | ⟨displaced, grown, channel, moved, associated, puts, changed⟩
    · rw [isActive] at hasExpired
      cases hasExpired
    · -- It has no link before, so none is displaced.
      simp only [Terminus.associate, isActive, isFree, Option.filter_none, Except.ok.injEq,
        Prod.mk.injEq] at associated
      obtain ⟨rfl, rfl⟩ := associated
      refine ⟨fresh, _, moved, channel, puts.self, isOwn, ?_⟩
      simp only [takeOver, entered, changed]
  · rw [absent] at present
    cases present

theorem Sound.startsBare_takeOver (sound : registry.Sound) {link : Link} {id : LinkId}
    {terminus : TerminusId} (absent : registry.entries.get? link.identifier.key = none)
    (isBare : registry.storage.IsBare link.identifier)
    (attached : (registry.takeOver link id).1 = .ok terminus) :
    (registry.takeOver link id).2.StartsBare link.identifier terminus := by
  obtain ⟨fresh, created, termini, channel, known, isOwn, made⟩ :=
    sound.takeOver_of_absent absent id
  rw [made] at attached ⊢
  cases attached
  refine ⟨?_, created, known, isOwn, ?_⟩
  · simp only [SortedMap.get?_insert_self, Option.map_some, enteredEntry]
  · rw [isOwn]
    exact isBare

/-- A terminus that is made for a link where the identifier is swept has no records. -/
theorem Sound.startsBare_register (sound : registry.Sound) {id : LinkId} {link : Link}
    {exclusive : Bool} {terminus : TerminusId} (swept : registry.IsSwept link.identifier)
    (known : registry.links[id]? = some link)
    (absent : registry.entries.get? link.identifier.key = none)
    (attached : (registry.register id exclusive).1 = .ok terminus) :
    (registry.register id exclusive).2.StartsBare link.identifier terminus := by
  have startsBare {purged : Registry} (soundThen : purged.Sound)
      (purges : registry.finishPurge link.identifier = (.ok (), purged))
      (entries : purged.entries = registry.entries)
      (isBare : purged.storage.IsBare link.identifier) :
      (registry.register id exclusive).2.StartsBare link.identifier terminus := by
    rw [register_of_finishPurge known absent purges] at attached ⊢
    split at attached
    · cases attached
    · next isFree =>
        rw [if_neg isFree]
        exact soundThen.startsBare_takeOver (entries ▸ absent) isBare attached
  obtain ⟨unchanged, purged⟩ | ⟨error, _, failed⟩ | ⟨_, removed, dropped⟩ :=
    finishPurge_cases registry link.identifier
  · exact startsBare sound unchanged rfl ((swept absent).resolve_right (· purged))
  · simp only [register, known, attach, prepare, entry?, absent, failed] at attached
    cases attached
  · refine startsBare ?_ dropped rfl (Storage.held_removeAll_of_ok removed)
    exact ⟨sound.keyed, sound.noted⟩

/-! ## Other identifiers -/

/-- That two registries know the same of an identifier. -/
structure AgreesOn (registry later : Registry) (identifier : Identifier) : Prop where
  entry : later.entries.get? identifier.key = registry.entries.get? identifier.key
  standing : later.standing? identifier.key = registry.standing? identifier.key
  noted : later.suspended.get? identifier.key = registry.suspended.get? identifier.key
  pending : later.purging.get? identifier.key = registry.purging.get? identifier.key
  held : later.storage.held identifier = registry.storage.held identifier

/-- An expiry leaves other identifiers, also if the store fails. -/
theorem Sound.expireEpoch_agreesOn (sound : registry.Sound) {epoch : Option Nat}
    {other : Identifier} (apart : other.key ≠ identifier.key) :
    registry.AgreesOn (registry.expireEpoch identifier epoch).2 other := by
  rcases sound.expireEpoch_cases identifier epoch with ⟨unchanged, _⟩ |
    ⟨_, gone, _, _, _, _, _, wasPresent, _, puts, changed⟩
  · rw [unchanged]
    exact ⟨rfl, rfl, rfl, rfl, rfl⟩
  · rw [changed]
    refine ⟨?_, ?_, ?_, ?_, ?_⟩
    · exact SortedMap.get?_erase_of_ne _ apart
    · apply standing?_congr
      · exact SortedMap.get?_erase_of_ne _ apart
      · intro entry present
        exact puts.of_ne (sound.terminus_ne wasPresent present apart)
    · exact SortedMap.get?_erase_of_ne _ apart
    · simp only [purgingAfter]
      split
      · rfl
      · rw [SortedMap.get?_insert_of_ne _ _ apart]
    · exact Storage.held_removeAll_of_ne _ apart

/-- What the store does not drop stays, and is noted. -/
theorem Sound.expireEpoch_of_error (sound : registry.Sound) {epoch : Option Nat}
    {error : StoreError} (isTrue : (registry.expireEpoch identifier epoch).1 = true)
    (failed : (registry.storage.removeAll identifier).1 = .error error) :
    (registry.expireEpoch identifier epoch).2.isPurgePending identifier = true ∧
      (registry.expireEpoch identifier epoch).2.storage.held identifier =
        registry.storage.held identifier := by
  rcases sound.expireEpoch_cases identifier epoch with ⟨unchanged, _⟩ |
    ⟨_, _, _, _, _, _, _, _, _, _, changed⟩
  · rw [unchanged] at isTrue
    cases isTrue
  · rw [changed, isPurgePending_iff]
    constructor
    · simp [purgingAfter, failed]
    · exact Storage.held_removeAll_of_error failed identifier

/-- The records of a terminus that has expired never reach a later one, whichever calls to the
store fail.  If deliveries are noted only through the table, an identifier whose terminus was
last taken out by an expiry has no records, or they are noted as still to be dropped; and the
terminus that is made for its next link begins without records.  Whoever uses an identifier
of which records are still to be dropped drops them first, or is refused and nothing has
changed.  An expiry leaves all that is known of other identifiers; if the store fails, the
records stay and are noted. -/
theorem expired_records_never_return (config : Config) (storage : Storage) (hasTimers : Bool)
    (moves : List Move) :
    let origin : Registry := { create config storage with hasTimers }
    let registry := origin.follow moves
    (origin.RecordsInTable moves → ∀ identifier : Identifier,
      registry.entries.get? identifier.key = none →
      origin.LeftByExpiry identifier.key moves →
        (registry.storage.IsBare identifier ∨ registry.isPurgePending identifier = true) ∧
        ∀ id link exclusive terminus, registry.links[id]? = some link →
          link.identifier.key = identifier.key →
          (registry.register id exclusive).1 = .ok terminus →
          (registry.register id exclusive).2.StartsBare link.identifier terminus) ∧
    (∀ (id : LinkId) link exclusive, registry.links[id]? = some link →
      registry.isPurgePending link.identifier = true →
      registry.DropsFirst link.identifier (fun error => .error (.store error))
        fun registry => registry.register id exclusive) ∧
    (∀ (id : TerminusId) terminus, registry.termini[id]? = some terminus →
      registry.isPurgePending terminus.identifier = true →
      registry.DropsFirst terminus.identifier (fun _ => false)
        fun registry => registry.tryAdd id) ∧
    ∀ move moment identifier epoch, Tries registry move moment identifier epoch →
      let expired := moment.expireEpoch identifier epoch
      (∀ other : Identifier, other.key ≠ identifier.key → moment.AgreesOn expired.2 other) ∧
      ∀ error, expired.1 = true → (moment.storage.removeAll identifier).1 = .error error →
        expired.2.isPurgePending identifier = true ∧
        expired.2.storage.held identifier = moment.storage.held identifier := by
  intro origin registry
  have soundAtFirst : origin.Sound := Sound.create config storage hasTimers
  have sound : registry.Sound := soundAtFirst.follow moves
  have outside : registry.PurgesOutside :=
    soundAtFirst.purgesOutside_follow (fun _ pending => absurd rfl pending) moves
  refine ⟨?_, ?_, ?_, ?_⟩
  · intro inTable identifier absent left
    have swept := isSwept_of_leftByExpiry soundAtFirst left inTable
    refine ⟨(swept absent).imp_right isPurgePending_iff.2, ?_⟩
    intro id link exclusive terminus known same attached
    have sweptLink : registry.IsSwept link.identifier :=
      isSwept_of_leftByExpiry soundAtFirst (same ▸ left) inTable
    exact sound.startsBare_register sweptLink known (same ▸ absent) attached
  · intro id link exclusive known pending
    exact register_dropsFirst known (outside _ (isPurgePending_iff.1 pending)) pending exclusive
  · intro id terminus known pending
    exact tryAdd_dropsFirst known (outside _ (isPurgePending_iff.1 pending)) pending
  · intro move moment identifier epoch tries expired
    have soundThen := tries.sound sound
    exact ⟨fun other apart => soundThen.expireEpoch_agreesOn apart,
      fun error isTrue failed => soundThen.expireEpoch_of_error isTrue failed⟩

end Registry

/-- A terminus with a record is suspended, and the store is about to fail once. -/
def Sample.suspendedWithRecord : List Move :=
  [.act (.openLink (link "link-detach" 1)), .act (.register 0 false),
    .act (.noteDelivery 0 ⟨[1]⟩ .received), .act (.suspend 0 .linkDetach),
    .act (.setOutages { removeAll := .first 1 })]

namespace Registry

/-- It expires and its record stays.  The terminus that is made for the link after that begins
without it, and whoever puts the old one back drops it. -/
theorem expired_records_never_return_sample :
    let before := Sample.registry.follow Sample.suspendedWithRecord
    let registry := (before.expire Sample.identifier).2
    (registry.storage.held Sample.identifier).toOption =
        some (.ofList [(⟨[1]⟩, { tag := ⟨[1]⟩, state := .received })]) ∧
      registry.isPurgePending Sample.identifier = true ∧
      (registry.register 0 false).1.toOption = some 1 ∧
      (registry.register 0 false).2.StartsBare Sample.identifier 1 ∧
      registry.DropsFirst Sample.identifier (fun error => .error (.store error))
        (fun registry => registry.register 0 true) ∧
      registry.DropsFirst Sample.identifier (fun _ => false)
        fun registry => registry.tryAdd 0 := by
  intro before registry
  let moves := Sample.suspendedWithRecord ++ [.act (.expire Sample.identifier)]
  have inTable : Sample.registry.RecordsInTable moves := by
    simp only [moves, Sample.suspendedWithRecord, List.cons_append, List.nil_append,
      RecordsInTable, Move.RecordsInTable, true_and, and_true]
    exact ⟨Sample.identifier.key, ⟨0, some (.ofChannel 1 1), .linkDetach, 1000⟩,
      by decide +kernel, rfl⟩
  have left : Sample.registry.LeftByExpiry Sample.identifier.key moves :=
    .expires ⟨_, Sample.identifier, none, .asked _, rfl, by decide +kernel⟩
  obtain ⟨_, _, _, expires⟩ := expired_records_never_return default { store := .memory {} } true
    Sample.suspendedWithRecord
  obtain ⟨_, stays⟩ := expires _ before Sample.identifier none (.asked _)
  obtain ⟨pending, held⟩ := stays (.unavailable Sample.identifier) (by decide +kernel) rfl
  obtain ⟨swept, registers, adds, _⟩ :=
    expired_records_never_return default { store := .memory {} } true moves
  obtain ⟨_, startsBare⟩ := swept inTable Sample.identifier (by decide +kernel) left
  have attached : (registry.register 0 false).1.toOption = some 1 := by decide +kernel
  have knows : (registry.termini[0]?).map (·.identifier) = some Sample.identifier := rfl
  obtain ⟨old, known, isOwn⟩ := Option.map_eq_some_iff.1 knows
  refine ⟨?_, pending, attached, ?_, ?_, ?_⟩
  · exact (congrArg Except.toOption held).trans (by decide +kernel)
  · exact startsBare 0 (Sample.link "link-detach" 1) false 1 rfl rfl (eq_ok_of_toOption attached)
  · exact registers 0 (Sample.link "link-detach" 1) true rfl pending
  · exact isOwn ▸ adds 0 old known (isOwn.symm ▸ pending)

end Registry

end Reattach
