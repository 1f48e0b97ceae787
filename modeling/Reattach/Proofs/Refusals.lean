import Reattach.Proofs.Episodes

/-!
# Links that are refused

A link is refused where the store cannot drop what an earlier terminus has left, where an
exclusive attach finds the terminus held by another live link, and where the terminus in the
table has expired behind the registry's back.  The first two are found out before anything is
written.  The third is found out too late: the entry and the settings have been overwritten
with those of the link by then, and stay so.
-/

namespace Reattach.Registry

variable {registry later : Registry} {link : Link} {id : LinkId} {exclusive : Bool}
variable {error : RegistryError} {entry : Entry} {terminus : Terminus}

/-- That all is as it was, but for the count of calls that the store has been given. -/
def IsUntouched (registry later : Registry) : Prop :=
  ∃ storage, storage.store = registry.storage.store ∧ later = { registry with storage }

/-- The registry with what a link brings written over an entry and its terminus. -/
def overwritten (registry : Registry) (link : Link) (entry : Entry) (terminus : Terminus) :
    Registry :=
  { registry with
    entries := registry.entries.insert link.identifier.key
      (registry.enteredEntry link entry.terminus)
    termini := registry.termini.setIfInBounds entry.terminus
      { terminus with settings := link.settings } }

/-- Why a link is refused, and what that leaves. -/
inductive Refuses (registry : Registry) (link : Link) (id : LinkId) (exclusive : Bool) :
    RegistryError → Registry → Prop where
  /-- The store cannot drop what an earlier terminus has left. -/
  | undropped {cause : StoreError} {storage : Storage}
      (vacant : registry.entry? link.identifier = none)
      (isPending : registry.isPurgePending link.identifier = true)
      (fails : registry.storage.removeAll link.identifier = (.error cause, storage)) :
      Refuses registry link id exclusive (.store cause) { registry with storage }
  /-- Another live link holds the terminus. -/
  | held (isExclusive : exclusive = true)
      (isHeld : registry.isHeldByOther link.identifier id = true) :
      Refuses registry link id exclusive (.fault (.duplicateTerminus link.identifier)) registry
  /-- The terminus in the table has expired. -/
  | expired {entry : Entry} {terminus : Terminus}
      (present : registry.entry? link.identifier = some entry)
      (known : registry.termini[entry.terminus]? = some terminus)
      (hasExpired : terminus.phase = .expired) :
      Refuses registry link id exclusive (.fault (.terminusExpired terminus.identifier))
        (registry.overwritten link entry terminus)

/-! ## When a link is refused -/

theorem enter_of_present (present : registry.entry? link.identifier = some entry)
    (known : registry.termini[entry.terminus]? = some terminus) :
    registry.enter link = (entry.terminus, registry.overwritten link entry terminus) := by
  simp only [enter, present, updateSettings, known, putTerminus, overwritten, enteredEntry]

/-- An expired terminus takes no link. -/
theorem takeOver_of_expired (present : registry.entry? link.identifier = some entry)
    (known : registry.termini[entry.terminus]? = some terminus)
    (hasExpired : terminus.phase = .expired) (id : LinkId) :
    registry.takeOver link id =
      (.error (.fault (.terminusExpired terminus.identifier)),
        registry.overwritten link entry terminus) := by
  have inPlace : (registry.overwritten link entry terminus).termini[entry.terminus]? =
      some { terminus with settings := link.settings } :=
    (Puts.set known _).self
  simp only [takeOver, enter_of_present present known, associate, inPlace, Terminus.associate,
    hasExpired]

/-- Any other terminus that is entered for a link does. -/
theorem exists_takeOver_of_entered {whose : TerminusId} {ready : Registry}
    (entered : registry.enter link = (whose, ready))
    (isThere : ready.termini[whose]? = some terminus) (lives : terminus.phase ≠ .expired)
    (id : LinkId) : ∃ found, (registry.takeOver link id).1 = .ok found := by
  simp only [takeOver, entered]
  rcases associate_cases ready isThere id with
    ⟨_, _, hasExpired⟩ | ⟨displaced, _, _, _, _, _, changed⟩
  · exact absurd hasExpired lives
  · simp only [changed]
    cases displaced <;> exact ⟨_, rfl⟩

/-- So the attach goes through unless the table has an expired terminus. -/
theorem Sound.exists_takeOver (sound : registry.Sound) (link : Link)
    (lives : ∀ entry terminus, registry.entry? link.identifier = some entry →
      registry.termini[entry.terminus]? = some terminus → terminus.phase ≠ .expired)
    (id : LinkId) : ∃ found, (registry.takeOver link id).1 = .ok found := by
  rcases sound.enter_cases link with
    ⟨_, _, _, _, _, _, _, isActive, created, entered⟩ |
    ⟨old, terminus, _, present, known, updated, entered⟩
  · exact exists_takeOver_of_entered entered created.self (by simp [isActive]) id
  · exact exists_takeOver_of_entered entered updated.self (lives old terminus present known) id

/-- An expired terminus is held by no link. -/
theorem OnlyActiveLinked.not_isHeldByOther (linked : registry.OnlyActiveLinked)
    (present : registry.entry? link.identifier = some entry)
    (known : registry.termini[entry.terminus]? = some terminus)
    (hasExpired : terminus.phase = .expired) (id : LinkId) :
    registry.isHeldByOther link.identifier id = false := by
  have isFree : terminus.link = none := by
    by_contra isLinked
    have isActive := linked _ _ known isLinked
    rw [hasExpired] at isActive
    cases isActive
  simp [isHeldByOther, present, hasLiveLink, linkOf, known, isFree]

theorem isHeldByOther_of_vacant (vacant : registry.entry? link.identifier = none) (id : LinkId) :
    registry.isHeldByOther link.identifier id = false := by
  simp only [isHeldByOther, vacant, Option.any_none]

/-- A link of an identifier that is in the table is refused only where the terminus is held
or has expired. -/
theorem Sound.refuses_of_present (sound : registry.Sound)
    (present : registry.entry? link.identifier = some entry)
    (refused : registry.attach link id exclusive = (.error error, later)) :
    registry.Refuses link id exclusive error later := by
  simp only [attach, prepare, present] at refused
  split at refused
  · next occupied =>
      cases refused
      rw [Bool.and_eq_true] at occupied
      exact .held occupied.1 occupied.2
  · obtain ⟨terminus, known, _⟩ := sound.keyed present
    by_cases hasExpired : terminus.phase = .expired
    · rw [takeOver_of_expired present known hasExpired] at refused
      cases refused
      exact .expired present known hasExpired
    · obtain ⟨found, attached⟩ := sound.exists_takeOver link (by
        intro other holder isPresent isKnown
        rw [present, Option.some.injEq] at isPresent
        rw [← isPresent, known, Option.some.injEq] at isKnown
        exact isKnown ▸ hasExpired) id
      rw [refused] at attached
      cases attached

/-- A link of an identifier that is free is refused only where the store fails. -/
theorem Sound.refuses_of_vacant (sound : registry.Sound)
    (vacant : registry.entry? link.identifier = none)
    (refused : registry.attach link id exclusive = (.error error, later)) :
    registry.Refuses link id exclusive error later := by
  simp only [attach, prepare, vacant] at refused
  have purges := (finishPurge_purging (.register id exclusive) vacant).1
  rcases purged : registry.finishPurge link.identifier with ⟨cause | _, after⟩
  · rw [purged] at refused
    cases refused
    rcases finishPurge_cases registry link.identifier with
      ⟨unchanged, _⟩ | ⟨_, failed, changed⟩ | ⟨_, _, changed⟩
    · rw [purged] at unchanged
      cases unchanged
    · rw [purged] at changed
      cases changed
      refine .undropped vacant ?_ (Prod.ext failed rfl)
      by_contra nothing
      simp only [finishPurge, nothing, if_false] at purged
      cases purged
    · rw [purged] at changed
      cases changed
  · rw [purged] at refused purges
    have vacantNow : after.entry? link.identifier = none :=
      (congrArg (·.get? link.identifier.key) purges.entries).trans vacant
    simp only [isHeldByOther_of_vacant vacantNow, Bool.and_false, Bool.false_eq_true,
      if_false] at refused
    obtain ⟨found, attached⟩ := (sound.changes purges.changes).exists_takeOver link
      (by simp [vacantNow]) id
    rw [refused] at attached
    cases attached

/-- A link is refused for these reasons only, wherever they hold, and leaves what they say. -/
theorem Sound.attach_eq_error_iff (sound : registry.Sound) (linked : registry.OnlyActiveLinked) :
    registry.attach link id exclusive = (.error error, later) ↔
      registry.Refuses link id exclusive error later := by
  constructor
  · intro refused
    cases present : registry.entry? link.identifier with
    | none => exact sound.refuses_of_vacant present refused
    | some entry => exact sound.refuses_of_present present refused
  · intro refuses
    cases refuses with
    | undropped vacant isPending fails =>
        simp only [attach, prepare, vacant, finishPurge, isPending, if_true, fails]
    | held isExclusive isHeld =>
        cases present : registry.entry? link.identifier with
        | none =>
            rw [isHeldByOther_of_vacant present] at isHeld
            cases isHeld
        | some entry =>
            simp only [attach, prepare, present, isExclusive, isHeld, Bool.and_self, if_true]
    | expired present known hasExpired =>
        simp only [attach, prepare, present, linked.not_isHeldByOther present known hasExpired,
          Bool.and_false, Bool.false_eq_true, if_false]
        exact takeOver_of_expired present known hasExpired id

/-! ## What a refusal leaves -/

theorem isUntouched_self (registry : Registry) : registry.IsUntouched registry :=
  ⟨registry.storage, rfl, rfl⟩

/-- Writing over an entry changes nothing only where it says what the link brings already. -/
theorem isUntouched_overwritten_iff (present : registry.entry? link.identifier = some entry)
    (known : registry.termini[entry.terminus]? = some terminus) :
    registry.IsUntouched (registry.overwritten link entry terminus) ↔
      entry = registry.enteredEntry link entry.terminus ∧ terminus.settings = link.settings := by
  constructor
  · rintro ⟨storage, -, unchanged⟩
    have entries : (registry.overwritten link entry terminus).entries = registry.entries := by
      rw [unchanged]
    have termini : (registry.overwritten link entry terminus).termini = registry.termini := by
      rw [unchanged]
    constructor
    · have written : registry.entry? link.identifier =
          some (registry.enteredEntry link entry.terminus) := by
        change registry.entries.get? link.identifier.key = _
        rw [← entries, overwritten, SortedMap.get?_insert_self]
      exact Option.some.inj (present.symm.trans written)
    · have written : registry.termini[entry.terminus]? =
          some { terminus with settings := link.settings } := by
        rw [← termini]
        exact (Puts.set known _).self
      exact congrArg Terminus.settings (Option.some.inj (known.symm.trans written))
  · rintro ⟨sameEntry, sameSettings⟩
    refine ⟨registry.storage, rfl, ?_⟩
    have entries : registry.entries.insert link.identifier.key
        (registry.enteredEntry link entry.terminus) = registry.entries :=
      SortedMap.insert_of_get? (sameEntry ▸ present)
    have termini : registry.termini.setIfInBounds entry.terminus
        { terminus with settings := link.settings } = registry.termini := by
      apply Array.ext_getElem?
      intro other
      rw [← sameSettings]
      by_cases same : other = entry.terminus
      · rw [same, (Puts.set known _).self, known]
      · exact (Puts.set known _).of_ne same
    simp only [overwritten, entries, termini]

theorem isUntouched_of_removeAll_error {identifier : Identifier} {cause : StoreError}
    {storage : Storage} (fails : registry.storage.removeAll identifier = (.error cause, storage)) :
    registry.IsUntouched { registry with storage } := by
  refine ⟨storage, ?_, rfl⟩
  simp only [Storage.removeAll] at fails
  split at fails <;> cases fails
  rfl

/-- A link is registered with an error for one of three reasons, in any state that operations
of the registry and of its termini can lead to, and only one of them leaves anything changed:
if the terminus in the table has expired behind the registry's back, its entry and settings
have been overwritten with those of the link by the time it refuses.  So a refusal changes
something if and only if the link then brings a scope, policy, timeout or settings other than
those that were there. -/
theorem refused_link_overwrites_iff (config : Config) (storage : Storage) (hasTimers : Bool)
    (moves : List Move) :
    let registry := Registry.follow { create config storage with hasTimers } moves
    ∀ id link exclusive, registry.links[id]? = some link →
      (∀ error later, registry.register id exclusive = (.error error, later) ↔
        registry.Refuses link id exclusive error later) ∧
      ∀ error later, registry.register id exclusive = (.error error, later) →
        (¬registry.IsUntouched later ↔
          ∃ entry terminus, registry.entry? link.identifier = some entry ∧
            registry.termini[entry.terminus]? = some terminus ∧ terminus.phase = .expired ∧
            ¬(entry = registry.enteredEntry link entry.terminus ∧
              terminus.settings = link.settings)) := by
  intro registry id link exclusive isLink
  have soundFirst := Sound.create config storage hasTimers
  have sound : registry.Sound := soundFirst.follow moves
  have linked : registry.OnlyActiveLinked :=
    (OnlyActiveLinked.create config storage hasTimers).follow soundFirst moves
  have refuses_iff (error : RegistryError) (later : Registry) :
      registry.register id exclusive = (.error error, later) ↔
        registry.Refuses link id exclusive error later := by
    simp only [register, isLink]
    exact sound.attach_eq_error_iff linked
  refine ⟨refuses_iff, fun error later refused => ?_⟩
  constructor
  · intro touched
    cases (refuses_iff error later).1 refused with
    | undropped _ _ fails => exact absurd (isUntouched_of_removeAll_error fails) touched
    | held => exact absurd (isUntouched_self registry) touched
    | expired present known hasExpired =>
        rw [isUntouched_overwritten_iff present known] at touched
        exact ⟨_, _, present, known, hasExpired, touched⟩
  · rintro ⟨entry, terminus, present, known, hasExpired, differs⟩
    have outcome := (refuses_iff _ _).2 (.expired present known hasExpired)
    obtain rfl : later = registry.overwritten link entry terminus :=
      congrArg Prod.snd (refused.symm.trans outcome)
    rwa [isUntouched_overwritten_iff present known]

/-- A terminus expires behind the registry's back, and its link is attached again elsewhere
with other settings. -/
def Sample.expiredInTable : List Move :=
  [.act (.openLink (Sample.link "link-detach" 1)), .act (.register 0 false),
    .act (.suspendTerminus 0), .act (.expireTerminus 0 none),
    .act (.openLink { Sample.link "never" 60 with scope := .ofChannel 2 7 })]

def Sample.withExpired : Registry := Sample.registry.follow Sample.expiredInTable

/-- The second link is refused, and yet the table has its scope, policy and timeout from then
on, and the terminus its settings. -/
theorem refused_link_overwrites_sample :
    let refused := Sample.withExpired.register 1 false
    let left := refused.2
    refused.1.toOption = none ∧
      (Sample.withExpired.entry? Sample.identifier).map
          (fun entry => (entry.scope, entry.policy, entry.timeout)) =
        some (some (.ofChannel 1 1), .linkDetach, 1000) ∧
      (left.entry? Sample.identifier).map
          (fun entry => (entry.scope, entry.policy, entry.timeout)) =
        some (some (.ofChannel 2 7), .never, 60000) ∧
      Sample.withExpired.termini[0]?.map (·.settings.source.timeoutSecs) = some 1 ∧
      left.termini[0]?.map (·.settings.source.timeoutSecs) = some 60 := by
  decide +kernel

/-- So it is no refusal that leaves all as it was. -/
theorem refused_link_overwrites_iff_sample :
    ∃ error later, Sample.withExpired.register 1 false = (.error error, later) ∧
      ¬Sample.withExpired.IsUntouched later := by
  obtain ⟨refuses_iff, touched_iff⟩ :=
    refused_link_overwrites_iff default { store := .memory {} } true Sample.expiredInTable 1 _
      false rfl
  have present : Sample.withExpired.entry? Sample.identifier = some
      { terminus := 0, scope := some (.ofChannel 1 1), policy := .linkDetach
        timeout := 1000 } := by decide +kernel
  have refused := (refuses_iff _ _).2 (.expired present rfl rfl)
  refine ⟨_, _, refused, (touched_iff _ _ refused).2 ⟨_, _, present, rfl, rfl, ?_⟩⟩
  intro same
  exact absurd same.1 (by decide +kernel)

end Reattach.Registry
