import Reattach.Proofs.Seats

/-!
# What happens, and what is told of it

All that happens to termini and links happens at a definite time, and is told on the
registry's channel if it happened to a terminus that shares the channel, or to a link.  A
chronicle of an operation lists it, told or not, in its order: what was published in the meantime
is what was told of the list, and each terminus has lived through what the list has of it.
-/

namespace Reattach

namespace Terminus

/-- That a terminus becomes another one in a step of its life, of which an event tells. -/
inductive Meets (terminus : Terminus) : Event → Terminus → Prop where
  | associate {link : LinkId} {displaced : Option LinkId} {later : Terminus}
      (associated : terminus.associate link = .ok (displaced, later)) :
      Meets terminus (.associated later.identifier) later
  | suspend {now : Nat} {later : Terminus} (suspended : terminus.suspend now = some later) :
      Meets terminus (.suspended later.identifier later.epoch) later
  | expire {epoch : Option Nat} {later : Terminus}
      (expired : terminus.expire epoch = some later) :
      Meets terminus (.expired later.identifier) later

/-- That a terminus becomes another one while it meets events one after the other.  It may be
given other settings at any time. -/
inductive LivesThrough (terminus : Terminus) : List Event → Terminus → Prop where
  | start : LivesThrough terminus [] terminus
  | refresh {events : List Event} {later : Terminus} (settings : Settings)
      (before : LivesThrough terminus events later) :
      LivesThrough terminus events { later with settings }
  | meets {events : List Event} {event : Event} {later grown : Terminus}
      (before : LivesThrough terminus events later) (meets : later.Meets event grown) :
      LivesThrough terminus (events ++ [event]) grown

variable {terminus between later : Terminus} {event : Event} {events others : List Event}

theorem Meets.keeps (meets : terminus.Meets event later) :
    later.identifier = terminus.identifier ∧ later.isShared = terminus.isShared := by
  cases meets with
  | associate associated =>
      rw [(of_associate associated).2]
      exact ⟨rfl, rfl⟩
  | suspend suspended =>
      rw [(of_suspend suspended).2]
      exact ⟨rfl, rfl⟩
  | expire expired =>
      rw [(of_expire expired).2.2]
      exact ⟨rfl, rfl⟩

namespace LivesThrough

theorem trans (first : terminus.LivesThrough events between)
    (second : between.LivesThrough others later) :
    terminus.LivesThrough (events ++ others) later := by
  induction second with
  | start => rwa [List.append_nil]
  | refresh settings _ ih => exact ih.refresh settings
  | meets _ step ih =>
      rw [← List.append_assoc]
      exact ih.meets step

theorem keeps (lives : terminus.LivesThrough events later) :
    later.identifier = terminus.identifier ∧ later.isShared = terminus.isShared := by
  induction lives with
  | start => exact ⟨rfl, rfl⟩
  | refresh _ _ ih => exact ih
  | meets _ step ih => exact ⟨step.keeps.1.trans ih.1, step.keeps.2.trans ih.2⟩

/-- A terminus that is active with a link has met the attach of a link, or was active with that
link before. -/
theorem of_active (lives : terminus.LivesThrough events later) {link : LinkId}
    (isActive : later.phase = .active) (isLink : later.link = some link) :
    .associated terminus.identifier ∈ events ∨
      terminus.phase = .active ∧ terminus.link = some link := by
  induction lives with
  | start => exact .inr ⟨isActive, isLink⟩
  | refresh _ _ ih => exact ih isActive isLink
  | meets before step _ =>
      cases step with
      | associate associated =>
          left
          rw [(Meets.associate associated).keeps.1, before.keeps.1]
          simp
      | suspend suspended =>
          rw [(of_suspend suspended).2] at isActive
          cases isActive
      | expire expired =>
          rw [(of_expire expired).2.2] at isActive
          cases isActive

/-- A terminus that has expired has met its expiry, or had expired before. -/
theorem of_expired (lives : terminus.LivesThrough events later)
    (hasExpired : later.phase = .expired) :
    .expired terminus.identifier ∈ events ∨ terminus.phase = .expired := by
  induction lives with
  | start => exact .inr hasExpired
  | refresh _ _ ih => exact ih hasExpired
  | meets before step _ =>
      cases step with
      | associate associated =>
          rw [(of_associate associated).2] at hasExpired
          cases hasExpired
      | suspend suspended =>
          rw [(of_suspend suspended).2] at hasExpired
          cases hasExpired
      | expire expired =>
          left
          rw [(Meets.expire expired).keeps.1, before.keeps.1]
          simp

/-- One that has expired before meets nothing more. -/
theorem stays_expired (lives : terminus.LivesThrough events later)
    (hasExpired : terminus.phase = .expired) : later.phase = .expired := by
  induction lives with
  | start => exact hasExpired
  | refresh _ _ ih => exact ih
  | meets _ step ih =>
      cases step with
      | associate associated => exact absurd ih (Moves.associate associated).lives
      | suspend suspended => exact absurd ih (Moves.suspend suspended).lives
      | expire expired => exact absurd ih (Moves.expire expired).lives

end LivesThrough

end Terminus

/-! ## Chronicles -/

/-- An event, and the terminus to which it happened; none if it happened to a link. -/
structure Happening where
  terminus : Option TerminusId
  event : Event

/-- What a list of happenings has of one terminus. -/
def Happening.eventsOf (log : List Happening) (id : TerminusId) : List Event :=
  (log.filter fun happening => happening.terminus = some id).map (·.event)

theorem Happening.eventsOf_append (first second : List Happening) (id : TerminusId) :
    eventsOf (first ++ second) id = eventsOf first id ++ eventsOf second id := by
  simp only [eventsOf, List.filter_append, List.map_append]

/-- Whether an operation puts termini into the table that were made elsewhere. -/
def Operation.seeds : Operation → Bool
  | .tryAdd _ => true
  | _ => false

/-- Whether an operation makes a terminus that the registry knows nothing of. -/
def Operation.creates : Operation → Bool
  | .createTerminus _ _ => true
  | _ => false

/-- The link that an operation attaches without the registry being told. -/
def Operation.directLink? : Operation → Option LinkId
  | .associate _ link => some link
  | _ => none

namespace Registry

/-- Whether a happening is told of on the channel. -/
def tellsOf (registry : Registry) (happening : Happening) : Bool :=
  happening.terminus.all fun id => registry.termini[id]?.any (·.isShared)

/-- All that a terminus that shares the channel has met is told. -/
theorem mem_told {registry : Registry} {log : List Happening} {id : TerminusId}
    {terminus : Terminus} {event : Event} (known : registry.termini[id]? = some terminus)
    (isShared : terminus.isShared = true) (met : event ∈ Happening.eventsOf log id) :
    event ∈ (log.filter registry.tellsOf).map (·.event) := by
  obtain ⟨happening, member, rfl⟩ := List.mem_map.1 met
  obtain ⟨inLog, isIts⟩ := List.mem_filter.1 member
  refine List.mem_map_of_mem (List.mem_filter.2 ⟨inLog, ?_⟩)
  have isOwn : happening.terminus = some id := by simpa using isIts
  simp only [tellsOf, isOwn, Option.all_some, known, Option.any_some, isShared]

/-- That a list tells of all that happened to termini and links while an operation took a
registry to a later one. -/
structure Chronicle (operation : Operation) (registry : Registry) (log : List Happening)
    (later : Registry) : Prop where
  capacity : later.channel.capacity = registry.channel.capacity
  /-- What was published is what the list tells of, as far as it is told. -/
  published : ∃ notices : List Notice,
    later.channel.published.toList = registry.channel.published.toList ++ notices ∧
    notices.map (·.event) = (log.filter later.tellsOf).map (·.event)
  /-- No link is opened again. -/
  links : ∀ (id : LinkId) link, registry.links[id]? = some link →
    ∃ kept, later.links[id]? = some kept ∧ (kept.isOpen = true → link.isOpen = true)
  lives : ∀ (id : TerminusId) terminus, registry.termini[id]? = some terminus →
    ∃ grown, later.termini[id]? = some grown ∧
      terminus.LivesThrough (Happening.eventsOf log id) grown
  /-- New termini begin without a link. -/
  born : ∀ (id : TerminusId) grown, registry.termini[id]? = none →
    later.termini[id]? = some grown →
      (operation.creates = false → grown.isShared = true) ∧
      ∃ fresh : Terminus, fresh.link = none ∧ fresh.LivesThrough (Happening.eventsOf log id) grown
  mentioned : ∀ happening ∈ log, ∀ id ∈ happening.terminus, later.termini[id]? ≠ none
  /-- Nobody enters the table but termini that are made for it, unless they are put in. -/
  table : operation.seeds = false → ∀ key entry, later.entries.get? key = some entry →
    (∃ old, registry.entries.get? key = some old ∧ old.terminus = entry.terminus) ∨
    registry.termini[entry.terminus]? = none ∧
      ∃ grown, later.termini[entry.terminus]? = some grown ∧ grown.isShared = true
  /-- Termini have links that there are, if the operation attaches none that there is not. -/
  linked : (∀ link ∈ operation.directLink?, registry.links[link]? ≠ none) →
    ∀ (id : TerminusId) grown link, later.termini[id]? = some grown → grown.link = some link →
      later.links[link]? ≠ none ∨
      ∃ terminus, registry.termini[id]? = some terminus ∧ terminus.link = some link

variable {operation : Operation} {registry between later : Registry} {log others : List Happening}

namespace Chronicle

theorem tellsOf_eq (second : Chronicle operation between others later)
    {happening : Happening}
    (mentioned : ∀ id ∈ happening.terminus, between.termini[id]? ≠ none) :
    later.tellsOf happening = between.tellsOf happening := by
  cases whose : happening.terminus with
  | none => simp only [tellsOf, whose, Option.all_none]
  | some id =>
      obtain ⟨middle, known⟩ := Option.ne_none_iff_exists'.1 (mentioned id whose)
      obtain ⟨grown, knownThen, lives⟩ := second.lives id middle known
      simp only [tellsOf, whose, Option.all_some, known, knownThen, Option.any_some,
        lives.keeps.2]

theorem eventsOf_eq_nil (first : Chronicle operation registry log between) {id : TerminusId}
    (unknown : between.termini[id]? = none) : Happening.eventsOf log id = [] := by
  rw [Happening.eventsOf, List.map_eq_nil_iff, List.filter_eq_nil_iff]
  intro happening member isOwn
  exact first.mentioned happening member id (by simpa using isOwn) unknown

theorem links_ne_none (first : Chronicle operation registry log later) {link : LinkId}
    (known : registry.links[link]? ≠ none) : later.links[link]? ≠ none := by
  obtain ⟨_, isLink⟩ := Option.ne_none_iff_exists'.1 known
  obtain ⟨_, isKept, _⟩ := first.links _ _ isLink
  rw [isKept]
  exact Option.some_ne_none _

theorem termini_eq_none (first : Chronicle operation registry log later) {id : TerminusId}
    (unknown : later.termini[id]? = none) : registry.termini[id]? = none := by
  cases known : registry.termini[id]? with
  | none => rfl
  | some terminus =>
      obtain ⟨grown, knownThen, _⟩ := first.lives id terminus known
      rw [unknown] at knownThen
      cases knownThen

/-- If nothing happens to termini and links, there is nothing to tell. -/
theorem plain (links : later.links = registry.links) (termini : later.termini = registry.termini)
    (channel : later.channel = registry.channel)
    (table : operation.seeds = false → ∀ key entry, later.entries.get? key = some entry →
      ∃ old, registry.entries.get? key = some old ∧ old.terminus = entry.terminus) :
    Chronicle operation registry [] later where
  capacity := by rw [channel]
  published := ⟨[], by rw [channel, List.append_nil], rfl⟩
  links := fun _ link known => ⟨link, links ▸ known, id⟩
  lives := fun id terminus known => ⟨terminus, termini ▸ known, .start⟩
  born := by
    intro id grown unknown known
    rw [termini, unknown] at known
    cases known
  mentioned := by simp
  table := fun notSeeds key entry present => .inl (table notSeeds key entry present)
  linked := fun _ id grown link known isLink => .inr ⟨grown, termini ▸ known, isLink⟩

theorem refl (registry : Registry) : Chronicle operation registry [] registry :=
  plain rfl rfl rfl fun _ _ entry present => ⟨entry, present, rfl⟩

theorem trans (first : Chronicle operation registry log between)
    (second : Chronicle operation between others later) :
    Chronicle operation registry (log ++ others) later where
  capacity := second.capacity.trans first.capacity
  published := by
    obtain ⟨earlier, isEarlier, told⟩ := first.published
    obtain ⟨since, isSince, toldThen⟩ := second.published
    refine ⟨earlier ++ since, ?_, ?_⟩
    · rw [isSince, isEarlier, List.append_assoc]
    · have same : log.filter later.tellsOf = log.filter between.tellsOf :=
        List.filter_congr fun happening member =>
          second.tellsOf_eq (first.mentioned happening member)
      rw [List.map_append, told, toldThen, List.filter_append, List.map_append, same]
  links := by
    intro id link known
    obtain ⟨middle, knownThen, wasOpen⟩ := first.links id link known
    obtain ⟨kept, isKept, isOpen⟩ := second.links id middle knownThen
    exact ⟨kept, isKept, wasOpen ∘ isOpen⟩
  lives := by
    intro id terminus known
    obtain ⟨middle, knownThen, lives⟩ := first.lives id terminus known
    obtain ⟨grown, isGrown, livesThen⟩ := second.lives id middle knownThen
    refine ⟨grown, isGrown, ?_⟩
    rw [Happening.eventsOf_append]
    exact lives.trans livesThen
  born := by
    intro id grown unknown known
    rw [Happening.eventsOf_append]
    cases isMiddle : between.termini[id]? with
    | none =>
        rw [first.eventsOf_eq_nil isMiddle]
        exact second.born id grown isMiddle known
    | some middle =>
        obtain ⟨shared, fresh, isFree, lives⟩ := first.born id middle unknown isMiddle
        obtain ⟨_, knownThen, livesThen⟩ := second.lives id middle isMiddle
        rw [known, Option.some.injEq] at knownThen
        subst knownThen
        refine ⟨fun notMade => ?_, fresh, isFree, lives.trans livesThen⟩
        rw [livesThen.keeps.2]
        exact shared notMade
  mentioned := by
    intro happening member id isOwn
    rcases List.mem_append.1 member with isEarlier | isLater
    · exact fun unknown =>
        first.mentioned happening isEarlier id isOwn (second.termini_eq_none unknown)
    · exact second.mentioned happening isLater id isOwn
  table := by
    intro notSeeds key entry present
    rcases second.table notSeeds key entry present with
      ⟨middle, wasPresent, same⟩ | ⟨isNew, isHeard⟩
    · rcases first.table notSeeds key middle wasPresent with
        ⟨old, isOld, sameThen⟩ | ⟨isNew, grown, known, shared⟩
      · exact .inl ⟨old, isOld, sameThen.trans same⟩
      · obtain ⟨last, isLast, lives⟩ := second.lives _ _ known
        rw [← same]
        exact .inr ⟨isNew, last, isLast, lives.keeps.2.trans shared⟩
    · exact .inr ⟨first.termini_eq_none isNew, isHeard⟩
  linked := by
    intro known id grown link isGrown isLink
    have knownThen : ∀ link ∈ operation.directLink?, between.links[link]? ≠ none :=
      fun link isDirect => first.links_ne_none (known link isDirect)
    rcases second.linked knownThen id grown link isGrown isLink with
      isThere | ⟨middle, isMiddle, had⟩
    · exact .inl isThere
    · exact (first.linked known id middle link isMiddle had).imp_left second.links_ne_none

/-! ### What happens to one terminus -/

theorem of_puts {id : TerminusId} {terminus grown : Terminus} {termini : Array Terminus}
    {channel : Channel} (known : registry.termini[id]? = some terminus)
    (puts : Puts registry.termini id grown termini)
    (own : ∀ happening ∈ log, happening.terminus = some id)
    (lives : terminus.LivesThrough (log.map (·.event)) grown)
    (capacity : channel.capacity = registry.channel.capacity)
    (published : ∃ notices : List Notice,
      channel.published.toList = registry.channel.published.toList ++ notices ∧
      notices.map (·.event) = if grown.isShared then log.map (·.event) else [])
    (linked : (∀ link ∈ operation.directLink?, registry.links[link]? ≠ none) →
      ∀ link, grown.link = some link →
        registry.links[link]? ≠ none ∨ terminus.link = some link) :
    Chronicle operation registry log { registry with termini, channel } where
  capacity := capacity
  published := by
    obtain ⟨notices, isPublished, told⟩ := published
    refine ⟨notices, isPublished, told.trans ?_⟩
    have tells (happening : Happening) (member : happening ∈ log) :
        ({ registry with termini, channel } : Registry).tellsOf happening = grown.isShared := by
      simp only [tellsOf, own happening member, Option.all_some, puts.self, Option.any_some]
    rw [List.filter_congr tells]
    cases grown.isShared <;> simp
  links := fun _ link isLink => ⟨link, isLink, fun isOpen => isOpen⟩
  lives := by
    intro other found isFound
    by_cases same : other = id
    · subst same
      rw [known, Option.some.injEq] at isFound
      subst isFound
      have all : log.filter (fun happening => happening.terminus = some other) = log :=
        List.filter_eq_self.2 fun happening member => by simpa using own happening member
      exact ⟨grown, puts.self, by rwa [Happening.eventsOf, all]⟩
    · have noneOf : log.filter (fun happening => happening.terminus = some other) = [] := by
        rw [List.filter_eq_nil_iff]
        intro happening member
        simp [own happening member, Ne.symm same]
      refine ⟨found, (puts.of_ne same).trans isFound, ?_⟩
      rw [Happening.eventsOf, noneOf]
      exact .start
  born := by
    intro other found unknown isFound
    by_cases same : other = id
    · rw [same, known] at unknown
      cases unknown
    · rw [puts.of_ne same, unknown] at isFound
      cases isFound
  mentioned := by
    intro happening member other isOwn
    rw [own happening member, Option.mem_some] at isOwn
    rw [← isOwn, puts.self]
    exact Option.some_ne_none _
  table := fun _ _ entry present => .inl ⟨entry, present, rfl⟩
  linked := by
    intro isThere other found link isFound isLink
    by_cases same : other = id
    · subst same
      rw [puts.self, Option.some.injEq] at isFound
      subst isFound
      exact (linked isThere link isLink).imp_right fun had => ⟨terminus, known, had⟩
    · exact .inr ⟨found, (puts.of_ne same).symm.trans isFound, isLink⟩

/-- A step in the life of a terminus is told if the terminus shares the channel. -/
theorem moveTerminus {id : TerminusId} {terminus grown : Terminus} {event : Event}
    (known : registry.termini[id]? = some terminus) (meets : terminus.Meets event grown)
    (linked : (∀ link ∈ operation.directLink?, registry.links[link]? ≠ none) →
      ∀ link, grown.link = some link →
        registry.links[link]? ≠ none ∨ terminus.link = some link) :
    Chronicle operation registry [⟨some id, event⟩] (registry.moveTerminus id grown event) := by
  have lives : terminus.LivesThrough [event] grown := .meets .start meets
  have moves (channel : Channel) (capacity : channel.capacity = registry.channel.capacity)
      (published : ∃ notices : List Notice,
        channel.published.toList = registry.channel.published.toList ++ notices ∧
        notices.map (·.event) = if grown.isShared then [event] else []) :
      Chronicle operation registry [⟨some id, event⟩] { registry with
        termini := registry.termini.setIfInBounds id grown, channel } :=
    of_puts known (.set known grown) (by simp) lives capacity published linked
  rw [Registry.moveTerminus]
  split
  · next isShared =>
      apply moves (registry.channel.publish registry.now event) rfl
      exact ⟨_, Channel.toList_published_publish _ _ _, by simp [isShared]⟩
  · next isUnshared =>
      apply moves registry.channel rfl
      exact ⟨[], (List.append_nil _).symm, by simp [isUnshared]⟩

theorem updateSettings (registry : Registry) (id : TerminusId) (settings : Settings) :
    Chronicle operation registry [] (registry.updateSettings id settings) := by
  cases known : registry.termini[id]? with
  | none =>
      simp only [Registry.updateSettings, known]
      exact refl registry
  | some terminus =>
      obtain ⟨termini, updated, puts⟩ := updateSettings_eq registry known settings
      have refreshed : Chronicle operation registry [] { registry with
          termini, channel := registry.channel } :=
        of_puts known puts (by simp) (.refresh settings .start) rfl
          ⟨[], (List.append_nil _).symm, by simp⟩ fun _ link isLink => .inr isLink
      rw [updated]
      exact refreshed

theorem associate {id : TerminusId} {link : LinkId} {terminus grown : Terminus}
    {displaced : Option LinkId} (known : registry.termini[id]? = some terminus)
    (associated : terminus.associate link = .ok (displaced, grown))
    (isThere : (∀ direct ∈ operation.directLink?, registry.links[direct]? ≠ none) →
      registry.links[link]? ≠ none) :
    Chronicle operation registry [⟨some id, .associated grown.identifier⟩]
      (registry.moveTerminus id grown (.associated grown.identifier)) := by
  apply moveTerminus known (.associate associated)
  intro isKnown other isLink
  rw [(Terminus.of_associate associated).2, Option.some.injEq] at isLink
  exact .inl (isLink ▸ isThere isKnown)

/-! ### What happens to links -/

/-- What is done to links without opening one again need not be told. -/
theorem putLinks {links : Array Link}
    (kept : ∀ (id : LinkId) link, registry.links[id]? = some link →
      ∃ later, links[id]? = some later ∧ (later.isOpen = true → link.isOpen = true)) :
    Chronicle operation registry [] { registry with links } where
  capacity := rfl
  published := ⟨[], (List.append_nil _).symm, rfl⟩
  links := kept
  lives := fun _ terminus known => ⟨terminus, known, .start⟩
  born := by
    intro id grown unknown known
    rw [unknown] at known
    cases known
  mentioned := by simp
  table := fun _ _ entry present => .inl ⟨entry, present, rfl⟩
  linked := fun _ _ grown _ known isLink => .inr ⟨grown, known, isLink⟩

theorem putLink {id : LinkId} {link later : Link} (known : registry.links[id]? = some link)
    (isOpen : later.isOpen = true → link.isOpen = true) :
    Chronicle operation registry [] (registry.putLink id later) := by
  apply putLinks
  intro other found isFound
  rw [Array.getElem?_setIfInBounds]
  by_cases same : id = other
  · subst same
    rw [known, Option.some.injEq] at isFound
    subst isFound
    rw [if_pos rfl, if_pos (Array.getElem?_eq_some_iff.1 known).1]
    exact ⟨later, rfl, isOpen⟩
  · rw [if_neg same]
    exact ⟨found, isFound, fun isOpen => isOpen⟩

theorem openLink (registry : Registry) (link : Link) :
    Chronicle operation registry [] (registry.openLink link).2 := by
  apply putLinks
  intro id found isFound
  refine ⟨found, ?_, fun isOpen => isOpen⟩
  rw [Array.getElem?_push, if_neg, isFound]
  exact Nat.ne_of_lt (Array.getElem?_eq_some_iff.1 isFound).1

theorem closeLink (registry : Registry) (id : LinkId) :
    Chronicle operation registry [] (registry.closeLink id) := by
  simp only [Registry.closeLink]
  split
  · exact refl registry
  · next known => exact putLink known fun isOpen => absurd isOpen Bool.false_ne_true

/-- A theft is always told. -/
theorem publish_stolen (registry : Registry) (identifier : Identifier) :
    Chronicle operation registry [⟨none, .stolen identifier⟩]
      (registry.publish (.stolen identifier)) where
  capacity := rfl
  published := ⟨_, Channel.toList_published_publish _ _ _, rfl⟩
  links := fun _ link isLink => ⟨link, isLink, fun isOpen => isOpen⟩
  lives := fun _ terminus known => ⟨terminus, known, .start⟩
  born := by
    intro id grown unknown known
    rw [publish, unknown] at known
    cases known
  mentioned := by simp
  table := fun _ _ entry present => .inl ⟨entry, present, rfl⟩
  linked := fun _ _ grown _ known isLink => .inr ⟨grown, known, isLink⟩

theorem closeDisplaced (registry : Registry) (identifier : Identifier)
    (displaced : Option LinkId) :
    ∃ thefts, (thefts = [] ∨ thefts = [⟨none, .stolen identifier⟩]) ∧
      Chronicle operation registry thefts (registry.closeDisplaced identifier displaced) := by
  cases displaced with
  | none => exact ⟨[], .inl rfl, refl registry⟩
  | some previous =>
      simp only [Registry.closeDisplaced, steal]
      split
      · exact ⟨[], .inl rfl, refl registry⟩
      · next known =>
          split
          · next wasOpen =>
              refine ⟨_, .inr rfl, ?_⟩
              exact trans (putLink known fun _ => wasOpen) (publish_stolen _ identifier)
          · exact ⟨[], .inl rfl, refl registry⟩

/-! ### Coming to be -/

/-- A terminus that comes to be, by itself or for an entry of the table, has no link. -/
theorem addTerminus {fresh : Terminus} {entries : SortedMap Identifier.Key Entry}
    (shared : operation.creates = false → fresh.isShared = true) (isFree : fresh.link = none)
    (table : operation.seeds = false → ∀ key entry, entries.get? key = some entry →
      (∃ old, registry.entries.get? key = some old ∧ old.terminus = entry.terminus) ∨
      entry.terminus = registry.termini.size ∧ fresh.isShared = true) :
    Chronicle operation registry [] { registry with
      termini := registry.termini.push fresh, entries } where
  capacity := rfl
  published := ⟨[], (List.append_nil _).symm, rfl⟩
  links := fun _ link isLink => ⟨link, isLink, fun isOpen => isOpen⟩
  lives := by
    intro id terminus known
    refine ⟨terminus, ?_, .start⟩
    rw [Array.getElem?_push, if_neg, known]
    exact Nat.ne_of_lt (Array.getElem?_eq_some_iff.1 known).1
  born := by
    intro id grown unknown known
    rw [Array.getElem?_push] at known
    split at known
    · cases known
      exact ⟨shared, fresh, isFree, .start⟩
    · rw [unknown] at known
      cases known
  mentioned := by simp
  table := by
    intro notSeeds key entry present
    refine (table notSeeds key entry present).imp_right ?_
    rintro ⟨isNew, isShared⟩
    rw [isNew]
    refine ⟨Array.getElem?_eq_none (Nat.le_refl _), fresh, ?_, isShared⟩
    rw [Array.getElem?_push, if_pos rfl]
  linked := by
    intro _ id grown link known isLink
    rw [Array.getElem?_push] at known
    split at known
    · cases known
      rw [isFree] at isLink
      cases isLink
    · exact .inr ⟨grown, known, isLink⟩

/-- Entering a link makes a terminus for it or finds the one that the table has, and nothing
happens to that. -/
theorem enter (registry : Registry) (link : Link) :
    Chronicle operation registry [] (registry.enter link).2 := by
  simp only [Registry.enter, entry?]
  cases present : registry.entries.get? link.identifier.key with
  | none =>
      let fresh : Terminus :=
        { identifier := link.identifier, settings := link.settings, isShared := true }
      have added : Chronicle operation registry [] { registry with
          termini := registry.termini.push fresh
          entries := registry.entries.insert link.identifier.key
            (registry.enteredEntry link registry.termini.size) } := by
        apply addTerminus (fun _ => rfl) rfl
        intro _ key entry isFound
        rcases SortedMap.get?_insert_eq_some_iff.1 isFound with ⟨_, rfl⟩ | ⟨_, wasFound⟩
        · exact .inr ⟨rfl, rfl⟩
        · exact .inl ⟨entry, wasFound, rfl⟩
      exact added.trans (updateSettings _ registry.termini.size link.settings)
  | some old =>
      have entered : Chronicle operation registry [] { registry with
          entries := registry.entries.insert link.identifier.key
            (registry.enteredEntry link old.terminus) } := by
        refine plain rfl rfl rfl fun _ key entry isFound => ?_
        rcases SortedMap.get?_insert_eq_some_iff.1 isFound with ⟨rfl, rfl⟩ | ⟨_, wasFound⟩
        · exact ⟨old, present, rfl⟩
        · exact ⟨entry, wasFound, rfl⟩
      exact entered.trans (updateSettings _ old.terminus link.settings)

end Chronicle

/-! ### Attaching a link -/

/-- A link is entered in the table under its identifier, with a terminus of that identifier. -/
theorem Sound.enter_spec (sound : registry.Sound) (link : Link) :
    ∃ terminus entry, (registry.enter link).2.termini[(registry.enter link).1]? = some terminus ∧
      terminus.identifier.key = link.identifier.key ∧
      (registry.enter link).2.entries.get? link.identifier.key = some entry ∧
      entry.terminus = (registry.enter link).1 ∧
      (registry.enter link).2.links = registry.links := by
  rcases sound.enter_cases link with ⟨id, terminus, termini, _, _, isOwn, _, _, puts, entered⟩ |
    ⟨old, terminus, termini, present, known, puts, entered⟩
  · rw [entered]
    exact ⟨terminus, _, puts.self, by rw [isOwn], SortedMap.get?_insert_self _ _ _, rfl, rfl⟩
  · obtain ⟨found, isFound, isOwn⟩ := sound.keyed present
    rw [known, Option.some.injEq] at isFound
    subst isFound
    rw [entered]
    exact ⟨_, _, puts.self, isOwn, SortedMap.get?_insert_self _ _ _, rfl, rfl⟩

theorem closeDisplaced_eq (registry : Registry) (identifier : Identifier)
    (displaced : Option LinkId) :
    ∃ links channel,
      registry.closeDisplaced identifier displaced = { registry with links, channel } ∧
      ∀ other : LinkId, displaced ≠ some other → links[other]? = registry.links[other]? := by
  cases displaced with
  | none => exact ⟨_, _, rfl, fun _ _ => rfl⟩
  | some previous =>
      simp only [closeDisplaced, steal]
      split
      · exact ⟨_, _, rfl, fun _ _ => rfl⟩
      · split
        · refine ⟨_, _, rfl, fun other apart => ?_⟩
          exact Array.getElem?_setIfInBounds_ne fun same => apart (congrArg some same)
        · exact ⟨_, _, rfl, fun _ _ => rfl⟩

/-- Attaching a link to a terminus is refused, or it is a step in the life of the terminus and
displaces a link. -/
theorem takeOver_cases {link : Link} {whose : TerminusId} {ready : Registry} {terminus : Terminus}
    (entered : registry.enter link = (whose, ready))
    (isThere : ready.termini[whose]? = some terminus) (id : LinkId) :
    (∃ error, registry.takeOver link id = (.error error, ready)) ∨
      ∃ displaced grown, terminus.associate id = .ok (displaced, grown) ∧
        let moved := ready.moveTerminus whose grown (.associated grown.identifier)
        registry.takeOver link id = (.ok whose,
          closeDisplaced { moved with suspended := moved.suspended.erase link.identifier.key }
            link.identifier displaced) := by
  simp only [takeOver, entered, associate, isThere]
  cases associated : terminus.associate id with
  | error fault => exact .inl ⟨_, rfl⟩
  | ok result =>
      obtain ⟨displaced, grown⟩ := result
      refine .inr ⟨displaced, grown, rfl, ?_⟩
      cases displaced <;> rfl

/-- What it means that a link was attached: it is the link of the terminus that the table has for
its identifier, and is as open as it was. -/
structure Attached (registry : Registry) (id : LinkId) (link : Link) (terminus : TerminusId)
    (later : Registry) : Prop where
  found : later.find? link.identifier = some terminus
  holds : ∃ grown, later.termini[terminus]? = some grown ∧ grown.phase = .active ∧
    grown.link = some id
  same : later.links[id]? = registry.links[id]?

/-- Attaching a link is told as that and, if another link was closed for it, as a theft. -/
theorem Sound.takeOver_chronicle (sound : registry.Sound) (operation : Operation) {id : LinkId}
    {link : Link} (known : registry.links[id]? ≠ none) :
    (∃ error, (registry.takeOver link id).1 = .error error ∧
        Chronicle operation registry [] (registry.takeOver link id).2) ∨
      ∃ terminus identifier thefts, (registry.takeOver link id).1 = .ok terminus ∧
        identifier.key = link.identifier.key ∧
        (thefts = [] ∨ thefts = [⟨none, .stolen link.identifier⟩]) ∧
        Chronicle operation registry (⟨some terminus, .associated identifier⟩ :: thefts)
          (registry.takeOver link id).2 ∧
        registry.Attached id link terminus (registry.takeOver link id).2 := by
  have enters : Chronicle operation registry [] (registry.enter link).2 := .enter registry link
  obtain ⟨terminus, entry, isThere, isOwn, present, isEntry, sameLinks⟩ := sound.enter_spec link
  rcases entered : registry.enter link with ⟨whose, ready⟩
  rw [entered] at enters isThere present isEntry sameLinks
  rcases takeOver_cases entered isThere id with ⟨error, refused⟩ |
    ⟨displaced, grown, associated, taken⟩
  · rw [refused]
    exact .inl ⟨error, rfl, enters⟩
  · right
    have isGrown := (Terminus.of_associate associated).2
    have moves : Chronicle operation ready [⟨some whose, .associated grown.identifier⟩]
        (ready.moveTerminus whose grown (.associated grown.identifier)) :=
      .associate isThere associated fun _ => sameLinks.symm ▸ known
    obtain ⟨channel, moved⟩ := moveTerminus_eq ready whose grown (.associated grown.identifier)
    simp only [moved] at moves taken
    rw [taken]
    let attached : Registry := { ready with
      termini := ready.termini.setIfInBounds whose grown
      channel
      suspended := ready.suspended.erase link.identifier.key }
    have unnotes : Chronicle operation { ready with
        termini := ready.termini.setIfInBounds whose grown, channel } [] attached :=
      .plain rfl rfl rfl fun _ _ entry present => ⟨entry, present, rfl⟩
    obtain ⟨thefts, areThefts, closes⟩ :=
      @Chronicle.closeDisplaced operation attached link.identifier displaced
    obtain ⟨links, told, closed, others⟩ :=
      closeDisplaced_eq attached link.identifier displaced
    refine ⟨whose, grown.identifier, thefts, rfl, by rw [isGrown, isOwn], areThefts,
      ((enters.trans moves).trans unnotes).trans closes, ?_⟩
    change registry.Attached id link whose (attached.closeDisplaced link.identifier displaced)
    rw [closed]
    refine ⟨?_, ⟨grown, (Puts.set isThere grown).self, by rw [isGrown], by rw [isGrown]⟩, ?_⟩
    · change (ready.entries.get? link.identifier.key).map (·.terminus) = some whose
      rw [present, Option.map_some, isEntry]
    · have apart : displaced ≠ some id := by
        rw [Terminus.displaced_eq associated]
        simp [Option.filter_eq_some_iff]
      exact (others id apart).trans (congrArg (·[id]?) sameLinks)

/-- The same for a link that is registered.  What fails leaves nothing to tell. -/
theorem Sound.register_chronicle (sound : registry.Sound) (operation : Operation) (id : LinkId)
    (exclusive : Bool) :
    (∃ error, (registry.register id exclusive).1 = .error error ∧
        Chronicle operation registry [] (registry.register id exclusive).2) ∨
      ∃ link terminus identifier thefts, registry.links[id]? = some link ∧
        (registry.register id exclusive).1 = .ok terminus ∧
        identifier.key = link.identifier.key ∧
        (thefts = [] ∨ thefts = [⟨none, .stolen link.identifier⟩]) ∧
        Chronicle operation registry (⟨some terminus, .associated identifier⟩ :: thefts)
          (registry.register id exclusive).2 ∧
        registry.Attached id link terminus (registry.register id exclusive).2 := by
  simp only [register]
  cases known : registry.links[id]? with
  | none => exact .inl ⟨_, rfl, .refl registry⟩
  | some link =>
      obtain ⟨storage, purging, isPrepared, _⟩ := registry.prepare_cases link.identifier
      have prepares : Chronicle operation registry [] { registry with storage, purging } :=
        .plain rfl rfl rfl fun _ _ entry present => ⟨entry, present, rfl⟩
      simp only [attach]
      rcases prepared : registry.prepare link.identifier with ⟨error | _, ready⟩
      · rw [prepared] at isPrepared
        obtain rfl := isPrepared
        exact .inl ⟨_, rfl, prepares⟩
      · rw [prepared] at isPrepared
        obtain rfl := isPrepared
        simp only
        split
        · exact .inl ⟨_, rfl, prepares⟩
        · have soundThen : ({ registry with storage, purging } : Registry).Sound :=
            ⟨sound.keyed, sound.noted⟩
          have isThere : registry.links[id]? ≠ none := by
            rw [known]
            exact Option.some_ne_none _
          rcases soundThen.takeOver_chronicle operation isThere with ⟨error, refused, chronicle⟩ |
            ⟨terminus, identifier, thefts, done, isOwn, areThefts, chronicle, attached⟩
          · exact .inl ⟨error, refused, prepares.trans chronicle⟩
          · exact .inr ⟨link, terminus, identifier, thefts, rfl, done, isOwn, areThefts,
              prepares.trans chronicle, attached.found, attached.holds, attached.same⟩

/-! ## All operations -/

/-- That there is a chronicle of how an operation took a registry to a later one. -/
def Evolves (operation : Operation) (registry later : Registry) : Prop :=
  ∃ log, Chronicle operation registry log later

namespace Evolves

theorem refl (registry : Registry) : Evolves operation registry registry := ⟨[], .refl registry⟩

theorem trans (first : Evolves operation registry between)
    (second : Evolves operation between later) : Evolves operation registry later := by
  obtain ⟨log, chronicle⟩ := first
  obtain ⟨others, chronicleThen⟩ := second
  exact ⟨log ++ others, chronicle.trans chronicleThen⟩

theorem plain (links : later.links = registry.links) (termini : later.termini = registry.termini)
    (channel : later.channel = registry.channel)
    (table : ∀ key entry, later.entries.get? key = some entry →
      registry.entries.get? key = some entry) :
    Evolves operation registry later :=
  ⟨[], .plain links termini channel fun _ key entry present =>
    ⟨entry, table key entry present, rfl⟩⟩

theorem suspendTerminus (registry : Registry) (id : TerminusId) :
    Evolves operation registry (registry.suspendTerminus id).2 := by
  simp only [Registry.suspendTerminus]
  split
  · exact refl registry
  · next grown isGrown =>
      obtain ⟨terminus, known, suspended⟩ := Option.bind_eq_some_iff.1 isGrown
      refine ⟨_, .moveTerminus known (.suspend suspended) fun _ link isLink => ?_⟩
      rw [(Terminus.of_suspend suspended).2] at isLink
      cases isLink

theorem expireTerminus (registry : Registry) (id : TerminusId) (epoch : Option Nat) :
    Evolves operation registry (registry.expireTerminus id epoch).2 := by
  simp only [Registry.expireTerminus]
  split
  · exact refl registry
  · next grown isGrown =>
      obtain ⟨terminus, known, expired⟩ := Option.bind_eq_some_iff.1 isGrown
      refine ⟨_, .moveTerminus known (.expire expired) fun _ link isLink => .inr ?_⟩
      rwa [(Terminus.of_expire expired).2.2] at isLink

theorem associate (registry : Registry) (id : TerminusId) (link : LinkId) :
    Evolves (.associate id link) registry (registry.associate id link).2 := by
  simp only [Registry.associate]
  split
  · exact refl registry
  · next known =>
      split
      · exact refl registry
      · next associated => exact ⟨_, .associate known associated fun isThere => isThere link rfl⟩

/-! ### Expiry -/

theorem dropRecords (registry : Registry) (identifier : Identifier) :
    Evolves operation registry (registry.dropRecords identifier) := by
  rw [dropRecords_eq]
  exact plain rfl rfl rfl fun _ _ present => present

theorem expireEpoch (registry : Registry) (identifier : Identifier) (epoch : Option Nat) :
    Evolves operation registry (registry.expireEpoch identifier epoch).2 := by
  simp only [Registry.expireEpoch]
  split
  · exact refl registry
  · split
    · split
      · exact plain rfl rfl rfl fun _ _ present => present
      · refine trans ?_ (dropRecords _ identifier)
        refine trans ?_ (expireTerminus _ _ _)
        exact plain rfl rfl rfl fun _ _ present => (SortedMap.get?_erase_eq_some_iff.1 present).2
    · exact refl registry

theorem arrange (registry : Registry) (pending : PendingExpiry) :
    Evolves operation registry (registry.arrange pending).2 := by
  simp only [Registry.arrange]
  split
  · exact expireEpoch _ _ _
  · simp only [setTimer]
    split
    · exact plain rfl rfl rfl fun _ _ present => present
    · exact refl registry

theorem arrangeAll (registry : Registry) (pending : List PendingExpiry) :
    Evolves operation registry (registry.arrangeAll pending) := by
  induction pending generalizing registry with
  | nil => exact refl registry
  | cons expiry rest ih => exact (arrange registry expiry).trans (ih _)

theorem runTimers (registry : Registry) : Evolves operation registry registry.runTimers := by
  have runs (due : List Timer) (registry : Registry) :
      Evolves operation registry (due.foldl (fun registry timer =>
        (registry.expireEpoch timer.identifier (some timer.epoch)).2) registry) := by
    induction due generalizing registry with
    | nil => exact refl registry
    | cons timer rest ih => exact (expireEpoch _ _ _).trans (ih _)
  refine trans ?_ (runs _ _)
  exact plain rfl rfl rfl fun _ _ present => present

/-! ### Suspension -/

theorem suspendEntry (registry : Registry) (identifier : Identifier) (entry : Entry) :
    Evolves operation registry (registry.suspendEntry identifier entry).2 := by
  have suspends : Evolves operation registry (registry.suspendTerminus entry.terminus).2 :=
    suspendTerminus registry entry.terminus
  simp only [Registry.suspendEntry]
  split <;> rename_i same <;> rw [same] at suspends
  · exact suspends
  · exact suspends.trans (plain rfl rfl rfl fun _ _ present => present)

theorem suspendAll (registry : Registry) (candidates : List (Identifier × Entry)) :
    Evolves operation registry (registry.suspendAll candidates).2 := by
  induction candidates generalizing registry with
  | nil => exact refl registry
  | cons candidate rest ih => exact (suspendEntry registry _ _).trans (ih _)

theorem detach (registry : Registry) (id : LinkId) (departure : Departure) :
    Evolves operation registry (registry.detach id departure).2 := by
  simp only [Registry.detach]
  split
  · exact refl registry
  · split
    · exact refl registry
    · split
      · exact refl registry
      · split
        · exact refl registry
        · exact suspendEntry _ _ _

/-! ### Putting in -/

theorem finishPurge (registry : Registry) (identifier : Identifier) :
    Evolves operation registry (registry.finishPurge identifier).2 := by
  simp only [Registry.finishPurge]
  split
  · split <;> exact plain rfl rfl rfl fun _ _ present => present
  · exact refl registry

theorem seed (registry : Registry) (id : TerminusId) (terminus : Terminus)
    (seeds : operation.seeds = true) :
    Evolves operation registry (registry.seed id terminus).2 := by
  rw [seed_eq]
  refine ⟨[], .plain rfl rfl rfl fun notSeeds => ?_⟩
  rw [seeds] at notSeeds
  cases notSeeds

theorem accept (registry : Registry) (id : TerminusId) (seeds : operation.seeds = true) :
    Evolves operation registry (registry.accept id).2 := by
  simp only [Registry.accept]
  split
  · exact refl registry
  · next terminus _ =>
      have purges : Evolves operation registry (registry.finishPurge terminus.identifier).2 :=
        finishPurge registry terminus.identifier
      split
      · exact refl registry
      · split <;> rename_i same <;> rw [same] at purges
        · exact purges
        · split
          · exact purges
          · exact purges.trans (seed _ id terminus seeds)

theorem describeAll (registry : Registry) (entries : List Entry) :
    Evolves operation registry (registry.describeAll entries).2 := by
  induction entries generalizing registry with
  | nil => exact refl registry
  | cons entry rest ih =>
      simp only [Registry.describeAll]
      split
      · exact ih registry
      · next terminus _ =>
          refine trans ?_ (ih (registry.describe entry terminus).2)
          exact plain rfl rfl rfl fun _ _ present => present

end Evolves

/-- Whatever is done to a registry has a chronicle. -/
theorem Sound.evolves_after (sound : registry.Sound) (operation : Operation) :
    Evolves operation registry (registry.after operation) := by
  have arranges : Evolves operation registry (registry.arranged operation).2 := by
    cases operation with
    | suspend id departure => exact .detach registry id departure
    | endSession session => exact .suspendAll registry _
    | closeConnection connection => exact .suspendAll registry _
    | tryAdd id => exact .accept registry id rfl
    | openLink link => exact ⟨[], .openLink registry link⟩
    | closeLink id => exact ⟨[], .closeLink registry id⟩
    | failOnSteal id fails =>
        simp only [arranged, after, Operation.isInstant, if_true, Watch.perform, Watch.onLink]
        split
        · exact .refl registry
        · next known => exact ⟨[], .putLink known fun isOpen => isOpen⟩
    | register id exclusive =>
        rcases sound.register_chronicle (.register id exclusive) id exclusive with
          ⟨_, _, chronicle⟩ | ⟨_, _, _, _, _, _, _, _, chronicle, _⟩
        · exact ⟨_, chronicle⟩
        · exact ⟨_, chronicle⟩
    | expire identifier => exact .expireEpoch registry identifier none
    | tryRemove identifier =>
        exact .plain rfl rfl rfl fun _ _ present => (SortedMap.get?_erase_eq_some_iff.1 present).2
    | snapshot => exact .describeAll registry _
    | createTerminus identifier settings =>
        refine ⟨[], .addTerminus (fun notMade => ?_) rfl fun _ _ entry present =>
          .inl ⟨entry, present, rfl⟩⟩
        cases notMade
    | updateSettings id settings => exact ⟨[], .updateSettings registry id settings⟩
    | associate id link => exact .associate registry id link
    | suspendTerminus id => exact .suspendTerminus registry id
    | expireTerminus id epoch => exact .expireTerminus registry id epoch
    | noteDelivery id | settleDelivery id | planRecovery id =>
        simp only [arranged, after, Operation.isInstant, if_true, Watch.perform, Watch.onTerminus]
        split <;> exact .plain rfl rfl rfl fun _ _ present => present
    | _ => exact .plain rfl rfl rfl fun _ _ present => present
  rw [after_eq_arrangeAll]
  exact arranges.trans (.arrangeAll _ _)

/-! ## Expired for good -/

theorem Evolves.hasExpired (evolves : Evolves operation registry later) {id : TerminusId}
    (hasExpired : registry.HasExpired id) : later.HasExpired id := by
  obtain ⟨log, chronicle⟩ := evolves
  obtain ⟨terminus, known, isExpired⟩ := hasExpired
  obtain ⟨grown, isGrown, lives⟩ := chronicle.lives id terminus known
  exact ⟨grown, isGrown, lives.stays_expired isExpired⟩

theorem Sound.hasExpired_move (sound : registry.Sound) {id : TerminusId}
    (hasExpired : registry.HasExpired id) (move : Move) :
    (registry.move move).HasExpired id := by
  cases move with
  | act operation => exact (sound.evolves_after operation).hasExpired hasExpired
  | pass time => exact hasExpired
  | fire index =>
      rw [Registry.move]
      refine fire_induction index hasExpired fun timer => ?_
      have evolves : Evolves (.expire timer.identifier) (registry.dropTimer index)
          ((registry.dropTimer index).expireEpoch timer.identifier (some timer.epoch)).2 :=
        .expireEpoch _ _ _
      exact evolves.hasExpired hasExpired

/-- A terminus that has expired stays so, whatever is done. -/
theorem Sound.hasExpired_follow (sound : registry.Sound) {id : TerminusId}
    (hasExpired : registry.HasExpired id) (moves : List Move) :
    (registry.follow moves).HasExpired id := by
  induction moves generalizing registry with
  | nil => exact hasExpired
  | cons first rest ih => exact ih (sound.move first) (sound.hasExpired_move hasExpired first)

end Registry

end Reattach
