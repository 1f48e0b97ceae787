import Reattach.Proofs.Turns

/-!
# No attach is missed

A wait hears of an attach by an event that it may miss, since the channel keeps only so many.
It looks at the registry again whenever it has missed events.  So once all have caught up, nobody
waits for an identifier whose terminus has a live link, however many events there were; a wait
that ends well does so with that very terminus; and all end in time.
-/

namespace Reattach

/-! ## What is read -/

/-- What a subscriber that had caught up finds after some more notices. -/
theorem Channel.readFrom_subscribe_of_append {before after : Channel} {notices : List Notice}
    (published : after.published.toList = before.published.toList ++ notices) :
    after.readFrom before.subscribe =
      ⟨notices.length - after.capacity, notices.drop (notices.length - after.capacity),
        after.subscribe⟩ := by
  have size : after.published.size = before.published.size + notices.length := by
    rw [← Array.length_toList, published, List.length_append, Array.length_toList]
  have missed : after.oldest - before.subscribe = notices.length - after.capacity := by
    rw [oldest, subscribe, size]
    omega
  have whole : before.published.toList.length = before.published.size := Array.length_toList
  have start : max before.subscribe after.oldest =
      before.published.toList.length + (notices.length - after.capacity) := by
    rw [oldest, subscribe, size, whole]
    omega
  rw [readFrom, missed, start, published, List.drop_length_add_append]
  rfl

namespace Registry

/-- That the table has a terminus for an identifier, active and with an open link. -/
def Serves (registry : Registry) (identifier : Identifier) (id : TerminusId) : Prop :=
  registry.find? identifier = some id ∧
    ∃ terminus link opened, registry.termini[id]? = some terminus ∧ terminus.phase = .active ∧
      terminus.link = some link ∧ registry.links[link]? = some opened ∧ opened.isOpen = true

theorem attached?_eq_some_iff {registry : Registry} {identifier : Identifier} {id : TerminusId} :
    registry.attached? identifier = some id ↔ registry.Serves identifier id := by
  simp only [attached?, Serves]
  cases registry.find? identifier with
  | none => simp
  | some found =>
      by_cases same : found = id
      · subst same
        cases known : registry.termini[found]? with
        | none => simp [known]
        | some terminus =>
            cases isLink : terminus.link with
            | none => simp [known, hasLiveLink, linkOf, isLink]
            | some link =>
                cases isThere : registry.links[link]? <;>
                  simp [known, hasLiveLink, linkOf, isLink, isOpen, isThere]
      · simp [same]

end Registry

namespace Wait

variable {registry : Registry} {identifier : Identifier} {reading : Reading} {id : TerminusId}

/-- How a wait ended, if it did. -/
def Progress.result? : Progress → Option WaitResult
  | goesOn _ => none
  | ended result => some result

/-- How a wait ends when it looks, if it does. -/
theorem result?_poll (registry : Registry) (wait : Wait) :
    (poll registry wait).result? =
      if wait.isCancelled then some (.error .cancelled)
      else if wait.deadline ≤ registry.now then some (.error (.timedOut wait.timeout))
      else read? registry wait.identifier (registry.channel.readFrom wait.position) := by
  simp only [poll]
  split
  · rfl
  · split
    · rfl
    · split <;> simp only [Progress.result?, *]

/-- A wait that reads of an attach of its own, or has missed events, ends if its identifier is
served. -/
theorem read?_ne_none (isServed : registry.attached? identifier = some id)
    (isTold : reading.missed = 0 → ∃ notice ∈ reading.notices, ∃ other,
      notice.event = .associated other ∧ other.key = identifier.key) :
    read? registry identifier reading ≠ none := by
  by_cases missedNone : reading.missed = 0
  · obtain ⟨notice, member, other, isAttach, isOwn⟩ := isTold missedNone
    simp only [read?, missedNone, if_true]
    refine fun goesOn => absurd (List.findSome?_eq_none_iff.1 goesOn notice member) ?_
    simp [isAttach, react?, Identifier.beq_iff_key_eq, isOwn, isServed]
  · simp [read?, missedNone, isServed]

/-- A wait ends well with the terminus that serves its identifier. -/
theorem attached?_of_read? (ends : read? registry identifier reading = some (.ok id)) :
    registry.attached? identifier = some id := by
  simp only [read?] at ends
  split at ends
  · next afresh =>
      cases ends
      split at afresh
      · cases afresh
      · exact afresh
  · obtain ⟨notice, _, reacts⟩ := List.exists_of_findSome?_eq_some ends
    cases event : notice.event with
    | associated other =>
        rw [event, react?] at reacts
        split at reacts
        · simpa using reacts
        · cases reacts
    | expired other =>
        rw [event, react?] at reacts
        split at reacts <;> cases reacts
    | stolen | suspended =>
        rw [event] at reacts
        cases reacts

theorem attached?_of_result?_poll {wait : Wait}
    (ends : (poll registry wait).result? = some (.ok id)) :
    registry.attached? wait.identifier = some id := by
  rw [result?_poll] at ends
  split at ends
  · cases ends
  · split at ends
    · cases ends
    · exact attached?_of_read? ends

theorem attached?_of_result?_start {timeout : Nat} {isCancelled : Bool}
    (ends : (start registry identifier timeout isCancelled).result? = some (.ok id)) :
    registry.attached? identifier = some id := by
  simp only [start] at ends
  split at ends
  · next isServed =>
      cases ends
      exact isServed
  · have isServed := attached?_of_result?_poll ends
    exact isServed

theorem attached?_of_start {timeout : Nat} {isCancelled : Bool}
    (goesOn : (start registry identifier timeout isCancelled).result? = none) :
    registry.attached? identifier = none := by
  simp only [start] at goesOn
  split at goesOn
  · cases goesOn
  · assumption

end Wait

namespace Waiter

variable {registry : Registry} {waiter : Waiter}

theorem result?_after (waiter : Waiter) (time : Nat) (progress : Wait.Progress) :
    (waiter.after time progress).result? = progress.result?.map (time, ·) := by
  cases progress <;> rfl

theorem result?_eq_some_iff {time : Nat} {result : WaitResult} :
    waiter.result? = some (time, result) ↔ waiter.state = .ended time result := by
  cases state : waiter.state <;> simp [result?, state]

/-- Who has ended has ended for good. -/
theorem visit_of_ended {time : Nat} {result : WaitResult}
    (hasEnded : waiter.state = .ended time result) (registry : Registry) :
    waiter.visit registry = waiter := by
  rw [visit, hasEnded]

theorem result?_visit_of_idle (isIdle : waiter.state = .idle) (registry : Registry) :
    (waiter.visit registry).result? =
      (Wait.start registry waiter.identifier waiter.timeout waiter.isCancelled).result?.map
        (registry.now, ·) := by
  rw [visit, isIdle]
  exact result?_after _ _ _

theorem result?_visit_of_waiting {wait : Wait} (isWaiting : waiter.state = .waiting wait)
    (registry : Registry) :
    (waiter.visit registry).result? =
      (Wait.poll registry { wait with isCancelled := waiter.isCancelled }).result?.map
        (registry.now, ·) := by
  rw [visit, isWaiting]
  exact result?_after _ _ _

/-- What a waiter that had caught up and goes on makes of a later registry depends on what was
published since. -/
theorem IsCaughtUp.result?_visit {before after : Registry} {asked : Waiter} {notices : List Notice}
    (isCaughtUp : waiter.IsCaughtUp before) (goesOn : waiter.result? = none)
    (state : asked.state = waiter.state)
    (published : after.channel.published.toList = before.channel.published.toList ++ notices) :
    ∃ wait, waiter.state = .waiting wait ∧ waiter.isCancelled = false ∧
      before.now < wait.deadline ∧
      (asked.visit after).result? =
        (if asked.isCancelled then some (.error .cancelled)
        else if wait.deadline ≤ after.now then some (.error (.timedOut waiter.timeout))
        else Wait.read? after waiter.identifier
          ⟨notices.length - after.channel.capacity,
            notices.drop (notices.length - after.channel.capacity),
            after.channel.subscribe⟩).map (after.now, ·) := by
  cases isCaughtUp with
  | ended hasEnded =>
      rw [result?, hasEnded] at goesOn
      cases goesOn
  | @waiting wait isWaiting same uncancelled inTime position =>
      refine ⟨wait, isWaiting, uncancelled.1, inTime, ?_⟩
      rw [result?_visit_of_waiting (state.trans isWaiting), Wait.result?_poll, position,
        Channel.readFrom_subscribe_of_append published, same.1, same.2]

/-- Who ends, ends now, and if well, with the terminus that serves its identifier. -/
theorem of_result?_visit (isReady : waiter.IsReady) (isNew : waiter.result? = none) {time : Nat}
    {result : WaitResult} (ends : (waiter.visit registry).result? = some (time, result)) :
    time = registry.now ∧
      ∀ id, result = .ok id → registry.attached? waiter.identifier = some id := by
  rw [IsReady] at isReady
  cases state : waiter.state with
  | ended time result => simp [result?, state] at isNew
  | idle =>
      rw [result?_visit_of_idle state, Option.map_eq_some_iff] at ends
      obtain ⟨_, ends, same⟩ := ends
      cases same
      exact ⟨rfl, fun id isWell => Wait.attached?_of_result?_start (isWell ▸ ends)⟩
  | waiting wait =>
      rw [state] at isReady
      rw [result?_visit_of_waiting state, Option.map_eq_some_iff] at ends
      obtain ⟨_, ends, same⟩ := ends
      cases same
      refine ⟨rfl, fun id isWell => ?_⟩
      subst isWell
      have isServed := Wait.attached?_of_result?_poll ends
      rw [← isReady.1]
      exact isServed

end Waiter

/-! ## What a turn tells of attaches -/

namespace Registry

/-- That the table has only termini that share the channel, and termini have only links that
there are. -/
structure IsNative (registry : Registry) : Prop where
  shared : ∀ {key entry}, registry.entries.get? key = some entry →
    ∃ terminus, registry.termini[entry.terminus]? = some terminus ∧ terminus.isShared = true
  linked : ∀ {id : TerminusId} {terminus link}, registry.termini[id]? = some terminus →
    terminus.link = some link → registry.links[link]? ≠ none

/-- That an operation puts no terminus into the table that was made elsewhere.  It attaches only
links that there are. -/
structure SeedsNothing (registry : Registry) (operation : Operation) : Prop where
  seedsNone : operation.seeds = false
  linksKnown : ∀ link ∈ operation.directLink?, registry.links[link]? ≠ none

theorem SeedsNothing.of_own {registry : Registry} {operation : Operation}
    (unseeded : operation.seeds = false) (undirect : operation.directLink? = none) :
    registry.SeedsNothing operation :=
  ⟨unseeded, by simp [undirect]⟩

variable {registry later : Registry} {operation : Operation} {log : List Happening}

theorem isNative_create (config : Config) (storage : Storage) (hasTimers : Bool) :
    IsNative { Registry.create config storage with hasTimers } where
  shared := by
    intro key entry present
    cases present
  linked := by
    intro id terminus link known
    simp [Registry.create] at known

/-- Without seeding, the table and the links stay native. -/
theorem Chronicle.isNative (chronicle : Chronicle operation registry log later)
    (seedsNothing : registry.SeedsNothing operation) (native : registry.IsNative) :
    later.IsNative where
  shared := by
    intro key entry present
    rcases chronicle.table seedsNothing.seedsNone key entry present with
      ⟨old, wasPresent, same⟩ | ⟨_, grown, known, isShared⟩
    · obtain ⟨terminus, known, isShared⟩ := native.shared wasPresent
      obtain ⟨grown, knownThen, lives⟩ := chronicle.lives _ _ known
      rw [← same]
      exact ⟨grown, knownThen, lives.keeps.2.trans isShared⟩
    · exact ⟨grown, known, isShared⟩
  linked := by
    intro id grown link known isLink
    rcases chronicle.linked seedsNothing.linksKnown id grown link known isLink with
      isThere | ⟨terminus, knownBefore, had⟩
    · exact isThere
    · exact chronicle.links_ne_none (native.linked knownBefore had)

/-- Whoever is served, and was not before, was told of an attach. -/
theorem Chronicle.told_attach (chronicle : Chronicle operation registry log later)
    (seedsNothing : registry.SeedsNothing operation) (native : registry.IsNative)
    (soundThen : later.Sound) {identifier : Identifier} {id : TerminusId}
    (unserved : registry.attached? identifier = none) (serves : later.Serves identifier id) :
    ∃ other, other.key = identifier.key ∧
      .associated other ∈ (log.filter later.tellsOf).map (·.event) := by
  obtain ⟨found, grown, link, opened, isGrown, isActive, isLink, isThere, isOpen⟩ := serves
  obtain ⟨entry, present, rfl⟩ := Option.map_eq_some_iff.1 found
  obtain ⟨same, isSame, isOwn⟩ := soundThen.keyed present
  rw [isGrown, Option.some.injEq] at isSame
  subst isSame
  -- A told attach is one of the terminus that is there now.
  have told (isShared : grown.isShared = true) {whose : Identifier}
      (isOwner : whose = grown.identifier)
      (met : .associated whose ∈ Happening.eventsOf log entry.terminus) :
      ∃ other, other.key = identifier.key ∧
        .associated other ∈ (log.filter later.tellsOf).map (·.event) :=
    ⟨whose, by rw [isOwner, isOwn], mem_told isGrown isShared met⟩
  cases wasThere : registry.termini[entry.terminus]? with
  | none =>
      obtain ⟨_, fresh, isFree, lives⟩ := chronicle.born _ _ wasThere isGrown
      rcases chronicle.table seedsNothing.seedsNone _ _ present with
        ⟨old, wasPresent, same⟩ | ⟨_, last, isLast, isShared⟩
      · obtain ⟨terminus, known, _⟩ := native.shared wasPresent
        rw [same, wasThere] at known
        cases known
      · rw [isGrown, Option.some.injEq] at isLast
        subst isLast
        rcases lives.of_active isActive isLink with met | ⟨_, had⟩
        · exact told isShared lives.keeps.1.symm met
        · rw [isFree] at had
          cases had
  | some terminus =>
      obtain ⟨last, isLast, lives⟩ := chronicle.lives _ _ wasThere
      rw [isGrown, Option.some.injEq] at isLast
      subst isLast
      rcases chronicle.table seedsNothing.seedsNone _ _ present with
        ⟨old, wasPresent, same⟩ | ⟨isNew, _⟩
      · obtain ⟨shared, known, isShared⟩ := native.shared wasPresent
        rw [same, wasThere, Option.some.injEq] at known
        subst known
        rcases lives.of_active isActive isLink with met | ⟨wasActive, had⟩
        · exact told (lives.keeps.2.trans isShared) lives.keeps.1.symm met
        · obtain ⟨before, wasLink⟩ := Option.ne_none_iff_exists'.1 (native.linked wasThere had)
          obtain ⟨kept, isKept, wasOpen⟩ := chronicle.links _ _ wasLink
          rw [isThere, Option.some.injEq] at isKept
          subst isKept
          have found : registry.find? identifier = some entry.terminus := by
            rw [find?, entry?, wasPresent, Option.map_some, same]
          have served := attached?_eq_some_iff.2
            ⟨found, terminus, link, before, wasThere, wasActive, had, wasLink, wasOpen isOpen⟩
          rw [unserved] at served
          cases served
      · rw [isNew] at wasThere
        cases wasThere

/-- However a registry unfolds without seeding, whoever is served in the end and was not before was
told of an attach.  The induction is on the stretches: who is not served before the last is told of
in it, and who is served then was told of earlier. -/
theorem Unfolds.tells_attach (unfolds : Unfolds SeedsNothing registry later)
    (native : registry.IsNative) :
    later.IsNative ∧ ∃ notices : List Notice,
      later.channel.published.toList = registry.channel.published.toList ++ notices ∧
      ∀ identifier id, registry.attached? identifier = none → later.Serves identifier id →
        ∃ notice ∈ notices, ∃ other,
          notice.event = .associated other ∧ other.key = identifier.key := by
  induction unfolds with
  | refl =>
      refine ⟨native, [], (List.append_nil _).symm, fun identifier id unserved serves => ?_⟩
      rw [attached?_eq_some_iff.2 serves] at unserved
      cases unserved
  | @tail between later _ stretch ih =>
      obtain ⟨nativeThen, earlier, isEarlier, told⟩ := ih
      obtain @⟨operation, _, isAllowed, ⟨log, chronicle⟩, soundThen⟩ := stretch
      have seedsNothing : between.SeedsNothing operation := by
        rcases isAllowed with isAllowed | rfl
        · exact isAllowed
        · exact .of_own rfl rfl
      obtain ⟨since, isSince, toldSince⟩ := chronicle.published
      refine ⟨chronicle.isNative seedsNothing nativeThen, earlier ++ since, ?_, ?_⟩
      · rw [isSince, isEarlier, List.append_assoc]
      · intro identifier id unserved serves
        cases attached : between.attached? identifier with
        | some middle =>
            obtain ⟨notice, member, isAttach⟩ :=
              told identifier middle unserved (attached?_eq_some_iff.1 attached)
            exact ⟨notice, List.mem_append_left _ member, isAttach⟩
        | none =>
            obtain ⟨other, isOwn, isTold⟩ :=
              chronicle.told_attach seedsNothing nativeThen soundThen attached serves
            rw [← toldSince] at isTold
            obtain ⟨notice, member, isAttach⟩ := List.mem_map.1 isTold
            exact ⟨notice, List.mem_append_right _ member, other, isAttach, isOwn⟩

end Registry

namespace Watch

variable {watch later : Watch} {allowed : Registry → Operation → Prop}

/-! ## What becomes of waiters in a turn -/

/-- How the wait at an index ended, if there is one and it has. -/
def resultAt? (watch : Watch) (index : Nat) : Option (Nat × WaitResult) :=
  watch.waiters[index]?.bind (·.result?)

theorem Turn.comes_from (turn : Turn allowed watch later) (isCaughtUp : watch.IsCaughtUp)
    {index : Nat} {grown : Waiter} (isThere : later.waiters[index]? = some grown) :
    ∃ asked : Waiter, grown = asked.visit later.registry ∧ asked.IsReady ∧
      ((watch.waiters[index]? = none ∧ asked.state = .idle) ∨
        ∃ waiter, watch.waiters[index]? = some waiter ∧ asked.state = waiter.state ∧
          asked.identifier = waiter.identifier ∧ asked.timeout = waiter.timeout) := by
  obtain ⟨_, asked, asks, visited⟩ := turn.waiters isCaughtUp
  rw [visited, List.getElem?_map, Option.map_eq_some_iff] at isThere
  obtain ⟨before, isBefore, rfl⟩ := isThere
  refine ⟨before, rfl, asks.ready isCaughtUp.waiters before (List.mem_of_getElem? isBefore), ?_⟩
  cases wasThere : watch.waiters[index]? with
  | none => exact .inl ⟨rfl, asks.begun index before wasThere isBefore⟩
  | some waiter =>
      obtain ⟨same, isSame, state, identifier, timeout⟩ := asks.kept index waiter wasThere
      rw [isBefore, Option.some.injEq] at isSame
      subst isSame
      exact .inr ⟨waiter, rfl, state, identifier, timeout⟩

theorem Turn.goes_to (turn : Turn allowed watch later) (isCaughtUp : watch.IsCaughtUp)
    {index : Nat} {waiter : Waiter} (isThere : watch.waiters[index]? = some waiter) :
    ∃ asked : Waiter, later.waiters[index]? = some (asked.visit later.registry) ∧
      asked.IsReady ∧ asked.state = waiter.state ∧ asked.identifier = waiter.identifier ∧
      asked.timeout = waiter.timeout := by
  obtain ⟨_, asked, asks, visited⟩ := turn.waiters isCaughtUp
  obtain ⟨before, isBefore, state, identifier, timeout⟩ := asks.kept index waiter isThere
  refine ⟨before, ?_, asks.ready isCaughtUp.waiters before (List.mem_of_getElem? isBefore), state,
    identifier, timeout⟩
  rw [visited, List.getElem?_map, isBefore, Option.map_some]

/-- That no wait ended twice between a watch and the next, and that each that ended in between did
so at the end, and if well, with the terminus that serves its identifier. -/
structure Answers (watch later : Watch) : Prop where
  once : ∀ index answer, watch.resultAt? index = some answer → later.resultAt? index = some answer
  well : ∀ (index : Nat) waiter time result, watch.resultAt? index = none →
    later.waiters[index]? = some waiter → waiter.result? = some (time, result) →
    time = later.registry.now ∧
      ∀ id, result = .ok id → later.registry.Serves waiter.identifier id

theorem Turn.answers (turn : Turn allowed watch later) (isCaughtUp : watch.IsCaughtUp) :
    watch.Answers later where
  once := by
    intro index answer hadEnded
    obtain ⟨waiter, wasThere, ended⟩ := Option.bind_eq_some_iff.1 hadEnded
    obtain ⟨asked, isThere, _, state, _⟩ := turn.goes_to isCaughtUp wasThere
    have hasEnded : asked.state = .ended answer.1 answer.2 :=
      state.trans (Waiter.result?_eq_some_iff.1 ended)
    rw [resultAt?, isThere, Option.bind_some, Waiter.visit_of_ended hasEnded]
    exact Waiter.result?_eq_some_iff.2 hasEnded
  well := by
    intro index grown time result hadNot isThere ends
    obtain ⟨asked, rfl, isReady, origin⟩ := turn.comes_from isCaughtUp isThere
    have isNew : asked.result? = none := by
      rcases origin with ⟨_, isIdle⟩ | ⟨waiter, wasThere, state, _⟩
      · rw [Waiter.result?, isIdle]
      · rw [resultAt?, wasThere, Option.bind_some] at hadNot
        rwa [Waiter.result?, state]
    obtain ⟨now, isWell⟩ := Waiter.of_result?_visit isReady isNew ends
    refine ⟨now, fun id isOk => ?_⟩
    rw [Waiter.identifier_visit]
    exact Registry.attached?_eq_some_iff.1 (isWell id isOk)

/-! ## Nobody who is served waits -/

/-- Operations that neither seed nor attach directly seed nothing, whatever the registry. -/
theorem throughout_of_own {operations : List Operation}
    (areOwn : ∀ operation ∈ operations, operation.seeds = false ∧ operation.directLink? = none) :
    watch.Throughout Registry.SeedsNothing operations := by
  induction operations generalizing watch with
  | nil => trivial
  | cons operation rest ih =>
      obtain ⟨unseeded, undirect⟩ := areOwn operation List.mem_cons_self
      exact ⟨.of_own unseeded undirect,
        ih fun other member => areOwn other (List.mem_cons_of_mem _ member)⟩

/-- The order in which a watch is that was reached without seeding. -/
structure InOrder (watch : Watch) : Prop where
  isCaughtUp : watch.IsCaughtUp
  sound : watch.registry.Sound
  native : watch.registry.IsNative
  unserved : ∀ waiter ∈ watch.waiters, waiter.result? = none →
    watch.registry.attached? waiter.identifier = none

/-- Who waits on after a turn is not served after it: it would have been told, or would have
missed so much that it had looked. -/
theorem Turn.unserved (turn : Turn Registry.SeedsNothing watch later) (inOrder : watch.InOrder)
    {waiter : Waiter} (member : waiter ∈ later.waiters) (goesOn : waiter.result? = none) :
    later.registry.attached? waiter.identifier = none := by
  obtain ⟨index, isThere⟩ := List.mem_iff_getElem?.1 member
  obtain ⟨asked, rfl, _, origin⟩ := turn.comes_from inOrder.isCaughtUp isThere
  rw [Waiter.identifier_visit]
  rcases origin with ⟨_, isIdle⟩ | ⟨before, wasThere, state, identifier, _⟩
  · rw [Waiter.result?_visit_of_idle isIdle, Option.map_eq_none_iff] at goesOn
    exact Wait.attached?_of_start goesOn
  · have wasMember := List.mem_of_getElem? wasThere
    have wentOn : before.result? = none := by
      cases hadEnded : before.result? with
      | none => rfl
      | some answer =>
          have once := (turn.answers inOrder.isCaughtUp).once index answer
          rw [resultAt?, resultAt?, wasThere, isThere, Option.bind_some, Option.bind_some,
            goesOn] at once
          cases once hadEnded
    by_contra served
    rw [identifier] at served
    obtain ⟨id, isServed⟩ := Option.ne_none_iff_exists'.1 served
    obtain ⟨_, notices, published, told⟩ :=
      (turn.unfolds inOrder.sound).tells_attach inOrder.native
    obtain ⟨notice, isNotice, isTold⟩ := told _ id (inOrder.unserved before wasMember wentOn)
      (Registry.attached?_eq_some_iff.1 isServed)
    obtain ⟨_, _, _, _, result⟩ :=
      (inOrder.isCaughtUp.waiters before wasMember).result?_visit wentOn state published
    rw [result, Option.map_eq_none_iff] at goesOn
    split at goesOn
    · cases goesOn
    · split at goesOn
      · cases goesOn
      · refine Wait.read?_ne_none isServed (fun missedNone => ⟨notice, ?_, isTold⟩) goesOn
        dsimp only at missedNone ⊢
        rwa [missedNone, List.drop_zero]

theorem Turn.inOrder (turn : Turn Registry.SeedsNothing watch later) (inOrder : watch.InOrder) :
    later.InOrder := by
  have told := (turn.unfolds inOrder.sound).tells_attach inOrder.native
  exact ⟨turn.isCaughtUp inOrder.isCaughtUp, turn.sound inOrder.sound, told.1,
    fun _ => turn.unserved inOrder⟩

theorem Reaches.inOrder (reaches : Reaches Registry.SeedsNothing watch later)
    (inOrder : watch.InOrder) : later.InOrder := by
  induction reaches with
  | refl => exact inOrder
  | tail _ turn ih => exact turn.inOrder ih

theorem inOrder_of_new (config : Config) (storage : Storage) (hasTimers : Bool) :
    InOrder { registry := { Registry.create config storage with hasTimers } } :=
  ⟨isCaughtUp_of_new config storage hasTimers, .create config storage hasTimers,
    Registry.isNative_create config storage hasTimers, by simp⟩

end Watch

/-! ## All waits end in time -/

namespace Waiter

/-- That a wait that began at an instant has not outlived its timeout. -/
def IsInTime (waiter : Waiter) (start now : Nat) : Prop :=
  match waiter.result? with
  | none => now < start + waiter.timeout
  | some (time, _) => start ≤ time ∧ time ≤ start + waiter.timeout

/-- That a wait that began at an instant ends before its timeout is over. -/
structure EndsWithin (waiter : Waiter) (start : Nat) : Prop where
  waits : ∀ deadline, waiter.deadline? = some deadline → deadline ≤ start + waiter.timeout
  ended : ∀ time result, waiter.result? = some (time, result) →
    start ≤ time ∧ time ≤ start + waiter.timeout

variable {registry : Registry} {waiter : Waiter}

theorem EndsWithin.isInTime {start : Nat} (within : waiter.EndsWithin start)
    (isCaughtUp : waiter.IsCaughtUp registry) : waiter.IsInTime start registry.now := by
  cases isCaughtUp with
  | @waiting wait state _ _ inTime _ =>
      have waits : waiter.deadline? = some wait.deadline := by rw [deadline?, state]
      rw [IsInTime, result?, state]
      exact Nat.lt_of_lt_of_le inTime (within.waits _ waits)
  | @ended time result state =>
      have ended : waiter.result? = some (time, result) := result?_eq_some_iff.2 state
      rw [IsInTime, ended]
      exact within.ended time result ended

/-- A wait ends within its timeout from when it began. -/
theorem endsWithin_visit_idle (isReady : waiter.IsReady) (isIdle : waiter.state = .idle)
    (registry : Registry) : (waiter.visit registry).EndsWithin registry.now where
  waits := by
    intro deadline waits
    rw [timeout_visit]
    rw [visit, isIdle] at waits
    simp only [Wait.start] at waits
    split at waits
    · cases waits
    · cases polled : Wait.poll registry ⟨waiter.identifier, waiter.timeout,
          registry.wakeTime waiter.timeout, registry.channel.subscribe, waiter.isCancelled⟩ with
      | ended result =>
          rw [polled] at waits
          cases waits
      | goesOn later =>
          rw [polled] at waits
          obtain ⟨_, _, _, rfl⟩ := Wait.poll_eq_goesOn_iff.1 polled
          cases waits
          exact Nat.le_refl _
  ended := by
    intro time result ends
    have isNew : waiter.result? = none := by rw [result?, isIdle]
    rw [timeout_visit, (of_result?_visit isReady isNew ends).1]
    exact ⟨Nat.le_refl _, Nat.le_add_right _ _⟩

end Waiter

namespace Watch

variable {watch later : Watch} {allowed : Registry → Operation → Prop}

theorem Turn.endsWithin (turn : Turn allowed watch later) (isCaughtUp : watch.IsCaughtUp)
    (sound : watch.registry.Sound) {index : Nat} {waiter : Waiter}
    (isThere : watch.waiters[index]? = some waiter) {start : Nat}
    (begun : start ≤ watch.registry.now) (within : waiter.EndsWithin start) :
    ∃ grown, later.waiters[index]? = some grown ∧ grown.identifier = waiter.identifier ∧
      grown.timeout = waiter.timeout ∧ grown.EndsWithin start := by
  obtain ⟨asked, isThen, isReady, state, identifier, timeout⟩ := turn.goes_to isCaughtUp isThere
  have member := List.mem_of_getElem? isThere
  refine ⟨_, isThen, (Waiter.identifier_visit _ _).trans identifier,
    (Waiter.timeout_visit _ _).trans timeout, ?_, ?_⟩
  · intro deadline waits
    have notIdle : asked.state ≠ .idle := state ▸ (isCaughtUp.waiters waiter member).notIdle
    have waited := Waiter.deadline?_visit notIdle waits
    rw [Waiter.timeout_visit, timeout]
    refine within.waits deadline ?_
    rwa [Waiter.deadline?, ← state]
  · intro time result ends
    rw [Waiter.timeout_visit, timeout]
    cases isCaughtUp.waiters waiter member with
    | ended hadEnded =>
        rw [Waiter.visit_of_ended (state.trans hadEnded), Waiter.result?, state] at ends
        exact within.ended time result ends
    | @waiting wait wasWaiting _ _ inTime _ =>
        have isNew : asked.result? = none := by rw [Waiter.result?, state, wasWaiting]
        have waits : waiter.deadline? = some wait.deadline := by rw [Waiter.deadline?, wasWaiting]
        have isDue : wait.deadline ∈ watch.dues :=
          List.mem_append_right _ (List.mem_filterMap.2 ⟨waiter, member, waits⟩)
        rw [(Waiter.of_result?_visit isReady isNew ends).1]
        exact ⟨Nat.le_trans begun (turn.now_le sound),
          Nat.le_trans (turn.now_le_due sound isDue inTime) (within.waits _ waits)⟩

/-- A wait that has begun ends within its timeout, whatever happens. -/
theorem Reaches.endsWithin (reaches : Reaches Registry.SeedsNothing watch later)
    (inOrder : watch.InOrder) {index : Nat} {waiter : Waiter}
    (isThere : watch.waiters[index]? = some waiter) {start : Nat}
    (begun : start ≤ watch.registry.now) (within : waiter.EndsWithin start) :
    start ≤ later.registry.now ∧
      ∃ grown, later.waiters[index]? = some grown ∧ grown.identifier = waiter.identifier ∧
        grown.timeout = waiter.timeout ∧ grown.EndsWithin start := by
  induction reaches with
  | refl => exact ⟨begun, waiter, isThere, rfl, rfl, within⟩
  | tail reaches turn ih =>
      obtain ⟨begunThen, middle, isMiddle, identifier, timeout, withinThen⟩ := ih
      have inOrderThen := Reaches.inOrder reaches inOrder
      obtain ⟨grown, isGrown, same, sameTimeout, last⟩ :=
        turn.endsWithin inOrderThen.isCaughtUp inOrderThen.sound isMiddle begunThen withinThen
      exact ⟨Nat.le_trans begunThen (turn.now_le inOrderThen.sound), grown, isGrown,
        same.trans identifier, sameTimeout.trans timeout, last⟩

/-- Nobody waits in vain.  In all that is reached without seeding, no wait goes on whose identifier
is served.  Each ends at most once and, if well, with the terminus that serves its identifier then.
And none outlives its timeout, from the turn in which it began. -/
theorem no_attach_missed (config : Config) (storage : Storage) (hasTimers : Bool) :
    let origin : Watch := { registry := { Registry.create config storage with hasTimers } }
    (∀ operations, origin.Throughout Registry.SeedsNothing operations →
      Reaches Registry.SeedsNothing origin (origin.run operations).2) ∧
    ∀ watch, Reaches Registry.SeedsNothing origin watch →
      (∀ waiter ∈ watch.waiters, waiter.result? = none →
        ∀ id, ¬watch.registry.Serves waiter.identifier id) ∧
      ∀ later, Turn Registry.SeedsNothing watch later →
        watch.Answers later ∧
        ∀ (index : Nat) waiter, watch.waiters[index]? = none →
          later.waiters[index]? = some waiter →
          ∀ last, Reaches Registry.SeedsNothing later last →
            ∃ grown, last.waiters[index]? = some grown ∧ grown.identifier = waiter.identifier ∧
              grown.timeout = waiter.timeout ∧
              grown.IsInTime later.registry.now last.registry.now := by
  intro origin
  have inOrder : origin.InOrder := inOrder_of_new config storage hasTimers
  refine ⟨fun operations => reaches_run inOrder.isCaughtUp, fun watch reached => ?_⟩
  have inOrderThen := Reaches.inOrder reached inOrder
  refine ⟨fun waiter member goesOn id serves => ?_, fun later turn =>
    ⟨turn.answers inOrderThen.isCaughtUp, fun index waiter isNew isThere last reaches => ?_⟩⟩
  · have unserved := inOrderThen.unserved waiter member goesOn
    rw [Registry.attached?_eq_some_iff.2 serves] at unserved
    cases unserved
  · have inOrderLater := turn.inOrder inOrderThen
    have within : waiter.EndsWithin later.registry.now := by
      obtain ⟨asked, rfl, isReady, ⟨_, isIdle⟩ | ⟨_, wasThere, _⟩⟩ :=
        turn.comes_from inOrderThen.isCaughtUp isThere
      · exact Waiter.endsWithin_visit_idle isReady isIdle later.registry
      · rw [isNew] at wasThere
        cases wasThere
    obtain ⟨_, grown, isGrown, same, sameTimeout, withinLast⟩ :=
      Reaches.endsWithin reaches inOrderLater isThere (Nat.le_refl _) within
    have isCaughtUp :=
      (Reaches.inOrder reaches inOrderLater).isCaughtUp.waiters grown (List.mem_of_getElem? isGrown)
    exact ⟨grown, isGrown, same, sameTimeout, withinLast.isInTime isCaughtUp⟩

end Watch

namespace Sample

/-- A watch over a channel that keeps one event. -/
def narrow : Watch := { registry := .create { eventCapacity := 1 } { store := .memory {} } }

def otherLink (policy : String) (timeoutSecs : UInt32) : Link :=
  { link policy timeoutSecs with identifier := ⟨"other", .sender, none, by decide⟩ }

/-- A wait for the first of two links. -/
def awaitingFirst : List Operation :=
  [.openLink (link "link-detach" 1), .openLink (otherLink "link-detach" 1),
    .await "first" identifier 5000]

end Sample

/-- Both links are registered before the wait has its turn.  It has missed its own attach, and
finds it. -/
theorem Watch.no_attach_missed_sample :
    let watch := (Sample.narrow.run Sample.awaitingFirst).2
    let busy := ((watch.perform (.register 0 false)).2.perform (.register 1 false)).2
    watch.resultAt? 0 = none ∧
      (busy.registry.channel.readFrom watch.registry.channel.subscribe).missed = 1 ∧
      ∃ waiter, busy.settle.waiters[0]? = some waiter ∧ waiter.result? = some (0, .ok 0) ∧
        busy.settle.registry.Serves waiter.identifier 0 := by
  intro watch busy
  obtain ⟨runs, turns⟩ := no_attach_missed { eventCapacity := 1 } { store := .memory {} } true
  obtain ⟨_, turnsTo⟩ := turns watch (runs Sample.awaitingFirst (throughout_of_own (by decide)))
  have works : Relation.ReflTransGen (Work Registry.SeedsNothing) watch busy :=
    .tail (.single (.carryOut (.of_own rfl rfl) fun _ => Operation.noConfusion))
      (.carryOut (.of_own rfl rfl) fun _ => Operation.noConfusion)
  obtain ⟨answers, _⟩ := turnsTo busy.settle (.act works)
  have waits : watch.resultAt? 0 = none := by decide +kernel
  have ends : busy.settle.resultAt? 0 = some (0, .ok 0) := by decide +kernel
  obtain ⟨waiter, isThere, result⟩ := Option.bind_eq_some_iff.1 ends
  exact ⟨waits, by decide +kernel, waiter, isThere, result,
    (answers.well 0 waiter 0 (.ok 0) waits isThere result).2 0 rfl⟩

end Reattach
