import Reattach.Proofs.Lagging

/-!
# Termini that nobody hears of

What happens to a terminus is told on the registry's channel if the registry made it.  A terminus
that was made elsewhere and put into the table keeps what happens to it to itself.  So a wait does
not hear when a link is registered for such a terminus, and goes on though its identifier is served.
-/

namespace Reattach

namespace Registry

/-- That what happened while an operation took a registry to a later one was told if it happened to
termini that share the channel, and that termini share it unless the operation makes them
elsewhere. -/
structure TellsShared (operation : Operation) (registry later : Registry) : Prop where
  told : ∃ log notices,
    later.channel.published.toList = registry.channel.published.toList ++ notices ∧
    notices.map (·.event) = (log.filter later.tellsOf).map (·.event) ∧
    ∀ (id : TerminusId) terminus, registry.termini[id]? = some terminus →
      ∃ grown, later.termini[id]? = some grown ∧ grown.isShared = terminus.isShared ∧
        terminus.LivesThrough (Happening.eventsOf log id) grown
  made : ∀ (id : TerminusId) grown, registry.termini[id]? = none →
    later.termini[id]? = some grown → grown.isShared = !operation.creates

variable {registry later : Registry} {operation : Operation}

theorem Evolves.tellsShared (evolves : Evolves operation registry later)
    (own : operation.creates = false) : TellsShared operation registry later := by
  obtain ⟨log, chronicle⟩ := evolves
  obtain ⟨notices, published, told⟩ := chronicle.published
  refine ⟨⟨log, notices, published, told, fun id terminus known => ?_⟩,
    fun id grown isNew isThere => ?_⟩
  · obtain ⟨grown, isGrown, lives⟩ := chronicle.lives id terminus known
    exact ⟨grown, isGrown, lives.keeps.2, lives⟩
  · rw [own]
    exact (chronicle.born id grown isNew isThere).1 own

/-- Whatever is done, what happens to termini that share the channel is told. -/
theorem Sound.tellsShared_after (sound : registry.Sound) (operation : Operation) :
    TellsShared operation registry (registry.after operation) := by
  by_cases own : operation.creates = false
  · exact (sound.evolves_after operation).tellsShared own
  · cases operation with
    | createTerminus identifier settings =>
        -- Nothing happens but that an unshared terminus comes to be.
        have after (id : TerminusId) :
            (registry.after (.createTerminus identifier settings)).termini[id]? =
              if id = registry.termini.size then
                some { identifier, settings, isShared := false }
              else registry.termini[id]? :=
          Array.getElem?_push
        refine ⟨⟨[], [], (List.append_nil _).symm, rfl, fun id terminus known => ?_⟩,
          fun id grown isNew isThere => ?_⟩
        · have isOld : id ≠ registry.termini.size :=
            Nat.ne_of_lt (Array.getElem?_eq_some_iff.1 known).1
          exact ⟨terminus, by rw [after, if_neg isOld, known], rfl, .start⟩
        · rw [after] at isThere
          split at isThere
          · cases isThere
            rfl
          · rw [isNew] at isThere
            cases isThere
    | _ => exact absurd rfl own

end Registry

/-! ## What is read of an attach -/

namespace Wait

variable {registry : Registry} {identifier : Identifier} {notices : List Notice} {id : TerminusId}

theorem read?_of_attach {notice : Notice} {other : Identifier} {kept next : Nat}
    (isServed : registry.attached? identifier = some id)
    (isAttach : notice.event = .associated other) (isOwn : other.key = identifier.key) :
    let all := notice :: notices
    read? registry identifier ⟨all.length - kept, all.drop (all.length - kept), next⟩ =
      some (.ok id) := by
  intro all
  by_cases missed : all.length - kept = 0
  · have reacts : react? registry identifier notice.event = some (.ok id) := by
      simp [isAttach, react?, Identifier.beq_iff_key_eq, isOwn, isServed]
    simp only [read?, missed, if_true, List.drop_zero, all, List.findSome?_cons, reacts]
  · simp only [read?, missed, if_false, isServed]

/-- A wait that is told of thefts only, and of no more than it can hear, goes on. -/
theorem read?_of_thefts {kept next : Nat}
    (areThefts : ∀ notice ∈ notices, ∃ other, notice.event = .stolen other)
    (areKept : notices.length ≤ kept) :
    read? registry identifier ⟨notices.length - kept, notices.drop (notices.length - kept), next⟩ =
      none := by
  have missed : notices.length - kept = 0 := Nat.sub_eq_zero_of_le areKept
  simp only [read?, missed, if_true, List.drop_zero, List.findSome?_eq_none_iff]
  intro notice member
  obtain ⟨other, isTheft⟩ := areThefts notice member
  rw [isTheft]
  rfl

end Wait

/-- What a registration tells: the attach first if the terminus shares the channel, and otherwise a
theft at most. -/
theorem Registry.Sound.register_tells {registry : Registry} (sound : registry.Sound) {link : LinkId}
    {opened : Link} {exclusive : Bool} {id : TerminusId}
    (known : registry.links[link]? = some opened)
    (registers : (registry.register link exclusive).1 = .ok id) :
    let later := (registry.register link exclusive).2
    later.channel.capacity = registry.channel.capacity ∧
      registry.Attached link opened id later ∧
      ∃ notices, later.channel.published.toList = registry.channel.published.toList ++ notices ∧
        if later.termini[id]?.any (·.isShared) then
          ∃ notice rest other, notices = notice :: rest ∧ notice.event = .associated other ∧
            other.key = opened.identifier.key
        else
          notices.length ≤ 1 ∧ ∀ notice ∈ notices, ∃ other, notice.event = .stolen other := by
  intro later
  rcases sound.register_chronicle (.register link exclusive) link exclusive with
    ⟨error, refused, _⟩ | ⟨same, terminus, identifier, thefts, isSame, done, isOwn, areThefts,
      chronicle, attached⟩
  · rw [registers] at refused
    cases refused
  rw [known, Option.some.injEq] at isSame
  rw [registers, Except.ok.injEq] at done
  subst isSame done
  obtain ⟨notices, published, told⟩ := chronicle.published
  refine ⟨chronicle.capacity, attached, notices, published, ?_⟩
  have tells : later.tellsOf ⟨some id, .associated identifier⟩ =
      later.termini[id]?.any (·.isShared) := rfl
  split
  · next isShared =>
      rw [List.filter_cons_of_pos (tells.trans isShared), List.map_cons] at told
      obtain ⟨notice, rest, divided, isAttach, _⟩ := List.map_eq_cons_iff.1 told
      exact ⟨notice, rest, identifier, divided, isAttach, isOwn⟩
  · next isUnshared =>
      rw [List.filter_cons_of_neg fun isTold => isUnshared (tells.symm.trans isTold)] at told
      rcases areThefts with rfl | rfl
      · obtain rfl := List.map_eq_nil_iff.1 told
        exact ⟨Nat.zero_le _, by simp⟩
      · obtain ⟨notice, rfl, isTheft⟩ := List.map_eq_singleton_iff.1 told
        exact ⟨Nat.le_refl _, by simpa using ⟨_, isTheft⟩⟩

namespace Watch

variable {watch : Watch}

/-- A wait ends when an open link is registered for its identifier if the terminus shares the
channel, and otherwise it goes on. -/
theorem resultAt?_register (isCaughtUp : watch.IsCaughtUp) (sound : watch.registry.Sound)
    (keepsSome : 0 < watch.registry.channel.capacity) {index : Nat} {waiter : Waiter}
    (isThere : watch.waiters[index]? = some waiter) (goesOn : waiter.result? = none)
    {link : LinkId} {opened : Link} (known : watch.registry.links[link]? = some opened)
    (isOpen : opened.isOpen = true) (isOwn : opened.identifier.key = waiter.identifier.key)
    {exclusive : Bool} {id : TerminusId}
    (registers : (watch.step (.register link exclusive)).1 = .terminus (some id)) :
    let later := (watch.step (.register link exclusive)).2
    later.resultAt? index =
      if later.registry.termini[id]?.any (·.isShared) then some (watch.registry.now, .ok id)
      else none := by
  intro later
  have now : later.registry.now = watch.registry.now :=
    (sound.after_follows (.register link exclusive)).now
  have done : (watch.registry.register link exclusive).1 = .ok id := by
    change Reply.ofTerminus (watch.registry.register link exclusive).1 = _ at registers
    cases outcome : (watch.registry.register link exclusive).1 with
    | error error =>
        rw [outcome] at registers
        cases registers
    | ok found =>
        rw [outcome] at registers
        cases registers
        rfl
  obtain ⟨capacity, attached, notices, published, tells⟩ := sound.register_tells known done
  have enough : 1 ≤ later.registry.channel.capacity := Nat.lt_of_lt_of_eq keepsSome capacity.symm
  have isServed : later.registry.attached? waiter.identifier = some id := by
    obtain ⟨grown, isGrown, isActive, isLink⟩ := attached.holds
    refine Registry.attached?_eq_some_iff.2
      ⟨?_, grown, link, opened, isGrown, isActive, isLink, attached.same.trans known, isOpen⟩
    have found := attached.found
    rwa [Registry.find?, Registry.entry?, isOwn] at found
  have isVisited : later.waiters[index]? = some (waiter.visit later.registry) := by
    change (watch.waiters.map (·.visit later.registry))[index]? = _
    rw [List.getElem?_map, isThere, Option.map_some]
  rw [resultAt?, isVisited, Option.bind_some]
  have waiterCaughtUp := isCaughtUp.waiters waiter (List.mem_of_getElem? isThere)
  obtain ⟨wait, _, uncancelled, inTime, result⟩ :=
    @Waiter.IsCaughtUp.result?_visit _ _ later.registry waiter notices waiterCaughtUp goesOn rfl
      published
  rw [result, uncancelled, if_neg Bool.false_ne_true, if_neg (Nat.not_le_of_lt (now ▸ inTime))]
  change if later.registry.termini[id]?.any (·.isShared) then _ else _ at tells
  split at tells
  · next isShared =>
      obtain ⟨notice, rest, other, rfl, isAttach, isOther⟩ := tells
      rw [Wait.read?_of_attach isServed isAttach (isOther.trans isOwn), if_pos isShared, now,
        Option.map_some]
  · next isUnshared =>
      obtain ⟨few, areThefts⟩ := tells
      rw [Wait.read?_of_thefts areThefts (Nat.le_trans few enough), if_neg isUnshared,
        Option.map_none]

theorem throughout_any (watch : Watch) (operations : List Operation) :
    watch.Throughout (fun _ _ => True) operations := by
  induction operations generalizing watch with
  | nil => trivial
  | cons operation _ ih => exact ⟨trivial, ih _⟩

/-- What happens to a terminus is told exactly if it shares the channel, which it does for good
exactly if it was not made elsewhere, whether it was put into the table or not.  So when an open
link is registered for an identifier, a wait for it ends if the terminus shares the channel, and
goes on otherwise. -/
theorem told_iff_shared (config : Config) (storage : Storage) (hasTimers : Bool) :
    let origin : Watch := { registry := { Registry.create config storage with hasTimers } }
    (∀ operations, Reaches (fun _ _ => True) origin (origin.run operations).2) ∧
    ∀ watch, Reaches (fun _ _ => True) origin watch →
      (∀ operation, (∀ millis, operation ≠ .wait millis) →
        watch.registry.TellsShared operation (watch.step operation).2.registry) ∧
      (∀ time, watch.registry.TellsShared (.wait 0) (watch.moveTo time).registry) ∧
      ∀ (index : Nat) waiter (link : LinkId) opened exclusive id,
        watch.waiters[index]? = some waiter → waiter.result? = none →
        watch.registry.links[link]? = some opened → opened.isOpen = true →
        opened.identifier.key = waiter.identifier.key →
        (watch.step (.register link exclusive)).1 = .terminus (some id) →
        let later := (watch.step (.register link exclusive)).2
        later.resultAt? index =
          if later.registry.termini[id]?.any (·.isShared) then some (watch.registry.now, .ok id)
          else none := by
  intro origin
  have isCaughtUp : origin.IsCaughtUp := isCaughtUp_of_new config storage hasTimers
  have isSound : origin.registry.Sound := .create config storage hasTimers
  refine ⟨fun operations => reaches_run isCaughtUp (throughout_any origin operations),
    fun watch reached => ?_⟩
  obtain ⟨sound, capacity⟩ := Reaches.capacity reached isSound
  refine ⟨fun operation isNoWait => ?_, fun time => (watch.evolves_moveTo time).tellsShared rfl, ?_⟩
  · rw [registry_step watch isNoWait]
    exact sound.tellsShared_after operation
  · intro index waiter link opened exclusive id isThere goesOn known isOpen isOwn registers
    have keepsSome : 0 < watch.registry.channel.capacity := capacity ▸ config.eventsKept_pos
    exact resultAt?_register (Reaches.isCaughtUp reached isCaughtUp) sound keepsSome isThere goesOn
      known isOpen isOwn registers

/-- A terminus that was made elsewhere is put into the table, and a wait begins for it.  When a link
is registered for it, its identifier is served, but nothing is told and the wait goes on. -/
theorem seeded_unheard_sample :
    let seeded : List Operation :=
      [.createTerminus Sample.identifier (Sample.settings "link-detach" 1), .tryAdd 0,
        .openLink (Sample.link "link-detach" 1), .await "first" Sample.identifier 1000]
    let watch := (Sample.watch.run seeded).2
    let later := (watch.step (.register 0 false)).2
    watch.registry.find? Sample.identifier = some 0 ∧ watch.resultAt? 0 = none ∧
      later.registry.attached? Sample.identifier = some 0 ∧
      later.registry.channel.published.size = 0 ∧ later.resultAt? 0 = none ∧
      (later.step (.wait 1000)).2.resultAt? 0 = some (1000, .error (.timedOut 1000)) := by
  decide +kernel

/-- A terminus that the registry makes is heard of. -/
theorem told_iff_shared_sample :
    let watch := (Sample.watch.run Sample.awaitingFirst).2
    let later := (watch.step (.register 0 false)).2
    watch.resultAt? 0 = none ∧ later.registry.termini[0]?.any (·.isShared) = true ∧
      later.resultAt? 0 = some (0, .ok 0) := by
  intro watch later
  obtain ⟨runs, turns⟩ := told_iff_shared default { store := .memory {} } true
  obtain ⟨_, _, registers⟩ := turns watch (runs Sample.awaitingFirst)
  have facts : watch.registry.now = 0 ∧ watch.resultAt? 0 = none ∧
      (watch.waiters[0]?.map fun waiter => waiter.identifier.key) = some Sample.identifier.key ∧
      later.registry.termini[0]?.any (·.isShared) = true := by
    decide +kernel
  obtain ⟨now, goesOn, whose, isShared⟩ := facts
  obtain ⟨waiter, isThere, isOwn⟩ := Option.map_eq_some_iff.1 whose
  have replies : (watch.step (.register 0 false)).1 = .terminus (some 0) := by rfl
  have known : watch.registry.links[0]? = some (Sample.link "link-detach" 1) := by rfl
  have waits : waiter.result? = none := by
    rwa [resultAt?, isThere, Option.bind_some] at goesOn
  have ends : later.resultAt? 0 = _ :=
    registers 0 waiter 0 _ false 0 isThere waits known rfl isOwn.symm replies
  refine ⟨goesOn, isShared, ?_⟩
  rw [ends, if_pos isShared, now]

end Watch

end Reattach
