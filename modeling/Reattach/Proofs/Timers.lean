import Mathlib.Data.List.Induction
import Reattach.Proofs.Operations

/-!
# What timers run out on

A timer is never taken back.  It tells the suspension it was set for by the identifier and
the epoch, and epochs begin anew with every terminus.  A timer therefore acts on another
suspension than its own only if the identifier left the table while the timer was
waiting, and came back to be suspended in the same epoch.
-/

namespace Reattach

/-- That a timer is for a suspension: it tells suspensions by identifier and epoch. -/
def Timer.IsFor (timer : Timer) (key : Identifier.Key) (epoch : Nat) : Prop :=
  timer.identifier.key = key ∧ timer.epoch = epoch

namespace Registry

variable {operation : Operation} {origin registry later : Registry} {key : Identifier.Key}

/-! ## What an operation keeps -/

/-- What there is to say about a timer that was set since `origin`. -/
structure SetSince (origin registry : Registry) (timer : Timer) : Prop where
  isNew : origin.suspended.get? timer.identifier.key ≠ some timer.epoch
  /-- It is due when the time of the suspension that it was set for is over. -/
  due : registry.suspended.get? timer.identifier.key = some timer.epoch →
    ∃ entry, registry.entries.get? timer.identifier.key = some entry ∧
      timer.due = origin.wakeTime entry.timeout
  notLater : ∀ entry, registry.entries.get? timer.identifier.key = some entry →
    ∃ terminus, registry.termini[entry.terminus]? = some terminus ∧ timer.epoch ≤ terminus.epoch

/-- What the changes of an operation keep of the registry before it. -/
structure Follows (origin registry : Registry) : Prop where
  now : registry.now = origin.now
  outlive : Outlive origin.termini registry.termini
  /-- An identifier that is in the table before and after has the same terminus. -/
  stays : ∀ {key old entry}, origin.entries.get? key = some old →
    registry.entries.get? key = some entry → entry.terminus = old.terminus
  /-- It is suspended as before, or in an epoch that its terminus had not reached. -/
  renewed : ∀ {key old terminus epoch}, origin.entries.get? key = some old →
    origin.termini[old.terminus]? = some terminus → registry.suspended.get? key = some epoch →
    origin.suspended.get? key = some epoch ∨ terminus.epoch < epoch
  /-- Timers are only set. -/
  timers : ∃ fresh, registry.timers = origin.timers ++ fresh ∧
    ∀ timer ∈ fresh, SetSince origin registry timer

namespace Follows

theorem refl (origin : Registry) : Follows origin origin := by
  constructor
  · rfl
  · exact Outlive.refl _
  · intro key old entry present isFound
    rw [present] at isFound
    cases isFound
    rfl
  · intro key old terminus epoch _ _ noted
    exact .inl noted
  · exact ⟨[], by simp, by simp⟩

theorem timers_of_untimed (untimed : later.timers = origin.timers) :
    ∃ fresh, later.timers = origin.timers ++ fresh ∧
      ∀ timer ∈ fresh, SetSince origin later timer :=
  ⟨[], by rw [untimed, List.append_nil], by simp⟩

/-- Timers stay as they were set as long as suspensions and entries only go. -/
theorem timers_of_fewer (follows : Follows origin registry)
    (outlive : Outlive registry.termini later.termini) (timers : later.timers = registry.timers)
    (notes : ∀ {key epoch}, later.suspended.get? key = some epoch →
      registry.suspended.get? key = some epoch ∧
        later.entries.get? key = registry.entries.get? key)
    (entries : ∀ {key entry}, later.entries.get? key = some entry →
      registry.entries.get? key = some entry) :
    ∃ fresh, later.timers = origin.timers ++ fresh ∧
      ∀ timer ∈ fresh, SetSince origin later timer := by
  rcases follows.timers with ⟨fresh, appended, since⟩
  refine ⟨fresh, timers.trans appended, ?_⟩
  intro timer member
  refine ⟨(since timer member).isNew, ?_, ?_⟩
  · intro noted
    rcases notes noted with ⟨wasNoted, same⟩
    rw [same]
    exact (since timer member).due wasNoted
  · intro entry present
    rcases (since timer member).notLater entry (entries present) with ⟨terminus, known, notLater⟩
    rcases outlive _ terminus known with ⟨grown, there, _, grows⟩
    exact ⟨grown, there, Nat.le_trans notLater grows⟩

/-- A change keeps what those before it kept. -/
theorem change (follows : Follows origin registry) (sound : registry.Sound)
    (change : Change operation origin registry later) : Follows origin later := by
  have outliveOnce := change.outlive
  have outlive := follows.outlive.trans outliveOnce
  cases change with
  | links | store | create | refresh | direct | purge =>
      refine ⟨follows.now, outlive, follows.stays, follows.renewed, ?_⟩
      exact follows.timers_of_fewer outliveOnce rfl (fun noted => ⟨noted, rfl⟩) id
  | expire identifier | remove identifier =>
      refine ⟨follows.now, outlive, ?_, ?_, ?_⟩
      · intro key old entry present isFound
        exact follows.stays present (SortedMap.get?_erase_eq_some_iff.1 isFound).2
      · intro key old terminus epoch present known noted
        exact follows.renewed present known (SortedMap.get?_erase_eq_some_iff.1 noted).2
      · apply follows.timers_of_fewer outliveOnce rfl
        · intro key epoch noted
          rcases SortedMap.get?_erase_eq_some_iff.1 noted with ⟨apart, wasNoted⟩
          exact ⟨wasNoted, SortedMap.get?_erase_of_ne _ apart⟩
        · intro key entry present
          exact (SortedMap.get?_erase_eq_some_iff.1 present).2
  | @enter key entry _ _ _ absent _ untimed =>
      refine ⟨follows.now, outlive, ?_, ?_, timers_of_untimed untimed⟩
      · intro other old found present isFound
        rcases SortedMap.get?_insert_eq_some_iff.1 isFound with ⟨rfl, _⟩ | ⟨_, wasFound⟩
        · rw [absent] at present
          cases present
        · exact follows.stays present wasFound
      · intro other old terminus epoch present known noted
        exact follows.renewed present known (SortedMap.get?_erase_eq_some_iff.1 noted).2
  | @reenter key old entry _ _ _ _ untimed present same =>
      refine ⟨follows.now, outlive, ?_, ?_, timers_of_untimed untimed⟩
      · intro other first found wasPresent isFound
        rcases SortedMap.get?_insert_eq_some_iff.1 isFound with ⟨rfl, rfl⟩ | ⟨_, wasFound⟩
        · exact same.trans (follows.stays wasPresent present)
        · exact follows.stays wasPresent wasFound
      · intro other first terminus epoch wasPresent known noted
        exact follows.renewed wasPresent known (SortedMap.get?_erase_eq_some_iff.1 noted).2
  | @refuse key old entry _ _ _ untimed present same =>
      refine ⟨follows.now, outlive, ?_, follows.renewed, timers_of_untimed untimed⟩
      intro other first found wasPresent isFound
      rcases SortedMap.get?_insert_eq_some_iff.1 isFound with ⟨rfl, rfl⟩ | ⟨_, wasFound⟩
      · exact same.trans (follows.stays wasPresent present)
      · exact follows.stays wasPresent wasFound
  | @suspend key entry terminus grown _ _ _ untimed untouched present _ known suspended =>
      refine ⟨follows.now, outlive, follows.stays, ?_, timers_of_untimed untimed⟩
      intro other old first epoch wasPresent wasKnown noted
      rcases SortedMap.get?_insert_eq_some_iff.1 noted with ⟨rfl, rfl⟩ | ⟨_, wasNoted⟩
      · rcases follows.outlive _ first wasKnown with ⟨since, there, _, grows⟩
        rw [untouched, wasPresent] at present
        cases present
        rw [known] at there
        cases there
        rw [(Terminus.of_suspend suspended).2]
        exact .inr (Nat.lt_succ_of_le grows)
      · exact follows.renewed wasPresent wasKnown wasNoted
  | @setTimer timer entry noted isNew present due =>
      refine ⟨follows.now, outlive, follows.stays, follows.renewed, ?_⟩
      rcases follows.timers with ⟨fresh, appended, since⟩
      refine ⟨fresh ++ [timer], by simp only [appended, List.append_assoc], ?_⟩
      intro other member
      rcases List.mem_append.1 member with old | isLast
      · exact ⟨(since other old).isNew, (since other old).due, (since other old).notLater⟩
      · obtain rfl := List.mem_singleton.1 isLast
        refine ⟨isNew, ?_, ?_⟩
        · intro _
          refine ⟨entry, present, due.trans ?_⟩
          simp only [wakeTime, follows.now]
        · intro found isFound
          rcases sound.noted noted with ⟨held, terminus, isHeld, known, notLater⟩
          rw [isHeld] at isFound
          cases isFound
          exact ⟨terminus, known, notLater⟩
  | @seed id terminus entry absent _ untimed _ known _ same =>
      refine ⟨follows.now, outlive, ?_, ?_, timers_of_untimed untimed⟩
      · intro other old found present isFound
        rcases SortedMap.get?_insert_eq_some_iff.1 isFound with ⟨rfl, _⟩ | ⟨_, wasFound⟩
        · rw [absent] at present
          cases present
        · exact follows.stays present wasFound
      · intro other old first epoch present wasKnown noted
        have apart := SortedMap.ne_of_get? present absent
        simp only at noted
        split at noted
        · rw [SortedMap.get?_insert_of_ne _ _ apart] at noted
          exact follows.renewed present wasKnown noted
        · exact follows.renewed present wasKnown noted

theorem changes (follows : Follows origin registry) (sound : registry.Sound)
    (changes : Changes operation origin registry later) : Follows origin later := by
  induction changes with
  | refl => exact follows
  | tail first last ih => exact ih.change (sound.changes first) last

end Follows

theorem Sound.after_follows (sound : registry.Sound) (operation : Operation) :
    Follows registry (registry.after operation) :=
  (Follows.refl registry).changes sound (sound.after_changes operation)

/-! ## Timers of earlier suspensions -/

/-- That a timer was waiting after some of the moves while its identifier was not in the
table. -/
def IsLeftover (origin : Registry) (moves : List Move) (timer : Timer) : Prop :=
  ∃ part, part <+: moves ∧ timer ∈ (origin.follow part).timers ∧
    (origin.follow part).entries.get? timer.identifier.key = none

/-- That the terminus of a timer's identifier has reached the timer's epoch. -/
def HasReached (registry : Registry) (timer : Timer) : Prop :=
  ∃ entry terminus, registry.entries.get? timer.identifier.key = some entry ∧
    registry.termini[entry.terminus]? = some terminus ∧ timer.epoch ≤ terminus.epoch

theorem IsLeftover.append {moves : List Move} {timer : Timer}
    (leftover : IsLeftover origin moves timer) (more : List Move) :
    IsLeftover origin (moves ++ more) timer := by
  rcases leftover with ⟨part, isPart, waiting, absent⟩
  exact ⟨part, isPart.trans (List.prefix_append _ _), waiting, absent⟩

/-- A timer that waits while its identifier is not in the table is left over. -/
theorem isLeftover_of_absent {moves : List Move} {timer : Timer}
    (waiting : timer ∈ (origin.follow moves).timers)
    (absent : (origin.follow moves).entries.get? timer.identifier.key = none) :
    IsLeftover origin moves timer :=
  ⟨moves, List.prefix_refl _, waiting, absent⟩

theorem HasReached.of_follows {timer : Timer} (reached : registry.HasReached timer)
    (follows : Follows registry later) {entry : Entry}
    (present : later.entries.get? timer.identifier.key = some entry) :
    later.HasReached timer := by
  rcases reached with ⟨old, terminus, wasPresent, known, notLater⟩
  rcases follows.outlive _ terminus known with ⟨grown, there, _, grows⟩
  refine ⟨entry, grown, present, ?_, Nat.le_trans notLater grows⟩
  rw [follows.stays wasPresent present]
  exact there

theorem leftover_or_reached_of_follows {moves : List Move} {move : Move}
    (follows : Follows registry (origin.follow (moves ++ [move])))
    (before : ∀ timer ∈ registry.timers,
      IsLeftover origin moves timer ∨ registry.HasReached timer) :
    ∀ timer ∈ (origin.follow (moves ++ [move])).timers,
      IsLeftover origin (moves ++ [move]) timer ∨
        (origin.follow (moves ++ [move])).HasReached timer := by
  intro timer waiting
  cases present : (origin.follow (moves ++ [move])).entries.get? timer.identifier.key with
  | none => exact .inl (isLeftover_of_absent waiting present)
  | some entry =>
      rcases follows.timers with ⟨fresh, appended, since⟩
      rw [appended] at waiting
      rcases List.mem_append.1 waiting with old | isFresh
      · rcases before timer old with leftover | reached
        · exact .inl (leftover.append [move])
        · exact .inr (reached.of_follows follows present)
      · rcases (since timer isFresh).notLater entry present with ⟨terminus, known, notLater⟩
        exact .inr ⟨entry, terminus, present, known, notLater⟩

/-- Every timer is left over, or its identifier has a terminus that has reached its epoch. -/
theorem leftover_or_reached (sound : origin.Sound) (isUntimed : origin.timers = [])
    (moves : List Move) :
    ∀ timer ∈ (origin.follow moves).timers,
      IsLeftover origin moves timer ∨ (origin.follow moves).HasReached timer := by
  induction moves using List.reverseRecOn with
  | nil => simp [isUntimed]
  | append_singleton moves move ih =>
      have soundNow := sound.follow moves
      have followed : origin.follow (moves ++ [move]) = (origin.follow moves).move move := by
        rw [follow_append, follow_cons, follow_nil]
      cases move with
      | act operation =>
          refine leftover_or_reached_of_follows ?_ ih
          rw [followed]
          exact soundNow.after_follows operation
      | pass time =>
          rw [followed]
          intro timer waiting
          exact (ih timer waiting).imp_left fun leftover => leftover.append [.pass time]
      | fire index =>
          rcases (origin.follow moves).fire_cases index with ⟨unchanged, _⟩ |
            ⟨timer, _, _, expires⟩
          · simp only [followed, Registry.move, unchanged]
            intro timer waiting
            exact (ih timer waiting).imp_left fun leftover => leftover.append [.fire index]
          · -- What is waiting before the expiry are the timers but for the one that ran out.
            have follows : Follows ((origin.follow moves).dropTimer index)
                (origin.follow (moves ++ [.fire index])) := by
              rw [followed, Registry.move, expires]
              exact (Follows.refl _).changes (soundNow.dropTimer index)
                (soundNow.fired_changes index timer)
            apply leftover_or_reached_of_follows follows
            intro other waiting
            exact ih other (List.mem_of_mem_eraseIdx waiting)

/-! ## Suspensions -/

/-- That a terminus is suspended in an epoch by a move, and stays so during those that come
after it. -/
structure Lasts (before : Registry) (start : Move) (during : List Move)
    (key : Identifier.Key) (epoch : Nat) : Prop where
  isNew : before.suspended.get? key ≠ some epoch
  noted : ∀ part, part <+: during →
    ((before.move start).follow part).suspended.get? key = some epoch

/-- A timer takes the terminus of a suspension out of the table if it is due and for that
suspension, and not otherwise. -/
theorem Sound.fire_removes_iff (sound : registry.Sound) {epoch : Nat}
    (noted : registry.suspended.get? key = some epoch) (index : Nat) :
    (registry.fire index).entries.get? key = none ↔
      ∃ timer, registry.timers[index]? = some timer ∧ timer.IsFor key epoch ∧
        timer.due ≤ registry.now := by
  rcases sound.noted noted with ⟨entry, _, present, _⟩
  rcases sound.fired_cases index with ⟨timers, unchanged, mismatch⟩ |
    ⟨timer, termini, channel, isSet, isDue, isNoted, changed⟩
  · rw [unchanged]
    constructor
    · intro absent
      exact absurd absent (SortedMap.get?_ne_none present)
    · intro runsOut
      rcases runsOut with ⟨timer, isSet, ⟨rfl, rfl⟩, isDue⟩
      exact absurd noted (mismatch timer isSet isDue)
  · rw [changed]
    constructor
    · intro absent
      have same : key = timer.identifier.key := SortedMap.eq_of_get?_erase present absent
      subst same
      have epochs : some timer.epoch = some epoch := isNoted.symm.trans noted
      exact ⟨timer, isSet, ⟨rfl, Option.some.inj epochs⟩, isDue⟩
    · intro runsOut
      rcases runsOut with ⟨other, isOther, ⟨rfl, rfl⟩, _⟩
      rw [isSet] at isOther
      cases isOther
      exact SortedMap.get?_erase_self _ _

/-- A timer that leaves a terminus in the table leaves its records. -/
theorem Sound.held_fire (sound : registry.Sound) {identifier : Identifier} {entry : Entry}
    {index : Nat} (present : (registry.fire index).entries.get? identifier.key = some entry) :
    (registry.fire index).storage.held identifier = registry.storage.held identifier := by
  rcases sound.fired_cases index with ⟨timers, unchanged, _⟩ | ⟨timer, _, _, _, _, _, changed⟩
  · rw [unchanged]
  · rw [changed] at present ⊢
    exact Storage.held_removeAll_of_ne _ (SortedMap.get?_erase_eq_some_iff.1 present).1

theorem Sound.not_isFor_of_fired (sound : registry.Sound) {epoch index : Nat} {timer : Timer}
    (noted : registry.suspended.get? key = some epoch)
    (notedAfter : (registry.fire index).suspended.get? key = some epoch)
    (isSet : registry.timers[index]? = some timer) (isDue : timer.due ≤ registry.now) :
    ¬timer.IsFor key epoch := by
  intro isFor
  have removed := (sound.fire_removes_iff noted index).2 ⟨timer, isSet, isFor, isDue⟩
  exact (sound.move (.fire index)).not_noted removed epoch notedAfter

/-- While a suspension lasts, its timers are neither set nor lost. -/
theorem Sound.mem_timers_move_iff (sound : registry.Sound) {epoch : Nat} {move : Move}
    {timer : Timer} (noted : registry.suspended.get? key = some epoch)
    (notedAfter : (registry.move move).suspended.get? key = some epoch)
    (isFor : timer.IsFor key epoch) :
    timer ∈ (registry.move move).timers ↔ timer ∈ registry.timers := by
  cases move with
  | act operation =>
      rcases (sound.after_follows operation).timers with ⟨fresh, appended, since⟩
      simp only [Registry.move, appended, List.mem_append]
      constructor
      · intro either
        rcases either with old | isFresh
        · exact old
        · have isNew := (since timer isFresh).isNew
          rw [isFor.1, isFor.2] at isNew
          exact absurd noted isNew
      · exact .inl
  | pass time => rfl
  | fire index =>
      rcases registry.fire_cases index with ⟨unchanged, _⟩ | ⟨fired, isSet, isDue, expires⟩
      · simp only [Registry.move, unchanged]
      · have apart := sound.not_isFor_of_fired noted notedAfter isSet isDue
        rw [Registry.move, expires, expireEpoch_timers, dropTimer_timers,
          List.mem_eraseIdx_iff_getElem?]
        constructor
        · intro stays
          rcases stays with ⟨place, _, found⟩
          exact List.mem_of_getElem? found
        · intro waiting
          rcases List.mem_iff_getElem?.1 waiting with ⟨place, found⟩
          refine ⟨place, ?_, found⟩
          intro same
          subst same
          rw [isSet] at found
          cases found
          exact apart isFor

/-- While a suspension lasts, its timers are those that it began with. -/
theorem Sound.mem_timers_follow_iff (sound : registry.Sound) {epoch : Nat} {timer : Timer}
    (isFor : timer.IsFor key epoch) (moves : List Move)
    (noted : ∀ part, part <+: moves → (registry.follow part).suspended.get? key = some epoch) :
    timer ∈ (registry.follow moves).timers ↔ timer ∈ registry.timers := by
  induction moves generalizing registry with
  | nil => rfl
  | cons move rest ih =>
      have notedNow := noted [] List.nil_prefix
      have notedAfter := noted [move] (List.prefix_append [move] rest)
      rw [follow_cons, ih (sound.move move) fun part isPart =>
        noted (move :: part) (List.cons_prefix_cons.2 ⟨rfl, isPart⟩)]
      exact sound.mem_timers_move_iff notedNow notedAfter isFor

/-- Only an operation begins a suspension. -/
theorem Sound.exists_act_of_lasts (sound : registry.Sound) {start : Move} {during : List Move}
    {epoch : Nat} (lasts : Lasts registry start during key epoch) :
    ∃ operation, start = .act operation := by
  have noted := lasts.noted [] List.nil_prefix
  cases start with
  | act operation => exact ⟨operation, rfl⟩
  | pass time => exact absurd noted lasts.isNew
  | fire index =>
      refine absurd ?_ lasts.isNew
      rw [follow_nil, Registry.move] at noted
      rcases sound.fired_cases index with ⟨timers, unchanged, _⟩ | ⟨timer, _, _, _, _, _, changed⟩
      · rw [unchanged] at noted
        exact noted
      · rw [changed] at noted
        exact (SortedMap.get?_erase_eq_some_iff.1 noted).2

/-- A timer for a suspension that begins is left over from an earlier one, or was set for
it and is due when its time is over. -/
theorem leftover_or_due (sound : origin.Sound) (isUntimed : origin.timers = [])
    {earlier during : List Move} {start : Move} {epoch : Nat} {entry : Entry} {timer : Timer}
    (lasts : Lasts (origin.follow earlier) start during key epoch)
    (present : ((origin.follow earlier).move start).entries.get? key = some entry)
    (isFor : timer.IsFor key epoch)
    (waiting : timer ∈ ((origin.follow earlier).move start).timers) :
    IsLeftover origin earlier timer ∨
      timer.due = (origin.follow earlier).wakeTime entry.timeout := by
  have soundNow := sound.follow earlier
  have noted := lasts.noted [] List.nil_prefix
  rcases soundNow.exists_act_of_lasts lasts with ⟨operation, rfl⟩
  have follows := soundNow.after_follows operation
  rcases isFor with ⟨rfl, rfl⟩
  rcases follows.timers with ⟨fresh, appended, since⟩
  simp only [Registry.move, appended] at waiting
  rcases List.mem_append.1 waiting with old | isFresh
  · rcases leftover_or_reached sound isUntimed earlier timer old with leftover | reached
    · exact .inl leftover
    · rcases reached with ⟨found, terminus, wasPresent, known, notLater⟩
      -- A terminus that has reached the timer's epoch begins its next suspension in a later one.
      rcases follows.renewed wasPresent known noted with wasNoted | grown
      · exact absurd wasNoted lasts.isNew
      · omega
  · rcases (since timer isFresh).due noted with ⟨found, isFound, due⟩
    have same : some found = some entry := isFound.symm.trans present
    cases same
    exact .inr due

/-- Before the time of a suspension is over, a timer can take its terminus out of the
table exactly if one is due that was left over from an earlier suspension of the same epoch.
Timers that leave the terminus in the table leave its records as well. -/
theorem expires_early_iff (config : Config) (storage : Storage) (hasTimers : Bool)
    (earlier during : List Move) (start : Move) (identifier : Identifier) (epoch : Nat)
    (entry : Entry) :
    let origin : Registry := { create config storage with hasTimers }
    let before := origin.follow earlier
    let current := (before.move start).follow during
    Lasts before start during identifier.key epoch →
    (before.move start).entries.get? identifier.key = some entry →
    current.now < before.now + entry.timeout →
      ((∃ index, (current.fire index).entries.get? identifier.key = none) ↔
        ∃ timer ∈ (before.move start).timers,
          timer.IsFor identifier.key epoch ∧ timer.due ≤ current.now ∧
            IsLeftover origin earlier timer) ∧
      ∀ index entry, (current.fire index).entries.get? identifier.key = some entry →
        (current.fire index).storage.held identifier = current.storage.held identifier := by
  intro origin before current lasts present early
  have sound : origin.Sound := Sound.create config storage hasTimers
  have soundStart : (before.move start).Sound := (sound.follow earlier).move start
  have soundNow : current.Sound := soundStart.follow during
  have noted : current.suspended.get? identifier.key = some epoch :=
    lasts.noted during (List.prefix_refl _)
  refine ⟨?_, fun index found isFound => soundNow.held_fire isFound⟩
  constructor
  · intro removal
    rcases removal with ⟨index, removed⟩
    rcases (soundNow.fire_removes_iff noted index).1 removed with ⟨timer, isSet, isFor, isDue⟩
    have waiting : timer ∈ (before.move start).timers :=
      (soundStart.mem_timers_follow_iff isFor during lasts.noted).1 (List.mem_of_getElem? isSet)
    refine ⟨timer, waiting, isFor, isDue, ?_⟩
    rcases leftover_or_due sound rfl lasts present isFor waiting with leftover | due
    · exact leftover
    · -- The suspension's own timer is not due while its time lasts.
      have atEnd : timer.due = before.now + entry.timeout := due
      omega
  · intro waits
    rcases waits with ⟨timer, waiting, isFor, isDue, _⟩
    have waitingNow : timer ∈ current.timers :=
      (soundStart.mem_timers_follow_iff isFor during lasts.noted).2 waiting
    rcases List.mem_iff_getElem?.1 waitingNow with ⟨index, isSet⟩
    exact ⟨index, (soundNow.fire_removes_iff noted index).2 ⟨timer, isSet, isFor, isDue⟩⟩

end Registry

/-- A terminus is suspended for a second and taken out of the table before that is over. -/
def Sample.takenOut : List Move :=
  [.act (.openLink (link "link-detach" 1)), .act (.register 0 false),
    .act (.suspend 0 .linkDetach), .pass 600, .act (.tryRemove identifier)]

namespace Registry

/-- Put back into the table at 600 for a second, the terminus lasts until 1000 only, when the
timer runs out that was set when it was suspended at first. -/
theorem expires_early_sample :
    let before := Sample.registry.follow Sample.takenOut
    let started := before.move (.act (.tryAdd 0))
    let current := started.follow [.pass 1000]
    before.now = 600 ∧ started.suspended.get? Sample.identifier.key = some 1 ∧
      (started.entries.get? Sample.identifier.key).map (·.timeout) = some 1000 ∧
      current.suspended.get? Sample.identifier.key = some 1 ∧ current.now = 1000 ∧
      (current.fire 0).entries.get? Sample.identifier.key = none := by
  decide +kernel

/-- The timer is left over from that first suspension. -/
theorem expires_early_iff_sample :
    let before := Sample.registry.follow Sample.takenOut
    ∃ timer ∈ (before.move (.act (.tryAdd 0))).timers,
      timer.IsFor Sample.identifier.key 1 ∧ timer.due ≤ 1000 ∧
        IsLeftover Sample.registry Sample.takenOut timer := by
  intro before
  have lasts : Lasts before (.act (.tryAdd 0)) [.pass 1000] Sample.identifier.key 1 := by
    constructor
    · decide +kernel
    · intro part isPart
      rcases List.prefix_cons_iff.1 isPart with rfl | ⟨rest, rfl, isNil⟩
      · decide +kernel
      · rw [List.prefix_nil.1 isNil]
        decide +kernel
  have isEarly := expires_early_iff default { store := .memory {} } true Sample.takenOut
    [.pass 1000] (.act (.tryAdd 0)) Sample.identifier 1 ⟨0, none, .linkDetach, 1000⟩ lasts
    (by decide +kernel) (by decide +kernel)
  exact isEarly.1.1 ⟨0, by decide +kernel⟩

end Registry

end Reattach
