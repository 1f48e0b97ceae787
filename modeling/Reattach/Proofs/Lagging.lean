import Reattach.Proofs.Awaiting

/-!
# Expiries that a wait misses

A wait that has missed events looks whether its identifier is served, and for nothing else.  So it
hears that its terminus has expired exactly if it has not fallen too far behind by then: if fewer
events were published after the expiry than the channel keeps.  Otherwise it goes on until its time
is up.
-/

namespace Reattach

namespace Notice

/-- Whether a notice tells that the terminus of an identifier has expired. -/
def isExpiryOf (identifier : Identifier) (notice : Notice) : Bool :=
  match notice.event with
  | .expired other => other == identifier
  | _ => false

variable {kind : Notice → Bool} {notices earlier since : List Notice} {last : Notice}

theorem exists_last (isThere : notices.any kind = true) :
    ∃ earlier last since, notices = earlier ++ last :: since ∧ kind last = true ∧
      since.any kind = false := by
  have isFound : (notices.reverse.find? kind).isSome = true := by
    rwa [List.find?_isSome, ← List.any_eq_true, List.any_reverse]
  obtain ⟨last, found⟩ := Option.isSome_iff_exists.1 isFound
  obtain ⟨isOfKind, after, before, divided, noneAfter⟩ := List.find?_eq_some_iff_append.1 found
  refine ⟨before.reverse, last, after.reverse, ?_, isOfKind, ?_⟩
  · simpa using congrArg List.reverse divided
  · simpa using noneAfter

/-- The last notice of a kind is among the last of all if fewer follow it than those are. -/
theorem any_drop_eq (isOfKind : kind last = true) (noneSince : since.any kind = false)
    (kept : Nat) :
    let notices := earlier ++ last :: since
    (notices.drop (notices.length - kept)).any kind = decide (since.length < kept) := by
  intro notices
  have length : notices.length = earlier.length + (since.length + 1) := by
    rw [List.length_append, List.length_cons]
  rw [List.drop_append, List.any_append]
  by_cases isKept : since.length < kept
  · have inWhole : notices.length - kept - earlier.length = 0 := by omega
    rw [inWhole, List.drop_zero, List.any_cons, isOfKind, Bool.true_or, Bool.or_true,
      decide_eq_true isKept]
  · have pastEarlier : earlier.length ≤ notices.length - kept := by omega
    obtain ⟨beyond, isBeyond⟩ : ∃ beyond, notices.length - kept - earlier.length = beyond + 1 :=
      ⟨notices.length - kept - earlier.length - 1, by omega⟩
    have noneLeft : (since.drop beyond).any kind = false := by
      rw [List.any_eq_false] at noneSince ⊢
      exact fun notice member => noneSince notice (List.mem_of_mem_drop member)
    rw [isBeyond, List.drop_succ_cons, noneLeft, List.drop_of_length_le pastEarlier,
      decide_eq_false isKept]
    rfl

end Notice

/-- A wait whose identifier is not served ends if it reads of an expiry of its own. -/
theorem Wait.read?_of_unserved {registry : Registry} {identifier : Identifier}
    (unserved : registry.attached? identifier = none) (reading : Reading) :
    read? registry identifier reading =
      if reading.notices.any (·.isExpiryOf identifier) then some (.error .expired) else none := by
  simp only [read?, unserved, ite_self]
  induction reading.notices with
  | nil => rfl
  | cons notice rest ih =>
      have reacts : react? registry identifier notice.event =
          if notice.isExpiryOf identifier then some (.error .expired) else none := by
        obtain ⟨_, event⟩ := notice
        cases event with
        | associated other => simp [Notice.isExpiryOf, react?, unserved]
        | expired other => rfl
        | stolen | suspended => rfl
      rw [List.findSome?_cons, reacts, ih, List.any_cons]
      cases notice.isExpiryOf identifier <;> rfl

namespace Registry

variable {registry later : Registry} {allowed : Registry → Operation → Prop}

/-- However a registry unfolds, a terminus that shares the channel stays what it is, and if it has
expired in the end and had not before, that was told. -/
theorem Unfolds.tells_expiry (unfolds : Unfolds allowed registry later) :
    later.channel.capacity = registry.channel.capacity ∧ ∃ notices : List Notice,
      later.channel.published.toList = registry.channel.published.toList ++ notices ∧
      ∀ (id : TerminusId) terminus, registry.termini[id]? = some terminus →
        terminus.isShared = true → terminus.phase ≠ .expired →
        ∃ grown, later.termini[id]? = some grown ∧ grown.identifier = terminus.identifier ∧
          grown.isShared = true ∧
          (grown.phase = .expired →
            ∃ notice ∈ notices, notice.event = .expired terminus.identifier) := by
  induction unfolds with
  | refl =>
      exact ⟨rfl, [], (List.append_nil _).symm, fun id terminus known isShared notExpired =>
        ⟨terminus, known, rfl, isShared, fun hasExpired => absurd hasExpired notExpired⟩⟩
  | tail _ stretch ih =>
      obtain ⟨capacity, earlier, isEarlier, told⟩ := ih
      obtain ⟨_, _, ⟨log, chronicle⟩, _⟩ := stretch
      obtain ⟨since, isSince, toldSince⟩ := chronicle.published
      refine ⟨chronicle.capacity.trans capacity, earlier ++ since, ?_, ?_⟩
      · rw [isSince, isEarlier, List.append_assoc]
      · intro id terminus known isShared notExpired
        obtain ⟨middle, isMiddle, same, sharedThen, toldThen⟩ :=
          told id terminus known isShared notExpired
        obtain ⟨grown, isGrown, lives⟩ := chronicle.lives id middle isMiddle
        have isSharedStill : grown.isShared = true := lives.keeps.2.trans sharedThen
        refine ⟨grown, isGrown, lives.keeps.1.trans same, isSharedStill, fun hasExpired => ?_⟩
        rcases lives.of_expired hasExpired with met | hadExpired
        · have isTold := mem_told isGrown isSharedStill met
          rw [← toldSince, same] at isTold
          obtain ⟨notice, isNotice, isEvent⟩ := List.mem_map.1 isTold
          exact ⟨notice, List.mem_append_right _ isNotice, isEvent⟩
        · obtain ⟨notice, isNotice, isEvent⟩ := toldThen hadExpired
          exact ⟨notice, List.mem_append_left _ isNotice, isEvent⟩

end Registry

namespace Waiter

variable {registry : Registry} {waiter : Waiter}

theorem deadline?_eq_some_iff {deadline : Nat} :
    waiter.deadline? = some deadline ↔
      ∃ wait, waiter.state = .waiting wait ∧ wait.deadline = deadline := by
  cases state : waiter.state <;> simp [deadline?, state]

theorem deadline?_visit_of_waiting {wait : Wait} (isWaiting : waiter.state = .waiting wait)
    (goesOn : (waiter.visit registry).result? = none) :
    (waiter.visit registry).deadline? = some wait.deadline := by
  rw [visit, isWaiting] at goesOn ⊢
  simp only at goesOn ⊢
  cases polled : Wait.poll registry { wait with isCancelled := waiter.isCancelled } with
  | ended result =>
      rw [polled] at goesOn
      cases goesOn
  | goesOn later =>
      obtain ⟨_, _, _, rfl⟩ := Wait.poll_eq_goesOn_iff.1 polled
      rfl

end Waiter

namespace Watch

variable {watch later : Watch} {allowed : Registry → Operation → Prop}

theorem Reaches.capacity (reaches : Reaches allowed watch later) (sound : watch.registry.Sound) :
    later.registry.Sound ∧
      later.registry.channel.capacity = watch.registry.channel.capacity := by
  induction reaches with
  | refl => exact ⟨sound, rfl⟩
  | tail _ turn ih =>
      obtain ⟨soundThen, capacity⟩ := ih
      exact ⟨turn.sound soundThen, (turn.unfolds soundThen).tells_expiry.1.trans capacity⟩

/-- That the terminus of a waiter's identifier expires between a watch and the next, while its wait
goes on uncancelled and in time, and that the identifier is not served in the end. -/
structure ExpiresFor (watch later : Watch) (index : Nat) (waiter grown : Waiter) (wait : Wait) :
    Prop where
  waits : watch.waiters[index]? = some waiter ∧ waiter.state = .waiting wait
  goesTo : later.waiters[index]? = some grown ∧ grown.isCancelled = false
  inTime : later.registry.now < wait.deadline
  expires : ∃ id terminus gone, watch.registry.find? waiter.identifier = some id ∧
    watch.registry.termini[id]? = some terminus ∧ terminus.phase ≠ .expired ∧
    later.registry.termini[id]? = some gone ∧ gone.phase = .expired
  unserved : ∀ id, ¬later.registry.Serves waiter.identifier id

/-- A wait hears that its terminus has expired exactly if fewer events were published after that
than the channel keeps.  If not, it goes on as before. -/
theorem expiry_heard_iff (config : Config) (storage : Storage) (hasTimers : Bool) :
    let origin : Watch := { registry := { Registry.create config storage with hasTimers } }
    (∀ operations, origin.Throughout Registry.SeedsNothing operations →
      Reaches Registry.SeedsNothing origin (origin.run operations).2) ∧
    ∀ watch later, Reaches Registry.SeedsNothing origin watch →
      Turn Registry.SeedsNothing watch later →
      ∀ index waiter grown wait, watch.ExpiresFor later index waiter grown wait →
        ∃ earlier notice since,
          later.registry.channel.published.toList =
            watch.registry.channel.published.toList ++ (earlier ++ notice :: since) ∧
          notice.isExpiryOf waiter.identifier = true ∧
          since.any (·.isExpiryOf waiter.identifier) = false ∧
          if since.length < config.eventsKept then
            grown.result? = some (later.registry.now, .error .expired)
          else
            grown.result? = none ∧ grown.deadline? = some wait.deadline := by
  intro origin
  have inOrderFirst : origin.InOrder := inOrder_of_new config storage hasTimers
  refine ⟨fun operations => reaches_run inOrderFirst.isCaughtUp,
    fun watch later reached turn index waiter grown wait expiresFor => ?_⟩
  have inOrder := Reaches.inOrder reached inOrderFirst
  obtain ⟨isThere, isWaiting⟩ := expiresFor.waits
  obtain ⟨id, terminus, gone, found, known, notExpired, isGone, hasExpired⟩ := expiresFor.expires
  -- The terminus was in the table, so it shares the channel and its expiry was told.
  obtain ⟨entry, present, rfl⟩ := Option.map_eq_some_iff.1 found
  obtain ⟨shared, isShared, shares⟩ := inOrder.native.shared present
  obtain ⟨owned, isOwned, isOwn⟩ := inOrder.sound.keyed present
  rw [known, Option.some.injEq] at isShared isOwned
  subst isShared isOwned
  obtain ⟨capacity, notices, published, told⟩ := (turn.unfolds inOrder.sound).tells_expiry
  obtain ⟨last, isLast, _, _, toldExpiry⟩ := told _ _ known shares notExpired
  rw [isGone, Option.some.injEq] at isLast
  subst isLast
  obtain ⟨notice, member, isExpiry⟩ := toldExpiry hasExpired
  have isTold : notices.any (·.isExpiryOf waiter.identifier) = true := by
    refine List.any_eq_true.2 ⟨notice, member, ?_⟩
    simp only [Notice.isExpiryOf, isExpiry]
    exact (Identifier.beq_iff_key_eq _ _).2 isOwn
  obtain ⟨earlier, last, since, rfl, isLast, noneSince⟩ := Notice.exists_last isTold
  refine ⟨earlier, last, since, published, isLast, noneSince, ?_⟩
  -- What the waiter reads of this depends on how much came after it.
  have keeps : later.registry.channel.capacity = config.eventsKept :=
    capacity.trans (Reaches.capacity reached inOrderFirst.sound).2
  have unserved : later.registry.attached? waiter.identifier = none := by
    by_contra served
    obtain ⟨id, isServed⟩ := Option.ne_none_iff_exists'.1 served
    exact expiresFor.unserved id (Registry.attached?_eq_some_iff.1 isServed)
  obtain ⟨asked, isThen, _, state, identifier, _⟩ := turn.goes_to inOrder.isCaughtUp isThere
  rw [expiresFor.goesTo.1, Option.some.injEq] at isThen
  have uncancelled := expiresFor.goesTo.2
  subst isThen
  rw [Waiter.isCancelled_visit] at uncancelled
  have askedWaits := state.trans isWaiting
  have result : (asked.visit later.registry).result? =
      if since.length < config.eventsKept then some (later.registry.now, .error .expired)
      else none := by
    have isCaughtUp := inOrder.isCaughtUp.waiters waiter (List.mem_of_getElem? isThere)
    have goesOn : waiter.result? = none := by rw [Waiter.result?, isWaiting]
    obtain ⟨same, isSame, _, _, result⟩ := isCaughtUp.result?_visit goesOn state published
    rw [isWaiting, WaiterState.waiting.injEq] at isSame
    subst isSame
    rw [result, uncancelled, if_neg Bool.false_ne_true,
      if_neg (Nat.not_le_of_lt expiresFor.inTime), Wait.read?_of_unserved unserved, keeps,
      Notice.any_drop_eq isLast noneSince]
    by_cases isKept : since.length < config.eventsKept <;> simp [isKept]
  split
  · next isKept => rw [result, if_pos isKept]
  · next isLost =>
      rw [if_neg isLost] at result
      exact ⟨result, Waiter.deadline?_visit_of_waiting askedWaits result⟩

end Watch

/-- Two termini are suspended for a second, and a wait begins for the first. -/
def Sample.awaitingSuspended : List Operation :=
  [.openLink (link "link-detach" 1), .openLink (otherLink "link-detach" 1), .register 0 false,
    .register 1 false, .suspend 0 .linkDetach, .suspend 1 .linkDetach,
    .await "first" identifier 5000]

namespace Watch

/-- The channel keeps one event.  The second terminus expires at the same instant as the first, and
the wait for the first goes on: it would end at the end of its timeout. -/
theorem expiry_missed_sample :
    let watch := (Sample.narrow.run Sample.awaitingSuspended).2
    let later := (watch.step (.wait 2000)).2
    watch.resultAt? 0 = none ∧
      watch.registry.termini[0]?.map (·.phase) = some .suspended ∧
      later.registry.termini[0]?.map (·.phase) = some .expired ∧
      later.registry.attached? Sample.identifier = none ∧ later.registry.now = 2000 ∧
      later.resultAt? 0 = none ∧ later.waiters[0]?.bind Waiter.deadline? = some 5000 := by
  decide +kernel

/-- The channel keeps more than was published, and the wait ends when its terminus expires. -/
theorem expiry_heard_iff_sample :
    let watch := (Sample.watch.run Sample.awaitingSuspended).2
    let later := watch.moveTo 1000
    ∃ waiter grown wait, watch.ExpiresFor later 0 waiter grown wait ∧
      grown.result? = some (1000, .error .expired) := by
  intro watch later
  obtain ⟨runs, turns⟩ := expiry_heard_iff default { store := .memory {} } true
  have reached := runs Sample.awaitingSuspended (throughout_of_own (by decide))
  have facts :
      (watch.dues = [1000, 1000, 5000] ∧ watch.registry.now = 0) ∧
      (watch.waiters[0]?.bind Waiter.deadline? = some 5000 ∧
        later.waiters[0]?.map (·.isCancelled) = some false) ∧
      ((watch.waiters[0]?.bind fun waiter => watch.registry.find? waiter.identifier) = some 0 ∧
        (watch.waiters[0]?.bind fun waiter => later.registry.attached? waiter.identifier) = none) ∧
      (watch.registry.termini[0]?.map (·.phase) = some .suspended ∧
        later.registry.termini[0]?.map (·.phase) = some .expired) ∧
      later.registry.channel.published.toList.length = 6 := by
    decide +kernel
  obtain ⟨⟨dues, now⟩, ⟨waits, goesOn⟩, ⟨whose, noneServed⟩, ⟨phase, phaseThen⟩, six⟩ := facts
  have turn : Turn Registry.SeedsNothing watch later := by
    have late : ∀ due ∈ [1000, 1000, 5000], 1000 ≤ due := by decide
    refine .pass (by rw [now]; exact Nat.zero_le _) fun due isDue _ => ?_
    rw [dues] at isDue
    exact late due isDue
  have nowThen : later.registry.now = 1000 := now_moveTo watch 1000
  obtain ⟨waiter, isThere, isWaiting⟩ := Option.bind_eq_some_iff.1 waits
  obtain ⟨wait, state, deadline⟩ := Waiter.deadline?_eq_some_iff.1 isWaiting
  obtain ⟨grown, isThen, uncancelled⟩ := Option.map_eq_some_iff.1 goesOn
  obtain ⟨terminus, known, wasSuspended⟩ := Option.map_eq_some_iff.1 phase
  obtain ⟨gone, isGone, hasExpired⟩ := Option.map_eq_some_iff.1 phaseThen
  rw [isThere, Option.bind_some] at whose noneServed
  have expiresFor : watch.ExpiresFor later 0 waiter grown wait := by
    refine ⟨⟨isThere, state⟩, ⟨isThen, uncancelled⟩, by rw [nowThen, deadline]; decide,
      ⟨0, terminus, gone, whose, known, by rw [wasSuspended]; decide, isGone, hasExpired⟩, ?_⟩
    intro id serves
    rw [Registry.attached?_eq_some_iff.2 serves] at noneServed
    cases noneServed
  refine ⟨waiter, grown, wait, expiresFor, ?_⟩
  obtain ⟨earlier, notice, since, published, _, _, ends⟩ :=
    turns watch later reached turn 0 waiter grown wait expiresFor
  -- Six notices were published in all, which is less than is kept.
  rw [published, List.length_append, List.length_append, List.length_cons] at six
  have kept : (default : Config).eventsKept = 64 := by decide +kernel
  have isKept : since.length < (default : Config).eventsKept := by omega
  rw [if_pos isKept, nowThen] at ends
  exact ends

end Watch

end Reattach
