import Reattach.Proofs.Chronicle
import Reattach.Proofs.Deadlines

/-!
# Turns

Time passes from one instant at which something is due to the next.  So all that happens
to a watch happens in turns: some operations are carried out, or the clock reaches an instant and
the timers due at it run, and then all that follow the registry catch up.  A run of operations is
a chain of turns, and what a wait makes of a turn depends on nothing but what was published in
it and on the registry at its end.
-/

namespace Reattach

/-! ## Waits that have caught up -/

namespace Wait

/-- When a wait goes on. -/
theorem poll_eq_goesOn_iff {registry : Registry} {wait later : Wait} :
    poll registry wait = .goesOn later ↔
      wait.isCancelled = false ∧ registry.now < wait.deadline ∧
      read? registry wait.identifier (registry.channel.readFrom wait.position) = none ∧
      later = { wait with position := registry.channel.subscribe } := by
  unfold poll
  split
  · next isCancelled => simp [isCancelled]
  · next notCancelled =>
      split
      · next isOver => simp [Nat.not_lt.2 isOver]
      · next inTime =>
          rw [and_iff_right (Bool.not_eq_true _ ▸ notCancelled),
            and_iff_right (Nat.lt_of_not_le inTime)]
          dsimp only
          split
          · next isRead => simp [isRead]
          · next unread =>
              rw [and_iff_right unread, Progress.goesOn.injEq, eq_comm]
              rfl

end Wait

namespace Waiter

/-- That a waiter's wait, if it has begun, is one for what the waiter asks. -/
def IsReady (waiter : Waiter) : Prop :=
  match waiter.state with
  | .idle => True
  | .waiting wait => wait.identifier = waiter.identifier ∧ wait.timeout = waiter.timeout
  | .ended _ _ => True

/-- That a waiter has seen all that a registry has published: it has ended, or is waiting in time
and uncancelled. -/
inductive IsCaughtUp (registry : Registry) (waiter : Waiter) : Prop where
  | waiting {wait : Wait} (state : waiter.state = .waiting wait)
      (same : wait.identifier = waiter.identifier ∧ wait.timeout = waiter.timeout)
      (uncancelled : waiter.isCancelled = false ∧ wait.isCancelled = false)
      (inTime : registry.now < wait.deadline)
      (position : wait.position = registry.channel.subscribe)
  | ended {time : Nat} {result : WaitResult} (state : waiter.state = .ended time result)

variable {registry : Registry} {waiter : Waiter}

theorem IsCaughtUp.isReady (isCaughtUp : waiter.IsCaughtUp registry) : waiter.IsReady := by
  cases isCaughtUp with
  | waiting state same =>
      rw [IsReady, state]
      exact same
  | ended state =>
      rw [IsReady, state]
      trivial

theorem IsCaughtUp.notIdle (isCaughtUp : waiter.IsCaughtUp registry) : waiter.state ≠ .idle := by
  cases isCaughtUp with
  | waiting state =>
      rw [state]
      exact WaiterState.noConfusion
  | ended state =>
      rw [state]
      exact WaiterState.noConfusion

theorem IsCaughtUp.visit (isCaughtUp : waiter.IsCaughtUp registry) :
    waiter.visit registry = waiter := by
  cases isCaughtUp with
  | @waiting wait state same uncancelled inTime position =>
      have same : { wait with isCancelled := waiter.isCancelled } = wait := by
        rw [uncancelled.1, ← uncancelled.2]
      have goesOn : Wait.poll registry wait = .goesOn wait := by
        rw [Wait.poll_eq_goesOn_iff]
        refine ⟨uncancelled.2, inTime, ?_, by rw [← position]⟩
        rw [position, Channel.readFrom_subscribe]
        rfl
      rw [Waiter.visit, state]
      simp only [same, goesOn, after, ← state]
  | ended state => rw [Waiter.visit, state]

theorem IsReady.visit (isReady : waiter.IsReady) :
    (waiter.visit registry).IsCaughtUp registry := by
  have seen {progress : Wait.Progress} {wait : Wait} (polled : Wait.poll registry wait = progress)
      (same : wait.identifier = waiter.identifier ∧ wait.timeout = waiter.timeout)
      (flag : wait.isCancelled = waiter.isCancelled) :
      (waiter.after registry.now progress).IsCaughtUp registry := by
    cases progress with
    | ended result => exact .ended rfl
    | goesOn later =>
        obtain ⟨uncancelled, inTime, _, rfl⟩ := Wait.poll_eq_goesOn_iff.1 polled
        exact .waiting rfl same ⟨flag.symm.trans uncancelled, uncancelled⟩ inTime rfl
  rw [IsReady] at isReady
  rw [Waiter.visit]
  cases state : waiter.state with
  | idle =>
      simp only [Wait.start]
      split
      · exact .ended rfl
      · exact seen rfl ⟨rfl, rfl⟩ rfl
  | waiting wait =>
      rw [state] at isReady
      exact seen rfl isReady rfl
  | ended time result => exact .ended state

theorem exists_visit_eq (registry : Registry) (waiter : Waiter) :
    ∃ state, waiter.visit registry = { waiter with state } := by
  simp only [visit, after]
  split
  · split <;> exact ⟨_, rfl⟩
  · split <;> exact ⟨_, rfl⟩
  · exact ⟨_, rfl⟩

@[simp] theorem identifier_visit (registry : Registry) (waiter : Waiter) :
    (waiter.visit registry).identifier = waiter.identifier := by
  obtain ⟨_, visited⟩ := waiter.exists_visit_eq registry
  rw [visited]

@[simp] theorem timeout_visit (registry : Registry) (waiter : Waiter) :
    (waiter.visit registry).timeout = waiter.timeout := by
  obtain ⟨_, visited⟩ := waiter.exists_visit_eq registry
  rw [visited]

@[simp] theorem isCancelled_visit (registry : Registry) (waiter : Waiter) :
    (waiter.visit registry).isCancelled = waiter.isCancelled := by
  obtain ⟨_, visited⟩ := waiter.exists_visit_eq registry
  rw [visited]

theorem deadline?_visit (notIdle : waiter.state ≠ .idle) {deadline : Nat}
    (waits : (waiter.visit registry).deadline? = some deadline) :
    waiter.deadline? = some deadline := by
  rw [Waiter.visit] at waits
  cases state : waiter.state with
  | idle => exact absurd state notIdle
  | ended time result => simpa only [state] using waits
  | waiting wait =>
      simp only [state] at waits
      cases polled : Wait.poll registry { wait with isCancelled := waiter.isCancelled } with
      | ended result =>
          rw [polled] at waits
          cases waits
      | goesOn later =>
          rw [polled] at waits
          obtain ⟨_, _, _, rfl⟩ := Wait.poll_eq_goesOn_iff.1 polled
          rw [deadline?, state]
          exact waits

end Waiter

namespace Watch

/-! ## Watches that have caught up -/

/-- When something is due. -/
def dues (watch : Watch) : List Nat :=
  watch.registry.timers.map (·.due) ++ watch.waiters.filterMap (·.deadline?)

/-- That all who follow a registry have caught up. -/
structure IsCaughtUp (watch : Watch) : Prop where
  heard : watch.position = watch.registry.channel.subscribe
  waiters : ∀ waiter ∈ watch.waiters, waiter.IsCaughtUp watch.registry

variable {watch later : Watch} {allowed : Registry → Operation → Prop}

theorem IsCaughtUp.settle (isCaughtUp : watch.IsCaughtUp) : watch.settle = watch := by
  have visited : watch.waiters.map (·.visit watch.registry) = watch.waiters := by
    rw [List.map_congr_left fun waiter member => (isCaughtUp.waiters waiter member).visit,
      List.map_id']
  have nothing := watch.registry.channel.readFrom_subscribe
  rw [← isCaughtUp.heard] at nothing
  simp only [Watch.settle, listen, nothing, visited, if_true, List.map_nil, List.append_nil]
  exact congrArg (fun position => { watch with position }) isCaughtUp.heard.symm

/-- Once all catch up, all have caught up. -/
theorem isCaughtUp_settle (ready : ∀ waiter ∈ watch.waiters, waiter.IsReady) :
    watch.settle.IsCaughtUp := by
  refine ⟨rfl, fun waiter member => ?_⟩
  obtain ⟨before, wasThere, rfl⟩ := List.mem_map.1 member
  exact (ready before wasThere).visit

theorem IsCaughtUp.ready (isCaughtUp : watch.IsCaughtUp) :
    ∀ waiter ∈ watch.waiters, waiter.IsReady :=
  fun waiter member => (isCaughtUp.waiters waiter member).isReady

theorem IsCaughtUp.moveTo (isCaughtUp : watch.IsCaughtUp) (time : Nat) :
    (watch.moveTo time).IsCaughtUp :=
  isCaughtUp_settle isCaughtUp.ready

theorem now_runTimers (registry : Registry) : registry.runTimers.now = registry.now := by
  simp only [Registry.runTimers, List.partition_eq_filter_filter]
  exact (Registry.foldl_expireEpoch _ _).2

@[simp] theorem now_moveTo (watch : Watch) (time : Nat) :
    (watch.moveTo time).registry.now = time :=
  now_runTimers _

/-- Nothing new falls due by the passing of time. -/
theorem IsCaughtUp.mem_dues_moveTo (isCaughtUp : watch.IsCaughtUp) {time due : Nat}
    (isDue : due ∈ (watch.moveTo time).dues) : due ∈ watch.dues := by
  rw [dues, List.mem_append] at isDue ⊢
  rcases isDue with ofTimer | ofWaiter
  · left
    obtain ⟨timer, isSet, rfl⟩ := List.mem_map.1 ofTimer
    refine List.mem_map.2 ⟨timer, ?_, rfl⟩
    change timer ∈ (Registry.runTimers { watch.registry with now := time }).timers at isSet
    simp only [Registry.runTimers, List.partition_eq_filter_filter] at isSet
    rw [(Registry.foldl_expireEpoch _ _).1] at isSet
    exact (List.mem_filter.1 isSet).1
  · right
    obtain ⟨waiter, member, waits⟩ := List.mem_filterMap.1 ofWaiter
    obtain ⟨before, wasThere, rfl⟩ := List.mem_map.1 member
    have notIdle := (isCaughtUp.waiters before wasThere).notIdle
    exact List.mem_filterMap.2 ⟨before, wasThere, Waiter.deadline?_visit notIdle waits⟩

theorem IsCaughtUp.lt_of_mem_dues (isCaughtUp : watch.IsCaughtUp) {time due : Nat}
    (isDue : due ∈ (watch.moveTo time).dues) : time < due := by
  rw [dues, List.mem_append] at isDue
  rcases isDue with ofTimer | ofWaiter
  · obtain ⟨timer, isSet, rfl⟩ := List.mem_map.1 ofTimer
    have early := Registry.early_runTimers { watch.registry with now := time } timer isSet
    rwa [now_runTimers] at early
  · obtain ⟨waiter, member, waits⟩ := List.mem_filterMap.1 ofWaiter
    cases (isCaughtUp.moveTo time).waiters waiter member with
    | waiting state _ _ inTime =>
        rw [Waiter.deadline?, state, Option.some.injEq] at waits
        rwa [now_moveTo, waits] at inTime
    | ended state =>
        rw [Waiter.deadline?, state] at waits
        cases waits

/-! ## Instants -/

theorem mem_insertInstant_iff {time other : Nat} {instants : List Nat} :
    other ∈ insertInstant time instants ↔ other = time ∨ other ∈ instants := by
  induction instants with
  | nil => simp [insertInstant]
  | cons head rest ih =>
      rw [insertInstant]
      split
      · exact List.mem_cons
      · split
        · next same => simp [same]
        · rw [List.mem_cons, ih, List.mem_cons, or_left_comm]

theorem pairwise_insertInstant {time : Nat} {instants : List Nat}
    (sorted : instants.Pairwise (· < ·)) : (insertInstant time instants).Pairwise (· < ·) := by
  induction instants with
  | nil => exact List.pairwise_singleton _ _
  | cons head rest ih =>
      obtain ⟨isFirst, sortedRest⟩ := List.pairwise_cons.1 sorted
      rw [insertInstant]
      split
      · next before =>
          refine List.pairwise_cons.2 ⟨fun other member => ?_, sorted⟩
          rcases List.mem_cons.1 member with rfl | isLater
          · exact before
          · exact Nat.lt_trans before (isFirst other isLater)
      · split
        · exact sorted
        · refine List.pairwise_cons.2 ⟨fun other member => ?_, ih sortedRest⟩
          rcases mem_insertInstant_iff.1 member with rfl | isLater
          · omega
          · exact isFirst other isLater

theorem foldl_insertInstant (times instants : List Nat) (sorted : instants.Pairwise (· < ·)) :
    let all := times.foldl (fun instants time => insertInstant time instants) instants
    all.Pairwise (· < ·) ∧ ∀ time, time ∈ all ↔ time ∈ times ∨ time ∈ instants := by
  induction times generalizing instants with
  | nil => exact ⟨sorted, fun time => by simp⟩
  | cons head rest ih =>
      obtain ⟨isSorted, members⟩ := ih (insertInstant head instants) (pairwise_insertInstant sorted)
      refine ⟨isSorted, fun time => ?_⟩
      rw [List.foldl_cons, members, mem_insertInstant_iff, List.mem_cons, or_assoc, or_left_comm]

/-- The instants before a target are all at which something is due until then, in order. -/
theorem instantsBefore_spec (watch : Watch) (target : Nat) :
    (watch.instantsBefore target).Pairwise (· < ·) ∧
      ∀ time, time ∈ watch.instantsBefore target ↔ time ∈ watch.dues ∧ time < target := by
  obtain ⟨sorted, members⟩ :=
    foldl_insertInstant (watch.dues.filter (· < target)) [] List.Pairwise.nil
  refine ⟨sorted, fun time => (members time).trans ?_⟩
  simp

/-! ## Turns -/

/-- An operation is carried out, and nobody catches up yet. -/
inductive Work (allowed : Registry → Operation → Prop) : Watch → Watch → Prop where
  | carryOut {watch : Watch} {operation : Operation} (isAllowed : allowed watch.registry operation)
      (isNoWait : ∀ millis, operation ≠ .wait millis) :
      Work allowed watch (watch.perform operation).2

/-- One turn of a watch, with the operations that are allowed in its registry.  Any number of them
are carried out, or time goes on to the next instant at which something is due, or not so far; then
all catch up. -/
inductive Turn (allowed : Registry → Operation → Prop) : Watch → Watch → Prop where
  | act {watch busy : Watch} (works : Relation.ReflTransGen (Work allowed) watch busy) :
      Turn allowed watch busy.settle
  | pass {watch : Watch} {time : Nat} (notBack : watch.registry.now ≤ time)
      (skipsNone : ∀ due ∈ watch.dues, watch.registry.now < due → time ≤ due) :
      Turn allowed watch (watch.moveTo time)

/-- That a watch goes on to a later one in turns. -/
abbrev Reaches (allowed : Registry → Operation → Prop) : Watch → Watch → Prop :=
  Relation.ReflTransGen (Turn allowed)

/-- An operation makes a turn by itself. -/
theorem turn_step {operation : Operation} (isAllowed : allowed watch.registry operation)
    (isNoWait : ∀ millis, operation ≠ .wait millis) :
    Turn allowed watch (watch.step operation).2 :=
  .act (.single (.carryOut isAllowed isNoWait))

/-- That some waiters are others that were asked to end, with some that are to begin. -/
structure Asks (waiters asked : List Waiter) : Prop where
  kept : ∀ (index : Nat) waiter, waiters[index]? = some waiter →
    ∃ later, asked[index]? = some later ∧ later.state = waiter.state ∧
      later.identifier = waiter.identifier ∧ later.timeout = waiter.timeout
  begun : ∀ (index : Nat) later, waiters[index]? = none → asked[index]? = some later →
    later.state = .idle

theorem Asks.refl (waiters : List Waiter) : Asks waiters waiters where
  kept := fun _ waiter isThere => ⟨waiter, isThere, rfl, rfl, rfl⟩
  begun := by
    intro index later isNew isThere
    rw [isNew] at isThere
    cases isThere

theorem Asks.trans {waiters between asked : List Waiter} (first : Asks waiters between)
    (second : Asks between asked) : Asks waiters asked where
  kept := by
    intro index waiter isThere
    obtain ⟨middle, isMiddle, state, identifier, timeout⟩ := first.kept index waiter isThere
    obtain ⟨later, isLater, stateThen, identifierThen, timeoutThen⟩ :=
      second.kept index middle isMiddle
    exact ⟨later, isLater, stateThen.trans state, identifierThen.trans identifier,
      timeoutThen.trans timeout⟩
  begun := by
    intro index later isNew isThere
    cases isMiddle : between[index]? with
    | none => exact second.begun index later isMiddle isThere
    | some middle =>
        obtain ⟨same, isSame, state, _⟩ := second.kept index middle isMiddle
        rw [isThere, Option.some.injEq] at isSame
        subst isSame
        exact state.trans (first.begun index middle isNew isMiddle)

theorem Asks.ready {waiters asked : List Waiter} (asks : Asks waiters asked) {registry : Registry}
    (areCaughtUp : ∀ waiter ∈ waiters, waiter.IsCaughtUp registry) :
    ∀ waiter ∈ asked, waiter.IsReady := by
  intro later member
  obtain ⟨index, isLater⟩ := List.mem_iff_getElem?.1 member
  cases isBefore : waiters[index]? with
  | none =>
      rw [Waiter.IsReady, asks.begun index later isBefore isLater]
      trivial
  | some waiter =>
      obtain ⟨same, isSame, state, identifier, timeout⟩ := asks.kept index waiter isBefore
      rw [isLater, Option.some.injEq] at isSame
      subst isSame
      have isCaughtUp := areCaughtUp waiter (List.mem_iff_getElem?.2 ⟨index, isBefore⟩)
      have isReady := isCaughtUp.isReady
      rw [Waiter.IsReady] at isReady ⊢
      rw [state]
      cases isCaughtUp with
      | waiting isWaiting =>
          rw [isWaiting] at isReady ⊢
          rwa [identifier, timeout]
      | ended hasEnded =>
          rw [hasEnded]
          trivial

/-- An operation that is done at once leaves the waiters alone. -/
theorem waiters_perform (watch : Watch) {operation : Operation}
    (isInstant : operation.isInstant = true) :
    (watch.perform operation).2.waiters = watch.waiters := by
  cases operation with
  | wait _ | await _ _ _ | cancel _ => simp [Operation.isInstant] at isInstant
  | failOnSteal id _ =>
      cases known : watch.registry.links[id]? <;> simp [perform, onLink, known, withRegistry]
  | noteDelivery id _ _ | settleDelivery id _ | planRecovery id _ =>
      cases known : watch.registry.termini[id]? <;>
        simp [perform, onTerminus, known, withStorage, withRegistry]
  | _ => rfl

/-- An operation begins waits and asks them to end, and does nothing else to them. -/
theorem asks_perform (watch : Watch) {operation : Operation}
    (isNoWait : ∀ millis, operation ≠ .wait millis) :
    Asks watch.waiters (watch.perform operation).2.waiters := by
  by_cases isInstant : operation.isInstant = true
  · rw [waiters_perform watch isInstant]
    exact .refl _
  · cases operation with
    | wait millis => exact absurd rfl (isNoWait millis)
    | await name identifier timeout =>
        refine ⟨fun index waiter isThere => ⟨waiter, ?_, rfl, rfl, rfl⟩, ?_⟩
        · exact (List.getElem?_append_left (List.getElem?_eq_some_iff.1 isThere).1).trans isThere
        · intro index later isNew isThere
          change (watch.waiters ++ [_])[index]? = some later at isThere
          rw [List.getElem?_append_right (List.getElem?_eq_none_iff.1 isNew)] at isThere
          obtain rfl := List.mem_singleton.1 (List.mem_of_getElem? isThere)
          rfl
    | cancel name =>
        have asked (index : Nat) : (watch.cancel name).waiters[index]? =
            watch.waiters[index]?.map fun waiter =>
              if waiter.name = name then { waiter with isCancelled := true } else waiter :=
          List.getElem?_map
        refine ⟨fun index waiter isThere => ?_, fun index later isNew isThere => ?_⟩
        · refine ⟨_, (asked index).trans (congrArg _ isThere), ?_⟩
          dsimp only
          split <;> exact ⟨rfl, rfl, rfl⟩
        · change (watch.cancel name).waiters[index]? = some later at isThere
          rw [asked, isNew] at isThere
          cases isThere
    | _ => exact absurd rfl isInstant

/-! ## What a turn does -/

theorem asks_works {busy : Watch} (works : Relation.ReflTransGen (Work allowed) watch busy) :
    Asks watch.waiters busy.waiters := by
  induction works with
  | refl => exact .refl _
  | @tail between busy _ work ih =>
      cases work with
      | carryOut _ isNoWait => exact ih.trans (between.asks_perform isNoWait)

/-- What a turn makes of the waiters: what they are asked is seen to in the registry that the turn
leaves, and then all have caught up. -/
theorem Turn.waiters (turn : Turn allowed watch later) (isCaughtUp : watch.IsCaughtUp) :
    later.IsCaughtUp ∧ ∃ asked, Asks watch.waiters asked ∧
      later.waiters = asked.map (·.visit later.registry) := by
  cases turn with
  | act works =>
      have asks := asks_works works
      exact ⟨isCaughtUp_settle (asks.ready isCaughtUp.waiters), _, asks, rfl⟩
  | pass _ _ => exact ⟨isCaughtUp.moveTo _, _, .refl _, rfl⟩

theorem Turn.isCaughtUp (turn : Turn allowed watch later) (isCaughtUp : watch.IsCaughtUp) :
    later.IsCaughtUp :=
  (turn.waiters isCaughtUp).1

end Watch

/-- That a registry becomes another one by an operation that is allowed, or by the passing of
time, of which there is a chronicle. -/
inductive Registry.Stretch (allowed : Registry → Operation → Prop) (registry later : Registry) :
    Prop where
  | intro {operation : Operation} (sound : registry.Sound)
      (isAllowed : allowed registry operation ∨ operation = .wait 0)
      (evolves : Evolves operation registry later) (soundThen : later.Sound)

/-- That a registry becomes another one in stretches of which there are chronicles. -/
abbrev Registry.Unfolds (allowed : Registry → Operation → Prop) : Registry → Registry → Prop :=
  Relation.ReflTransGen (Stretch allowed)

theorem Registry.Unfolds.sound {allowed : Registry → Operation → Prop} {registry later : Registry}
    (unfolds : Unfolds allowed registry later) (sound : registry.Sound) : later.Sound := by
  cases unfolds with
  | refl => exact sound
  | tail _ stretch => exact stretch.rec fun _ _ _ soundThen => soundThen

namespace Watch

variable {watch later : Watch} {allowed : Registry → Operation → Prop}

/-- What is done to a registry in a turn unfolds, and takes no time. -/
theorem unfolds_works {busy : Watch} (works : Relation.ReflTransGen (Work allowed) watch busy)
    (sound : watch.registry.Sound) :
    Registry.Unfolds allowed watch.registry busy.registry ∧
      busy.registry.now = watch.registry.now := by
  induction works with
  | refl => exact ⟨.refl, rfl⟩
  | @tail between busy _ work ih =>
      obtain ⟨unfolds, now⟩ := ih
      have soundThen := unfolds.sound sound
      cases work with
      | @carryOut operation isAllowed isNoWait =>
          have acted : (between.perform operation).2.registry = between.registry.after operation :=
            registry_step between isNoWait
          rw [acted, (soundThen.after_follows operation).now]
          exact ⟨unfolds.tail (.intro soundThen (.inl isAllowed) (soundThen.evolves_after operation)
            (soundThen.move (.act operation))), now⟩

theorem evolves_moveTo (watch : Watch) (time : Nat) :
    Registry.Evolves (.wait 0) watch.registry (watch.moveTo time).registry := by
  let passed : Registry := { watch.registry with now := time }
  have passes : Registry.Evolves (.wait 0) watch.registry passed :=
    .plain rfl rfl rfl fun _ _ present => present
  exact passes.trans (.runTimers passed)

/-- All that a turn makes of the registry unfolds. -/
theorem Turn.unfolds (turn : Turn allowed watch later) (sound : watch.registry.Sound) :
    Registry.Unfolds allowed watch.registry later.registry := by
  cases turn with
  | act works => exact (unfolds_works works sound).1
  | @pass time _ _ =>
      let passed : Registry := { watch.registry with now := time }
      obtain ⟨moves, _, followed⟩ := Registry.exists_follow_runTimers passed
      refine .single (.intro sound (.inr rfl) (watch.evolves_moveTo time) ?_)
      change passed.runTimers.Sound
      rw [← followed]
      exact (sound.withNow time).follow moves

theorem Turn.sound (turn : Turn allowed watch later) (sound : watch.registry.Sound) :
    later.registry.Sound :=
  (turn.unfolds sound).sound sound

/-- Time does not go back. -/
theorem Turn.now_le (turn : Turn allowed watch later) (sound : watch.registry.Sound) :
    watch.registry.now ≤ later.registry.now := by
  cases turn with
  | act works => exact Nat.le_of_eq (unfolds_works works sound).2.symm
  | pass notBack _ =>
      rw [now_moveTo]
      exact notBack

theorem Turn.now_le_due (turn : Turn allowed watch later) (sound : watch.registry.Sound) {due : Nat}
    (isDue : due ∈ watch.dues) (isLater : watch.registry.now < due) : later.registry.now ≤ due := by
  cases turn with
  | act works => exact (unfolds_works works sound).2 ▸ Nat.le_of_lt isLater
  | pass _ skipsNone =>
      rw [now_moveTo]
      exact skipsNone due isDue isLater

theorem Reaches.isCaughtUp (reaches : Reaches allowed watch later)
    (isCaughtUp : watch.IsCaughtUp) : later.IsCaughtUp := by
  induction reaches with
  | refl => exact isCaughtUp
  | tail _ turn ih => exact turn.isCaughtUp ih

/-! ## Runs are chains of turns -/

/-- Going from one instant to the next is a chain of turns, if the instants are all those before a
target at which something is due.  The induction is on the instants that are still to come. -/
theorem reaches_foldl_moveTo {target : Nat} (instants : List Nat) (isCaughtUp : watch.IsCaughtUp)
    (notOver : watch.registry.now ≤ target) (sorted : instants.Pairwise (· < ·))
    (toCome : ∀ time ∈ instants, watch.registry.now < time ∧ time < target)
    (complete : ∀ due ∈ watch.dues, watch.registry.now < due → due < target → due ∈ instants) :
    Reaches allowed watch ((instants.foldl Watch.moveTo watch).moveTo target) := by
  induction instants generalizing watch with
  | nil =>
      refine .single (.pass notOver fun due isDue isLater => ?_)
      by_contra tooFar
      exact absurd (complete due isDue isLater (Nat.lt_of_not_le tooFar)) List.not_mem_nil
  | cons time rest ih =>
      obtain ⟨isFirst, sortedRest⟩ := List.pairwise_cons.1 sorted
      obtain ⟨isNext, inTime⟩ := toCome time List.mem_cons_self
      have turn : Turn allowed watch (watch.moveTo time) := by
        refine .pass (Nat.le_of_lt isNext) fun due isDue isLater => ?_
        by_contra skipped
        have early : due < time := Nat.lt_of_not_le skipped
        rcases List.mem_cons.1 (complete due isDue isLater (Nat.lt_trans early inTime)) with
          rfl | isThere
        · exact Nat.lt_irrefl _ early
        · exact Nat.lt_asymm early (isFirst due isThere)
      refine .head turn (ih (isCaughtUp.moveTo time) ?_ sortedRest ?_ ?_)
      · rw [now_moveTo]
        exact Nat.le_of_lt inTime
      · intro other isThere
        rw [now_moveTo]
        exact ⟨isFirst other isThere, (toCome other (List.mem_cons_of_mem _ isThere)).2⟩
      · intro due isDue isLater early
        rw [now_moveTo] at isLater
        have isThere := complete due (isCaughtUp.mem_dues_moveTo isDue)
          (Nat.lt_trans isNext isLater) early
        rcases List.mem_cons.1 isThere with rfl | isThere
        · exact absurd isLater (Nat.lt_irrefl _)
        · exact isThere

/-- Letting time pass is a chain of turns. -/
theorem reaches_wait (isCaughtUp : watch.IsCaughtUp) (millis : Nat) :
    Reaches allowed watch (watch.step (.wait millis)).2 := by
  let now := watch.registry.now
  let target := watch.registry.wakeTime millis
  -- What is due at once is seen to first, and the last catching up finds nothing to do.
  have first : Turn allowed watch (watch.moveTo now) :=
    .pass (Nat.le_refl _) fun _ _ => Nat.le_of_lt
  obtain ⟨sorted, members⟩ := (watch.moveTo now).instantsBefore_spec target
  have isCaughtUpThen := isCaughtUp.moveTo now
  have chain : Reaches allowed (watch.moveTo now)
      ((((watch.moveTo now).instantsBefore target).foldl Watch.moveTo
        (watch.moveTo now)).moveTo target) := by
    refine reaches_foldl_moveTo _ isCaughtUpThen ?_ sorted ?_ ?_
    · rw [now_moveTo]
      exact Nat.le_add_right _ _
    · intro time isThere
      obtain ⟨isDue, early⟩ := (members time).1 isThere
      rw [now_moveTo]
      exact ⟨isCaughtUp.lt_of_mem_dues isDue, early⟩
    · exact fun due isDue _ early => (members due).2 ⟨isDue, early⟩
  have settled := (Reaches.isCaughtUp chain isCaughtUpThen).settle
  have last : (watch.step (.wait millis)).2 =
      ((((watch.moveTo now).instantsBefore target).foldl Watch.moveTo
        (watch.moveTo now)).moveTo target).settle := by
    change (watch.sleep millis).catchUp.settle = _
    rw [sleep, sleepPassing, stops_of_never]
    rfl
  rw [last, settled]
  exact .head first chain

/-- What is allowed throughout a run is a chain of turns. -/
theorem reaches_run (isCaughtUp : watch.IsCaughtUp) {operations : List Operation}
    (areAllowed : watch.Throughout allowed operations) :
    Reaches allowed watch (watch.run operations).2 := by
  induction operations generalizing watch with
  | nil => exact .refl
  | cons operation rest ih =>
      obtain ⟨isAllowed, restAllowed⟩ := areAllowed
      have reaches : Reaches allowed watch (watch.step operation).2 := by
        by_cases isWait : ∃ millis, operation = .wait millis
        · obtain ⟨millis, rfl⟩ := isWait
          exact reaches_wait isCaughtUp millis
        · exact .single (turn_step isAllowed fun millis same => isWait ⟨millis, same⟩)
      exact reaches.trans (ih (Reaches.isCaughtUp reaches isCaughtUp) restAllowed)

theorem isCaughtUp_of_new (config : Config) (storage : Storage) (hasTimers : Bool) :
    IsCaughtUp { registry := { Registry.create config storage with hasTimers } } :=
  ⟨rfl, by simp⟩

end Watch

end Reattach
