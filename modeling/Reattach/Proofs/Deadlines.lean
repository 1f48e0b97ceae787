import Reattach.Proofs.Chronicle
import Reattach.Proofs.Fates
import Reattach.Proofs.Purging

/-!
# No suspension is overdue

Every terminus of the table that is suspended has a timer that waits for its suspension to be
over.  Timers run out while time passes, whoever follows the registry, so where an operation
begins no timer of a suspension is due.  A suspension is therefore over when its time is: the
terminus has expired by then, and what the store had of it is dropped or noted as still to be
dropped.
-/

namespace Reattach

namespace Registry

variable {registry : Registry} {move : Move} {key : Identifier.Key} {seat : Seat} {timer : Timer}

/-! ## Suspensions and their timers, move by move -/

/-- That a terminus is suspended and a timer waits that is for its suspension. -/
structure Waits (registry : Registry) (key : Identifier.Key) (seat : Seat) (timer : Timer) :
    Prop where
  seated : registry.seat? key = some seat
  isSuspended : seat.phase = .suspended
  waiting : timer ∈ registry.timers
  isFor : timer.IsFor key seat.epoch

/-- That a move enters an identifier in the table or takes its terminus out. -/
def Renews (registry : Registry) (key : Identifier.Key) (move : Move) : Prop :=
  (∃ scope settings, registry.EntersAs key scope settings move) ∨
    ∃ identifier : Identifier, move = .act (.tryRemove identifier) ∧ identifier.key = key

theorem Waits.noted (waits : registry.Waits key seat timer) (consistent : registry.Consistent) :
    registry.suspended.get? key = some seat.epoch :=
  consistent.noted_iff.2 ⟨seat, waits.seated, waits.isSuspended, rfl⟩

namespace Consistent

theorem moved (consistent : registry.Consistent) (spares : move.SparesTable registry) :
    (registry.move move).Consistent :=
  consistent.follow [move] ⟨spares, trivial⟩

theorem unnoted (consistent : registry.Consistent)
    (notSuspended : ∀ seat, registry.seat? key = some seat → seat.phase ≠ .suspended) :
    registry.suspended.get? key = none := by
  rw [Option.eq_none_iff_forall_ne_some]
  intro epoch noted
  obtain ⟨seat, seated, isSuspended, _⟩ := consistent.noted_iff.1 noted
  exact notSuspended seat seated isSuspended

theorem unnoted_of_gone (consistent : registry.Consistent) {id : TerminusId}
    (gone : registry.Gone key id) : registry.suspended.get? key = none := by
  apply consistent.unnoted
  intro seat seated
  rw [gone.seat?] at seated
  cases seated

/-- A suspension that a move begins has a timer, which is due when its time is over. -/
theorem exists_waits (consistent : registry.Consistent) (spares : move.SparesTable registry)
    (hasTimers : registry.hasTimers = true) (unnoted : registry.suspended.get? key = none)
    (noted : (registry.move move).suspended.get? key ≠ none) :
    ∃ seat timer, (registry.move move).Waits key seat timer ∧
      timer.due = registry.wakeTime seat.entry.timeout ∧ seat.entry.timeout ≠ 0 := by
  obtain ⟨epoch, note⟩ := Option.ne_none_iff_exists'.1 noted
  obtain ⟨seat, seated, isSuspended, _⟩ := (consistent.moved spares).noted_iff.1 note
  cases consistent.fate move spares key with
  | stays same =>
      have wasNoted := consistent.noted_iff.2 ⟨seat, same.symm.trans seated, isSuspended, rfl⟩
      rw [unnoted] at wasNoted
      cases wasNoted
  | attached _ _ _ _ seatedThen =>
      rw [seatedThen, Option.some.injEq] at seated
      subst seated
      cases isSuspended
  | seeded _ _ _ _ _ seatedThen timed =>
      rw [seatedThen, Option.some.injEq] at seated
      subst seated
      obtain ⟨lasts, isTimed⟩ := timed isSuspended
      obtain ⟨timer, waiting, isFor, due⟩ := isTimed hasTimers
      exact ⟨_, timer, ⟨seatedThen, isSuspended, waiting, isFor⟩, due, lasts⟩
  | suspended _ _ _ lasts seatedThen isTimed =>
      obtain ⟨timer, waiting, isFor, due⟩ := isTimed hasTimers
      exact ⟨_, timer, ⟨seatedThen, rfl, waiting, isFor⟩, due, lasts⟩
  | spent _ _ _ _ _ gone =>
      rw [gone.seat?] at seated
      cases seated
  | expired _ _ gone =>
      rw [gone.seat?] at seated
      cases seated
  | removed _ _ absent =>
      rw [seat?_of_absent absent] at seated
      cases seated

end Consistent

/-- A suspension goes on and its timer waits, or it ends: the terminus expires, or the
identifier is renewed. -/
theorem Waits.moved (waits : registry.Waits key seat timer) (consistent : registry.Consistent)
    (spares : move.SparesTable registry) :
    (registry.move move).Waits key seat timer ∨
      (registry.move move).suspended.get? key = none ∧
        ((registry.move move).Gone key seat.entry.terminus ∨ registry.Renews key move) := by
  have consistentThen := consistent.moved spares
  cases consistent.fate move spares key with
  | stays same =>
      left
      have seatedThen := same.trans waits.seated
      have notedThen := consistentThen.noted_iff.2 ⟨seat, seatedThen, waits.isSuspended, rfl⟩
      have stays := consistent.sound.mem_timers_move_iff (waits.noted consistent) notedThen
        waits.isFor
      exact ⟨seatedThen, waits.isSuspended, stays.2 waits.waiting, waits.isFor⟩
  | attached asked known isOwn done seatedThen =>
      right
      subst asked
      refine ⟨consistentThen.unnoted fun found isFound => ?_,
        .inr (.inl ⟨_, _, _, _, known, isOwn, done, rfl, rfl⟩)⟩
      rw [seatedThen, Option.some.injEq] at isFound
      subst isFound
      exact Phase.noConfusion
  | expired isFound _ gone =>
      right
      rw [waits.seated] at isFound
      cases isFound
      exact ⟨consistentThen.unnoted_of_gone gone, .inl gone⟩
  | removed asked isOwn absent =>
      right
      refine ⟨consistentThen.unnoted fun found isFound => ?_, .inr (.inr ⟨_, asked, isOwn⟩)⟩
      rw [seat?_of_absent absent] at isFound
      cases isFound
  | suspended isFound isActive =>
      rw [waits.seated] at isFound
      cases isFound
      rw [waits.isSuspended] at isActive
      cases isActive
  | seeded _ _ _ _ vacant =>
      rw [waits.seated] at vacant
      cases vacant
  | spent _ _ _ _ vacant =>
      rw [waits.seated] at vacant
      cases vacant

/-- An identifier whose terminus has expired stays without one until it is renewed. -/
theorem Gone.moved {id : TerminusId} (gone : registry.Gone key id)
    (consistent : registry.Consistent) (spares : move.SparesTable registry)
    (unrenewed : ¬registry.Renews key move) : (registry.move move).Gone key id := by
  refine ⟨?_, consistent.sound.hasExpired_move gone.hasExpired move⟩
  have vacant := gone.seat?
  have entered {scope : Option Scope} {settings : Settings}
      (enters : registry.EntersAs key scope settings move) :
      (registry.move move).entries.get? key = none :=
    absurd (.inl ⟨scope, settings, enters⟩) unrenewed
  cases consistent.fate move spares key with
  | stays same => exact (consistent.moved spares).sound.absent_of_seat? (same.trans vacant)
  | attached asked known isOwn done =>
      subst asked
      exact entered ⟨_, _, known, isOwn, done, rfl, rfl⟩
  | seeded asked known isOwn done =>
      subst asked
      exact entered ⟨_, known, isOwn, done, rfl, rfl⟩
  | spent _ _ _ _ _ goneToo => exact goneToo.absent
  | suspended isFound =>
      rw [vacant] at isFound
      cases isFound
  | expired isFound =>
      rw [vacant] at isFound
      cases isFound
  | removed _ _ absent => exact absent

theorem not_takesOut_of_not_renews (unrenewed : ¬registry.Renews key move) :
    ¬registry.TakesOut key move := by
  rintro ⟨identifier, isOwn, asked, _⟩
  exact unrenewed (.inr ⟨identifier, asked, isOwn⟩)

theorem not_renews_of_idle (isIdle : move.IsIdle) : ¬registry.Renews key move := by
  intro renews
  cases move with
  | act _ => exact isIdle
  | pass _ | fire _ =>
      rcases renews with ⟨_, _, enters⟩ | ⟨_, asked, _⟩
      · exact enters
      · cases asked

theorem Sound.unnoted_of_idle (sound : registry.Sound) (isIdle : move.IsIdle)
    (unnoted : registry.suspended.get? key = none) :
    (registry.move move).suspended.get? key = none := by
  cases move with
  | act _ => exact isIdle.elim
  | pass time => exact unnoted
  | fire index =>
      rcases sound.fired_cases index with ⟨timers, unchanged, _⟩ | ⟨timer, _, _, _, _, _, changed⟩
      · rw [Registry.move, unchanged]
        exact unnoted
      · rw [Registry.move, changed, SortedMap.get?_erase, unnoted, ite_self]

theorem sparesTable_of_idle (isIdle : move.IsIdle) : move.SparesTable registry := by
  cases move with
  | act _ => exact isIdle.elim
  | pass _ | fire _ => trivial

/-! ## Timers that are due have run -/

theorem foldl_expireEpoch (due : List Timer) (registry : Registry) :
    let later := due.foldl (fun registry timer =>
      (registry.expireEpoch timer.identifier (some timer.epoch)).2) registry
    later.timers = registry.timers ∧ later.now = registry.now := by
  induction due generalizing registry with
  | nil => exact ⟨rfl, rfl⟩
  | cons timer rest ih =>
      obtain ⟨timers, now⟩ := ih (registry.expireEpoch timer.identifier (some timer.epoch)).2
      exact ⟨timers.trans (expireEpoch_timers _ _ _), now.trans (expireEpoch_now _ _ _)⟩

theorem early_runTimers (registry : Registry) :
    ∀ timer ∈ registry.runTimers.timers, registry.runTimers.now < timer.due := by
  intro timer waiting
  simp only [runTimers, List.partition_eq_filter_filter] at waiting ⊢
  obtain ⟨timers, now⟩ := foldl_expireEpoch
    (registry.timers.filter fun timer => timer.due ≤ registry.now)
    { registry with
      timers := registry.timers.filter ((! ·) ∘ fun timer => timer.due ≤ registry.now) }
  rw [timers] at waiting
  rw [now]
  simpa using (List.mem_filter.1 waiting).2

end Registry

namespace Watch

variable {origin watch : Watch} {operation : Operation} {operations during : List Operation}
variable {key : Identifier.Key} {seat : Seat} {timer : Timer} {since : Nat}

/-! ## Suspensions and their timers, operation by operation -/

/-- What holds of a consistent registry and is kept by the moves that time makes holds after a
wait. -/
theorem wait_keeps (kept : Registry → Prop) (watch : Watch) (millis : Nat)
    (consistent : watch.registry.Consistent) (holds : kept watch.registry)
    (idles : ∀ (registry : Registry) (move : Move), move.IsIdle → registry.Consistent →
      kept registry → kept (registry.move move)) :
    (watch.step (.wait millis)).2.registry.Consistent ∧
      kept (watch.step (.wait millis)).2.registry := by
  have along (moves : List Move) (areIdle : ∀ move ∈ moves, move.IsIdle) (registry : Registry)
      (consistent : registry.Consistent) (holds : kept registry) :
      (registry.follow moves).Consistent ∧ kept (registry.follow moves) := by
    induction moves generalizing registry with
    | nil => exact ⟨consistent, holds⟩
    | cons move rest ih =>
        obtain ⟨isIdle, restIdle⟩ := List.forall_mem_cons.1 areIdle
        exact ih restIdle _ (consistent.moved (Registry.sparesTable_of_idle isIdle))
          (idles registry move isIdle consistent holds)
  obtain ⟨moves, areIdle, followed⟩ := watch.exists_follow_wait millis
  have keeps := along moves areIdle watch.registry consistent holds
  rw [followed] at keeps
  exact keeps

theorem registry_step (watch : Watch) (notWait : ∀ millis, operation ≠ .wait millis) :
    (watch.step operation).2.registry = watch.registry.after operation := by
  by_cases isInstant : operation.isInstant = true
  · exact watch.perform_registry isInstant
  · rw [Registry.after, if_neg isInstant]
    cases operation with
    | wait millis => exact absurd rfl (notWait millis)
    | await _ _ _ | cancel _ => rfl
    | _ => exact absurd rfl isInstant

/-- What holds of a consistent registry and is kept by an operation done at once and by the moves
that time makes holds after the operation. -/
theorem step_keeps (kept : Registry → Prop) (consistent : watch.registry.Consistent)
    (spares : ∀ id ∈ operation.direct?, ¬watch.registry.Holds id) (holds : kept watch.registry)
    (acted : kept (watch.registry.move (.act operation)))
    (idles : ∀ (registry : Registry) (move : Move), move.IsIdle → registry.Consistent →
      kept registry → kept (registry.move move)) :
    (watch.step operation).2.registry.Consistent ∧ kept (watch.step operation).2.registry := by
  by_cases isWait : ∃ millis, operation = .wait millis
  · obtain ⟨millis, rfl⟩ := isWait
    exact watch.wait_keeps kept millis consistent holds idles
  · rw [registry_step watch fun millis same => isWait ⟨millis, same⟩]
    have acts : Move.SparesTable watch.registry (.act operation) := spares
    exact ⟨consistent.moved acts, acted⟩

theorem consistent_step (consistent : watch.registry.Consistent)
    (spares : ∀ id ∈ operation.direct?, ¬watch.registry.Holds id) :
    (watch.step operation).2.registry.Consistent :=
  (step_keeps (fun _ => True) consistent spares trivial trivial fun _ _ _ _ kept => kept).1

/-- No timer is due when time has passed. -/
theorem early_wait (watch : Watch) (millis : Nat) :
    ∀ timer ∈ (watch.step (.wait millis)).2.registry.timers,
      (watch.step (.wait millis)).2.registry.now < timer.due :=
  (watch.sleep millis).registry.early_runTimers

/-- That a suspension waits for a timer that is not due. -/
def WaitsFor (watch : Watch) (key : Identifier.Key) (seat : Seat) (timer : Timer) : Prop :=
  watch.registry.Waits key seat timer ∧ watch.registry.now < timer.due

/-- A suspension goes on until its timer is due, or it ends: the terminus expires, or the
identifier is renewed. -/
theorem WaitsFor.step (waits : watch.WaitsFor key seat timer)
    (consistent : watch.registry.Consistent)
    (spares : ∀ id ∈ operation.direct?, ¬watch.registry.Holds id) :
    (watch.step operation).2.WaitsFor key seat timer ∨
      (watch.step operation).2.registry.suspended.get? key = none ∧
        ((watch.step operation).2.registry.Gone key seat.entry.terminus ∨
          watch.registry.Renews key (.act operation)) := by
  by_cases isWait : ∃ millis, operation = .wait millis
  · obtain ⟨millis, rfl⟩ := isWait
    have idles (registry : Registry) (move : Move) (isIdle : move.IsIdle)
        (isConsistent : registry.Consistent)
        (either : registry.Waits key seat timer ∨ registry.Gone key seat.entry.terminus) :
        (registry.move move).Waits key seat timer ∨
          (registry.move move).Gone key seat.entry.terminus := by
      have spares : move.SparesTable registry := Registry.sparesTable_of_idle isIdle
      have unrenewed : ¬registry.Renews key move := Registry.not_renews_of_idle isIdle
      rcases either with waits | gone
      · rcases waits.moved isConsistent spares with goesOn | ⟨_, gone | renews⟩
        · exact .inl goesOn
        · exact .inr gone
        · exact absurd renews unrenewed
      · exact .inr (gone.moved isConsistent spares unrenewed)
    obtain ⟨consistentThen, goesOn | gone⟩ :=
      watch.wait_keeps _ millis consistent (.inl waits.1) idles
    · exact .inl ⟨goesOn, watch.early_wait millis timer goesOn.waiting⟩
    · exact .inr ⟨consistentThen.unnoted_of_gone gone, .inl gone⟩
  · have stepped := registry_step watch fun millis same => isWait ⟨millis, same⟩
    rw [WaitsFor, stepped]
    have acts : Move.SparesTable watch.registry (.act operation) := spares
    rcases waits.1.moved consistent acts with goesOn | ended
    · refine .inl ⟨goesOn, ?_⟩
      rw [(consistent.sound.after_follows operation).now]
      exact waits.2
    · exact .inr ended

/-- An identifier whose terminus has expired stays without one until it is renewed. -/
theorem gone_step {id : TerminusId} (gone : watch.registry.Gone key id)
    (consistent : watch.registry.Consistent)
    (spares : ∀ id ∈ operation.direct?, ¬watch.registry.Holds id)
    (unrenewed : ¬watch.registry.Renews key (.act operation)) :
    (watch.step operation).2.registry.Gone key id := by
  refine (step_keeps (·.Gone key id) consistent spares gone
    (gone.moved consistent spares unrenewed) ?_).2
  intro registry move isIdle isConsistent isGone
  exact isGone.moved isConsistent (Registry.sparesTable_of_idle isIdle)
    (Registry.not_renews_of_idle isIdle)

/-! ## Since when -/

/-- That a terminus of an identifier is suspended, or was put in suspended, since a time. -/
inductive SuspendedSince (origin : Watch) (key : Identifier.Key) : List Operation → Nat → Prop
  | now {operations : List Operation} {operation : Operation}
      (unnoted : (origin.run operations).2.registry.suspended.get? key = none)
      (noted : (origin.run (operations ++ [operation])).2.registry.suspended.get? key ≠ none) :
      SuspendedSince origin key (operations ++ [operation])
        (origin.run operations).2.registry.now
  | still {operations : List Operation} {operation : Operation} {since : Nat}
      (before : SuspendedSince origin key operations since)
      (noted : (origin.run (operations ++ [operation])).2.registry.suspended.get? key ≠ none) :
      SuspendedSince origin key (operations ++ [operation]) since

theorem run_snoc (origin : Watch) (operations : List Operation) (operation : Operation) :
    (origin.run (operations ++ [operation])).2 =
      ((origin.run operations).2.step operation).2 := by
  rw [run_append]
  rfl

theorem Sparing.of_append {first second : List Operation}
    (sparing : watch.Sparing (first ++ second)) :
    watch.Sparing first ∧ (watch.run first).2.Sparing second := by
  induction first generalizing watch with
  | nil => exact ⟨trivial, sparing⟩
  | cons operation rest ih =>
      obtain ⟨spares, sparingRest⟩ := sparing
      obtain ⟨before, behind⟩ := ih sparingRest
      exact ⟨⟨spares, before⟩, behind⟩

/-- Whatever is noted as suspended is so since some time. -/
theorem exists_since (isUnnoted : ∀ key, origin.registry.suspended.get? key = none)
    (operations : List Operation)
    (noted : (origin.run operations).2.registry.suspended.get? key ≠ none) :
    ∃ since, SuspendedSince origin key operations since := by
  induction operations using List.reverseRecOn with
  | nil => exact absurd (isUnnoted key) noted
  | append_singleton earlier operation ih =>
      by_cases unnoted : (origin.run earlier).2.registry.suspended.get? key = none
      · exact ⟨_, .now unnoted noted⟩
      · obtain ⟨since, before⟩ := ih unnoted
        exact ⟨since, .still before noted⟩

theorem hasTimers_run (consistent : origin.registry.Consistent)
    (sparing : origin.Sparing operations) :
    (origin.run operations).2.registry.hasTimers = origin.registry.hasTimers := by
  obtain ⟨moves, movesSparing, followed⟩ := origin.exists_sparing_run sparing
  rw [← followed]
  exact (consistent.sound.constants_follow moves movesSparing).2

/-- A suspension waits for a timer that is due when its time is over. -/
theorem SuspendedSince.waitsFor (suspended : SuspendedSince origin key operations since)
    (consistent : origin.registry.Consistent) (hasTimers : origin.registry.hasTimers = true)
    (sparing : origin.Sparing operations) :
    ∃ seat timer, (origin.run operations).2.WaitsFor key seat timer ∧
      timer.due = since + seat.entry.timeout := by
  induction suspended with
  | @now earlier operation unnoted noted =>
      obtain ⟨sparingBefore, spares, _⟩ := sparing.of_append
      have isConsistent := consistent.run sparingBefore
      have timersSet := (hasTimers_run consistent sparingBefore).trans hasTimers
      rw [run_snoc] at noted ⊢
      have notWait (millis : Nat) : operation ≠ .wait millis := by
        rintro rfl
        refine noted ((origin.run earlier).2.wait_keeps (·.suspended.get? key = none) millis
          isConsistent unnoted ?_).2
        intro registry move isIdle consistent isUnnoted
        exact consistent.sound.unnoted_of_idle isIdle isUnnoted
      rw [registry_step _ notWait] at noted
      have acts : Move.SparesTable (origin.run earlier).2.registry (.act operation) := spares
      obtain ⟨seat, timer, waits, due, lasts⟩ :=
        isConsistent.exists_waits acts timersSet unnoted noted
      refine ⟨seat, timer, ?_, due⟩
      rw [WaitsFor, registry_step _ notWait]
      refine ⟨waits, ?_⟩
      rw [(isConsistent.sound.after_follows operation).now, due, Registry.wakeTime]
      omega
  | @still earlier operation since _ noted ih =>
      obtain ⟨sparingBefore, spares, _⟩ := sparing.of_append
      obtain ⟨seat, timer, waits, due⟩ := ih sparingBefore
      rw [run_snoc] at noted ⊢
      rcases waits.step (consistent.run sparingBefore) spares with goesOn | ⟨unnoted, _⟩
      · exact ⟨seat, timer, goesOn, due⟩
      · exact absurd unnoted noted

/-! ## When it is over -/

/-- That something holds of all operations of a run, each in the registry of its time. -/
def Throughout (watch : Watch) (holds : Registry → Operation → Prop) : List Operation → Prop
  | [] => True
  | first :: rest => holds watch.registry first ∧ (watch.step first).2.Throughout holds rest

/-- A suspension goes on until its timer is due, and then its terminus has expired, if the
identifier is not renewed. -/
theorem waitsFor_or_gone (consistent : watch.registry.Consistent) (sparing : watch.Sparing during)
    (unrenewed : watch.Throughout (fun registry operation =>
      ¬registry.Renews key (.act operation)) during)
    (either : watch.WaitsFor key seat timer ∨ watch.registry.Gone key seat.entry.terminus) :
    (watch.run during).2.WaitsFor key seat timer ∨
      (watch.run during).2.registry.Gone key seat.entry.terminus := by
  induction during generalizing watch with
  | nil => exact either
  | cons operation rest ih =>
      obtain ⟨spares, sparingRest⟩ := sparing
      obtain ⟨notRenewed, unrenewedRest⟩ := unrenewed
      refine ih (consistent_step consistent spares) sparingRest unrenewedRest ?_
      rcases either with waits | gone
      · rcases waits.step consistent spares with goesOn | ⟨_, gone | renews⟩
        · exact .inl goesOn
        · exact .inr gone
        · exact absurd renews notRenewed
      · exact .inr (gone_step gone consistent spares notRenewed)

/-- Operations that note deliveries through the table leave an identifier swept, if its terminus
is not taken out. -/
theorem isSwept_run {identifier : Identifier} (consistent : watch.registry.Consistent)
    (sparing : watch.Sparing during)
    (unrenewed : watch.Throughout (fun registry operation =>
      ¬registry.Renews identifier.key (.act operation)) during)
    (inTable : watch.Throughout (fun registry operation =>
      Move.RecordsInTable registry (.act operation)) during)
    (swept : watch.registry.IsSwept identifier) :
    (watch.run during).2.registry.IsSwept identifier := by
  induction during generalizing watch with
  | nil => exact swept
  | cons operation rest ih =>
      obtain ⟨spares, sparingRest⟩ := sparing
      obtain ⟨notRenewed, unrenewedRest⟩ := unrenewed
      obtain ⟨isInTable, inTableRest⟩ := inTable
      refine ih (consistent_step consistent spares) sparingRest unrenewedRest inTableRest ?_
      refine (step_keeps (·.IsSwept identifier) consistent spares swept
        (consistent.sound.isSwept_move swept isInTable
          (Registry.not_takesOut_of_not_renews notRenewed)) ?_).2
      intro registry move isIdle isConsistent isSwept
      refine isConsistent.sound.isSwept_move isSwept ?_ ?_
      · cases move with
        | act _ => exact isIdle.elim
        | pass _ | fire _ => trivial
      · exact Registry.not_takesOut_of_not_renews (Registry.not_renews_of_idle isIdle)

/-- No suspension is overdue, whatever is done to a registry that has timers and is told of all
that happens to its termini.  Whatever is noted as suspended is so since some time.  It has a
timer for its current epoch, which is due when its time is over, and that is still to come.  When
the clock has reached it, and the identifier was not renewed, the terminus has expired; and if
deliveries were noted only through the table, its records are dropped or noted as still to be
dropped. -/
theorem no_suspension_overdue (config : Config) (storage : Storage)
    (operations : List Operation) :
    let origin : Watch := { registry := .create config storage }
    let watch := (origin.run operations).2
    origin.Sparing operations →
      (∀ key, watch.registry.suspended.get? key ≠ none →
        ∃ since, SuspendedSince origin key operations since) ∧
      ∀ (identifier : Identifier) since, SuspendedSince origin identifier.key operations since →
        ∃ entry, watch.registry.entries.get? identifier.key = some entry ∧
          (∃ epoch timer, watch.registry.suspended.get? identifier.key = some epoch ∧
            timer ∈ watch.registry.timers ∧ timer.IsFor identifier.key epoch ∧
            timer.due = since + entry.timeout) ∧
          watch.registry.now < since + entry.timeout ∧
          ∀ during, watch.Sparing during →
            watch.Throughout (fun registry operation =>
              ¬registry.Renews identifier.key (.act operation)) during →
            let later := (watch.run during).2.registry
            since + entry.timeout ≤ later.now →
              later.Gone identifier.key entry.terminus ∧
              (watch.Throughout (fun registry operation =>
                  Move.RecordsInTable registry (.act operation)) during →
                later.storage.IsBare identifier ∨ later.isPurgePending identifier = true) := by
  intro origin watch sparing
  have isNew : origin.registry.Consistent := Registry.Consistent.create config storage true
  have consistent : watch.registry.Consistent := isNew.run sparing
  refine ⟨fun key noted => exists_since (fun _ => rfl) operations noted,
    fun identifier since suspended => ?_⟩
  obtain ⟨seat, timer, waits, due⟩ := suspended.waitsFor isNew rfl sparing
  have present := Registry.entry_of_seat? waits.1.seated
  have early : watch.registry.now < since + seat.entry.timeout := due ▸ waits.2
  refine ⟨seat.entry, present, ⟨seat.epoch, timer, waits.1.noted consistent, waits.1.waiting,
    waits.1.isFor, due⟩, early, ?_⟩
  intro during sparingThen unrenewed later isOver
  have gone : later.Gone identifier.key seat.entry.terminus := by
    rcases waitsFor_or_gone consistent sparingThen unrenewed (.inl waits) with goesOn | gone
    · have notOver := goesOn.2
      rw [due] at notOver
      exact absurd isOver (Nat.not_le_of_lt notOver)
    · exact gone
  refine ⟨gone, fun inTable => ?_⟩
  have swept := isSwept_run consistent sparingThen unrenewed inTable
    (Registry.isSwept_of_present present)
  exact (swept gone.absent).imp_right Registry.isPurgePending_iff.2

end Watch

namespace Sample

/-- A terminus with a record is suspended for a time in seconds. -/
def suspendedFor (timeoutSecs : UInt32) : List Operation :=
  [.openLink (link "link-detach" timeoutSecs), .register 0 false,
    .noteDelivery 0 ⟨[1]⟩ .received, .suspend 0 .linkDetach]

def watch : Watch := { registry }

end Sample

namespace Watch

/-- A suspension for a second is over in a second, and the record is dropped. -/
theorem no_suspension_overdue_sample :
    let watch := (Sample.watch.run (Sample.suspendedFor 1)).2
    let later := (watch.run [.wait 1000]).2.registry
    Sample.watch.Sparing (Sample.suspendedFor 1) ∧
      SuspendedSince Sample.watch Sample.identifier.key (Sample.suspendedFor 1) 0 ∧
      later.Gone Sample.identifier.key 0 ∧
      (later.storage.IsBare Sample.identifier ∨
        later.isPurgePending Sample.identifier = true) := by
  intro watch later
  have sparing : Sample.watch.Sparing (Sample.suspendedFor 1) := by
    simp [Sparing, Sample.suspendedFor, Operation.direct?]
  have suspended : SuspendedSince Sample.watch Sample.identifier.key (Sample.suspendedFor 1) 0 := by
    have unnoted : (Sample.watch.run ((Sample.suspendedFor 1).take 3)).2.registry.suspended.get?
        Sample.identifier.key = none := by decide +kernel
    exact .now unnoted (by decide +kernel)
  obtain ⟨_, timed⟩ := no_suspension_overdue default { store := .memory {} }
    (Sample.suspendedFor 1) sparing
  obtain ⟨entry, present, _, _, ends⟩ := timed Sample.identifier 0 suspended
  have isEntry : watch.registry.entries.get? Sample.identifier.key =
      some ⟨0, some (.ofChannel 1 1), .linkDetach, 1000⟩ := by decide +kernel
  obtain rfl := Option.some.inj (present.symm.trans isEntry)
  have unrenewed : watch.Throughout (fun registry operation =>
      ¬registry.Renews Sample.identifier.key (.act operation)) [.wait 1000] := by
    simp [Throughout, Registry.Renews, Registry.EntersAs]
  obtain ⟨gone, dropped⟩ := ends [.wait 1000] (by simp [Sparing, Operation.direct?]) unrenewed
    (by decide +kernel)
  exact ⟨sparing, suspended, gone, dropped ⟨trivial, trivial⟩⟩

end Watch

end Reattach
