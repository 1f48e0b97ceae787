import Mathlib.Data.List.Forall2
import Mathlib.Logic.Function.Basic
import Reattach.Proofs.Moves
import Reattach.Proofs.Respelled

/-!
# Letter case never matters

Waits compare identifiers with `==`, which goes by keys, so all that follows a registry commutes
with a respelling too, and with it every operation.  One respelling gives all identifiers of a
terminus the same spelling; runs that differ in letter case are one run in that spelling.
-/

namespace Reattach

variable (spelling : Respelling)

/-! ## Waits -/

def Reading.respell (reading : Reading) : Reading :=
  { reading with notices := reading.notices.map (·.respell spelling) }

theorem Channel.readFrom_respell (channel : Channel) (position : Nat) :
    (channel.respell spelling).readFrom position =
      (channel.readFrom position).respell spelling := by
  simp [Channel.readFrom, Channel.oldest, Channel.respell, Reading.respell, List.map_drop]

theorem Registry.attached?_respell (registry : Registry) (identifier : Identifier) :
    (registry.respell spelling).attached? (spelling.identifier identifier) =
      registry.attached? identifier := by
  simp only [attached?, find?_respell, getElem?_termini_respell, hasLiveLink_respell,
    Option.any_map]
  rfl

def Wait.respell (wait : Wait) : Wait :=
  { wait with identifier := spelling.identifier wait.identifier }

def Wait.Progress.respell : Wait.Progress → Wait.Progress
  | .goesOn wait => .goesOn (wait.respell spelling)
  | .ended result => .ended result

namespace Wait

variable (registry : Registry)

theorem react?_respell (identifier : Identifier) (event : Event) :
    react? (registry.respell spelling) (spelling.identifier identifier) (event.respell spelling) =
      react? registry identifier event := by
  cases event <;>
    simp only [Event.respell, react?, spelling.identifier_beq_identifier,
      Registry.attached?_respell]

theorem read?_respell (identifier : Identifier) (reading : Reading) :
    read? (registry.respell spelling) (spelling.identifier identifier) (reading.respell spelling) =
      read? registry identifier reading := by
  simp only [read?, Registry.attached?_respell, Reading.respell, List.findSome?_map,
    Function.comp_def, Notice.respell, react?_respell]

theorem poll_respell (wait : Wait) :
    poll (registry.respell spelling) (wait.respell spelling) =
      (poll registry wait).respell spelling := by
  obtain ⟨identifier, timeout, deadline, position, isCancelled⟩ := wait
  simp only [poll, Wait.respell, Registry.now_respell, Registry.channel_respell,
    Channel.readFrom_respell, read?_respell]
  split
  · rfl
  · split
    · rfl
    · cases read? registry identifier (registry.channel.readFrom position) <;> rfl

theorem start_respell (identifier : Identifier) (timeout : Nat) (isCancelled : Bool) :
    start (registry.respell spelling) (spelling.identifier identifier) timeout isCancelled =
      (start registry identifier timeout isCancelled).respell spelling := by
  have sameEnd : (registry.channel.respell spelling).subscribe = registry.channel.subscribe :=
    Array.size_map
  simp only [start, Registry.attached?_respell, Registry.wakeTime_respell,
    Registry.channel_respell, sameEnd]
  cases registry.attached? identifier with
  | some _ => rfl
  | none =>
      exact poll_respell spelling registry
        { identifier, timeout, deadline := registry.wakeTime timeout
          position := registry.channel.subscribe, isCancelled }

end Wait

/-! ## Those that follow a registry -/

def WaiterState.respell : WaiterState → WaiterState
  | .waiting wait => .waiting (wait.respell spelling)
  | other => other

def Waiter.respell (waiter : Waiter) : Waiter :=
  { waiter with
    identifier := spelling.identifier waiter.identifier
    state := waiter.state.respell spelling }

def Heard.respell : Heard → Heard
  | .missed time count => .missed time count
  | .notice published => .notice (published.respell spelling)

def Watch.respell (watch : Watch) : Watch :=
  { watch with
    registry := watch.registry.respell spelling
    waiters := watch.waiters.map (·.respell spelling)
    heard := watch.heard.map (·.respell spelling) }

namespace Waiter

variable (waiter : Waiter)

theorem after_respell (time : Nat) (progress : Wait.Progress) :
    (waiter.respell spelling).after time (progress.respell spelling) =
      (waiter.after time progress).respell spelling := by
  cases progress <;> rfl

theorem visit_respell (registry : Registry) :
    (waiter.respell spelling).visit (registry.respell spelling) =
      (waiter.visit registry).respell spelling := by
  obtain ⟨name, identifier, timeout, state, isCancelled⟩ := waiter
  cases state with
  | idle =>
      have starts := Wait.start_respell spelling registry identifier timeout isCancelled
      exact (congrArg (after _ _) starts).trans (after_respell spelling _ _ _)
  | waiting wait =>
      have polls := Wait.poll_respell spelling registry { wait with isCancelled }
      exact (congrArg (after _ _) polls).trans (after_respell spelling _ _ _)
  | ended _ _ => rfl

@[simp] theorem deadline?_respell : (waiter.respell spelling).deadline? = waiter.deadline? := by
  obtain ⟨name, identifier, timeout, state, isCancelled⟩ := waiter
  cases state <;> rfl

@[simp] theorem result?_respell : (waiter.respell spelling).result? = waiter.result? := by
  obtain ⟨name, identifier, timeout, state, isCancelled⟩ := waiter
  cases state <;> rfl

end Waiter

namespace Watch

variable (watch : Watch)

theorem listen_respell : (watch.respell spelling).listen = watch.listen.respell spelling := by
  have sameLag (missed : Nat) :
      (if missed = 0 then [] else [Heard.missed watch.registry.now missed]).map
          (·.respell spelling) =
        if missed = 0 then [] else [Heard.missed watch.registry.now missed] := by
    split <;> rfl
  simp only [listen, Watch.respell, Registry.channel_respell, Channel.readFrom_respell,
    Reading.respell, List.map_append, List.map_map, sameLag, Registry.now_respell]
  rfl

theorem settle_respell : (watch.respell spelling).settle = watch.settle.respell spelling := by
  have visits : (watch.waiters.map (·.respell spelling)).map
      (·.visit (watch.registry.respell spelling)) =
        (watch.waiters.map (·.visit watch.registry)).map (·.respell spelling) := by
    simp only [List.map_map, Function.comp_def, Waiter.visit_respell]
  simp only [settle, listen_respell]
  simp only [Watch.respell, visits]

theorem catchUp_respell : (watch.respell spelling).catchUp = watch.catchUp.respell spelling := by
  have runs : (watch.respell spelling).registry.runTimers = _ :=
    watch.registry.runTimers_respell spelling
  rw [catchUp, runs]
  exact settle_respell spelling { watch with registry := watch.registry.runTimers }

theorem moveTo_respell (time : Nat) :
    (watch.respell spelling).moveTo time = (watch.moveTo time).respell spelling :=
  catchUp_respell spelling { watch with registry := { watch.registry with now := time } }

theorem instantsBefore_respell (target : Nat) :
    (watch.respell spelling).instantsBefore target = watch.instantsBefore target := by
  have sameTimers : (watch.registry.timers.map (·.respell spelling)).map (·.due) =
      watch.registry.timers.map (·.due) := List.map_map
  simp only [instantsBefore, Watch.respell, Registry.timers_respell, sameTimers,
    List.filterMap_map, Function.comp_def, Waiter.deadline?_respell]

theorem sleep_respell (millis : Nat) :
    (watch.respell spelling).sleep millis = (watch.sleep millis).respell spelling := by
  have passes (instants : List Nat) (watch : Watch) :
      instants.foldl moveTo (watch.respell spelling) =
        (instants.foldl moveTo watch).respell spelling :=
    List.foldl_hom (Watch.respell spelling) fun watch time => watch.moveTo_respell spelling time
  simp only [sleep, sleepPassing, catchUp_respell, instantsBefore_respell, passes]
  rfl

theorem await_respell (name : String) (identifier : Identifier) (timeout : Nat) :
    (watch.respell spelling).await name (spelling.identifier identifier) timeout =
      (watch.await name identifier timeout).respell spelling := by
  simp [await, Watch.respell, Waiter.respell, WaiterState.respell]

theorem cancel_respell (name : String) :
    (watch.respell spelling).cancel name = (watch.cancel name).respell spelling := by
  simp only [cancel, Watch.respell, List.map_map]
  congr 1
  refine List.map_congr_left fun waiter _ => ?_
  simp only [Function.comp_apply]
  rw [show (waiter.respell spelling).name = waiter.name from rfl]
  split <;> rfl

end Watch

/-! ## Operations -/

def Operation.respell : Operation → Operation
  | .openLink link => .openLink (link.respell spelling)
  | .expire identifier => .expire (spelling.identifier identifier)
  | .tryRemove identifier => .tryRemove (spelling.identifier identifier)
  | .createTerminus identifier settings =>
      .createTerminus (spelling.identifier identifier) (settings.respell spelling)
  | .updateSettings terminus settings => .updateSettings terminus (settings.respell spelling)
  | .applyPlan plan => .applyPlan (plan.respell spelling)
  | .callStore call => .callStore (call.respell spelling)
  | .await name identifier timeout => .await name (spelling.identifier identifier) timeout
  | other => other

def Reply.respell : Reply → Reply
  | .refused error => .refused (error.respell spelling)
  | .snapshots listed => .snapshots (listed.map (·.respell spelling))
  | .plan made => .plan (made.respell spelling)
  | .stored reply => .stored (reply.mapError (·.respell spelling))
  | other => other

namespace Reply

/-- Replies that are the same, but for the order of a snapshot. -/
inductive Reorders : Reply → Reply → Prop where
  | same (reply : Reply) : Reorders reply reply
  | snapshots {listed relisted : List Snapshot} (reordered : listed.Perm relisted) :
      Reorders (.snapshots listed) (.snapshots relisted)

namespace Reorders

variable {reply middle other : Reply}

theorem symm (reorders : Reorders reply other) : Reorders other reply := by
  cases reorders with
  | same => exact .same _
  | snapshots reordered => exact .snapshots reordered.symm

theorem trans (first : Reorders reply middle) (second : Reorders middle other) :
    Reorders reply other := by
  cases first with
  | same => exact second
  | snapshots reordered =>
      cases second with
      | same => exact .snapshots reordered
      | snapshots again => exact .snapshots (reordered.trans again)

end Reorders

end Reply

namespace Watch

variable (watch : Watch)

theorem withRegistry_respell {Result : Type} {reply : Result → Reply} {rename : Result → Result}
    {result respelled : Result × Registry}
    (commutes : respelled = result.map rename (·.respell spelling))
    (renames : ∀ result, reply (rename result) = (reply result).respell spelling) :
    (watch.respell spelling).withRegistry (respelled.map reply id) =
      (watch.withRegistry (result.map reply id)).map (·.respell spelling) (·.respell spelling) := by
  subst commutes
  exact congrArg (Prod.mk · _) (renames result.1)

theorem withStorage_respell {Result : Type} {reply : Result → Reply} {rename : Result → Result}
    {result respelled : Result × Storage} (commutes : respelled = result.map rename id)
    (renames : ∀ result, reply (rename result) = (reply result).respell spelling) :
    (watch.respell spelling).withStorage (respelled.map reply id) =
      (watch.withStorage (result.map reply id)).map (·.respell spelling) (·.respell spelling) := by
  subst commutes
  exact congrArg (Prod.mk · _) (renames result.1)

theorem onTerminus_respell (whose : TerminusId) {act respelled : Terminus → Reply × Watch}
    (commutes : ∀ terminus, respelled (terminus.respell spelling) =
      (act terminus).map (·.respell spelling) (·.respell spelling)) :
    (watch.respell spelling).onTerminus whose respelled =
      (watch.onTerminus whose act).map (·.respell spelling) (·.respell spelling) := by
  have known : (watch.respell spelling).registry.termini[whose]? = _ :=
    watch.registry.getElem?_termini_respell spelling whose
  simp only [onTerminus, known]
  cases watch.registry.termini[whose]? with
  | none => rfl
  | some terminus => exact commutes terminus

/-- An operation that is no snapshot does to a respelled watch what it does to the watch. -/
theorem perform_respell_of_ne_snapshot {operation : Operation} (other : operation ≠ .snapshot) :
    (watch.respell spelling).perform (operation.respell spelling) =
      (watch.perform operation).map (·.respell spelling) (·.respell spelling) := by
  cases operation with
  | snapshot => exact absurd rfl other
  | openLink link =>
      exact watch.withRegistry_respell spelling
        (watch.registry.openLink_respell spelling link) fun _ => rfl
  | closeLink which =>
      exact congrArg (fun registry => (Reply.done, { watch.respell spelling with registry }))
        (watch.registry.closeLink_respell spelling which)
  | failOnSteal which fails =>
      have known : (watch.respell spelling).registry.links[which]? = _ :=
        watch.registry.getElem?_links_respell spelling which
      simp only [Operation.respell, perform, onLink, known]
      cases watch.registry.links[which]? with
      | none => rfl
      | some link =>
          exact congrArg (fun registry => (Reply.done, { watch.respell spelling with registry }))
            (watch.registry.putLink_respell spelling which { link with failsOnSteal := fails })
  | register which exclusive =>
      refine watch.withRegistry_respell spelling
        (watch.registry.register_respell spelling which exclusive) fun result => ?_
      cases result <;> rfl
  | suspend which departure =>
      exact watch.withRegistry_respell spelling
        (watch.registry.suspend_respell spelling which departure) fun _ => rfl
  | endSession session order | closeConnection connection order =>
      exact watch.withRegistry_respell spelling
        (watch.registry.suspendScope_respell spelling _ _ order) fun _ => rfl
  | expire identifier =>
      exact watch.withRegistry_respell spelling
        (watch.registry.expire_respell spelling identifier) fun _ => rfl
  | tryAdd terminus =>
      exact watch.withRegistry_respell spelling
        (watch.registry.tryAdd_respell spelling terminus) fun _ => rfl
  | tryRemove identifier =>
      exact watch.withRegistry_respell spelling
        (watch.registry.tryRemove_respell spelling identifier) fun _ => rfl
  | createTerminus identifier settings =>
      exact watch.withRegistry_respell spelling
        (watch.registry.addTerminus_respell spelling { identifier, settings, isShared := false })
        fun _ => rfl
  | updateSettings terminus settings =>
      exact congrArg (fun registry => (Reply.done, { watch.respell spelling with registry }))
        (watch.registry.updateSettings_respell spelling terminus settings)
  | associate terminus link =>
      refine watch.withRegistry_respell spelling
        (watch.registry.associate_respell spelling terminus link) fun result => ?_
      cases result <;> rfl
  | suspendTerminus terminus =>
      exact watch.withRegistry_respell spelling
        (watch.registry.suspendTerminus_respell spelling terminus) fun _ => rfl
  | expireTerminus terminus epoch =>
      exact watch.withRegistry_respell spelling
        (watch.registry.expireTerminus_respell spelling terminus epoch) fun _ => rfl
  | noteDelivery whose tag state =>
      refine watch.onTerminus_respell spelling whose fun terminus => ?_
      refine watch.withStorage_respell spelling
        (watch.registry.storage.noteDelivery_respell spelling terminus.identifier tag state)
        fun result => ?_
      cases result <;> rfl
  | settleDelivery whose tag =>
      refine watch.onTerminus_respell spelling whose fun terminus => ?_
      exact watch.withStorage_respell spelling
        (watch.registry.storage.call_respell spelling (.remove terminus.identifier tag))
        fun _ => rfl
  | planRecovery whose theirs =>
      refine watch.onTerminus_respell spelling whose fun terminus => ?_
      refine watch.withStorage_respell spelling
        (watch.registry.storage.planRecovery_respell spelling terminus.identifier
          terminus.settings.settleMode theirs) fun result => ?_
      cases result <;> rfl
  | applyPlan plan =>
      refine watch.withStorage_respell spelling
        (watch.registry.storage.applyPlan_respell spelling plan) fun result => ?_
      cases result <;> rfl
  | callStore call =>
      exact watch.withStorage_respell spelling
        (watch.registry.storage.call_respell spelling call) fun _ => rfl
  | setOutages outages => rfl
  | wait millis =>
      exact congrArg (Prod.mk _)
        ((congrArg catchUp (watch.sleep_respell spelling millis)).trans
          (catchUp_respell spelling _))
  | await name identifier timeout =>
      exact congrArg (Prod.mk _) (watch.await_respell spelling name identifier timeout)
  | cancel name => exact congrArg (Prod.mk _) (watch.cancel_respell spelling name)

theorem perform_respell (operation : Operation) :
    ((watch.respell spelling).perform (operation.respell spelling)).1.Reorders
        ((watch.perform operation).1.respell spelling) ∧
      ((watch.respell spelling).perform (operation.respell spelling)).2 =
        (watch.perform operation).2.respell spelling := by
  by_cases isSnapshot : operation = .snapshot
  · subst isSnapshot
    exact ⟨.snapshots (watch.registry.snapshot_respell_perm spelling),
      congrArg (fun registry => { watch.respell spelling with registry })
        (watch.registry.snapshot_respell_snd spelling)⟩
  · rw [watch.perform_respell_of_ne_snapshot spelling isSnapshot]
    exact ⟨.same _, rfl⟩

theorem step_respell (operation : Operation) :
    ((watch.respell spelling).step (operation.respell spelling)).1.Reorders
        ((watch.step operation).1.respell spelling) ∧
      ((watch.respell spelling).step (operation.respell spelling)).2 =
        (watch.step operation).2.respell spelling := by
  obtain ⟨reorders, leaves⟩ := watch.perform_respell spelling operation
  exact ⟨reorders, (congrArg settle leaves).trans (settle_respell spelling _)⟩

end Watch

/-! ## Runs in two spellings -/

instance : Nonempty Identifier := ⟨⟨"name", .sender, none, by decide⟩⟩

/-- One spelling for all identifiers of a terminus, and for all names that differ in letter case
alone. -/
noncomputable def Respelling.plain : Respelling where
  identifier other := Function.invFun Identifier.key other.key
  name other := Function.invFun Text.fold (Text.fold other)
  key_identifier other := Function.invFun_eq ⟨other, rfl⟩

namespace Respelling

theorem plain_identifier_eq_iff {left right : Identifier} :
    plain.identifier left = plain.identifier right ↔ (left == right) = true := by
  rw [Identifier.beq_iff_key_eq]
  constructor
  · intro same
    rw [← plain.key_identifier left, same, plain.key_identifier]
  · exact congrArg (Function.invFun Identifier.key)

theorem plain_name_eq_iff {left right : String} :
    plain.name left = plain.name right ↔ Text.fold left = Text.fold right := by
  have fold_name (text : String) : Text.fold (plain.name text) = Text.fold text :=
    Function.invFun_eq ⟨text, rfl⟩
  constructor
  · intro same
    rw [← fold_name left, same, fold_name]
  · exact congrArg (Function.invFun Text.fold)

end Respelling

/-- Operations that differ at most in how the identifiers are written that they name. -/
def Operation.Alike (operation other : Operation) : Prop :=
  operation.respell .plain = other.respell .plain

/-- Replies that differ at most in how identifiers are written, and in the order of a snapshot. -/
def Reply.Alike (reply other : Reply) : Prop :=
  (reply.respell .plain).Reorders (other.respell .plain)

/-- Watches that differ at most in how identifiers are written. -/
def Watch.Alike (watch other : Watch) : Prop := watch.respell .plain = other.respell .plain

namespace Watch

variable {watch other : Watch} {operation another : Operation} {operations others : List Operation}

namespace Alike

theorem refl (watch : Watch) : watch.Alike watch := rfl

theorem storage (alike : watch.Alike other) : watch.registry.storage = other.registry.storage :=
  congrArg (·.registry.storage) alike

theorem results (alike : watch.Alike other) :
    watch.waiters.map (·.result?) = other.waiters.map (·.result?) := by
  have same := congrArg (·.waiters.map (·.result?)) alike
  simpa [Watch.respell, Function.comp_def] using same

theorem links (alike : watch.Alike other) :
    watch.registry.links.map (fun link => (link.isOpen, link.steals)) =
      other.registry.links.map (fun link => (link.isOpen, link.steals)) := by
  have same := congrArg (·.registry.links.map fun link => (link.isOpen, link.steals)) alike
  simpa [Watch.respell, Registry.respell, Function.comp_def, Link.respell] using same

theorem termini (alike : watch.Alike other) :
    watch.registry.termini.map (fun terminus => (terminus.phase, terminus.epoch, terminus.link)) =
      other.registry.termini.map
        (fun terminus => (terminus.phase, terminus.epoch, terminus.link)) := by
  have same := congrArg (·.registry.termini.map fun terminus =>
    (terminus.phase, terminus.epoch, terminus.link)) alike
  simpa [Watch.respell, Registry.respell, Function.comp_def, Terminus.respell] using same

theorem step (alike : watch.Alike other) (same : operation.Alike another) :
    (watch.step operation).1.Alike (other.step another).1 ∧
      (watch.step operation).2.Alike (other.step another).2 := by
  obtain ⟨reorders, leaves⟩ := watch.step_respell .plain operation
  obtain ⟨reordersOther, leavesOther⟩ := other.step_respell .plain another
  rw [alike, same] at reorders leaves
  exact ⟨reorders.symm.trans reordersOther, leaves.symm.trans leavesOther⟩

theorem run (alike : watch.Alike other) (same : List.Forall₂ Operation.Alike operations others) :
    List.Forall₂ Reply.Alike (watch.run operations).1 (other.run others).1 ∧
      (watch.run operations).2.Alike (other.run others).2 := by
  induction same generalizing watch other with
  | nil => exact ⟨.nil, alike⟩
  | cons head _ ih =>
      obtain ⟨replies, stepped⟩ := alike.step head
      obtain ⟨repliesThen, ends⟩ := ih stepped
      exact ⟨.cons replies repliesThen, ends⟩

end Alike

/-- Runs of operations that differ in how identifiers are written get replies that differ in
nothing else but the order of snapshots, and after each of their operations the registry and those
that follow it differ in nothing else: waits have ended alike, the same links were taken over, and
termini and records are the same.  The order in which termini are come upon when their scope ends is
part of an operation, and so it is the same in both runs; where two tables have orders of their own,
what the store loses to outages and what waits miss may depend on them. -/
theorem letter_case_never_matters (start : watch.Alike other)
    (alike : List.Forall₂ Operation.Alike operations others) :
    List.Forall₂ Reply.Alike (watch.run operations).1 (other.run others).1 ∧
      ∀ count,
        let watch := (watch.run (operations.take count)).2
        let other := (other.run (others.take count)).2
        watch.Alike other ∧
          watch.waiters.map (·.result?) = other.waiters.map (·.result?) ∧
          watch.registry.links.map (fun link => (link.isOpen, link.steals)) =
            other.registry.links.map (fun link => (link.isOpen, link.steals)) ∧
          watch.registry.termini.map
              (fun terminus => (terminus.phase, terminus.epoch, terminus.link)) =
            other.registry.termini.map
              (fun terminus => (terminus.phase, terminus.epoch, terminus.link)) ∧
          watch.registry.storage = other.registry.storage := by
  refine ⟨(start.run alike).1, fun count => ?_⟩
  have ends := (start.run (List.forall₂_take count alike)).2
  exact ⟨ends, ends.results, ends.links, ends.termini, ends.storage⟩

end Watch

/-- A link goes away while someone waits for it, and comes back under a name of which only the
letter case is given. -/
def Sample.comesBack (name : String) (named : name ≠ "") : List Operation :=
  let respelled : Identifier := { identifier with name, named }
  let returning : Link :=
    { link "link-detach" 60 with
      identifier := respelled, settings := { settings "link-detach" 60 with name } }
  [.openLink (link "link-detach" 60), .register 0 false, .suspend 0 .linkDetach,
    .await "waiting" respelled 5000, .openLink returning, .register 1 true, .snapshot]

namespace Watch

/-- The wait ends with the terminus that was suspended, in whichever letter case the link comes
back. -/
theorem letter_case_never_matters_sample :
    let first := Sample.comesBack "telemetry" (by decide)
    let second := Sample.comesBack "TeleMetry" (by decide)
    let start : Watch := { registry := Sample.registry }
    start.Alike start ∧ List.Forall₂ Operation.Alike first second ∧
      (start.run second).2.waiters.map (·.result?) = [some (0, .ok 0)] := by
  intro first second start
  have sameIdentifier : Respelling.plain.identifier { Sample.identifier with name := "telemetry" } =
      Respelling.plain.identifier
        { Sample.identifier with name := "TeleMetry", named := by decide } :=
    Respelling.plain_identifier_eq_iff.2 (by decide +kernel)
  have sameName : Respelling.plain.name "telemetry" = Respelling.plain.name "TeleMetry" :=
    Respelling.plain_name_eq_iff.2 (by decide +kernel)
  have alike : List.Forall₂ Operation.Alike first second := by
    simp only [first, second, Sample.comesBack, List.forall₂_cons, List.forall₂_nil_left_iff,
      Operation.Alike, Operation.respell, Link.respell, Settings.respell, sameIdentifier, sameName,
      and_self]
  obtain ⟨_, moments⟩ := letter_case_never_matters (Alike.refl start) alike
  obtain ⟨_, sameResults, _⟩ := moments 7
  have ended : (start.run first).2.waiters.map (·.result?) = [some (0, .ok 0)] := by
    decide +kernel
  exact ⟨Alike.refl start, alike, sameResults.symm.trans ended⟩

end Watch

end Reattach
