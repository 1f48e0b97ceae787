import Reattach.Proofs.Consistency

/-!
# Suspensions told apart by their epochs

An expiry is arranged in the epoch of a suspension and asked for much later.  What comes of
it is decided by all that has been asked of the terminus in between: it is carried out if
nothing has ended the suspension of that epoch, and in no other case.
-/

namespace Reattach

namespace Terminus

/-- Something that is asked of a terminus. -/
inductive Call where
  | associate (link : LinkId)
  | suspend (now : Nat)
  /-- To expire, in the given epoch if one is given. -/
  | expire (epoch : Option Nat)

/-- What a terminus answers. -/
inductive Answer where
  /-- It has the link now, and had the other one until now. -/
  | associated (displaced : Option LinkId)
  | refused (fault : Fault)
  /-- The epoch that begins, if one does. -/
  | suspended (epoch : Option Nat)
  /-- Whether it has expired by this. -/
  | expired (done : Bool)

/-- The answer to a call, and what the call leaves. -/
def call (terminus : Terminus) : Call → Answer × Terminus
  | .associate link =>
      match terminus.associate link with
      | .error fault => (.refused fault, terminus)
      | .ok (displaced, later) => (.associated displaced, later)
  | .suspend now =>
      match terminus.suspend now with
      | none => (.suspended none, terminus)
      | some later => (.suspended (some later.epoch), later)
  | .expire epoch =>
      match terminus.expire epoch with
      | none => (.expired false, terminus)
      | some later => (.expired true, later)

/-- A call with its answer. -/
abbrev Turn := Call × Answer

/-- Calls made one after the other, each with its answer, and what they leave. -/
def callAll (terminus : Terminus) : List Call → List Turn × Terminus
  | [] => ([], terminus)
  | call :: rest =>
      let (answer, terminus) := terminus.call call
      let (turns, terminus) := callAll terminus rest
      ((call, answer) :: turns, terminus)

/-- The epoch that a turn begins, if it begins one: the terminus was suspended. -/
def Turn.begun? : Turn → Option Nat
  | (_, .suspended epoch) => epoch
  | _ => none

/-- Whether a turn ends the suspension there was, if there was one: a link is attached or
refused, another suspension begins, or the terminus expires. -/
def Turn.ends : Turn → Bool
  | (.associate _, _) => true
  | (_, .suspended epoch) => epoch.isSome
  | (_, .expired done) => done
  | _ => false

/-- The epochs that have begun, the first one first. -/
def begun (turns : List Turn) : List Nat := turns.filterMap (·.begun?)

/-- That an epoch is the one begun last, and that nothing has ended it. -/
def IsOpen (turns : List Turn) (epoch : Nat) : Prop :=
  ∃ before turn after, turns = before ++ turn :: after ∧ turn.begun? = some epoch ∧
    ∀ later ∈ after, later.ends = false

variable {terminus : Terminus} {turns : List Turn} {epoch : Nat}

/-- An epoch is open after one more turn if the turn begins it, or leaves it open. -/
theorem isOpen_concat_iff {turn : Turn} :
    IsOpen (turns ++ [turn]) epoch ↔
      turn.begun? = some epoch ∨ turn.ends = false ∧ IsOpen turns epoch := by
  constructor
  · rintro ⟨before, first, after, divided, begins, stays⟩
    rcases List.eq_nil_or_concat' after with rfl | ⟨between, last, rfl⟩
    · obtain ⟨_, sameTurn⟩ := List.append_inj' divided rfl
      cases sameTurn
      exact .inl begins
    · rw [← List.cons_append, ← List.append_assoc] at divided
      obtain ⟨rfl, sameTurn⟩ := List.append_inj' divided rfl
      cases sameTurn
      refine .inr ⟨stays turn (by simp), before, first, between, rfl, begins, ?_⟩
      exact fun later member => stays later (List.mem_append_left _ member)
  · rintro (begins | ⟨goesOn, before, first, after, rfl, begins, stays⟩)
    · exact ⟨turns, turn, [], rfl, begins, by simp⟩
    · refine ⟨before, first, after ++ [turn], by simp, begins, ?_⟩
      intro later member
      rcases List.mem_append.1 member with inAfter | isLast
      · exact stays later inAfter
      · rw [List.mem_singleton.1 isLast, goesOn]

/-! ## What the history of a terminus tells about it -/

/-- That a terminus is what its history makes of it. -/
structure Tells (turns : List Turn) (terminus : Terminus) : Prop where
  increasing : (begun turns).Pairwise (· < ·)
  notLater : ∀ epoch ∈ begun turns, epoch ≤ terminus.epoch
  isOpen_iff : ∀ epoch,
    IsOpen turns epoch ↔ terminus.phase = .suspended ∧ epoch = terminus.epoch
  linked : terminus.link ≠ none → terminus.phase = .active

namespace Tells

theorem fresh (identifier : Identifier) (settings : Settings) (isShared : Bool) :
    Tells [] { identifier, settings, isShared } := by
  refine ⟨.nil, by simp [begun], fun epoch => ?_, fun isLinked => absurd rfl isLinked⟩
  refine iff_of_false ?_ (by simp)
  rintro ⟨before, turn, after, divided, _⟩
  simp at divided

theorem of_silent (tells : Tells turns terminus) {turn : Turn} {later : Terminus}
    (silent : turn.begun? = none) (grows : terminus.epoch ≤ later.epoch)
    (isOpen_iff : ∀ epoch, turn.ends = false ∧ IsOpen turns epoch ↔
      later.phase = .suspended ∧ epoch = later.epoch)
    (linked : later.link ≠ none → later.phase = .active) : Tells (turns ++ [turn]) later := by
  have same : begun (turns ++ [turn]) = begun turns := by simp [begun, silent]
  refine ⟨same ▸ tells.increasing, ?_, fun epoch => ?_, linked⟩
  · rw [same]
    exact fun epoch member => Nat.le_trans (tells.notLater epoch member) grows
  · rw [isOpen_concat_iff, silent, ← isOpen_iff]
    simp

theorem of_unchanged (tells : Tells turns terminus) {turn : Turn} (silent : turn.begun? = none)
    (stays : turn.ends = false ∨ terminus.phase ≠ .suspended) :
    Tells (turns ++ [turn]) terminus := by
  refine tells.of_silent silent (Nat.le_refl _) (fun epoch => ?_) tells.linked
  rw [tells.isOpen_iff]
  rcases stays with goesOn | notSuspended
  · simp [goesOn]
  · simp [notSuspended]

/-- Whatever is asked of a terminus, it is what its history makes of it. -/
theorem call (tells : Tells turns terminus) (call : Call) :
    Tells (turns ++ [(call, (terminus.call call).1)]) (terminus.call call).2 := by
  cases call with
  | associate link =>
      simp only [Terminus.call]
      cases associated : terminus.associate link with
      | error fault =>
          have hasExpired := (associate_eq_error_iff.1 associated).1
          exact tells.of_unchanged rfl (.inr (by simp [hasExpired]))
      | ok result =>
          obtain ⟨displaced, later⟩ := result
          have moves := Moves.associate associated
          refine tells.of_silent rfl moves.keeps.2 (fun epoch => ?_) (moves.linked tells.linked)
          rw [(of_associate associated).2]
          simp [Turn.ends]
  | suspend now =>
      simp only [Terminus.call]
      cases suspended : terminus.suspend now with
      | none => exact tells.of_unchanged rfl (.inl rfl)
      | some later =>
          have linked := (Moves.suspend suspended).linked tells.linked
          obtain ⟨_, rfl⟩ := of_suspend suspended
          refine ⟨?_, ?_, fun epoch => ?_, linked⟩
          · simp only [begun, List.filterMap_append, List.filterMap_cons, List.filterMap_nil,
              Turn.begun?]
            refine List.pairwise_append.2 ⟨tells.increasing, List.pairwise_singleton _ _, ?_⟩
            intro epoch member next isNext
            rw [List.mem_singleton.1 isNext]
            exact Nat.lt_succ_of_le (tells.notLater epoch member)
          · intro epoch member
            simp only [begun, List.filterMap_append, List.filterMap_cons, List.filterMap_nil,
              Turn.begun?, List.mem_append, List.mem_singleton] at member
            rcases member with before | isNew
            · exact Nat.le_succ_of_le (tells.notLater epoch before)
            · exact Nat.le_of_eq isNew
          · rw [isOpen_concat_iff]
            simp [Turn.begun?, Turn.ends, eq_comm]
  | expire wanted =>
      simp only [Terminus.call]
      cases expired : terminus.expire wanted with
      | none => exact tells.of_unchanged rfl (.inl rfl)
      | some later =>
          have moves := Moves.expire expired
          refine tells.of_silent rfl moves.keeps.2 (fun epoch => ?_) (moves.linked tells.linked)
          rw [(of_expire expired).2.2]
          simp [Turn.ends]

theorem callAll (tells : Tells turns terminus) (calls : List Call) :
    Tells (turns ++ (terminus.callAll calls).1) (terminus.callAll calls).2 := by
  induction calls generalizing turns terminus with
  | nil => simpa [Terminus.callAll] using tells
  | cons call rest ih => simpa [Terminus.callAll] using ih (tells.call call)

end Tells

/-! ## Expired for good -/

/-- An expired terminus answers every call and stays as it is. -/
theorem call_of_expired (hasExpired : terminus.phase = .expired) (call : Call) :
    (terminus.call call).2 = terminus ∧ ∀ link, call = .associate link →
      (terminus.call call).1 = .refused (.terminusExpired terminus.identifier) := by
  cases call with
  | associate link => simp [Terminus.call, associate, hasExpired]
  | suspend now => simp [Terminus.call, suspend, hasExpired]
  | expire epoch => simp [Terminus.call, expire, hasExpired]

theorem callAll_of_expired (hasExpired : terminus.phase = .expired) (calls : List Call) :
    (terminus.callAll calls).2 = terminus ∧
      ∀ link answer, (.associate link, answer) ∈ (terminus.callAll calls).1 →
        answer = .refused (.terminusExpired terminus.identifier) := by
  induction calls with
  | nil => exact ⟨rfl, by simp [callAll]⟩
  | cons call rest ih =>
      obtain ⟨stays, refused⟩ := call_of_expired hasExpired call
      simp only [callAll, stays]
      refine ⟨ih.1, fun link answer member => ?_⟩
      rcases List.mem_cons.1 member with isFirst | isLater
      · obtain ⟨isCall, rfl⟩ := Prod.mk.inj isFirst
        exact refused link isCall.symm
      · exact ih.2 link answer isLater

/-- What an expiry in an epoch takes. -/
theorem call_expire_eq_iff :
    (terminus.call (.expire (some epoch))).1 = .expired true ↔
      terminus.phase = .suspended ∧ epoch = terminus.epoch := by
  have isSome := @expire_isSome_iff terminus (some epoch)
  simp only [Option.mem_some_iff, forall_eq'] at isSome
  rw [← isSome]
  simp only [call]
  cases terminus.expire (some epoch) <;> simp

/-- What a suspension takes. -/
theorem call_suspend_eq_iff {now : Nat} :
    (∃ begins, (terminus.call (.suspend now)).1 = .suspended (some begins)) ↔
      terminus.phase = .active := by
  rw [← @suspend_isSome_iff terminus now]
  simp only [call]
  cases terminus.suspend now <;> simp

end Terminus

/-! ## In a registry -/

namespace Registry

variable {registry : Registry}

theorem OnlyActiveLinked.move (linked : registry.OnlyActiveLinked) (sound : registry.Sound)
    (move : Move) : (registry.move move).OnlyActiveLinked := by
  have kept (operation : Operation) (origin before after : Registry) (_ : before.Sound)
      (change : Change operation origin before after) (holds : before.OnlyActiveLinked) :
      after.OnlyActiveLinked := holds.change change
  cases move with
  | act operation =>
      exact sound.changes_induction linked (kept _ _) (sound.after_changes operation)
  | pass time => exact linked
  | fire index =>
      rw [Registry.move]
      refine fire_induction index linked fun timer => ?_
      exact (sound.dropTimer index).changes_induction linked (kept _ _)
        (sound.fired_changes index timer)

/-- Whatever is done, also to termini of the table behind its back, only active termini have a
link. -/
theorem OnlyActiveLinked.follow (linked : registry.OnlyActiveLinked) (sound : registry.Sound)
    (moves : List Move) : (registry.follow moves).OnlyActiveLinked := by
  induction moves generalizing registry with
  | nil => exact linked
  | cons move rest ih => exact ih (linked.move sound move) (sound.move move)

theorem OnlyActiveLinked.create (config : Config) (storage : Storage) (hasTimers : Bool) :
    OnlyActiveLinked { Registry.create config storage with hasTimers } := by
  intro id terminus known
  cases known

/-- A terminus that has the link that goes away is active, so it is suspended now and was not
before. -/
theorem OnlyActiveLinked.suspend_ne (linked : registry.OnlyActiveLinked) (id : LinkId)
    (departure : Departure) : (registry.suspend id departure).1 ≠ .alreadySuspended := by
  simp only [suspend]
  cases registry.links[id]? with
  | none => simp
  | some link =>
      simp only [suspendFor]
      cases registry.entry? link.identifier with
      | none => simp
      | some entry =>
          simp only
          split
          · simp
          · next associated =>
              split
              · simp
              · simp only [Bool.not_eq_true, Bool.not_eq_false', isAssociated, linkOf,
                  beq_iff_eq, Option.bind_eq_some_iff] at associated
                obtain ⟨terminus, known, isLink⟩ := associated
                have isActive := linked _ _ known (by simp [isLink])
                simp only [suspendEntry, suspendTerminus, known, Option.bind_some,
                  Terminus.suspend, isActive]
                split <;> simp

end Registry

/-! ## The episodes of a terminus -/

namespace Terminus

/-- Whatever is asked of a terminus from its making on, in whatever order: the epochs of its
suspensions increase; it expires in a given epoch exactly if that is the one that the last
suspension began and no link was attached and no expiry carried out since; only an active
terminus is suspended; an expired one refuses every link and stays as it is; and it has a link
only while it is active.  The last goes for all termini of a registry, whatever is done to
them, so a link that goes away never finds its terminus suspended before. -/
theorem expires_in_open_epoch_only (identifier : Identifier) (settings : Settings)
    (isShared : Bool) (calls : List Call) :
    let made : Terminus := { identifier, settings, isShared }
    let turns := (made.callAll calls).1
    let terminus := (made.callAll calls).2
    (begun turns).Pairwise (· < ·) ∧
    (∀ epoch, (terminus.call (.expire (some epoch))).1 = .expired true ↔ IsOpen turns epoch) ∧
    (∀ now, (∃ begins, (terminus.call (.suspend now)).1 = .suspended (some begins)) ↔
      terminus.phase = .active) ∧
    (terminus.phase = .expired → ∀ more, (terminus.callAll more).2 = terminus ∧
      ∀ link answer, (.associate link, answer) ∈ (terminus.callAll more).1 →
        answer = .refused (.terminusExpired terminus.identifier)) ∧
    (terminus.link ≠ none → terminus.phase = .active) ∧
    ∀ config storage hasTimers moves link departure,
      (({ Registry.create config storage with hasTimers }.follow moves).suspend link departure).1 ≠
        .alreadySuspended := by
  intro made turns terminus
  have tells : Tells turns terminus := (Tells.fresh identifier settings isShared).callAll calls
  refine ⟨tells.increasing, fun epoch => ?_, fun now => call_suspend_eq_iff,
    callAll_of_expired, tells.linked, ?_⟩
  · rw [call_expire_eq_iff, tells.isOpen_iff]
  · intro config storage hasTimers moves link departure
    have linked := Registry.OnlyActiveLinked.create config storage hasTimers
    exact (linked.follow (.create config storage hasTimers) moves).suspend_ne link departure

/-- A terminus that is attached again and suspended anew expires in the second epoch and not
in the first, and takes no link after that. -/
theorem expires_in_open_epoch_only_sample :
    let made : Terminus :=
      { identifier := Sample.identifier, settings := Sample.settings "link-detach" 1
        isShared := true }
    let asked : List Call := [.suspend 0, .associate 7, .suspend 5, .expire (some 1)]
    let turns := (made.callAll asked).1
    let expired := (made.callAll (asked ++ [.expire (some 3)])).2
    begun turns = [1, 3] ∧ IsOpen turns 3 ∧ ¬IsOpen turns 1 ∧ expired.phase = .expired ∧
      (expired.callAll [.associate 7, .suspend 9]).2 = expired ∧
      (made.callAll [.associate 7]).2.link = some 7 ∧
      (made.callAll [.associate 7]).2.phase = .active := by
  intro made asked turns expired
  obtain ⟨-, opens, -⟩ := expires_in_open_epoch_only Sample.identifier
    (Sample.settings "link-detach" 1) true asked
  obtain ⟨-, -, -, ends, -⟩ := expires_in_open_epoch_only Sample.identifier
    (Sample.settings "link-detach" 1) true (asked ++ [.expire (some 3)])
  obtain ⟨-, -, -, -, linked, -⟩ := expires_in_open_epoch_only Sample.identifier
    (Sample.settings "link-detach" 1) true [.associate 7]
  refine ⟨rfl, (opens 3).1 rfl, fun isOpen => ?_, rfl, (ends rfl _).1, rfl,
    linked (by simp [callAll, call, associate])⟩
  exact absurd ((opens 1).2 isOpen) (by simp [asked, callAll, call, suspend, associate, expire])

end Terminus

end Reattach
