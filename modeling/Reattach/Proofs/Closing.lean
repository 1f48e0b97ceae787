import Reattach.Proofs.Holders
import Reattach.Scenario.Run

/-!
# Scopes that are closed in a scenario

A scenario closes the links of a session or connection before it tells the registry that this has
ended.  It finds them by the names that links were last attached under.  A link whose name another
one was attached under since is not found, even where the two are of different identifiers: it
stays open, and so does its terminus if its policy is not reached.
-/

namespace Reattach

variable {registry later : Registry} {simulation : Simulation}
variable {key : Identifier.Key} {seat : Seat} {id : LinkId} {link : Link}
variable {departure : Departure} {inScope : Scope → Bool}

namespace Registry

/-! ## What a move leaves of links -/

/-- The name that a link was attached under. -/
def linkName? (registry : Registry) (id : LinkId) : Option String :=
  registry.links[id]?.map (·.identifier.name)

/-- No move changes the name of a link, and most open none. -/
theorem Touches.linkName?_eq {move : Move} (touches : Touches registry move later)
    (opensNone : ∀ link, move ≠ .act (.openLink link)) (id : LinkId) :
    later.linkName? id = registry.linkName? id := by
  have putting {other : LinkId} {before changed : Link}
      (isBefore : registry.links[other]? = some before)
      (same : changed.identifier = before.identifier)
      (links : later.links = registry.links.setIfInBounds other changed) :
      later.linkName? id = registry.linkName? id := by
    rw [linkName?, linkName?, links, getElem?_links_set isBefore]
    split
    · next isOther => rw [isOther, isBefore, Option.map_some, Option.map_some, same]
    · rfl
  cases touches with
  | leaves leaves => rw [linkName?, linkName?, leaves.links]
  | opens asked => exact absurd asked (opensNone _)
  | changes isBefore change links _ =>
      refine putting isBefore ?_ links
      rcases change with rfl | ⟨fails, rfl⟩ <;> rfl
  | steals _ steals =>
      exact putting steals.knownOld (Link.Becomes.takenOver steals.isOpen _).identifier steals.links

/-- That the table is consistent, and knows where the link that a terminus has was attached. -/
structure KnowsScopes (registry : Registry) : Prop where
  consistent : registry.Consistent
  places : ∀ key seat id, registry.seat? key = some seat → seat.link = some id →
    ∃ link, registry.links[id]? = some link ∧ seat.entry.scope = some link.scope

namespace KnowsScopes

theorem create (config : Config) (storage : Storage) : KnowsScopes (create config storage) := by
  refine ⟨.create config storage true, fun key seat id seated _ => ?_⟩
  cases seated

theorem withStorage (knows : registry.KnowsScopes) (storage : Storage) :
    KnowsScopes { registry with storage } :=
  have consistent := knows.consistent
  ⟨⟨fun key => (consistent.inStep key).congr rfl rfl (consistent.inStep key).purged,
    consistent.keyed, consistent.linked⟩, knows.places⟩

/-- Moves that go by links keep that.  A link that is registered brings its scope along. -/
theorem move {move : Move} (knows : registry.KnowsScopes) (byLinks : move.GoesByLinks) :
    (registry.move move).KnowsScopes := by
  have sparing : registry.Sparing [move] := sparing_of_links (by simpa)
  refine ⟨knows.consistent.follow [move] sparing, fun key seat id seated isLink => ?_⟩
  have grown (known : ∃ link, registry.links[id]? = some link ∧
        seat.entry.scope = some link.scope) :
      ∃ link, (registry.move move).links[id]? = some link ∧
        seat.entry.scope = some link.scope := by
    obtain ⟨link, known, isScope⟩ := known
    obtain ⟨grown, known, becomes⟩ := (knows.consistent.touches move).becomes known
    exact ⟨grown, known, by rw [becomes.scope, isScope]⟩
  cases knows.consistent.fate move sparing.1 key with
  | stays same => exact grown (knows.places key seat id (same.symm.trans seated) isLink)
  | @attached _ _ link _ _ _ known _ _ seatedThen =>
      rw [seatedThen, Option.some.injEq] at seated
      subst seated
      cases isLink
      exact grown ⟨link, known, rfl⟩
  | suspended _ _ _ _ seatedThen =>
      rw [seatedThen, Option.some.injEq] at seated
      subst seated
      cases isLink
  | expired _ _ gone =>
      rw [gone.seat?] at seated
      cases seated
  | seeded asked =>
      subst asked
      cases byLinks
  | spent asked =>
      subst asked
      cases byLinks
  | removed asked =>
      subst asked
      cases byLinks

end KnowsScopes

/-- That a registry is reached by moves that go by links and open none, and by calls to the
store. -/
inductive Proceeds (registry : Registry) : Registry → Prop where
  | start : Proceeds registry registry
  | move {later : Registry} (before : Proceeds registry later) (move : Move)
      (byLinks : move.GoesByLinks) (opensNone : ∀ link, move ≠ .act (.openLink link)) :
      Proceeds registry (later.move move)
  | store {later : Registry} (before : Proceeds registry later) (storage : Storage) :
      Proceeds registry { later with storage }

namespace Proceeds

variable {between : Registry}

theorem trans (first : registry.Proceeds between) (second : between.Proceeds later) :
    registry.Proceeds later := by
  induction second with
  | start => exact first
  | move _ move byLinks opensNone ih => exact ih.move move byLinks opensNone
  | store _ storage ih => exact ih.store storage

theorem knowsScopes (proceeds : registry.Proceeds later) (knows : registry.KnowsScopes) :
    later.KnowsScopes := by
  induction proceeds with
  | start => exact knows
  | move _ _ byLinks _ ih => exact ih.move byLinks
  | store _ storage ih => exact ih.withStorage storage

theorem linkName?_eq (proceeds : registry.Proceeds later) (knows : registry.KnowsScopes)
    (id : LinkId) : later.linkName? id = registry.linkName? id := by
  induction proceeds with
  | start => rfl
  | move before move _ opensNone ih =>
      have touches := (before.knowsScopes knows).consistent.touches move
      exact (touches.linkName?_eq opensNone id).trans ih
  | store _ _ ih => exact ih

/-- Time opens no links. -/
theorem idle {moves : List Move} (areIdle : ∀ move ∈ moves, move.IsIdle) :
    registry.Proceeds (registry.follow moves) := by
  induction moves generalizing registry with
  | nil => exact .start
  | cons first rest ih =>
      refine trans ?_ (ih fun move member => areIdle move (List.mem_cons_of_mem _ member))
      have isIdle := areIdle first List.mem_cons_self
      cases first with
      | act => cases isIdle
      | pass | fire => exact .move .start _ trivial (by simp)

theorem act (before : registry.Proceeds later) (operation : Operation)
    (byLinks : (Move.act operation).GoesByLinks) (opensNone : ∀ link, operation ≠ .openLink link) :
    registry.Proceeds (later.after operation) :=
  before.move (.act operation) byLinks fun link same => opensNone link (Move.act.inj same)

theorem closeLink (before : registry.Proceeds later) (id : LinkId) :
    registry.Proceeds (later.closeLink id) :=
  before.act (.closeLink id) rfl (by simp)

theorem snapshot (before : registry.Proceeds later) : registry.Proceeds later.snapshot.2 :=
  before.act .snapshot rfl (by simp)

end Proceeds

end Registry

/-! ## Steps of a scenario -/

namespace Simulation

/-- A simulation before its first step. -/
def create (host : Host) (config : Config) (storage : Storage) : Simulation :=
  { host, watch := { registry := .create config storage } }

/-- The simulation after steps that are numbered from `number`, if none of them fails. -/
def carryOutAll? (simulation : Simulation) (number : Nat) : List ScenarioStep → Option Simulation
  | [] => some simulation
  | step :: rest =>
      let report := simulation.carryOut number step
      match report.failure with
      | some _ => none
      | none => report.simulation.carryOutAll? (number + 1) rest

theorem carryOutAll?_append {after : Simulation} {number : Nat} {first : List ScenarioStep}
    (ran : simulation.carryOutAll? number first = some after) (rest : List ScenarioStep) :
    simulation.carryOutAll? number (first ++ rest) =
      after.carryOutAll? (number + first.length) rest := by
  induction first generalizing simulation number with
  | nil =>
      cases ran
      rfl
  | cons step others ih =>
      simp only [List.cons_append, carryOutAll?] at ran ⊢
      split at ran
      · cases ran
      · next done =>
          rw [ih ran, List.length_cons, Nat.add_assoc, Nat.add_comm 1]

theorem runFrom_append {after : Simulation} {number : Nat} {first : List ScenarioStep}
    (ran : simulation.carryOutAll? number first = some after) (rest : List ScenarioStep) :
    let remaining := after.runFrom (number + first.length) rest
    ∃ lines, simulation.runFrom number (first ++ rest) =
      { remaining with lines := lines ++ remaining.lines } := by
  induction first generalizing simulation number with
  | nil =>
      cases ran
      exact ⟨[], rfl⟩
  | cons step others ih =>
      simp only [carryOutAll?] at ran
      split at ran
      · cases ran
      · next done =>
          obtain ⟨lines, same⟩ := ih ran
          refine ⟨(simulation.carryOut number step).lines ++ lines, ?_⟩
          rw [List.cons_append, runFrom]
          simp only [done, same, List.length_cons, List.append_assoc]
          rw [Nat.add_right_comm, Nat.add_assoc]

/-- That a step leaves the names that links go by, and opens no link. -/
structure KeepsNames (simulation : Simulation) (report : StepReport) : Prop where
  links : report.simulation.links = simulation.links
  proceeds : simulation.registry.Proceeds report.simulation.registry

/-- That a step opens a link and keeps it under its name. -/
def AddsName (simulation : Simulation) (report : StepReport) : Prop :=
  ∃ link : Link, link.steals = 0 ∧ report.simulation.links =
      simulation.links.insert link.identifier.name simulation.registry.links.size ∧
    (simulation.registry.openLink link).2.Proceeds report.simulation.registry

theorem addsName_attach (label : String) (step : AttachStep) :
    (simulation.attach label step).failure = none →
      simulation.AddsName (simulation.attach label step) := by
  simp only [attach]
  split
  · simp [fail]
  · next identifier created =>
      have isName : identifier.name = step.link := by
        simp only [Identifier.create] at created
        split at created <;> cases created
        rfl
      let link : Link :=
        { identifier, settings := settingsOf step
          scope := .ofChannel step.connection step.channel }
      have registers : (simulation.registry.openLink link).2.Proceeds
          ((simulation.registry.openLink link).2.register simulation.registry.links.size
            step.exclusive).2 :=
        Registry.Proceeds.start.act (.register _ _) rfl (by simp)
      split
      · simp [fail]
      · next terminus registered isRegistered =>
          have same : ((simulation.registry.openLink link).2.register simulation.registry.links.size
            step.exclusive).2 = registered := congrArg Prod.snd isRegistered
          rw [same] at registers
          split
          · simp [fail]
          · simp only [attached]
            split
            · simp [fail]
            · intro _
              exact ⟨link, rfl, congrArg (simulation.links.insert · _) isName.symm,
                registers.store _⟩

theorem keepsNames_withStorage (storage : Storage) (lines : List String)
    (failure : Option ScenarioError) :
    simulation.KeepsNames ⟨lines, failure, simulation.withStorage storage⟩ :=
  ⟨rfl, .store .start storage⟩

theorem keepsNames_same (lines : List String) (failure : Option ScenarioError) :
    simulation.KeepsNames ⟨lines, failure, simulation⟩ :=
  ⟨rfl, .start⟩

theorem keepsNames_deliver (label link tag state : String) :
    simulation.KeepsNames (simulation.deliver label link tag state) := by
  simp only [deliver]
  split
  · exact keepsNames_same _ _
  · exact keepsNames_same _ _
  · split
    · exact keepsNames_same _ _
    · split <;> exact keepsNames_withStorage _ _ _

theorem keepsNames_settle (label link tag : String) :
    simulation.KeepsNames (simulation.settle label link tag) := by
  simp only [settle]
  split
  · exact keepsNames_same _ _
  · split <;> exact keepsNames_withStorage _ _ _

theorem keepsNames_detach (label link : String) (departure : Departure) :
    simulation.KeepsNames (simulation.detach label link departure) := by
  simp only [detach]
  split
  · exact keepsNames_same _ _
  · next id _ _ =>
      exact ⟨rfl, (Registry.Proceeds.start.closeLink id).act (.suspend id departure) rfl (by simp)⟩

/-- Close a link if it was attached in a scope. -/
def closeIn (inScope : Scope → Bool) (registry : Registry) (id : LinkId) : Registry :=
  if registry.links[id]?.any fun link => inScope link.scope then registry.closeLink id
  else registry

theorem proceeds_closeAll (ids : List LinkId) (before : registry.Proceeds later) :
    registry.Proceeds (ids.foldl (closeIn inScope) later) := by
  induction ids generalizing later with
  | nil => exact before
  | cons id rest ih =>
      apply ih
      rw [closeIn]
      split
      · exact before.closeLink id
      · exact before

theorem proceeds_closeLinks (simulation : Simulation) (inScope : Scope → Bool) :
    simulation.registry.Proceeds (simulation.closeLinks inScope).registry :=
  proceeds_closeAll _ .start

theorem keepsNames_endSession (label : String) (session : Session) :
    simulation.KeepsNames (simulation.endSession label session) :=
  ⟨rfl, (proceeds_closeLinks simulation fun scope => scope.session == session).act
    (.endSession session _) rfl (by simp)⟩

theorem keepsNames_closeConnection (label : String) (connection : UInt64) :
    simulation.KeepsNames (simulation.closeConnection label connection) :=
  ⟨rfl, (proceeds_closeLinks simulation fun scope => scope.connection == connection).act
    (.closeConnection connection _) rfl (by simp)⟩

theorem keepsNames_wait (label : String) (millis : UInt64) :
    simulation.KeepsNames (simulation.wait label millis) := by
  simp only [wait, sleep]
  split
  · exact ⟨rfl, .start⟩
  · obtain ⟨moves, areIdle, followed⟩ :=
      simulation.watch.exists_follow_sleepPassing simulation.host.passesOver millis.toNat
    refine ⟨rfl, ?_⟩
    change simulation.watch.registry.Proceeds
      (simulation.watch.sleepPassing simulation.host.passesOver millis.toNat).registry
    rw [← followed]
    exact .idle areIdle

theorem keepsNames_expire (label link : String) :
    simulation.KeepsNames (simulation.expire label link) := by
  simp only [expire]
  split
  · exact keepsNames_same _ _
  · next found _ =>
      exact ⟨rfl, Registry.Proceeds.start.act (.expire found.identifier) rfl (by simp)⟩

theorem keepsNames_recover (label link : String) (remote : SortedMap String String) :
    simulation.KeepsNames (simulation.recover label link remote) := by
  simp only [recover]
  split
  · exact keepsNames_same _ _
  · split
    · exact keepsNames_same _ _
    · simp only [recoverWith]
      split
      · exact keepsNames_withStorage _ _ _
      · split <;> exact keepsNames_withStorage _ _ _

theorem keepsNames_awaitReattach (label link : String) (timeout : UInt64) :
    simulation.KeepsNames (simulation.awaitReattach label link timeout) := by
  simp only [awaitReattach]
  split
  · exact keepsNames_same _ _
  · exact ⟨rfl, .start⟩

/-- A step that does not fail opens a link if it attaches one, and opens none otherwise. -/
theorem carryOut_cases {number : Nat} {step : ScenarioStep}
    (done : (simulation.carryOut number step).failure = none) :
    simulation.AddsName (simulation.carryOut number step) ∨
      simulation.KeepsNames (simulation.carryOut number step) := by
  cases step with
  | attach step => exact .inl (addsName_attach _ step done)
  | deliver => exact .inr (keepsNames_deliver ..)
  | settle => exact .inr (keepsNames_settle ..)
  | detach => exact .inr (keepsNames_detach ..)
  | endSession => exact .inr (keepsNames_endSession ..)
  | closeConnection => exact .inr (keepsNames_closeConnection ..)
  | wait => exact .inr (keepsNames_wait ..)
  | expire => exact .inr (keepsNames_expire ..)
  | recover => exact .inr (keepsNames_recover ..)
  | awaitReattach => exact .inr (keepsNames_awaitReattach ..)
  | snapshot => exact .inr ⟨rfl, Registry.Proceeds.start.snapshot⟩

/-- That the links that go by names are the last that were attached under them. -/
structure NamesLast (simulation : Simulation) : Prop where
  knows : simulation.registry.KnowsScopes
  named : ∀ name id, simulation.links.get? name = some id ↔
    simulation.registry.linkName? id = some name ∧
      ∀ later, id < later → simulation.registry.linkName? later ≠ some name

theorem NamesLast.create (host : Host) (config : Config) (storage : Storage) :
    (create host config storage).NamesLast := by
  refine ⟨.create config storage, fun name id => ?_⟩
  refine iff_of_false (fun found => ?_) fun known => ?_
  · cases found
  · cases known.1

theorem linkName?_openLink (registry : Registry) (link : Link) (id : LinkId) :
    (registry.openLink link).2.linkName? id =
      if id = registry.links.size then some link.identifier.name else registry.linkName? id := by
  simp only [Registry.linkName?, Registry.openLink, Array.getElem?_push]
  split <;> rfl

/-- Every step that does not fail keeps that. -/
theorem NamesLast.carryOut (namesLast : simulation.NamesLast) {number : Nat} {step : ScenarioStep}
    (done : (simulation.carryOut number step).failure = none) :
    (simulation.carryOut number step).simulation.NamesLast := by
  rcases carryOut_cases done with ⟨link, isNew, links, proceeds⟩ | ⟨links, proceeds⟩
  · have opened : (simulation.registry.openLink link).2.KnowsScopes :=
      namesLast.knows.move (show (Move.act (.openLink link)).GoesByLinks from isNew)
    refine ⟨proceeds.knowsScopes opened, fun name id => ?_⟩
    have older (other : LinkId) (known : simulation.registry.linkName? other = some name) :
        other < simulation.registry.links.size := by
      obtain ⟨found, isThere, _⟩ := Option.map_eq_some_iff.1 known
      exact (Array.getElem?_eq_some_iff.1 isThere).1
    simp only [proceeds.linkName?_eq opened, linkName?_openLink]
    rw [links, SortedMap.get?_insert_eq_some_iff, namesLast.named]
    constructor
    · rintro (⟨rfl, rfl⟩ | ⟨apart, known, isLast⟩)
      · refine ⟨if_pos rfl, fun later isLater known => ?_⟩
        rw [if_neg (Nat.ne_of_gt isLater)] at known
        exact Nat.lt_asymm isLater (older later known)
      · rw [if_neg (Nat.ne_of_lt (older id known))]
        refine ⟨known, fun later isLater => ?_⟩
        split
        · exact fun same => apart (Option.some.inj same).symm
        · exact isLast later isLater
    · rintro ⟨known, isLast⟩
      by_cases isNewest : id = simulation.registry.links.size
      · rw [if_pos isNewest] at known
        exact .inl ⟨(Option.some.inj known).symm, isNewest.symm⟩
      · rw [if_neg isNewest] at known
        refine .inr ⟨?_, known, fun later isLater knownToo => ?_⟩
        · rintro rfl
          exact isLast _ (older id known) (if_pos rfl)
        · refine isLast later isLater ?_
          rw [if_neg (Nat.ne_of_lt (older later knownToo)), knownToo]
  · refine ⟨proceeds.knowsScopes namesLast.knows, fun name id => ?_⟩
    simp only [proceeds.linkName?_eq namesLast.knows]
    rw [links]
    exact namesLast.named name id

theorem NamesLast.carryOutAll {after : Simulation} (namesLast : simulation.NamesLast) {number : Nat}
    {steps : List ScenarioStep} (ran : simulation.carryOutAll? number steps = some after) :
    after.NamesLast := by
  induction steps generalizing simulation number with
  | nil =>
      cases ran
      exact namesLast
  | cons step rest ih =>
      simp only [carryOutAll?] at ran
      split at ran
      · cases ran
      · next done => exact ih (namesLast.carryOut done) ran

/-! ## The end of a scope -/

theorem links_closeIn (inScope : Scope → Bool) (registry : Registry) (first : LinkId) :
    ∃ links, closeIn inScope registry first = { registry with links } ∧
      ∀ id : LinkId, links[id]? = registry.links[id]?.map fun link =>
        if id = first ∧ inScope link.scope = true then link.close else link := by
  simp only [closeIn, Registry.closeLink]
  cases known : registry.links[first]? with
  | none =>
      refine ⟨registry.links, rfl, fun id => ?_⟩
      by_cases same : id = first
      · rw [same, known]
        rfl
      · simp [same]
  | some link =>
      simp only [Option.any_some]
      split
      · next isIn =>
          refine ⟨_, rfl, fun id => ?_⟩
          rw [Registry.getElem?_links_set known]
          split
          · next same => simp [same, known, isIn]
          · next apart => simp [apart]
      · next isOut =>
          refine ⟨registry.links, rfl, fun id => ?_⟩
          by_cases same : id = first
          · simp [same, known, isOut]
          · simp [same]

/-- What closing some links in a scope does to links, and that it does nothing else. -/
theorem links_closeAll (ids : List LinkId) (inScope : Scope → Bool) (registry : Registry) :
    ∃ links, ids.foldl (closeIn inScope) registry = { registry with links } ∧
      ∀ id : LinkId, links[id]? = registry.links[id]?.map fun link =>
        if id ∈ ids ∧ inScope link.scope = true then link.close else link := by
  induction ids generalizing registry with
  | nil => exact ⟨registry.links, rfl, fun id => by simp⟩
  | cons first rest ih =>
      obtain ⟨links, closed, areClosed⟩ := links_closeIn inScope registry first
      obtain ⟨others, closedThen, areClosedThen⟩ := ih { registry with links }
      refine ⟨others, by rw [List.foldl_cons, closed, closedThen], fun id => ?_⟩
      rw [areClosedThen, areClosed, Option.map_map]
      congr 1
      funext link
      by_cases isIn : inScope link.scope = true <;> by_cases isFirst : id = first <;>
        by_cases isLater : id ∈ rest <;> simp [Link.close, isIn, isFirst, isLater]

/-- Closing the links of a scope closes those that go by names, and does nothing else. -/
theorem registry_closeLinks (simulation : Simulation) (inScope : Scope → Bool) :
    ∃ links, (simulation.closeLinks inScope).registry = { simulation.registry with links } ∧
      ∀ id : LinkId, links[id]? = simulation.registry.links[id]?.map fun link =>
        if id ∈ simulation.links.values ∧ inScope link.scope = true then link.close else link :=
  links_closeAll _ _ _

end Simulation

namespace Registry

/-- The termini that keep their links when a scope ends. -/
theorem Consistent.linked_suspendScope_iff (consistent : registry.Consistent)
    (order : TableOrder) :
    ((registry.suspendScope departure inScope order).2.seat? key = some seat ∧
        seat.link = some id) ↔
      registry.seat? key = some seat ∧ seat.link = some id ∧
        seat.entry.goesWith departure inScope = false := by
  have sound := consistent.sound
  have reordered := order.perm_arrange (registry.candidates departure inScope)
  have departs := consistent.candidates_depart reordered
  change Departs registry (registry.suspendScope departure inScope order).2 _ at departs
  constructor
  · rintro ⟨seated, isLink⟩
    by_cases takes : ∃ found, registry.seat? key = some found ∧ found.phase = .active ∧
        found.entry.goesWith departure inScope = true
    · obtain ⟨found, isFound, isActive, goes⟩ := takes
      have listed := (sound.mem_candidates_iff reordered isFound).2 goes
      by_cases isZero : found.entry.timeout = 0
      · rw [(departs.gone key listed found isFound isActive isZero).seat?] at seated
        cases seated
      · rw [(departs.suspended key listed found isFound isActive isZero).1] at seated
        cases seated
        cases isLink
    · have stays := departs.stays key fun found isFound isActive isListed =>
        takes ⟨found, isFound, isActive, (sound.mem_candidates_iff reordered isFound).1 isListed⟩
      rw [stays] at seated
      refine ⟨seated, isLink, ?_⟩
      by_contra goes
      exact takes ⟨seat, seated, consistent.seat_linked seated isLink, by simpa using goes⟩
  · rintro ⟨seated, isLink, remains⟩
    refine ⟨(departs.stays key fun found isFound _ goes => ?_).trans seated, isLink⟩
    rw [seated, Option.some.injEq] at isFound
    subst isFound
    rw [sound.mem_candidates_iff reordered seated, remains] at goes
    cases goes

/-! ## Snapshots -/

theorem mem_describeAll {entries : List Entry} {snapshot : Snapshot}
    (listed : snapshot ∈ (registry.describeAll entries).1) :
    ∃ entry ∈ entries, ∃ terminus, registry.termini[entry.terminus]? = some terminus ∧
      snapshot.identifier = terminus.identifier ∧ snapshot.scope = entry.scope ∧
      snapshot.hasLiveLink = registry.hasLiveLink entry.terminus := by
  induction entries generalizing registry with
  | nil => cases listed
  | cons entry rest ih =>
      simp only [describeAll] at listed
      split at listed
      · obtain ⟨found, member, described⟩ := ih listed
        exact ⟨found, List.mem_cons_of_mem _ member, described⟩
      · next terminus known =>
          rcases List.mem_cons.1 listed with rfl | isLater
          · exact ⟨entry, List.mem_cons_self, terminus, known, rfl, rfl, rfl⟩
          · obtain ⟨found, member, described⟩ := ih isLater
            exact ⟨found, List.mem_cons_of_mem _ member, described⟩

theorem mem_snapshot_iff {snapshot : Snapshot} : snapshot ∈ registry.snapshot.1 ↔
    snapshot ∈ (registry.describeAll registry.entries.values).1 := by
  simp [Registry.snapshot, List.mem_mergeSort]

theorem Sound.of_mem_snapshot (sound : registry.Sound) {snapshot : Snapshot}
    (listed : snapshot ∈ registry.snapshot.1) :
    ∃ seat, registry.seat? snapshot.identifier.key = some seat ∧
      snapshot.scope = seat.entry.scope ∧ snapshot.hasLiveLink = seat.link.any registry.isOpen := by
  obtain ⟨entry, member, terminus, known, isIdentifier, isScope, isLive⟩ :=
    mem_describeAll (mem_snapshot_iff.1 listed)
  obtain ⟨⟨key, _⟩, inTable, rfl⟩ := List.mem_map.1 member
  have present := (registry.entries.mem_toList_iff key _).1 inTable
  obtain ⟨owner, isOwner, isOwn⟩ := sound.keyed present
  rw [known, Option.some.injEq] at isOwner
  subst isOwner
  rw [isIdentifier, isOwn]
  refine ⟨_, seat?_eq present known, isScope, ?_⟩
  rw [isLive, hasLiveLink, linkOf, known]
  rfl

end Registry

/-- The event by which links go away with a step that ends a scope, and what is in that. -/
def ScenarioStep.ends? : ScenarioStep → Option (Departure × (Scope → Bool))
  | .endSession session => some (.sessionEnd, fun scope => scope.session == session)
  | .closeConnection connection =>
      some (.connectionClose, fun scope => scope.connection == connection)
  | _ => none

namespace Simulation

theorem carryOut_of_ends {step : ScenarioStep} (ends : step.ends? = some (departure, inScope))
    (number : Nat) :
    (simulation.carryOut number step).failure = none ∧
      (simulation.carryOut number step).simulation.registry =
        let registry := (simulation.closeLinks inScope).registry
        (registry.suspendScope departure inScope (simulation.host.order registry)).2 := by
  cases step with
  | endSession | closeConnection =>
      cases ends
      exact ⟨rfl, rfl⟩
  | _ => cases ends

/-- That the terminus of an identifier keeps an open link when the scope ends that it was attached
in: an event of that kind does not reach its policy, and another link was attached under the same
name since. -/
def Overlooks (simulation : Simulation) (departure : Departure) (key : Identifier.Key) : Prop :=
  ∃ (seat : Seat) (id : LinkId) (link : Link) (later : LinkId) (other : Link),
    simulation.registry.seat? key = some seat ∧ seat.link = some id ∧
      simulation.registry.links[id]? = some link ∧ link.isOpen = true ∧
      seat.entry.policy.qualifies departure = false ∧ id < later ∧
      simulation.registry.links[later]? = some other ∧
      other.identifier.name = link.identifier.name

/-- The links that go by names are the last that were attached under theirs. -/
theorem NamesLast.mem_values_iff (namesLast : simulation.NamesLast)
    (known : simulation.registry.links[id]? = some link) :
    id ∈ simulation.links.values ↔ ∀ later, id < later →
      simulation.registry.linkName? later ≠ some link.identifier.name := by
  have isName : simulation.registry.linkName? id = some link.identifier.name :=
    congrArg (Option.map _) known
  constructor
  · intro listed
    obtain ⟨⟨name, _⟩, inTable, rfl⟩ := List.mem_map.1 listed
    obtain ⟨isNamed, isLast⟩ :=
      (namesLast.named name _).1 ((simulation.links.mem_toList_iff name _).1 inTable)
    rw [isName, Option.some.injEq] at isNamed
    rw [isNamed]
    exact isLast
  · intro isLast
    have found := (namesLast.named _ id).2 ⟨isName, isLast⟩
    exact List.mem_map.2 ⟨(_, id), (simulation.links.mem_toList_iff _ id).2 found, rfl⟩

/-- A link of a scope is still open when the scope has ended if it was open and another one was
attached under its name. -/
theorem NamesLast.isOpen_iff (namesLast : simulation.NamesLast)
    (known : simulation.registry.links[id]? = some link) (isIn : inScope link.scope = true)
    (order : TableOrder) :
    ((simulation.closeLinks inScope).registry.suspendScope departure inScope order).2.isOpen id =
        true ↔
      link.isOpen = true ∧ ∃ later other, id < later ∧
        simulation.registry.links[later]? = some other ∧
        other.identifier.name = link.identifier.name := by
  obtain ⟨links, closed, areClosed⟩ := simulation.registry_closeLinks inScope
  have leaves := Registry.LeavesLinks.suspendScope (simulation.closeLinks inScope).registry
    departure inScope order
  have sameLinks : ((simulation.closeLinks inScope).registry.suspendScope departure
      inScope order).2.links = links := by
    rw [leaves.links, closed]
  have isLast_iff : id ∈ simulation.links.values ↔
      ¬∃ later other, id < later ∧ simulation.registry.links[later]? = some other ∧
        other.identifier.name = link.identifier.name := by
    rw [namesLast.mem_values_iff known]
    simp [Registry.linkName?, Option.map_eq_some_iff]
  rw [Registry.isOpen, sameLinks, areClosed, known, Option.map_some, Option.any_some]
  split
  · next isLast =>
      exact iff_of_false (by simp [Link.close]) fun both => isLast_iff.1 isLast.1 both.2
  · next isNotLast =>
      rw [and_iff_left isIn, isLast_iff, not_not] at isNotLast
      rw [and_iff_left isNotLast]

/-- After a step that ends a scope a terminus of that scope has a live link if it was overlooked,
and in no other case. -/
theorem NamesLast.hasLiveLink_iff (namesLast : simulation.NamesLast) {step : ScenarioStep}
    (ends : step.ends? = some (departure, inScope)) (number : Nat) {snapshot : Snapshot}
    (listed : snapshot ∈ (simulation.carryOut number step).simulation.registry.snapshot.1)
    (isIn : snapshot.scope.any inScope = true) :
    snapshot.hasLiveLink = true ↔ simulation.Overlooks departure snapshot.identifier.key := by
  obtain ⟨done, ended⟩ := simulation.carryOut_of_ends ends number
  have sound := (namesLast.carryOut done).knows.consistent.sound
  rw [ended] at sound listed
  obtain ⟨seat, seated, isScope, isLive⟩ := sound.of_mem_snapshot listed
  rw [isScope] at isIn
  have closedKnows := (proceeds_closeLinks simulation inScope).knowsScopes namesLast.knows
  obtain ⟨links, closed, _⟩ := simulation.registry_closeLinks inScope
  have sameSeats : (simulation.closeLinks inScope).registry.seat? snapshot.identifier.key =
      simulation.registry.seat? snapshot.identifier.key := by
    rw [closed]
    rfl
  let order := simulation.host.order (simulation.closeLinks inScope).registry
  have linked_iff (seat : Seat) (id : LinkId) :=
    @Registry.Consistent.linked_suspendScope_iff (simulation.closeLinks inScope).registry
      snapshot.identifier.key seat id departure inScope closedKnows.consistent order
  rw [isLive]
  constructor
  · intro lives
    obtain ⟨id, isLink, isOpen⟩ := (Option.any_eq_true _ _).1 lives
    obtain ⟨seatedBefore, _, remains⟩ := (linked_iff seat id).1 ⟨seated, isLink⟩
    rw [sameSeats] at seatedBefore
    obtain ⟨link, known, place⟩ := namesLast.knows.places _ seat id seatedBefore isLink
    rw [place, Option.any_some] at isIn
    rw [Entry.goesWith, place, Option.any_some, isIn, Bool.true_and] at remains
    obtain ⟨wasOpen, later, other, isLater, isOther, sameName⟩ :=
      (namesLast.isOpen_iff known isIn order).1 isOpen
    exact ⟨seat, id, link, later, other, seatedBefore, isLink, known, wasOpen, remains, isLater,
      isOther, sameName⟩
  · rintro ⟨found, id, link, later, other, seatedBefore, isLink, known, wasOpen, remains, isLater,
      isOther, sameName⟩
    have seatedThen := ((linked_iff found id).2
      ⟨sameSeats.trans seatedBefore, isLink, by rw [Entry.goesWith, remains, Bool.and_false]⟩).1
    rw [seated, Option.some.injEq] at seatedThen
    subst seatedThen
    obtain ⟨_, isKnown, place⟩ := namesLast.knows.places _ seat id seatedBefore isLink
    rw [known, Option.some.injEq] at isKnown
    subst isKnown
    rw [place, Option.any_some] at isIn
    rw [isLink, Option.any_some]
    exact (namesLast.isOpen_iff known isIn order).2
      ⟨wasOpen, later, other, isLater, isOther, sameName⟩

/-- What the end of a session or connection leaves of links, in whatever scenario it comes up and
on whatever machine.  The scenario goes on after it, and a terminus whose scope has ended has a
live link if its policy is not reached and another link was attached under the name of the one it
has, and in no other case. -/
theorem ended_scopes_keep_overlooked_links (host : Host) (config : Config) (storage : Storage)
    (steps : List ScenarioStep) (simulation : Simulation) (step : ScenarioStep)
    (departure : Departure) (inScope : Scope → Bool)
    (ran : (create host config storage).carryOutAll? 0 steps = some simulation)
    (ends : step.ends? = some (departure, inScope)) :
    let ended := (simulation.carryOut steps.length step).simulation
    (∀ rest, ∃ lines, (create host config storage).runFrom 0 (steps ++ step :: rest) =
        let remaining := ended.runFrom (steps.length + 1) rest
        { remaining with lines := lines ++ remaining.lines }) ∧
      ∀ snapshot ∈ ended.registry.snapshot.1, snapshot.scope.any inScope = true →
        (snapshot.hasLiveLink = true ↔
          simulation.Overlooks departure snapshot.identifier.key) := by
  intro ended
  obtain ⟨done, _⟩ := simulation.carryOut_of_ends ends steps.length
  have namesLast := (NamesLast.create host config storage).carryOutAll ran
  refine ⟨fun rest => ?_, fun snapshot => namesLast.hasLiveLink_iff ends steps.length⟩
  have ranOn : (create host config storage).carryOutAll? 0 (steps ++ [step]) = some ended := by
    rw [carryOutAll?_append ran, Nat.zero_add]
    simp only [carryOutAll?, done]
    rfl
  obtain ⟨lines, same⟩ := runFrom_append ranOn rest
  rw [List.append_assoc, List.singleton_append, List.length_append, Nat.zero_add] at same
  exact ⟨lines, same⟩

end Simulation

/-- A link of one container is attached for good, and then one of the same name but of another
container on a connection of its own. -/
def Sample.reusedName : List ScenarioStep :=
  let attach (container : String) (connection : UInt64) : AttachStep :=
    { link := "telemetry", role := .sender, container := some container, connection, channel := 0
      expiryPolicy := some "never", timeoutSecs := 0, settleMode := default, exclusive := false }
  [.attach (attach "first" 1), .attach (attach "second" 2)]

namespace Simulation

theorem exists_live_after_end :
    ∃ simulation, (create {} default { store := .memory {} }).carryOutAll? 0 Sample.reusedName =
        some simulation ∧
      ∃ snapshot ∈ (simulation.carryOut 2 (.endSession ⟨1, 0⟩)).simulation.registry.snapshot.1,
        snapshot.scope = some (.ofChannel 1 0) ∧ snapshot.hasLiveLink = true := by
  have shows : ((create {} default { store := .memory {} }).carryOutAll? 0 Sample.reusedName).any
      (fun simulation =>
        let ended := (simulation.carryOut 2 (.endSession ⟨1, 0⟩)).simulation.registry
        (ended.describeAll ended.entries.values).1.any fun snapshot =>
          snapshot.scope == some (.ofChannel 1 0) && snapshot.hasLiveLink) = true := by
    decide +kernel
  obtain ⟨simulation, ran, shows⟩ := (Option.any_eq_true _ _).1 shows
  obtain ⟨snapshot, described, shown⟩ := List.any_eq_true.1 shows
  obtain ⟨isScope, isLive⟩ := Bool.and_eq_true_iff.1 shown
  exact ⟨simulation, ran, snapshot, Registry.mem_snapshot_iff.2 described, eq_of_beq isScope,
    isLive⟩

/-- When the session of the first link ends, its terminus is shown with a live link, and it was
overlooked. -/
theorem ended_scopes_keep_overlooked_links_sample :
    ∃ simulation, (create {} default { store := .memory {} }).carryOutAll? 0 Sample.reusedName =
        some simulation ∧
      ∃ snapshot ∈ (simulation.carryOut 2 (.endSession ⟨1, 0⟩)).simulation.registry.snapshot.1,
        snapshot.scope = some (.ofChannel 1 0) ∧ snapshot.hasLiveLink = true ∧
          simulation.Overlooks .sessionEnd snapshot.identifier.key := by
  obtain ⟨simulation, ran, snapshot, listed, isScope, isLive⟩ := exists_live_after_end
  obtain ⟨_, keeps⟩ := ended_scopes_keep_overlooked_links {} default { store := .memory {} }
    Sample.reusedName simulation (.endSession ⟨1, 0⟩) .sessionEnd _ ran rfl
  refine ⟨simulation, ran, snapshot, listed, isScope, isLive, (keeps snapshot listed ?_).1 isLive⟩
  rw [isScope]
  rfl

/-- So a session or connection that has ended may have live links. -/
theorem not_all_links_close_with_scope :
    ¬∀ (config : Config) (storage : Storage) (steps : List ScenarioStep) (simulation : Simulation)
      (step : ScenarioStep) (departure : Departure) (inScope : Scope → Bool),
      (create {} config storage).carryOutAll? 0 steps = some simulation →
      step.ends? = some (departure, inScope) →
      ∀ snapshot ∈ (simulation.carryOut steps.length step).simulation.registry.snapshot.1,
        snapshot.scope.any inScope = true → snapshot.hasLiveLink = false := by
  intro closes
  obtain ⟨simulation, ran, snapshot, listed, isScope, isLive⟩ := exists_live_after_end
  have isClosed := closes _ _ _ simulation (.endSession ⟨1, 0⟩) .sessionEnd _ ran rfl snapshot
    listed (by rw [isScope]; rfl)
  rw [isLive] at isClosed
  cases isClosed

end Simulation

end Reattach
