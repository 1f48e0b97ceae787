import Reattach.Proofs.Fates

/-!
# Who holds an identifier

A link that has been registered holds its identifier until another one is registered in its
place or its terminus is suspended.  Where no terminus is moved behind the registry's back, put
in or taken out, at most one of the links that hold an identifier is open: the one that the
terminus of the identifier has.  A link that loses its terminus while it is open is told so
once, and the theft is published once.
-/

namespace Reattach

/-- That a link was never taken over, or was taken over once and is closed since. -/
def Link.IsInOrder (link : Link) : Prop :=
  link.steals = 0 ∨
    link.steals = 1 ∧ link.isOpen = false ∧
      link.closedWith = some (.linkStolen link.identifier)

theorem Link.steals_of_isOpen {link : Link} (inOrder : link.IsInOrder)
    (isOpen : link.isOpen = true) : link.steals = 0 := by
  rcases inOrder with unstolen | ⟨_, isClosed, _⟩
  · exact unstolen
  · rw [isOpen] at isClosed
    cases isClosed

/-- That a move deals with termini by their links: it goes behind nobody's back and neither puts
termini in nor takes them out.  A link is opened that was not taken over before. -/
def Move.GoesByLinks : Move → Prop
  | .act (.openLink link) => link.steals = 0
  | .act (.tryAdd _) | .act (.tryRemove _) => False
  | .act operation => operation.direct? = none
  | .pass _ | .fire _ => True

namespace Registry

variable {origin registry later : Registry} {move : Move} {moves : List Move}
variable {key : Identifier.Key} {seat : Seat} {id old : LinkId} {link oldLink : Link}

/-- That a link is the one that the terminus of an identifier has. -/
def IsHolder (registry : Registry) (key : Identifier.Key) (id : LinkId) : Prop :=
  ∃ seat, registry.seat? key = some seat ∧ seat.link = some id

/-- How many links of an identifier were taken over. -/
def takenOver (registry : Registry) (key : Identifier.Key) : Nat :=
  registry.links.countP fun link => link.identifier.key == key && link.steals != 0

theorem IsHolder.unique {other : LinkId} (isHolder : registry.IsHolder key id)
    (isHolderToo : registry.IsHolder key other) : id = other := by
  obtain ⟨seat, seated, isLink⟩ := isHolder
  obtain ⟨_, isFound, isLinkToo⟩ := isHolderToo
  rw [seated] at isFound
  cases isFound
  exact Option.some.inj (isLink.symm.trans isLinkToo)

theorem displaced?_eq_some_iff : registry.displaced? key id = some old ↔
    registry.IsHolder key old ∧ old ≠ id := by
  simp [displaced?, IsHolder, Option.filter_eq_some_iff, Option.bind_eq_some_iff]

/-! ## What a move does to links -/

/-- What it comes to if a link takes the terminus of its identifier from another one that is
open: that one is closed, and the theft is told of. -/
structure Steals (registry later : Registry) (id old : LinkId) (link oldLink : Link) : Prop where
  known : registry.links[id]? = some link
  isHolder : registry.IsHolder link.identifier.key old
  apart : old ≠ id
  knownOld : registry.links[old]? = some oldLink
  isOpen : oldLink.isOpen = true
  links : later.links = registry.links.setIfInBounds old
    (oldLink.takenOver (.linkStolen oldLink.identifier)).2
  thefts : ∀ key, later.thefts key =
    registry.thefts key + if link.identifier.key = key then 1 else 0

theorem closeDisplaced_cases {attached : Registry} (known : registry.links[id]? = some link)
    (leaves : LeavesLinks registry attached) :
    let later := attached.closeDisplaced link.identifier
      (registry.displaced? link.identifier.key id)
    LeavesLinks registry later ∧
        (registry.displaced? link.identifier.key id).any registry.isOpen = false ∨
      ∃ old oldLink, Steals registry later id old link oldLink := by
  cases displaces : registry.displaced? link.identifier.key id with
  | none => exact .inl ⟨leaves, rfl⟩
  | some old =>
      obtain ⟨isHolder, apart⟩ := displaced?_eq_some_iff.1 displaces
      simp only [closeDisplaced, steal, leaves.links]
      cases knownOld : registry.links[old]? with
      | none => exact .inl ⟨leaves, by simp [Registry.isOpen, knownOld]⟩
      | some oldLink =>
          cases isOpen : oldLink.isOpen with
          | false =>
              simp only [isOpen, Bool.false_eq_true, if_false]
              exact .inl ⟨leaves, by simp [Registry.isOpen, knownOld, isOpen]⟩
          | true =>
              simp only [isOpen, if_true]
              refine .inr ⟨old, oldLink, known, isHolder, apart, knownOld, isOpen, ?_, ?_⟩
              · rw [← leaves.links]
                rfl
              · intro key
                rw [thefts_publish, ← leaves.thefts key]
                simp only [Event.isTheftOf, beq_iff_eq]
                rfl

/-- Registering a link leaves all links, or takes one over. -/
theorem Consistent.register_leaves_or_steals (consistent : registry.Consistent) (id : LinkId)
    (exclusive : Bool) :
    LeavesLinks registry (registry.register id exclusive).2 ∨
      exclusive = false ∧ ∃ old link oldLink,
        Steals registry (registry.register id exclusive).2 id old link oldLink := by
  rcases consistent.register_cases id exclusive with ⟨error, storage, refused⟩ |
    ⟨link, terminus, attached, known, attaches, isFree, registered⟩
  · rw [refused]
    exact .inl ⟨rfl, fun _ => rfl⟩
  · rw [registered]
    rcases closeDisplaced_cases known attaches.leaves with ⟨leaves, _⟩ |
      ⟨old, oldLink, steals⟩
    · exact .inl leaves
    · refine .inr ⟨?_, old, link, oldLink, steals⟩
      by_contra isExclusive
      have notOpen := isFree (by simpa using isExclusive)
      rw [displaced?_eq_some_iff.2 ⟨steals.isHolder, steals.apart⟩] at notOpen
      simp [Registry.isOpen, steals.knownOld, steals.isOpen] at notOpen

/-- What a move does to links. -/
inductive Touches (registry : Registry) (move : Move) (later : Registry) : Prop where
  | leaves (leaves : LeavesLinks registry later)
  | opens {link : Link} (asked : move = .act (.openLink link))
      (links : later.links = registry.links.push link)
      (thefts : ∀ key, later.thefts key = registry.thefts key)
  | changes {id : LinkId} {link changed : Link} (known : registry.links[id]? = some link)
      (change : changed = link.close ∨ ∃ failsOnSteal, changed = { link with failsOnSteal })
      (links : later.links = registry.links.setIfInBounds id changed)
      (thefts : ∀ key, later.thefts key = registry.thefts key)
  | steals {id old : LinkId} {link oldLink : Link} (asked : move = .act (.register id false))
      (steals : Steals registry later id old link oldLink)

theorem Consistent.touches (consistent : registry.Consistent) (move : Move) :
    Touches registry move (registry.move move) := by
  cases move with
  | pass time => exact .leaves ⟨rfl, fun _ => rfl⟩
  | fire index => exact .leaves (.fire registry index)
  | act operation =>
      cases operation with
      | openLink link => exact .opens rfl rfl fun _ => rfl
      | closeLink id =>
          simp only [Registry.move, after, Operation.isInstant, if_true, Watch.perform,
            Watch.withRegistry, Registry.closeLink]
          split
          · exact .leaves (.refl registry)
          · next link known => exact .changes known (.inl rfl) rfl fun _ => rfl
      | failOnSteal id fails =>
          simp only [Registry.move, after, Operation.isInstant, if_true, Watch.perform,
            Watch.onLink]
          split
          · exact .leaves (.refl registry)
          · next link known => exact .changes known (.inr ⟨fails, rfl⟩) rfl fun _ => rfl
      | register id exclusive =>
          rcases consistent.register_leaves_or_steals id exclusive with leaves |
            ⟨rfl, old, link, oldLink, steals⟩
          · exact .leaves leaves
          · exact .steals rfl steals
      | _ => exact .leaves (.after registry rfl)

theorem sparing_of_links (byLinks : ∀ move ∈ moves, move.GoesByLinks) :
    registry.Sparing moves := by
  apply sparing_of_indirect
  intro operation member
  have goes := byLinks _ member
  cases operation with
  | associate | suspendTerminus | expireTerminus => cases goes
  | _ => rfl

/-- A successful registration takes the terminus from the open link that has it. -/
theorem Consistent.steals_of_register (consistent : registry.Consistent) {exclusive : Bool}
    {terminus : TerminusId} (done : (registry.register id exclusive).1 = .ok terminus)
    (known : registry.links[id]? = some link)
    (isHolder : registry.IsHolder link.identifier.key old) (apart : old ≠ id)
    (knownOld : registry.links[old]? = some oldLink) (isOpen : oldLink.isOpen = true) :
    Steals registry (registry.register id exclusive).2 id old link oldLink := by
  rcases consistent.register_cases id exclusive with ⟨error, storage, refused⟩ |
    ⟨found, terminus, attached, isFound, attaches, _, registered⟩
  · rw [refused] at done
    cases done
  · rw [known] at isFound
    cases isFound
    rw [registered]
    rcases closeDisplaced_cases known attaches.leaves with ⟨_, notOpen⟩ |
      ⟨other, otherLink, steals⟩
    · rw [displaced?_eq_some_iff.2 ⟨isHolder, apart⟩] at notOpen
      simp [Registry.isOpen, knownOld, isOpen] at notOpen
    · obtain rfl := steals.isHolder.unique isHolder
      have same := steals.knownOld
      rw [knownOld] at same
      cases same
      exact steals

/-! ## Links in order -/

theorem getElem?_links_set (known : registry.links[id]? = some link) (changed : Link)
    (other : LinkId) :
    (registry.links.setIfInBounds id changed)[other]? =
      if other = id then some changed else registry.links[other]? := by
  have inBounds : id < registry.links.size := (Array.getElem?_eq_some_iff.1 known).1
  rw [Array.getElem?_setIfInBounds]
  by_cases same : other = id
  · rw [if_pos same.symm, if_pos inBounds, if_pos same]
  · rw [if_neg (Ne.symm same), if_neg same]

theorem countP_links_set (known : registry.links[id]? = some link) (changed : Link)
    (counts : Link → Bool) :
    (registry.links.setIfInBounds id changed).countP counts + (if counts link then 1 else 0) =
      registry.links.countP counts + if counts changed then 1 else 0 := by
  obtain ⟨inBounds, isLink⟩ := Array.getElem?_eq_some_iff.1 known
  rw [Array.setIfInBounds, dif_pos inBounds, Array.countP_set, isLink]
  split
  · next counted =>
      have positive : 0 < registry.links.countP counts := by
        rw [Array.countP_pos_iff]
        exact ⟨link, Array.mem_of_getElem? known, counted⟩
      omega
  · omega

end Registry

/-- What may become of a link: it keeps its identifier and scope, and once it is closed it stays so
and is not taken over again. -/
structure Link.Becomes (link grown : Link) : Prop where
  identifier : grown.identifier = link.identifier
  scope : grown.scope = link.scope
  closed : link.isOpen = false →
    grown.isOpen = false ∧ grown.closedWith = link.closedWith ∧ grown.steals = link.steals

namespace Link.Becomes

variable {link grown : Link}

theorem refl (link : Link) : link.Becomes link :=
  ⟨rfl, rfl, fun isClosed => ⟨isClosed, rfl, rfl⟩⟩

theorem takenOver (isOpen : link.isOpen = true) (fault : Fault) :
    link.Becomes (link.takenOver fault).2 := by
  refine ⟨rfl, rfl, fun isClosed => ?_⟩
  rw [isOpen] at isClosed
  cases isClosed

theorem wasOpen (becomes : link.Becomes grown) (isOpen : grown.isOpen = true) :
    link.isOpen = true := by
  by_contra wasClosed
  obtain ⟨isClosed, _⟩ := becomes.closed (by simpa using wasClosed)
  rw [isOpen] at isClosed
  cases isClosed

end Link.Becomes

namespace Registry

variable {origin registry later : Registry} {move : Move} {moves : List Move}
variable {key : Identifier.Key} {seat : Seat} {id old : LinkId} {link oldLink : Link}

/-- What a move makes of a link that there is. -/
theorem Touches.becomes (touches : Touches registry move later)
    (known : registry.links[id]? = some link) :
    ∃ grown, later.links[id]? = some grown ∧ link.Becomes grown := by
  have putting {other : LinkId} {before changed : Link}
      (isBefore : registry.links[other]? = some before) (becomes : before.Becomes changed)
      (links : later.links = registry.links.setIfInBounds other changed) :
      ∃ grown, later.links[id]? = some grown ∧ link.Becomes grown := by
    rw [links, getElem?_links_set isBefore]
    split
    · next same =>
        rw [same, isBefore] at known
        cases known
        exact ⟨changed, rfl, becomes⟩
    · exact ⟨link, known, .refl link⟩
  cases touches with
  | leaves leaves => exact ⟨link, by rw [leaves.links, known], .refl link⟩
  | @opens opened _ links _ =>
      have inBounds : id < registry.links.size := (Array.getElem?_eq_some_iff.1 known).1
      refine ⟨link, ?_, .refl link⟩
      rw [links, Array.getElem?_push, if_neg (Nat.ne_of_lt inBounds), known]
  | changes isBefore change links _ =>
      refine putting isBefore ?_ links
      rcases change with rfl | ⟨fails, rfl⟩
      · exact ⟨rfl, rfl, fun _ => ⟨rfl, rfl, rfl⟩⟩
      · exact ⟨rfl, rfl, fun isClosed => ⟨isClosed, rfl, rfl⟩⟩
  | steals _ steals => exact putting steals.knownOld (.takenOver steals.isOpen _) steals.links

/-- That termini of the table have links of their own identifier. -/
def OwnsLinks (registry : Registry) : Prop :=
  ∀ key id, registry.IsHolder key id →
    ∃ link, registry.links[id]? = some link ∧ link.identifier.key = key

/-- That a move puts no terminus into the table that has a link of another identifier. -/
def SeedsOwn (registry : Registry) (move : Move) : Prop :=
  ∀ id, move = .act (.tryAdd id) → ∀ terminus link, registry.termini[id]? = some terminus →
    terminus.link = some link →
      ∃ found, registry.links[link]? = some found ∧
        found.identifier.key = terminus.identifier.key

/-- No move gives a terminus of the table a link of another identifier. -/
theorem OwnsLinks.moved (owns : registry.OwnsLinks) (consistent : registry.Consistent)
    (spares : move.SparesTable registry) (seedsOwn : registry.SeedsOwn move) :
    (registry.move move).OwnsLinks := by
  rintro key id ⟨seat, seated, isLink⟩
  have touches := consistent.touches move
  have grown (known : ∃ link, registry.links[id]? = some link ∧ link.identifier.key = key) :
      ∃ link, (registry.move move).links[id]? = some link ∧ link.identifier.key = key := by
    obtain ⟨link, known, isOwn⟩ := known
    obtain ⟨grown, known, becomes⟩ := touches.becomes known
    exact ⟨grown, known, by rw [becomes.identifier, isOwn]⟩
  cases consistent.fate move spares key with
  | stays same => exact grown (owns key id ⟨seat, same.symm.trans seated, isLink⟩)
  | @attached _ _ link _ _ _ known isOwn _ seatedThen =>
      rw [seatedThen, Option.some.injEq] at seated
      subst seated
      cases isLink
      exact grown ⟨link, known, isOwn⟩
  | seeded asked known isOwn _ _ seatedThen =>
      rw [seatedThen, Option.some.injEq] at seated
      subst seated
      obtain ⟨link, isThere, isIts⟩ := seedsOwn _ asked _ id known isLink
      exact grown ⟨link, isThere, isIts.trans isOwn⟩
  | suspended _ _ _ _ seatedThen =>
      rw [seatedThen, Option.some.injEq] at seated
      subst seated
      cases isLink
  | spent _ _ _ _ _ gone =>
      rw [gone.seat?] at seated
      cases seated
  | expired _ _ gone =>
      rw [gone.seat?] at seated
      cases seated
  | removed _ _ absent =>
      rw [seat?_of_absent absent] at seated
      cases seated

/-- That every link is in order, that termini of the table have links of their own identifier,
and that as many thefts were told of as links were taken over. -/
structure LinksInOrder (registry : Registry) : Prop where
  each : ∀ (id : LinkId) (link : Link), registry.links[id]? = some link → link.IsInOrder
  owned : ∀ key id, registry.IsHolder key id →
    ∃ link, registry.links[id]? = some link ∧ link.identifier.key = key
  told : ∀ key, registry.thefts key = registry.takenOver key

namespace LinksInOrder

theorem create (config : Config) (storage : Storage) (hasTimers : Bool) :
    LinksInOrder { Registry.create config storage with hasTimers } := by
  refine ⟨fun id link known => ?_, fun key id isHolder => ?_, fun key => rfl⟩
  · cases known
  · obtain ⟨seat, seated, _⟩ := isHolder
    cases seated

theorem key_eq (inOrder : registry.LinksInOrder)
    (steals : Steals registry later id old link oldLink) :
    oldLink.identifier.key = link.identifier.key := by
  obtain ⟨found, isFound, isOwn⟩ := inOrder.owned _ _ steals.isHolder
  rw [steals.knownOld] at isFound
  cases isFound
  exact isOwn

theorem each_move (inOrder : registry.LinksInOrder) (touches : Touches registry move later)
    (byLinks : move.GoesByLinks) :
    ∀ (id : LinkId) (link : Link), later.links[id]? = some link → link.IsInOrder := by
  have putting {other : LinkId} {before changed : Link}
      (isBefore : registry.links[other]? = some before) (isInOrder : changed.IsInOrder)
      (links : later.links = registry.links.setIfInBounds other changed) :
      ∀ (id : LinkId) (link : Link), later.links[id]? = some link → link.IsInOrder := by
    intro id link known
    rw [links, getElem?_links_set isBefore] at known
    split at known
    · cases known
      exact isInOrder
    · exact inOrder.each id link known
  cases touches with
  | leaves leaves =>
      rw [leaves.links]
      exact inOrder.each
  | @opens opened asked links _ =>
      subst asked
      intro id link known
      rw [links, Array.getElem?_push] at known
      split at known
      · cases known
        exact .inl byLinks
      · exact inOrder.each id link known
  | changes isBefore change links _ =>
      refine putting isBefore ?_ links
      have isInOrder := inOrder.each _ _ isBefore
      rcases change with rfl | ⟨fails, rfl⟩
      · rcases isInOrder with unstolen | ⟨once, _, closedWith⟩
        · exact .inl unstolen
        · exact .inr ⟨once, rfl, closedWith⟩
      · exact isInOrder
  | @steals _ _ _ oldLink _ steals =>
      refine putting steals.knownOld (.inr ⟨?_, rfl, rfl⟩) steals.links
      have unstolen := Link.steals_of_isOpen (inOrder.each _ _ steals.knownOld) steals.isOpen
      exact congrArg (· + 1) unstolen

theorem told_move (inOrder : registry.LinksInOrder) (touches : Touches registry move later)
    (byLinks : move.GoesByLinks) (key : Identifier.Key) :
    later.thefts key = later.takenOver key := by
  have before := inOrder.told key
  simp only [takenOver] at before ⊢
  cases touches with
  | leaves leaves => rw [leaves.thefts, leaves.links, before]
  | @opens opened asked links thefts =>
      subst asked
      have unstolen : opened.steals = 0 := byLinks
      rw [thefts, links, Array.countP_push, before]
      simp [unstolen]
  | @changes id link changed isBefore change links thefts =>
      have counted := countP_links_set isBefore changed fun link =>
        link.identifier.key == key && link.steals != 0
      have same : changed.identifier = link.identifier ∧ changed.steals = link.steals := by
        rcases change with rfl | ⟨fails, rfl⟩ <;> exact ⟨rfl, rfl⟩
      rw [same.1, same.2] at counted
      rw [thefts, links, before]
      exact (Nat.add_right_cancel counted).symm
  | @steals id old link oldLink _ steals =>
      have unstolen := Link.steals_of_isOpen (inOrder.each _ _ steals.knownOld) steals.isOpen
      have counted := countP_links_set steals.knownOld
        (oldLink.takenOver (.linkStolen oldLink.identifier)).2 fun link =>
          link.identifier.key == key && link.steals != 0
      rw [steals.thefts, steals.links, before]
      simpa [unstolen, Link.takenOver, inOrder.key_eq steals] using counted.symm

theorem owned_move (inOrder : registry.LinksInOrder) (consistent : registry.Consistent)
    (byLinks : move.GoesByLinks) : (registry.move move).OwnsLinks := by
  have owns : registry.OwnsLinks := inOrder.owned
  have sparing : registry.Sparing [move] := sparing_of_links (by simpa)
  refine owns.moved consistent sparing.1 ?_
  rintro id rfl
  cases byLinks

theorem moved (inOrder : registry.LinksInOrder) (consistent : registry.Consistent)
    (byLinks : move.GoesByLinks) : (registry.move move).LinksInOrder := by
  have touches := consistent.touches move
  exact ⟨inOrder.each_move touches byLinks, inOrder.owned_move consistent byLinks,
    inOrder.told_move touches byLinks⟩

theorem follow (inOrder : registry.LinksInOrder) (consistent : registry.Consistent)
    (byLinks : ∀ move ∈ moves, move.GoesByLinks) : (registry.follow moves).LinksInOrder := by
  induction moves generalizing registry with
  | nil => exact inOrder
  | cons first rest ih =>
      obtain ⟨firstByLinks, restByLinks⟩ := List.forall_mem_cons.1 byLinks
      have consistentThen : (registry.move first).Consistent :=
        consistent.follow [first] (sparing_of_links (by simpa using firstByLinks))
      exact ih (inOrder.moved consistent firstByLinks) consistentThen restByLinks

end LinksInOrder

/-! ## Links that hold an identifier -/

/-- That a link has been registered, and the terminus that had it was not suspended since. -/
inductive IsAttached (origin : Registry) (id : LinkId) : List Move → Prop
  | now {moves : List Move} {exclusive : Bool} {terminus : TerminusId}
      (done : ((origin.follow moves).register id exclusive).1 = .ok terminus) :
      IsAttached origin id (moves ++ [.act (.register id exclusive)])
  | still {moves : List Move} {move : Move} (before : IsAttached origin id moves)
      (unsuspended : ∀ key seat, (origin.follow moves).seat? key = some seat →
        seat.link = some id → ¬(origin.follow moves).Reaches key seat move) :
      IsAttached origin id (moves ++ [move])

/-- A link that was registered has the terminus then. -/
theorem Consistent.isHolder_of_register (consistent : registry.Consistent) {exclusive : Bool}
    {terminus : TerminusId} (done : (registry.register id exclusive).1 = .ok terminus) :
    ∃ link, registry.links[id]? = some link ∧
      (registry.register id exclusive).2.IsHolder link.identifier.key id := by
  rcases consistent.register_cases id exclusive with ⟨error, storage, refused⟩ |
    ⟨link, terminus, attached, known, attaches, _, registered⟩
  · rw [refused] at done
    cases done
  · obtain ⟨epoch, seated⟩ := attaches.seated
    rw [registered]
    exact ⟨link, known, _, (seat?_closeDisplaced _ _ _).trans seated, rfl⟩

/-- A link keeps its terminus as long as it is open and the terminus is not suspended. -/
theorem Consistent.isHolder_move (consistent : registry.Consistent) (byLinks : move.GoesByLinks)
    (isHolder : registry.IsHolder key id)
    (unsuspended : ∀ seat, registry.seat? key = some seat → ¬registry.Reaches key seat move)
    {grown : Link} (known : (registry.move move).links[id]? = some grown)
    (isOpen : grown.isOpen = true) (wasKnown : registry.links[id]? = some link)
    (becomes : link.Becomes grown) : (registry.move move).IsHolder key id := by
  obtain ⟨seat, seated, isLink⟩ := isHolder
  have isActive := consistent.seat_linked seated isLink
  have sparing : registry.Sparing [move] := sparing_of_links (by simpa)
  cases consistent.fate move sparing.1 key with
  | stays same => exact ⟨seat, same.trans seated, isLink⟩
  | @attached other _ newer _ _ asked isNewer isOwn done seatedThen _ =>
      subst asked
      refine ⟨_, seatedThen, ?_⟩
      by_contra apart
      -- The other link would have taken this one over, and it would be closed.
      have steals := consistent.steals_of_register done isNewer
        (isOwn ▸ ⟨seat, seated, isLink⟩) (fun same => apart (congrArg some same.symm)) wasKnown
        (becomes.wasOpen isOpen)
      change (registry.register _ _).2.links[id]? = some grown at known
      rw [steals.links, getElem?_links_set steals.knownOld, if_pos rfl] at known
      cases known
      cases isOpen
  | seeded _ _ _ _ vacant =>
      rw [vacant] at seated
      cases seated
  | spent _ _ _ _ vacant =>
      rw [vacant] at seated
      cases seated
  | suspended isFound _ reached => exact absurd reached (unsuspended _ isFound)
  | expired isFound reason =>
      rw [seated] at isFound
      cases isFound
      rcases reason with isSuspended | ⟨_, reached, _⟩
      · rw [isActive] at isSuspended
        cases isSuspended
      · exact absurd reached (unsuspended seat seated)
  | removed asked =>
      subst asked
      cases byLinks

/-- An open link that was registered and not suspended since is the one that the terminus of its
identifier has. -/
theorem IsAttached.isHolder (isAttached : IsAttached origin id moves)
    (consistent : origin.Consistent) (byLinks : ∀ move ∈ moves, move.GoesByLinks) :
    ∃ link, (origin.follow moves).links[id]? = some link ∧
      (link.isOpen = true → (origin.follow moves).IsHolder link.identifier.key id) := by
  induction isAttached with
  | @now earlier exclusive _ done =>
      have earlierByLinks := fun move member => byLinks move (List.mem_append_left _ member)
      have isConsistent := consistent.follow earlier (sparing_of_links earlierByLinks)
      obtain ⟨link, known, isHolder⟩ := isConsistent.isHolder_of_register done
      rw [follow_append]
      obtain ⟨grown, isGrown, becomes⟩ :=
        (isConsistent.touches (.act (.register id exclusive))).becomes known
      exact ⟨grown, isGrown, fun _ => by rw [becomes.identifier]; exact isHolder⟩
  | @still earlier move _ unsuspended ih =>
      have earlierByLinks := fun move member => byLinks move (List.mem_append_left _ member)
      have isConsistent := consistent.follow earlier (sparing_of_links earlierByLinks)
      obtain ⟨link, known, holds⟩ := ih earlierByLinks
      rw [follow_append]
      obtain ⟨grown, isGrown, becomes⟩ := (isConsistent.touches move).becomes known
      refine ⟨grown, isGrown, fun isOpen => ?_⟩
      rw [becomes.identifier]
      have isHolder := holds (becomes.wasOpen isOpen)
      refine isConsistent.isHolder_move (byLinks move (by simp)) isHolder ?_ isGrown isOpen known
        becomes
      obtain ⟨seat, seated, isLink⟩ := isHolder
      intro found isFound
      rw [seated] at isFound
      cases isFound
      exact unsuspended _ seat seated isLink

/-! ## Links that are taken over -/

/-- That a link was taken over, once, and is closed with that. -/
def WasTakenOver (registry : Registry) (id : LinkId) (identifier : Identifier) : Prop :=
  ∃ link, registry.links[id]? = some link ∧ link.isOpen = false ∧
    link.closedWith = some (.linkStolen identifier) ∧ link.steals = 1

theorem Consistent.wasTakenOver_follow (consistent : registry.Consistent)
    {identifier : Identifier} (taken : registry.WasTakenOver id identifier)
    (sparing : registry.Sparing moves) : (registry.follow moves).WasTakenOver id identifier := by
  induction moves generalizing registry with
  | nil => exact taken
  | cons first rest ih =>
      obtain ⟨spares, sparingRest⟩ := sparing
      obtain ⟨link, known, isClosed, closedWith, once⟩ := taken
      obtain ⟨grown, isGrown, becomes⟩ := (consistent.touches first).becomes known
      obtain ⟨staysClosed, sameFault, sameSteals⟩ := becomes.closed isClosed
      refine ih (consistent.follow [first] ⟨spares, trivial⟩) ?_ sparingRest
      exact ⟨grown, isGrown, staysClosed, sameFault.trans closedWith, sameSteals.trans once⟩

/-- What it comes to that another open link has the terminus of a link's identifier: to attach
the link exclusively is refused, and to attach it takes the other one over, for good. -/
structure Displaces (registry : Registry) (id old : LinkId) (link oldLink : Link) : Prop where
  refused : registry.register id true =
    (.error (.fault (.duplicateTerminus link.identifier)), registry)
  succeeds : ∃ terminus, (registry.register id false).1 = .ok terminus
  unstolen : oldLink.steals = 0
  closed : ∀ later : List Move, (∀ move ∈ later, move.GoesByLinks) →
    ((registry.register id false).2.follow later).WasTakenOver old oldLink.identifier
  told : ∀ key, (registry.register id false).2.thefts key =
    registry.thefts key + if link.identifier.key = key then 1 else 0

theorem Consistent.displaces (consistent : registry.Consistent) (inOrder : registry.LinksInOrder)
    (known : registry.links[id]? = some link)
    (isHolder : registry.IsHolder link.identifier.key old) (apart : old ≠ id)
    (knownOld : registry.links[old]? = some oldLink) (isOpen : oldLink.isOpen = true) :
    registry.Displaces id old link oldLink := by
  obtain ⟨seat, seated, isLink⟩ := isHolder
  have isDisplaced := displaced?_eq_some_iff.2 ⟨⟨seat, seated, isLink⟩, apart⟩
  have isOpenThere : registry.isOpen old = true := by simp [Registry.isOpen, knownOld, isOpen]
  have refused : registry.register id true =
      (.error (.fault (.duplicateTerminus link.identifier)), registry) := by
    rw [register_of_seated known seated, isDisplaced]
    exact if_pos isOpenThere
  have takesOver : registry.register id false = registry.takeOver link id := by
    rw [register_of_seated known seated]
    exact if_neg (by simp)
  obtain ⟨terminus, attached, _, taken⟩ := consistent.takeOver_eq link id
  have done : (registry.register id false).1 = .ok terminus := by rw [takesOver, taken]
  have steals := consistent.steals_of_register done known ⟨seat, seated, isLink⟩ apart knownOld
    isOpen
  have unstolen := Link.steals_of_isOpen (inOrder.each _ _ knownOld) isOpen
  refine ⟨refused, ⟨terminus, done⟩, unstolen, fun later byLinks => ?_, steals.thefts⟩
  have consistentThen : (registry.register id false).2.Consistent :=
    consistent.follow [.act (.register id false)]
      (sparing_of_links (by simp [Move.GoesByLinks, Operation.direct?]))
  refine consistentThen.wasTakenOver_follow ⟨(oldLink.takenOver _).2, ?_, rfl, rfl, ?_⟩
    (sparing_of_links byLinks)
  · rw [steals.links, getElem?_links_set knownOld, if_pos rfl]
  · exact congrArg (· + 1) unstolen

/-- A link of another identifier is left alone. -/
theorem Consistent.links_register_of_ne (consistent : registry.Consistent)
    (inOrder : registry.LinksInOrder) (known : registry.links[id]? = some link)
    {other : LinkId} {otherLink : Link} (isOther : registry.links[other]? = some otherLink)
    (apart : otherLink.identifier.key ≠ link.identifier.key) (exclusive : Bool) :
    (registry.register id exclusive).2.links[other]? = some otherLink := by
  rcases consistent.register_leaves_or_steals id exclusive with leaves |
    ⟨_, old, found, oldLink, steals⟩
  · rw [leaves.links, isOther]
  · have isFound := steals.known
    rw [known] at isFound
    cases isFound
    have notOld : other ≠ old := by
      rintro rfl
      have same := steals.knownOld
      rw [isOther] at same
      cases same
      exact apart (inOrder.key_eq steals)
    rw [steals.links, getElem?_links_set steals.knownOld, if_neg notOld, isOther]

/-- Who holds an identifier, wherever moves have led to that go by links.  Of the links that were
registered and not suspended since at most one of each identifier is open, and that is the one
that the terminus of the identifier has.  A link that another one is registered in place of is
told so if it is open, once and for good, whether or not it fails then, and the theft is
published once.  A registration under another identifier leaves it alone, and an exclusive one
leaves all links and is refused where another open link has the terminus. -/
theorem one_open_link_holds (config : Config) (storage : Storage) (hasTimers : Bool)
    (moves : List Move) :
    let origin : Registry := { create config storage with hasTimers }
    let registry := origin.follow moves
    (∀ move ∈ moves, move.GoesByLinks) →
      (∀ (id : LinkId) (link : Link), IsAttached origin id moves →
        registry.links[id]? = some link → link.isOpen = true →
        registry.IsHolder link.identifier.key id ∧
          ∀ (other : LinkId) (otherLink : Link), IsAttached origin other moves →
            registry.links[other]? = some otherLink → otherLink.isOpen = true →
            otherLink.identifier.key = link.identifier.key → other = id) ∧
      (∀ (id old : LinkId) (link oldLink : Link), registry.links[id]? = some link →
        registry.IsHolder link.identifier.key old → old ≠ id →
        registry.links[old]? = some oldLink → oldLink.isOpen = true →
        registry.Displaces id old link oldLink) ∧
      (∀ key, registry.thefts key = registry.takenOver key) ∧
      (∀ (id other : LinkId) (link otherLink : Link) (exclusive : Bool),
        registry.links[id]? = some link → registry.links[other]? = some otherLink →
        otherLink.identifier.key ≠ link.identifier.key →
        (registry.register id exclusive).2.links[other]? = some otherLink) ∧
      ∀ id, (registry.register id true).2.links = registry.links := by
  intro origin registry byLinks
  have isNew : origin.Consistent := Consistent.create config storage hasTimers
  have consistent : registry.Consistent := isNew.follow moves (sparing_of_links byLinks)
  have inOrder : registry.LinksInOrder :=
    (LinksInOrder.create config storage hasTimers).follow isNew byLinks
  have holds {id : LinkId} {link : Link} (isAttached : IsAttached origin id moves)
      (known : registry.links[id]? = some link) (isOpen : link.isOpen = true) :
      registry.IsHolder link.identifier.key id := by
    obtain ⟨found, isFound, isHolder⟩ := isAttached.isHolder isNew byLinks
    rw [known] at isFound
    cases isFound
    exact isHolder isOpen
  refine ⟨fun id link isAttached known isOpen => ?_,
    fun id old link oldLink known isHolder apart => consistent.displaces inOrder known isHolder
      apart, inOrder.told, fun id other link otherLink exclusive known isOther apart =>
      consistent.links_register_of_ne inOrder known isOther apart exclusive, fun id => ?_⟩
  · have isHolder := holds isAttached known isOpen
    refine ⟨isHolder, fun other otherLink isAttachedToo isOther isOpenToo sameKey => ?_⟩
    have isHolderToo := holds isAttachedToo isOther isOpenToo
    rw [sameKey] at isHolderToo
    exact isHolderToo.unique isHolder
  · rcases consistent.register_leaves_or_steals id true with leaves | ⟨notExclusive, _⟩
    · exact leaves.links
    · cases notExclusive

end Registry

/-- A link that fails when it is taken over is registered, and there is another one of the same
identifier. -/
def Sample.oneOfTwo : List Move :=
  let failing : Link := { link "link-detach" 1 with failsOnSteal := true }
  [.act (.openLink failing), .act (.openLink (link "link-detach" 1)), .act (.register 0 false)]

namespace Registry

/-- The link that is registered has the terminus, and is closed for good when the other one is
registered, be that one closed later on or not. -/
theorem one_open_link_holds_sample :
    let registry := Sample.registry.follow Sample.oneOfTwo
    (∀ move ∈ Sample.oneOfTwo, move.GoesByLinks) ∧ IsAttached Sample.registry 0 Sample.oneOfTwo ∧
      registry.IsHolder Sample.identifier.key 0 ∧
      ((registry.register 1 false).2.follow [.act (.closeLink 1)]).WasTakenOver 0
        Sample.identifier ∧
      (registry.register 1 false).2.thefts Sample.identifier.key = 1 := by
  intro registry
  have byLinks : ∀ move ∈ Sample.oneOfTwo, move.GoesByLinks := by
    simp [Sample.oneOfTwo, Move.GoesByLinks, Operation.direct?, Sample.link]
  obtain ⟨holds, displaces, _⟩ :=
    one_open_link_holds default { store := .memory {} } true Sample.oneOfTwo byLinks
  let failing : Link := { Sample.link "link-detach" 1 with failsOnSteal := true }
  have done : ((Sample.registry.follow (Sample.oneOfTwo.take 2)).register 0 false).1 = .ok 0 := rfl
  have attached : IsAttached Sample.registry 0 Sample.oneOfTwo := .now done
  have isHolder := (holds 0 failing attached rfl rfl).1
  have displaced := displaces 1 0 (Sample.link "link-detach" 1) failing rfl isHolder (by decide)
    rfl rfl
  exact ⟨byLinks, attached, isHolder, displaced.closed [.act (.closeLink 1)]
    (by simp [Move.GoesByLinks, Operation.direct?]), displaced.told Sample.identifier.key⟩

end Registry

end Reattach
