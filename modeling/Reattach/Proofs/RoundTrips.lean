import Reattach.Exchange.Attachments
import Reattach.Proofs.HexTags
import Reattach.Proofs.JsonText

/-!
# Values that are exchanged come back

Everything that two ends exchange is written on a line and read back from it.  For each kind of
value there are two facts: it is read from the JSON value that it is written as, and that JSON
value can be read back from its line.  Kinds that are told by a tag are read while the kind
around them is not known yet, so what may stand inside them is read back at both times.
-/

namespace Reattach

open Json (Timing)

/-- That every value is read back from the line it is written as. -/
def RoundTrips {α : Type} (write : α → Json) (read : Json → Option α) : Prop :=
  ∀ value, (Json.ofText? (write value).compact).bind read = some value

/-- What is read from its JSON value comes back if that value can be read from its line. -/
theorem roundTrips_of_fits {α : Type} {write : α → Json} {read : Json → Option α}
    (fit : ∀ value, (write value).fits Json.maxNesting = true)
    (reads : ∀ value, read (write value) = some value) : RoundTrips write read := by
  intro value
  rw [Json.ofText?_compact (fit value), Option.bind_some, reads]

/-! ## Fields -/

namespace Json

theorem readNat_nat {bound number : Nat} (below : number < bound) :
    readNat bound (.nat number) = some number := by
  simp [readNat, nat, below]

theorem readUInt16_nat (number : UInt16) : readUInt16 (nat number.toNat) = some number := by
  rw [readUInt16, readNat_nat number.toNat_lt, Option.map_some, UInt16.ofNat_toNat]

theorem readUInt32_nat (number : UInt32) : readUInt32 (nat number.toNat) = some number := by
  rw [readUInt32, readNat_nat number.toNat_lt, Option.map_some, UInt32.ofNat_toNat]

theorem readUInt64_nat (number : UInt64) : readUInt64 (nat number.toNat) = some number := by
  rw [readUInt64, readNat_nat number.toNat_lt, Option.map_some, UInt64.ofNat_toNat]

theorem fits_nat {room number : Nat} (below : number < UInt64.size) :
    (nat number).fits room = true := by
  simp only [nat, fits, Bool.and_eq_true, decide_eq_true_eq]
  omega

/-- A value that may be absent is read back if none that is there is written as null. -/
theorem readNullable_ofOption {α : Type} {write : α → Json} {read : Json → Option α}
    (reads : ∀ value, read (write value) = some value) (notNull : ∀ value, write value ≠ .null)
    (value : Option α) : readNullable read (ofOption write value) = some value := by
  cases value with
  | none => rfl
  | some value =>
      have written := notNull value
      rw [ofOption, readNullable]
      · rw [reads, Option.map_some]
      · exact written

theorem readNullable_text (text : Option String) :
    readNullable readString (ofOption str text) = some text := by
  cases text <;> rfl

theorem fits_ofOption {α : Type} {write : α → Json} {room : Nat} {value : Option α}
    (fit : ∀ value, (write value).fits room = true) : (ofOption write value).fits room = true := by
  cases value with
  | none => rfl
  | some value => exact fit value

theorem fits_text (room : Nat) (text : Option String) : (ofOption str text).fits room = true :=
  fits_ofOption fun _ => rfl

end Json

namespace Members

variable {members : List (String × Json)} {α : Type} {read : Json → Option α} {field : String}
  {value : Json}

theorem ofJson?_of_nodup {fields : List String} (nodup : (members.map Prod.fst).Nodup) :
    ofJson? fields (.obj members) = some ⟨members, false⟩ := by
  have once (field : String) :
      (members.filter fun member => member.1 == field).length ≤ 1 := by
    rw [← List.countP_eq_length_filter]
    have counted := List.nodup_iff_count_le_one.1 nodup field
    rwa [List.count, List.countP_map] at counted
  rw [ofJson?, if_pos]
  simp [unambiguous, once]

theorem required_of_find? {members : Members} (given : members.find? field = some value) :
    members.required field read = read value := by
  rw [required, given, Option.bind_some]

theorem orElse_of_find? {members : Members} {absent : α}
    (given : members.find? field = some value) : members.orElse field read absent = read value := by
  rw [orElse, given]

theorem nullable_of_find? {members : Members} (given : members.find? field = some value) :
    members.nullable field read = Json.readNullable read value := by
  rw [nullable, given]
  cases value <;> rfl

end Members

/-! ## Names -/

theorem Role.ofJson?_toJson (timing : Timing) (role : Role) :
    Role.ofJson? timing role.toJson = some role := by
  cases role <;> rfl

theorem ExpiryPolicy.ofJson?_toJson (timing : Timing) (policy : ExpiryPolicy) :
    ExpiryPolicy.ofJson? timing policy.toJson = some policy := by
  cases policy <;> rfl

theorem SettleMode.ofJson?_toJson (timing : Timing) (mode : SettleMode) :
    SettleMode.ofJson? timing mode.toJson = some mode := by
  cases mode <;> rfl

/-! ## Deliveries -/

theorem Tag.ofJson?_toJson (tag : Tag) : Tag.ofJson? tag.toJson = some tag := tag.ofHex?_toHex

theorem State.ofJson?_toJson (timing : Timing) (state : State) :
    State.ofJson? timing state.toJson = some state := by
  cases state with
  | unknown | received | transactionalPending => cases timing <;> rfl
  | terminal outcome | transactionalTerminal outcome =>
      cases timing <;> cases outcome <;> rfl

theorem State.fits_toJson {room : Nat} (hasRoom : 0 < room) (state : State) :
    state.toJson.fits room = true := by
  cases state <;> simp [State.toJson, State.outcome?, Json.fits, Json.membersFit, Outcome.toJson,
    hasRoom]

theorem State.toJson_ne_null (state : State) : state.toJson ≠ .null := by
  cases state <;> exact Json.noConfusion

theorem Record.ofJson?_toJson (record : Record) : Record.ofJson? record.toJson = some record := by
  rw [toJson, ofJson?, Members.ofJson?_of_nodup (by simp)]
  simp [Members.required, Members.orElse, Members.find?, List.lookup_cons, Json.readBool,
    Tag.ofJson?_toJson, State.ofJson?_toJson]

theorem Record.fits_toJson {room : Nat} (hasRoom : 1 < room) (record : Record) :
    record.toJson.fits room = true := by
  have inside := State.fits_toJson (Nat.sub_pos_of_lt hasRoom) record.state
  simp [toJson, Json.fits, Json.membersFit, Tag.toJson, inside, Nat.zero_lt_of_lt hasRoom]

theorem SortedMap.ofList_toList {Key Value : Type} [Ord Key] [Std.TransOrd Key]
    [Std.LawfulEqOrd Key] (map : SortedMap Key Value) : ofList map.toList = map := by
  apply SortedMap.ext_get?
  intro key
  rw [get?_ofList]
  exact lookup_eq_of_mem_iff fun value => by rw [List.mem_reverse, mem_toList_iff]

theorem Unsettled.ofJson?_toJson (unsettled : Unsettled) :
    Unsettled.ofJson? unsettled.toJson = some unsettled := by
  have reads : (unsettled.toList.map fun entry => (entry.1.toHex, entry.2.toJson)).map
      entryOfJson? = unsettled.toList.map some := by
    rw [List.map_map]
    exact List.map_congr_left fun entry _ =>
      entryOfJson?_eq_some_iff.2 ⟨entry.1.ofHex?_toHex, entry.2.ofJson?_toJson _⟩
  rw [toJson, ofJson?_obj, Json.mapM_eq_some_iff.2 reads, Option.map_some,
    SortedMap.ofList_toList]

theorem Unsettled.toJson_ne_null (unsettled : Unsettled) : unsettled.toJson ≠ .null :=
  Json.noConfusion

theorem Unsettled.fits_toJson {room : Nat} (hasRoom : 1 < room) (unsettled : Unsettled) :
    unsettled.toJson.fits room = true := by
  have inside : Json.membersFit (room - 1)
      (unsettled.toList.map fun entry => (entry.1.toHex, entry.2.toJson)) = true := by
    rw [Json.membersFit_iff, List.forall_mem_map]
    exact fun entry _ => State.fits_toJson (Nat.sub_pos_of_lt hasRoom) entry.2
  simp [toJson, Json.fits, inside, Nat.zero_lt_of_lt hasRoom]

/-! ## Directives -/

/-- The flags are found among members that give them. -/
theorem Flags.ofMembers?_append (timing : Timing) (flags : Flags)
    (before : List (String × Json)) (apart : ∀ field ∈ Flags.fields, before.lookup field = none) :
    Flags.ofMembers? timing ⟨before ++ flags.members, false⟩ = some flags := by
  simp only [Flags.fields, List.forall_mem_cons] at apart
  obtain ⟨noResume, noAborted, noSettled, noState, -⟩ := apart
  have given : (Members.mk (before ++ flags.members) false).find? "state" =
      some (.ofOption State.toJson flags.state) := by
    rw [Members.find?, List.lookup_append, noState]
    rfl
  rw [Flags.ofMembers?, Members.nullable_of_find? given,
    Json.readNullable_ofOption (State.ofJson?_toJson timing) State.toJson_ne_null]
  simp [Members.required, Members.find?, List.lookup_append, noResume, noAborted, noSettled,
    Flags.members, List.lookup_cons, Json.readBool]

theorem Flags.ofJson?_toJson (timing : Timing) (flags : Flags) :
    Flags.ofJson? timing flags.toJson = some flags := by
  rw [toJson, ofJson?, Members.ofJson?_of_nodup (by simp [members])]
  exact Flags.ofMembers?_append timing flags [] (by simp)

theorem Flags.membersFit {room : Nat} (hasRoom : 0 < room) (flags : Flags) :
    Json.membersFit room flags.members = true := by
  have inside : (Json.ofOption State.toJson flags.state).fits room = true :=
    Json.fits_ofOption (State.fits_toJson hasRoom)
  simp [members, Json.membersFit, Json.fits, inside]

theorem Frame.ofJson?_toJson (frame : Frame) : Frame.ofJson? frame.toJson = some frame := by
  rw [toJson, ofJson?, Members.ofJson?_of_nodup (by simp [Flags.members])]
  have flags := Flags.ofMembers?_append .direct frame.flags [("tag", frame.tag.toJson)]
    (by simp [Flags.fields, List.lookup_cons])
  rw [List.singleton_append] at flags
  simp [Members.required, Members.find?, Tag.ofJson?_toJson, flags]

theorem Frame.fits_toJson {room : Nat} (hasRoom : 1 < room) (frame : Frame) :
    frame.toJson.fits room = true := by
  have inside := Flags.membersFit (Nat.sub_pos_of_lt hasRoom) frame.flags
  simp [toJson, Json.fits, Json.membersFit, Tag.toJson, inside, Nat.zero_lt_of_lt hasRoom]

/-- A record is read by the kind that its tag names, from its other members. -/
theorem Json.readTagged_obj {α : Type} {tag name : String} {read : Json → Option α}
    {kinds : List (String × (Json → Option α))} {rest : List (String × Json)} (timing : Timing)
    (known : kinds.lookup name = some read) (apart : tag ∉ rest.map Prod.fst)
    (sound : (obj rest).isSound = true) :
    readTagged tag kinds timing (.obj ((tag, .str name) :: rest)) = read (.obj rest) := by
  have others : ∀ member ∈ rest, member.1 ≠ tag := fun member isMember same =>
    apart (same ▸ List.mem_map_of_mem isMember)
  have noneTagged : rest.filter (fun member => member.1 == tag) = [] :=
    List.filter_eq_nil_iff.2 fun member isMember => by simpa using others member isMember
  have allOthers : rest.filter (fun member => member.1 != tag) = rest :=
    List.filter_eq_self.2 fun member isMember => by simpa using others member isMember
  simp [readTagged, Members.unambiguous, noneTagged, allOthers, readKind, known, sound]

theorem Directive.fits_toJson {room : Nat} (hasRoom : 1 < room) (directive : Directive) :
    directive.toJson.fits room = true := by
  have isRoom := Nat.zero_lt_of_lt hasRoom
  cases directive with
  | skip | skipAndForget => simp [toJson, Json.fits, Json.membersFit, isRoom]
  | resend flags =>
      have inside := flags.membersFit (Nat.sub_pos_of_lt hasRoom)
      simp [toJson, Json.fits, Json.membersFit, inside, isRoom]

theorem Directive.ofJson?_toJson (timing : Timing) (directive : Directive) :
    Directive.ofJson? timing directive.toJson = some directive := by
  cases directive with
  | skip | skipAndForget =>
      rw [toJson, ofJson?, Json.readTagged_obj timing rfl List.not_mem_nil rfl]
      rfl
  | resend flags =>
      have sound : (Json.obj flags.members).isSound = true :=
        Json.haveSoundValues_of_membersFit (flags.membersFit Nat.one_pos)
      rw [toJson, ofJson?, Json.readTagged_obj timing rfl (by simp [Flags.members]) sound]
      have reads := flags.ofJson?_toJson .deferred
      rw [Flags.toJson] at reads
      rw [reads, Option.map_some]

theorem ReceiverAction.ofJson?_toJson (action : ReceiverAction) :
    ReceiverAction.ofJson? action.toJson = some action := by
  cases action with
  | discard =>
      rw [toJson, ofJson?, Json.readTagged_obj .direct rfl List.not_mem_nil rfl]
      rfl
  | await expected =>
      have sound : (Json.obj [("expected", expected.toJson)]).isSound = true := by
        have inside := Json.isSound_of_fits (expected.fits_toJson Nat.one_lt_two)
        simp [Json.isSound, Json.haveSoundValues, inside]
      rw [toJson, ofJson?, Json.readTagged_obj .direct rfl (by simp) sound, awaitOfJson?,
        Members.ofJson?_of_nodup (by simp)]
      simp [Members.required, Members.find?, expected.ofJson?_toJson .deferred]

theorem ReceiverAction.fits_toJson {room : Nat} (hasRoom : 2 < room) (action : ReceiverAction) :
    action.toJson.fits room = true := by
  have isRoom := Nat.zero_lt_of_lt hasRoom
  cases action with
  | discard => simp [toJson, Json.fits, Json.membersFit, isRoom]
  | await expected =>
      have inside : expected.toJson.fits (room - 1) = true := expected.fits_toJson (by omega)
      simp [toJson, Json.fits, Json.membersFit, inside, isRoom]

/-! ## Identifiers -/

/-- What makes up an identifier makes it again. -/
theorem Identifier.create_eq (identifier : Identifier) :
    Identifier.create identifier.name identifier.role identifier.container = .ok identifier :=
  dif_neg identifier.named

theorem Identifier.ofJson?_toJson (identifier : Identifier) :
    Identifier.ofJson? identifier.toJson = some identifier := by
  rw [toJson, ofJson?, Members.ofJson?_of_nodup (by simp)]
  simp [Members.required, Members.orElse, Members.find?, List.lookup_cons, Json.readString,
    Role.ofJson?_toJson, Json.readNullable_text, create_eq, Except.toOption]

theorem Identifier.fits_toJson {room : Nat} (hasRoom : 0 < room) (identifier : Identifier) :
    identifier.toJson.fits room = true := by
  simp [toJson, Json.fits, Json.membersFit, Role.toJson, Json.fits_text, hasRoom]

/-! ## Settings -/

theorem Address.ofJson?_toJson (address : Address) :
    Address.ofJson? address.toJson = some address := by
  rw [toJson, ofJson?, Members.ofJson?_of_nodup (by simp)]
  -- Where numbers are read, the steps are rewritten and not computed: computing would count up
  -- to the bound of a number.
  simp -implicitDefEqProofs only [Option.bind_eq_bind, Option.bind_some]
  rw [Members.nullable_of_find? (by rfl), Json.readNullable_text, Option.bind_some,
    Members.nullable_of_find? (by rfl), Json.readNullable_text, Option.bind_some,
    Members.orElse_of_find? (by rfl), Json.readUInt32_nat, Option.bind_some]

theorem Address.fits_toJson {room : Nat} (hasRoom : 0 < room) (address : Address) :
    address.toJson.fits room = true := by
  have inside : (Json.nat address.timeoutSecs.toNat).fits (room - 1) = true :=
    Json.fits_nat (Nat.lt_trans address.timeoutSecs.toNat_lt (by decide))
  simp [toJson, Json.fits, Json.membersFit, Json.fits_text, inside, hasRoom]

theorem Settings.propertiesOfJson?_propertiesJson (properties : SortedMap String String) :
    propertiesOfJson? (propertiesJson properties) = some properties := by
  have reads : (properties.toList.map fun property => (property.1, Json.str property.2)).map
      (fun member => (Json.readString member.2).map fun value => (member.1, value)) =
        properties.toList.map some := by
    rw [List.map_map]
    exact List.map_congr_left fun _ _ => rfl
  rw [propertiesJson, propertiesOfJson?, Json.readDictionary, Json.mapM_eq_some_iff.2 reads,
    Option.map_some, SortedMap.ofList_toList]

theorem Settings.fits_propertiesJson {room : Nat} (hasRoom : 0 < room)
    (properties : SortedMap String String) : (propertiesJson properties).fits room = true := by
  have inside : Json.membersFit (room - 1)
      (properties.toList.map fun property => (property.1, Json.str property.2)) = true := by
    rw [Json.membersFit_iff, List.forall_mem_map]
    exact fun _ _ => rfl
  simp [propertiesJson, Json.fits, inside, hasRoom]

theorem Settings.ofJson?_toJson (settings : Settings) :
    Settings.ofJson? settings.toJson = some settings := by
  have unsettled := Json.readNullable_ofOption Unsettled.ofJson?_toJson Unsettled.toJson_ne_null
    settings.unsettled
  rw [toJson, ofJson?, Members.ofJson?_of_nodup (by simp)]
  simp [Members.required, Members.orElse, Members.find?, List.lookup_cons, Json.readString,
    Role.ofJson?_toJson, Address.ofJson?_toJson, SettleMode.ofJson?_toJson,
    propertiesOfJson?_propertiesJson, unsettled]

theorem Settings.fits_toJson {room : Nat} (hasRoom : 2 < room) (settings : Settings) :
    settings.toJson.fits room = true := by
  have inside : 1 < room - 1 := by omega
  have isInside : 0 < room - 1 := Nat.zero_lt_of_lt inside
  have unsettled : (Json.ofOption Unsettled.toJson settings.unsettled).fits (room - 1) = true :=
    Json.fits_ofOption (Unsettled.fits_toJson inside)
  simp [toJson, Json.fits, Json.membersFit, Role.toJson, SettleMode.toJson,
    Address.fits_toJson isInside, fits_propertiesJson isInside, unsettled,
    Nat.zero_lt_of_lt hasRoom]

/-! ## Scopes and configurations -/

theorem Session.ofJson?_toJson (session : Session) :
    Session.ofJson? session.toJson = some session := by
  rw [toJson, ofJson?, Members.ofJson?_of_nodup (by simp)]
  simp -implicitDefEqProofs only [Option.bind_eq_bind, Option.bind_some]
  rw [Members.required_of_find? (by rfl), Json.readUInt64_nat, Option.bind_some,
    Members.required_of_find? (by rfl), Json.readUInt16_nat, Option.bind_some]

theorem Scope.ofJson?_toJson (scope : Scope) : Scope.ofJson? scope.toJson = some scope := by
  rw [toJson, ofJson?, Members.ofJson?_of_nodup (by simp)]
  simp -implicitDefEqProofs only [Option.bind_eq_bind, Option.bind_some]
  rw [Members.required_of_find? (by rfl), Session.ofJson?_toJson, Option.map_some]

theorem Scope.fits_toJson {room : Nat} (hasRoom : 1 < room) (scope : Scope) :
    scope.toJson.fits room = true := by
  have connection : (Json.nat scope.session.connection.toNat).fits (room - 1 - 1) = true :=
    Json.fits_nat scope.session.connection.toNat_lt
  have channel : (Json.nat scope.session.channel.toNat).fits (room - 1 - 1) = true :=
    Json.fits_nat (Nat.lt_trans scope.session.channel.toNat_lt (by decide))
  simp [toJson, Session.toJson, Json.fits, Json.membersFit, connection, channel,
    Nat.zero_lt_of_lt hasRoom, Nat.sub_pos_of_lt hasRoom]

theorem Config.ofJson?_toJson (config : Config) : Config.ofJson? config.toJson = some config := by
  rw [toJson, ofJson?, Members.ofJson?_of_nodup (by simp)]
  simp -implicitDefEqProofs only [Option.bind_eq_bind, Option.bind_some]
  rw [Members.orElse_of_find? (by rfl), ExpiryPolicy.ofJson?_toJson, Option.bind_some,
    Members.orElse_of_find? (by rfl), Json.readUInt64_nat, Option.bind_some,
    Members.orElse_of_find? (by rfl), Json.readUInt64_nat, Option.bind_some]

theorem Config.fits_toJson {room : Nat} (hasRoom : 0 < room) (config : Config) :
    config.toJson.fits room = true := by
  have timeout : (Json.nat config.expiryTimeoutMillis.toNat).fits (room - 1) = true :=
    Json.fits_nat config.expiryTimeoutMillis.toNat_lt
  have capacity : (Json.nat config.eventCapacity.toNat).fits (room - 1) = true :=
    Json.fits_nat config.eventCapacity.toNat_lt
  simp [toJson, ExpiryPolicy.toJson, Json.fits, Json.membersFit, timeout, capacity, hasRoom]

/-! ## All that is exchanged -/

/-- Whatever is exchanged is read back from its line as it was. -/
theorem exchanged_values_round_trip :
    RoundTrips Identifier.toJson Identifier.ofJson? ∧
    RoundTrips Tag.toJson Tag.ofJson? ∧
    RoundTrips State.toJson (State.ofJson? .direct) ∧
    RoundTrips Record.toJson Record.ofJson? ∧
    RoundTrips Unsettled.toJson Unsettled.ofJson? ∧
    RoundTrips Directive.toJson (Directive.ofJson? .direct) ∧
    RoundTrips ReceiverAction.toJson ReceiverAction.ofJson? ∧
    RoundTrips Frame.toJson Frame.ofJson? ∧
    RoundTrips Address.toJson Address.ofJson? ∧
    RoundTrips Settings.toJson Settings.ofJson? ∧
    RoundTrips Scope.toJson Scope.ofJson? ∧
    RoundTrips Config.toJson Config.ofJson? := by
  have room : 2 < Json.maxNesting := by decide
  have two : 1 < Json.maxNesting := Nat.lt_of_succ_lt room
  have one : 0 < Json.maxNesting := Nat.lt_of_succ_lt two
  exact ⟨roundTrips_of_fits (Identifier.fits_toJson one) Identifier.ofJson?_toJson,
    roundTrips_of_fits (fun _ => rfl) Tag.ofJson?_toJson,
    roundTrips_of_fits (State.fits_toJson one) (State.ofJson?_toJson .direct),
    roundTrips_of_fits (Record.fits_toJson two) Record.ofJson?_toJson,
    roundTrips_of_fits (Unsettled.fits_toJson two) Unsettled.ofJson?_toJson,
    roundTrips_of_fits (Directive.fits_toJson two) (Directive.ofJson?_toJson .direct),
    roundTrips_of_fits (ReceiverAction.fits_toJson room) ReceiverAction.ofJson?_toJson,
    roundTrips_of_fits (Frame.fits_toJson two) Frame.ofJson?_toJson,
    roundTrips_of_fits (Address.fits_toJson one) Address.ofJson?_toJson,
    roundTrips_of_fits (Settings.fits_toJson room) Settings.ofJson?_toJson,
    roundTrips_of_fits (Scope.fits_toJson two) Scope.ofJson?_toJson,
    roundTrips_of_fits (Config.fits_toJson one) Config.ofJson?_toJson⟩

end Reattach
