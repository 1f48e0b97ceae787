import Reattach.Exchange.Deliveries
import Reattach.Reconcile
import Reattach.Text.Blank
import Reattach.Text.Padded
import Reattach.Text.Quoted

/-!
# Records and directives as users see them

Records and directives in the short forms that stand in tables and transfers.
Records are also read in their short form.
-/

namespace Reattach

/-! ## Records -/

/-- A record in one word. -/
def recordLabel : Option State → String
  | none => "absent"
  | some state => state.name

/-- A text that names no record, and why. -/
structure RecordError where
  text : String
  fault : Fault

/-- The error in words, the text quoted. -/
def RecordError.message (error : RecordError) : String :=
  "invalid delivery state " ++ Text.quoted error.text ++ ": " ++ error.fault.message

/-- The record that a text names, in any case and between any blanks. -/
def parseRecord (text : String) : Except RecordError (Option State) :=
  let word := Text.lowerAscii (Text.trimmed text)
  if ["absent", "none", "-", ""].contains word then
    .ok none
  else
    match State.parse word with
    | .ok state => .ok (some state)
    | .error fault => .error ⟨text, fault⟩

/-! ## Directives -/

/-- What is said of a transfer, flag by flag. -/
def Flags.parts (flags : Flags) : List String :=
  (if flags.resume then ["resume"] else []) ++ (if flags.aborted then ["aborted"] else []) ++
    (if flags.settled then ["settled"] else []) ++
    (flags.state.map fun state => "state=" ++ state.name).toList

/-- A directive on one line. -/
def Directive.summary : Directive → String
  | .skip => "skip"
  | .skipAndForget => "skip+forget"
  | .resend flags =>
      match flags.parts with
      | [] => "resend"
      | parts => "resend(" ++ ",".intercalate parts ++ ")"

/-- A receiver's action on one line. -/
def ReceiverAction.summary : ReceiverAction → String
  | .discard => "discard"
  | .await expected => "await " ++ expected.summary

/-! ## The decision table -/

/-- A row of the decision table. -/
structure TableRow where
  sender : Option State
  receiver : Option State
  directive : Directive

/-- The decision table of a settle mode, over the sample records. -/
def decisionTable (mode : SettleMode) : List TableRow :=
  sampleRecords.flatMap fun sender => sampleRecords.map fun receiver =>
    { sender, receiver, directive := reconcileInMode mode sender receiver }

/-- A line of the table as text. -/
def tableLine (sender receiver directive : String) : String :=
  Text.padded 14 sender ++ " " ++ Text.padded 14 receiver ++ " " ++ directive

/-- The table as text, under a heading. -/
def tableLines (rows : List TableRow) : List String :=
  tableLine "LOCAL" "REMOTE" "DIRECTIVE" :: rows.map fun row =>
    tableLine (recordLabel row.sender) (recordLabel row.receiver) row.directive.summary

/-- A row with its directive in full. -/
def TableRow.toJson (row : TableRow) : Json :=
  .obj [("local", .str (recordLabel row.sender)), ("remote", .str (recordLabel row.receiver)),
    ("directive", row.directive.toJson), ("summary", .str row.directive.summary)]

end Reattach
