import SubjectMerge.Campaign
import SubjectMerge.Job
import SubjectMerge.Json.Read

/-! The JSON form of everything that is sent or received. A record is read leniently, as an object or
as a list, and written as an object with its fields in their order; a binding without a value leaves
that field out. -/

namespace SubjectMerge

open Json (Fault Field Reader Value)

/-- How the values of a type are read and written. -/
structure Format (α : Type) where
  read : Reader Value
  ofValue? : Value → Option α
  toValue : α → Value

namespace Format

variable {α : Type}

def decode (format : Format α) (text : String) : Except Fault α := do
  match format.ofValue? (← Json.readWhole format.read text) with
  | some a => .ok a
  | none => .error .mistyped

def encode (format : Format α) (a : α) : String := (format.toValue a).write

/-- A text read and written again. -/
def recode (format : Format α) (text : String) : Except Fault String :=
  (format.decode text).map format.encode

def text : Format String where
  read := Json.readText
  ofValue?
    | .text s => some s
    | _ => none
  toValue := .text

def list (item : Format α) : Format (List α) where
  read := Json.readList item.read
  ofValue?
    | .list vs => vs.mapM item.ofValue?
    | _ => none
  toValue items := .list (items.map item.toValue)

end Format

/-- A text that may be missing. -/
def Json.Value.ofOption : Option String → Value
  | none => .null
  | some s => .text s

def Json.Value.toOption? : Value → Option (Option String)
  | .null => some none
  | .text s => some (some s)
  | _ => none

def Binding.fields : List Field := [
  { name := "attribute_name", read := Json.readText },
  { name := "fallback_text", read := Json.readOptionalText, optional := true },
  { name := "uppercase", read := Json.readFlag },
  { name := "resolved_value", read := Json.readOptionalText, optional := true, trailing := true }]

def Binding.format : Format Binding where
  read := Json.readRecord fields
  ofValue?
    | .list [.text attributeName, fallback, .flag uppercase, resolved] => do
      return { attributeName, fallbackText := ← fallback.toOption?, uppercase,
               resolvedValue := ← resolved.toOption? }
    | _ => none
  toValue binding := .object ([
    ("attribute_name", .text binding.attributeName),
    ("fallback_text", .ofOption binding.fallbackText),
    ("uppercase", .flag binding.uppercase)] ++
    (binding.resolvedValue.map fun value => ("resolved_value", .text value)).toList)

def Entry.fields : List Field := [
  { name := "token", read := Json.readText },
  { name := "binding", read := Binding.format.read }]

def Entry.format : Format Entry where
  read := Json.readRecord fields
  ofValue?
    | .list [.text token, binding] => do return { token, binding := ← Binding.format.ofValue? binding }
    | _ => none
  toValue entry := .object [
    ("token", .text entry.token), ("binding", Binding.format.toValue entry.binding)]

/-- A table is the list of its entries. -/
def Table.format : Format Table where
  read := (Format.list Entry.format).read
  ofValue? v := ((Format.list Entry.format).ofValue? v).map Table.mk
  toValue table := (Format.list Entry.format).toValue table.entries

def Message.fields : List Field := [
  { name := "recipient_id", read := Json.readText },
  { name := "subject", read := Json.readText }]

/-- Messages, and the rows of a preview, which have the same two fields. -/
def Message.format : Format Message where
  read := Json.readRecord fields
  ofValue?
    | .list [.text recipientId, .text subject] => some { recipientId, subject }
    | _ => none
  toValue message := .object [
    ("recipient_id", .text message.recipientId), ("subject", .text message.subject)]

def Summary.fields : List Field := [
  { name := "campaign_id", read := Json.readText },
  { name := "subject", read := Json.readText },
  { name := "placeholders", read := Table.format.read }]

def Summary.format : Format Summary where
  read := Json.readRecord fields
  ofValue?
    | .list [.text campaignId, .text subject, table] => do
      return { campaignId, subject, table := ← Table.format.ofValue? table }
    | _ => none
  toValue summary := .object [
    ("campaign_id", .text summary.campaignId), ("subject", .text summary.subject),
    ("placeholders", Table.format.toValue summary.table)]

/-- What starts a campaign. -/
structure StartRequest where
  subject : String
  deriving DecidableEq, Repr

def StartRequest.format : Format StartRequest where
  read := Json.readRecord [{ name := "subject", read := Json.readText }]
  ofValue?
    | .list [.text subject] => some { subject }
    | _ => none
  toValue request := .object [("subject", .text request.subject)]

/-- The id given to a new campaign, and its tokens. -/
structure StartResponse where
  campaignId : String
  placeholders : List String
  deriving DecidableEq, Repr

def StartResponse.fields : List Field := [
  { name := "campaign_id", read := Json.readText },
  { name := "placeholders", read := (Format.list Format.text).read }]

def StartResponse.format : Format StartResponse where
  read := Json.readRecord fields
  ofValue?
    | .list [.text campaignId, placeholders] => do
      return { campaignId, placeholders := ← (Format.list Format.text).ofValue? placeholders }
    | _ => none
  toValue response := .object [
    ("campaign_id", .text response.campaignId),
    ("placeholders", (Format.list Format.text).toValue response.placeholders)]

structure EligibilityResponse where
  eligible : Bool
  deriving DecidableEq, Repr

def EligibilityResponse.format : Format EligibilityResponse where
  read := Json.readRecord [{ name := "eligible", read := Json.readFlag }]
  ofValue?
    | .list [.flag eligible] => some { eligible }
    | _ => none
  toValue response := .object [("eligible", .flag response.eligible)]

/-! A job's status is its name alone, or an object with the name and what comes with it. -/

/-- What comes with each status. -/
def JobStatus.content? (name : String) : Option (Reader Value) :=
  match name with
  | "Pending" => some Json.readNull
  | "InProgress" => some Json.readUInt32
  | "Completed" | "Failed" => some Json.readText
  | _ => none

/-- A name must stand behind an opening brace as it must behind that of any object: what does not begin with a quote
there is malformed, whatever kind of value it begins. -/
def JobStatus.read : Reader Value := fun s =>
  match Json.skipSpace s with
  | [] => .error .truncated
  | '"' :: s => do
    let (name, s) ← Json.stringRest s
    if name = "Pending" then .ok (.object [(name, .null)], s) else .error .mistyped
  | '{' :: s => match Json.skipSpace s with
    | '"' :: s => do
      let (name, s) ← Json.stringRest s
      match content? name with
      | none => .error .mistyped
      | some read =>
        let (v, s) ← read (← Json.colon s)
        match Json.skipSpace s with
        | [] => .error .truncated
        | '}' :: s => .ok (.object [(name, v)], s)
        | _ => .error .malformed
    | [] => .error .truncated
    | _ => .error .malformed
  | _ => .error .malformed

def JobStatus.format : Format JobStatus where
  read := JobStatus.read
  ofValue?
    | .object [("Pending", .null)] => some .pending
    | .object [("InProgress", .number percent)] => some (.inProgress percent)
    | .object [("Completed", .text result)] => some (.completed result)
    | .object [("Failed", .text reason)] => some (.failed reason)
    | _ => none
  toValue
    | .pending => .text "Pending"
    | .inProgress percent => .object [("InProgress", .number percent)]
    | .completed result => .object [("Completed", .text result)]
    | .failed reason => .object [("Failed", .text reason)]

end SubjectMerge
