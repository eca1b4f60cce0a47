import SubjectMerge.Proofs.Json.Records
import SubjectMerge.Proofs.Json.Written
import SubjectMerge.Wire

/-! Which texts a record may come in. It is taken from an object with its fields in any order, others among them, and
from the list of its fields, down to the records within it; and it is taken from none that has a field twice, since
reading ends there. -/

namespace SubjectMerge

open Json (Blanks Field Padded Part Reader Refuses Slot Takes Texts Value)

variable {α : Type}

/-- Every text that stands for a value is read as that value, and none that has a field twice. -/
structure Format.Lenient (format : Format α) (texts : Texts α) : Prop where
  /-- What is written is one of the texts. -/
  written : ∀ a, texts.Gives a (format.toValue a).chars
  decodes : ∀ (a : α) (text : Padded), texts.Gives a text.inner → format.decode (.ofList text.chars) = .ok a
  /-- Nothing behind the second of the fields matters. -/
  rejects : ∀ (before : Blanks) (start rest : List Char), texts.Doubled start →
    format.decode (.ofList (before.chars ++ (start ++ rest))) = .error .mistyped

/-- The reader finds a value behind each text that means what the text stands for. -/
structure Format.Follows (format : Format α) (texts : Texts α) (value : α → Value) : Prop where
  takes : ∀ a, Takes format.read (texts.Gives a) (value a)
  meant : ∀ a, format.ofValue? (value a) = some a
  refuses : Refuses format.read texts.Doubled
  written : ∀ a, texts.Gives a (format.toValue a).chars

namespace Format

variable {format : Format α} {texts : Texts α} {value : α → Value}

theorem lenient_of_follows (h : format.Follows texts value) : format.Lenient texts where
  written := h.written
  decodes a text gives := by
    have hread := (h.takes a).reads text.inner gives (text.after.chars ++ [])
      (Json.endsNumber_blanks text.after Json.endsNumber_nil)
    have hafter : Json.skipSpace (text.after.chars ++ []) = [] := Json.skipSpace_blanks text.after []
    rw [List.append_nil] at hread hafter
    have hwhole : Json.readWhole format.read (.ofList text.chars) = .ok (value a) := by
      simp only [Json.readWhole, String.toList_ofList, Padded.chars, h.refuses.read_blanks, hread, hafter, bind,
        Except.bind, List.isEmpty_nil, if_true]
    simp only [decode, hwhole, h.meant, bind, Except.bind]
  rejects before start rest doubled := by
    simp only [decode, Json.readWhole, String.toList_ofList, h.refuses.read_blanks, h.refuses.fails start doubled, bind,
      Except.bind]

protected theorem Follows.text : Format.text.Follows .text .text where
  takes := Json.takes_text
  meant _ := rfl
  refuses := Json.refuses_text
  written := Texts.text_written

protected theorem Follows.list (h : format.Follows texts value) :
    (Format.list format).Follows texts.list fun as => .list (as.map value) where
  takes := Json.takes_list h.takes
  meant as := by
    have hmeant : (as.map value).mapM format.ofValue? = some as := by
      induction as with
      | nil => rfl
      | cons a as ih => simp [h.meant, ih]
    exact hmeant
  refuses := Json.refuses_list h.takes h.refuses
  written := Texts.list_written h.written

/-- A record that is written as an object of its fields. -/
protected theorem Follows.record (slots : α → List Slot) (fields : List Field) (read : format.read = Json.readRecord fields)
    (fields_eq : ∀ a, (slots a).map Slot.field = fields) (distinct : (fields.map Field.name).Nodup)
    (meant : ∀ a, format.ofValue? (.list ((slots a).map Slot.value)) = some a)
    (written : ∀ a, ∃ ms, format.toValue a = .object ms ∧ Json.Writes ((slots a).map Slot.part) ms) :
    format.Follows (.record fun a => (slots a).map Slot.part) fun a => .list ((slots a).map Slot.value) := by
  have hdistinct : ∀ a, (Slot.names (slots a)).Nodup := by
    intro a
    rwa [Slot.names_eq, fields_eq a]
  refine ⟨fun a => ?_, meant, ?_, fun a => ?_⟩
  · rw [read, ← fields_eq a]
    exact Slot.takes_record (hdistinct a)
  · rw [read]
    exact Slot.refuses_record fields_eq hdistinct
  · obtain ⟨ms, hms, writes⟩ := written a
    rw [hms]
    exact writes.recordText (by rw [List.map_map]; exact hdistinct a)

end Format

/-! Bindings. -/

def Json.Slot.optionalText (name : String) (s : Option String) (trailing : Bool) : Slot where
  field := { name, read := readOptionalText, optional := true, trailing }
  part := .optionalText name s trailing
  value := .ofOption s
  name_eq := rfl
  takes := match s with
    | none => takes_null
    | some s => takes_some s
  refuses := refuses_optionalText
  absent := by
    rintro rfl
    exact ⟨rfl, rfl⟩
  trailing := by
    rintro ⟨htrailing, rfl⟩
    exact ⟨htrailing, rfl⟩

theorem Json.Texts.optionalText_written (s : Option String) :
    Texts.optionalText.Gives s (Value.ofOption s).chars := by
  cases s with
  | none => rw [Value.ofOption, Value.chars]; rfl
  | some s => exact Texts.text_written s

def Binding.texts : Texts Binding := .record fun binding => [
  .required "attribute_name" .text binding.attributeName,
  .optionalText "fallback_text" binding.fallbackText false,
  .required "uppercase" .flag binding.uppercase,
  .optionalText "resolved_value" binding.resolvedValue true]

def Binding.slots (binding : Binding) : List Slot := [
  .required "attribute_name" (Json.takes_text binding.attributeName) Json.refuses_text,
  .optionalText "fallback_text" binding.fallbackText false,
  .required "uppercase" (Json.takes_flag binding.uppercase) Json.refuses_flag,
  .optionalText "resolved_value" binding.resolvedValue true]

theorem Json.Value.toOption?_ofOption (s : Option String) : (Value.ofOption s).toOption? = some s := by
  cases s <;> rfl

theorem Binding.follows : Binding.format.Follows Binding.texts fun binding => .list (binding.slots.map Slot.value) := by
  refine .record slots fields rfl (fun _ => rfl) (by decide) (fun binding => ?_) fun binding => ⟨_, rfl, ?_⟩
  · simp [format, slots, Slot.required, Slot.optionalText, Json.Value.toOption?_ofOption]
  · obtain ⟨attributeName, fallbackText, uppercase, resolvedValue⟩ := binding
    cases resolvedValue with
    | none =>
      refine ⟨.cons ⟨rfl, Texts.text_written _⟩ (.cons ⟨rfl, Texts.optionalText_written _⟩
        (.cons ⟨rfl, Texts.flag_written _⟩ .nil)), ?_⟩
      simp [slots, Slot.optionalText, Part.optionalText]
    | some value =>
      refine ⟨.cons ⟨rfl, Texts.text_written _⟩ (.cons ⟨rfl, Texts.optionalText_written _⟩
        (.cons ⟨rfl, Texts.flag_written _⟩ (.cons ⟨rfl, Texts.optionalText_written (some value)⟩ .nil))), ?_⟩
      simp [slots]

/-! Tables. -/

def Entry.texts : Texts Entry := .record fun entry => [
  .required "token" .text entry.token,
  .required "binding" Binding.texts entry.binding]

def Entry.slots (entry : Entry) : List Slot := [
  .required "token" (Json.takes_text entry.token) Json.refuses_text,
  .required "binding" (Binding.follows.takes entry.binding) Binding.follows.refuses]

theorem Entry.follows : Entry.format.Follows Entry.texts fun entry => .list (entry.slots.map Slot.value) := by
  refine .record slots fields rfl (fun _ => rfl) (by decide) (fun entry => ?_) fun entry => ⟨_, rfl, ?_⟩
  · have hmeant := Binding.follows.meant entry.binding
    simp only [List.map, slots, Slot.required, format, hmeant]
    rfl
  · exact ⟨.cons ⟨rfl, Texts.text_written _⟩ (.cons ⟨rfl, Binding.follows.written _⟩ .nil), by simp [slots]⟩

def Table.texts : Texts Table where
  Gives table := Entry.texts.list.Gives table.entries
  Doubled := Entry.texts.list.Doubled

theorem Table.follows :
    Table.format.Follows Table.texts fun table => .list (table.entries.map fun entry => .list (entry.slots.map Slot.value)) where
  takes table := Entry.follows.list.takes table.entries
  meant table := by simp only [format, Entry.follows.list.meant table.entries, Option.map_some]
  refuses := Entry.follows.list.refuses
  written table := Entry.follows.list.written table.entries

/-! Messages, and what is asked and answered. -/

def Message.texts : Texts Message := .record fun message => [
  .required "recipient_id" .text message.recipientId,
  .required "subject" .text message.subject]

def Message.slots (message : Message) : List Slot := [
  .required "recipient_id" (Json.takes_text message.recipientId) Json.refuses_text,
  .required "subject" (Json.takes_text message.subject) Json.refuses_text]

theorem Message.follows : Message.format.Follows Message.texts fun message => .list (message.slots.map Slot.value) := by
  refine .record slots fields rfl (fun _ => rfl) (by decide) (fun _ => rfl) fun message => ⟨_, rfl, ?_⟩
  exact ⟨.cons ⟨rfl, Texts.text_written _⟩ (.cons ⟨rfl, Texts.text_written _⟩ .nil), by simp [slots]⟩

def Summary.texts : Texts Summary := .record fun summary => [
  .required "campaign_id" .text summary.campaignId,
  .required "subject" .text summary.subject,
  .required "placeholders" Table.texts summary.table]

def Summary.slots (summary : Summary) : List Slot := [
  .required "campaign_id" (Json.takes_text summary.campaignId) Json.refuses_text,
  .required "subject" (Json.takes_text summary.subject) Json.refuses_text,
  .required "placeholders" (Table.follows.takes summary.table) Table.follows.refuses]

theorem Summary.follows : Summary.format.Follows Summary.texts fun summary => .list (summary.slots.map Slot.value) := by
  refine .record slots fields rfl (fun _ => rfl) (by decide) (fun summary => ?_) fun summary => ⟨_, rfl, ?_⟩
  · have hmeant := Table.follows.meant summary.table
    simp only [List.map, slots, Slot.required, format, hmeant]
    rfl
  · exact ⟨.cons ⟨rfl, Texts.text_written _⟩ (.cons ⟨rfl, Texts.text_written _⟩
      (.cons ⟨rfl, Table.follows.written _⟩ .nil)), by simp [slots]⟩

def StartRequest.texts : Texts StartRequest := .record fun request => [.required "subject" .text request.subject]

def StartRequest.slots (request : StartRequest) : List Slot := [
  .required "subject" (Json.takes_text request.subject) Json.refuses_text]

theorem StartRequest.follows :
    StartRequest.format.Follows StartRequest.texts fun request => .list (request.slots.map Slot.value) := by
  refine .record slots _ rfl (fun _ => rfl) (by decide) (fun _ => rfl) fun request => ⟨_, rfl, ?_⟩
  exact ⟨.cons ⟨rfl, Texts.text_written _⟩ .nil, by simp [slots]⟩

def StartResponse.texts : Texts StartResponse := .record fun response => [
  .required "campaign_id" .text response.campaignId,
  .required "placeholders" Texts.text.list response.placeholders]

def StartResponse.slots (response : StartResponse) : List Slot := [
  .required "campaign_id" (Json.takes_text response.campaignId) Json.refuses_text,
  .required "placeholders" (Format.Follows.text.list.takes response.placeholders) Format.Follows.text.list.refuses]

theorem StartResponse.follows :
    StartResponse.format.Follows StartResponse.texts fun response => .list (response.slots.map Slot.value) := by
  refine .record slots fields rfl (fun _ => rfl) (by decide) (fun response => ?_) fun response => ⟨_, rfl, ?_⟩
  · have hmeant := Format.Follows.text.list.meant response.placeholders
    simp only [List.map, slots, Slot.required, format, hmeant]
    rfl
  · exact ⟨.cons ⟨rfl, Texts.text_written _⟩ (.cons ⟨rfl, Format.Follows.text.list.written _⟩ .nil), by simp [slots]⟩

def EligibilityResponse.texts : Texts EligibilityResponse :=
  .record fun response => [.required "eligible" .flag response.eligible]

def EligibilityResponse.slots (response : EligibilityResponse) : List Slot := [
  .required "eligible" (Json.takes_flag response.eligible) Json.refuses_flag]

theorem EligibilityResponse.follows :
    EligibilityResponse.format.Follows EligibilityResponse.texts fun response =>
      .list (response.slots.map Slot.value) := by
  refine .record slots _ rfl (fun _ => rfl) (by decide) (fun _ => rfl) fun response => ⟨_, rfl, ?_⟩
  exact ⟨.cons ⟨rfl, Texts.flag_written _⟩ .nil, by simp [slots]⟩

/-- Everything sent that is a record, or a list of records. -/
structure Wire.Lenient : Prop where
  binding : Binding.format.Lenient Binding.texts
  entry : Entry.format.Lenient Entry.texts
  table : Table.format.Lenient Table.texts
  /-- An outgoing message, or a row of a preview. -/
  message : Message.format.Lenient Message.texts
  summary : Summary.format.Lenient Summary.texts
  startRequest : StartRequest.format.Lenient StartRequest.texts
  startResponse : StartResponse.format.Lenient StartResponse.texts
  eligibility : EligibilityResponse.format.Lenient EligibilityResponse.texts

theorem Wire.lenient : Lenient where
  binding := Format.lenient_of_follows Binding.follows
  entry := Format.lenient_of_follows Entry.follows
  table := Format.lenient_of_follows Table.follows
  message := Format.lenient_of_follows Message.follows
  summary := Format.lenient_of_follows Summary.follows
  startRequest := Format.lenient_of_follows StartRequest.follows
  startResponse := Format.lenient_of_follows StartResponse.follows
  eligibility := Format.lenient_of_follows EligibilityResponse.follows

example : Binding.format.decode "\x7b \"x\": [1e999, \x7b\x7d], \"uppercase\" :true, \"\\u0061ttribute_name\": \"N\"\x7d " =
    .ok ⟨"N", none, true, none⟩ := by
  decide +kernel

example : Entry.format.decode "[\"[N]\", \x7b\"uppercase\": true, \"uppercase\"" = .error .mistyped := by
  decide +kernel

end SubjectMerge
