import SubjectMerge.Proofs.Preview.Course
import SubjectMerge.Proofs.Wire.Lenient
import SubjectMerge.Service

/-! What is sent is read back. Every format reads what it writes, whatever the texts in it hold, so that no
quote, control character or missing field is lost between the two ends. The rows of a preview travel twice
packed, as a text inside the status of their job, and come out as they went in. -/

namespace SubjectMerge

open Json (Fault Reads Texts Value)

variable {α : Type}

/-- Decoding undoes encoding. -/
def Format.RoundTrips (format : Format α) : Prop := ∀ a, format.decode (format.encode a) = .ok a

/-- What is written is read as a value that means the same, whatever stands behind it. -/
def Format.Faithful (format : Format α) : Prop :=
  ∀ a, ∃ v, Reads format.read (format.toValue a).chars v ∧ format.ofValue? v = some a

theorem Format.Faithful.roundTrips {format : Format α} (h : format.Faithful) : format.RoundTrips := by
  intro a
  obtain ⟨v, reads, meant⟩ := h a
  simp only [decode, encode, reads.readWhole_eq, bind, Except.bind, meant]

theorem Format.Follows.faithful {format : Format α} {texts : Texts α} {value : α → Value}
    (h : format.Follows texts value) : format.Faithful :=
  fun a => ⟨value a, (h.takes a).reads _ (h.written a), h.meant a⟩

/-! Each format. -/

theorem Format.faithful_text : Format.text.Faithful := Follows.text.faithful

/-- A binding without a value leaves that field out, and reading it puts a missing value there. -/
theorem Binding.faithful : Binding.format.Faithful := follows.faithful

theorem Entry.faithful : Entry.format.Faithful := follows.faithful

theorem Table.faithful : Table.format.Faithful := follows.faithful

theorem Message.faithful : Message.format.Faithful := follows.faithful

theorem Message.faithful_list : (Format.list Message.format).Faithful := follows.list.faithful

theorem Summary.faithful : Summary.format.Faithful := follows.faithful

theorem StartRequest.faithful : StartRequest.format.Faithful := follows.faithful

theorem StartResponse.faithful : StartResponse.format.Faithful := follows.faithful

theorem EligibilityResponse.faithful : EligibilityResponse.format.Faithful := follows.faithful

theorem Json.reads_text (s : String) : Reads readText (Value.text s).chars (.text s) :=
  (takes_text s).reads _ (Texts.text_written s)

/-- A status with something that comes with it is read by the reader that its name calls for. -/
theorem JobStatus.reads_object {name : String} {read : Json.Reader Value} (called : content? name = some read)
    {v w : Value} (reads : Reads read v.chars w) :
    Reads JobStatus.read (Value.object [(name, v)]).chars (.object [(name, w)]) := by
  intro rest _
  have hvalue := reads ('}' :: rest) (Json.endsNumber_cons (by decide) rest)
  rw [Value.chars, Value.memberChars, Json.writeText, JobStatus.read]
  simp [Json.skipSpace_cons, Json.isSpace, Json.stringRest_flatMap_escapeChar, called, Json.colon, hvalue, bind,
    Except.bind]

theorem JobStatus.faithful : JobStatus.format.Faithful := by
  intro status
  cases status with
  | pending =>
    refine ⟨.object [("Pending", .null)], fun rest _ => ?_, rfl⟩
    have hname := Json.stringRest_flatMap_escapeChar "Pending" rest
    simp only [format, read, Value.chars, Json.writeText, List.cons_append, List.append_assoc, List.nil_append,
      Json.skipSpace_cons (c := '"') (by decide), hname, bind, Except.bind, if_true]
  | inProgress percent => exact ⟨_, reads_object rfl (Json.reads_uint32 percent), rfl⟩
  | completed result => exact ⟨_, reads_object rfl (Json.reads_text result), rfl⟩
  | failed reason => exact ⟨_, reads_object rfl (Json.reads_text reason), rfl⟩

/-! The rows of a preview. -/

/-- A client that asks about a job finds a completed status in the answer, and these rows in its text. -/
def Http.Response.Holds (response : Http.Response) (messages : List Message) : Prop :=
  ∃ body result, response = ⟨200, .json body⟩ ∧ JobStatus.format.decode body = .ok (.completed result) ∧
    (Format.list Message.format).decode result = .ok messages

theorem Service.holds_jobStatus {service : Service} {job : String} {messages : List Message}
    (shown : service.board.get? job = some (PreviewOutcome.rows messages).status) :
    (service.jobStatus job).response.Holds messages := by
  refine ⟨_, _, ?_, JobStatus.faithful.roundTrips _, Message.faithful_list.roundTrips messages⟩
  rw [jobStatus, shown]
  rfl

/-- A last status is shown only of a job that has come to what it tells. -/
theorem Jobs.concluded_of_final {events : List Event} {job : String} {status : JobStatus}
    (shown : (reached events).board.get? job = some status) (final : status.isFinal) :
    ∃ task outcome, (reached events).tasks job = some task ∧ task.phase = .concluded outcome ∧
      outcome.status = status := by
  have hlast := (tracked events job).board.symm.trans shown
  have written : status ∈ history job events := List.mem_of_getLast? hlast
  cases found : (reached events).tasks job with
  | none =>
    rw [((tracked events job).unknown found).1] at written
    cases written
  | some task =>
    obtain ⟨percents, kept⟩ := (tracked events job).known task found
    have told : status ∈ JobStatus.pending :: percents.map .inProgress ++ task.verdict.toList :=
      kept.stream ▸ List.mem_append_left _ (List.mem_append_left _ written)
    -- neither the first status nor a percentage is a last one
    have verdict : task.verdict = some status := by
      rcases List.mem_append.1 told with hopen | hverdict
      · rcases List.mem_cons.1 hopen with rfl | hpercent
        · cases final
        · obtain ⟨percent, -, rfl⟩ := List.mem_map.1 hpercent
          cases final
      · exact Option.mem_toList.1 hverdict
    unfold Task.verdict at verdict
    split at verdict
    · next outcome phase => exact ⟨task, outcome, rfl, phase, Option.some.inj verdict⟩
    · cases verdict

theorem Service.rows_of_completed {events : List Jobs.Event} {service : Service} {job body result : String}
    (board : service.board = (Jobs.reached events).board)
    (answered : (service.jobStatus job).response = ⟨200, .json body⟩)
    (read : JobStatus.format.decode body = .ok (.completed result)) :
    ∃ task messages, (Jobs.reached events).tasks job = some task ∧ task.phase = .concluded (.rows messages) ∧
      (Format.list Message.format).decode result = .ok messages := by
  unfold jobStatus at answered
  split at answered
  · cases answered
  · next status shown =>
    obtain rfl : JobStatus.format.encode status = body := by
      injection answered with _ answered
      injection answered
    obtain rfl : status = .completed result :=
      Except.ok.inj ((JobStatus.faithful.roundTrips status).symm.trans read)
    obtain ⟨task, outcome, found, phase, told⟩ := Jobs.concluded_of_final (board ▸ shown) rfl
    cases outcome with
    | rows messages =>
      obtain rfl := JobStatus.completed.inj told
      exact ⟨task, messages, found, phase, Message.faithful_list.roundTrips messages⟩
    | unlisted e => cases told
    | crashed words => cases told

/-- Everything sent is read back as it was. -/
structure Wire.Lossless : Prop where
  token : Format.text.RoundTrips
  binding : Binding.format.RoundTrips
  entry : Entry.format.RoundTrips
  table : Table.format.RoundTrips
  /-- An outgoing message, or a row of a preview. -/
  message : Message.format.RoundTrips
  jobStatus : JobStatus.format.RoundTrips
  startRequest : StartRequest.format.RoundTrips
  startResponse : StartResponse.format.RoundTrips
  eligibility : EligibilityResponse.format.RoundTrips
  summary : Summary.format.RoundTrips
  /-- The rows of a job can be had from the service. -/
  held : ∀ (service : Service) (job : String) (messages : List Message),
    service.board.get? job = some (PreviewOutcome.rows messages).status →
    (service.jobStatus job).response.Holds messages
  /-- Whoever reads a completed status, and then its text, has the rows that the job has come to. -/
  completed : ∀ (events : List Jobs.Event) (service : Service) (job body result : String),
    service.board = (Jobs.reached events).board → (service.jobStatus job).response = ⟨200, .json body⟩ →
    JobStatus.format.decode body = .ok (.completed result) →
    ∃ task messages, (Jobs.reached events).tasks job = some task ∧ task.phase = .concluded (.rows messages) ∧
      (Format.list Message.format).decode result = .ok messages

theorem Wire.lossless : Lossless where
  token := Format.faithful_text.roundTrips
  binding := Binding.faithful.roundTrips
  entry := Entry.faithful.roundTrips
  table := Table.faithful.roundTrips
  message := Message.faithful.roundTrips
  jobStatus := JobStatus.faithful.roundTrips
  startRequest := StartRequest.faithful.roundTrips
  startResponse := StartResponse.faithful.roundTrips
  eligibility := EligibilityResponse.faithful.roundTrips
  summary := Summary.faithful.roundTrips
  held _ _ _ := Service.holds_jobStatus
  completed _ _ _ _ _ := Service.rows_of_completed

example : Binding.format.decode (Binding.format.encode ⟨"N\"\n", some "\u0001😀\\", true, none⟩) =
    .ok ⟨"N\"\n", some "\u0001😀\\", true, none⟩ := by
  decide +kernel

end SubjectMerge
