import Mathlib.Data.List.Forall2
import SubjectMerge.Proofs.Registry.Alike

/-! Recipients do not learn of one another. Two runs of one schedule whose stores differ only in the values
of other recipients stay alike in all that a recipient's own messages can depend on, and so answer that
recipient alike. -/

namespace SubjectMerge

/-- The systems differ at most in the tables parked for other recipients and in their inquiries. -/
structure System.Alike (recipient : String) (left right : System) : Prop where
  registry : Registry.Alike recipient left.registry right.registry
  underway : ∀ inquiry, inquiry.recipient = recipient → left.underway inquiry = right.underway inquiry

/-- The moves take the same step, on stores that differ at most in what they know of other recipients. -/
structure Move.Agree (recipient : String) (left right : Move) : Prop where
  step : left.step = right.step
  store : left.store.Agree recipient right.store

/-- The answers of a schedule in their order, each with the step that it answers. -/
def System.answers (policy : Policy) : System → List Move → List (Step × Answer)
  | _, [] => []
  | system, move :: rest =>
    let (answer, next) := system.step policy move
    answer.toList.map (Prod.mk move.step) ++ next.answers policy rest

/-- The answers that are the recipient's business. -/
def System.answersTo (policy : Policy) (recipient : String) (system : System) (moves : List Move) :
    List (Step × Answer) :=
  (system.answers policy moves).filter fun answered => answered.1.concerns recipient

namespace System

variable {recipient : String} {left right : System}

theorem Alike.advance (h : Alike recipient left right) (inquiry : Inquiry) (stage : Option Stage) :
    Alike recipient (left.advance inquiry stage) (right.advance inquiry stage) where
  registry := h.registry
  underway other hother := by
    simp only [System.advance]
    split
    · rfl
    · exact h.underway other hother

/-- Another recipient's inquiry is not seen. -/
theorem alike_advance_other (system : System) {inquiry : Inquiry} (hne : inquiry.recipient ≠ recipient)
    (stage : Option Stage) : Alike recipient (system.advance inquiry stage) system where
  registry := Registry.Alike.refl _
  underway other hother := by
    have : other ≠ inquiry := by
      rintro rfl
      exact hne hother
    simp [System.advance, this]

theorem Alike.snapshot (h : Alike recipient left right) {inquiry : Inquiry}
    (hself : inquiry.recipient = recipient) :
    (left.snapshot inquiry).1 = (right.snapshot inquiry).1 ∧
      Alike recipient (left.snapshot inquiry).2 (right.snapshot inquiry).2 := by
  unfold System.snapshot
  rw [h.underway inquiry hself, h.registry.snapshot_eq inquiry.id]
  split
  · exact ⟨rfl, h⟩
  · exact ⟨rfl, h⟩
  · split
    · exact ⟨rfl, h⟩
    · exact ⟨rfl, h.advance inquiry _⟩

theorem Alike.lookUp (h : Alike recipient left right) {s t : Store} (agree : s.Agree recipient t)
    {inquiry : Inquiry} (hself : inquiry.recipient = recipient) :
    (left.lookUp s inquiry).1 = (right.lookUp t inquiry).1 ∧
      Alike recipient (left.lookUp s inquiry).2 (right.lookUp t inquiry).2 := by
  have hresolve (table : Table) : s.resolve table inquiry.recipient = t.resolve table inquiry.recipient := by
    rw [hself, Store.resolve, Store.resolve, agree.lookUp]
  unfold System.lookUp
  rw [h.underway inquiry hself]
  split
  · next table _ =>
    rw [hresolve table]
    split
    · exact ⟨rfl, h.advance inquiry _⟩
    · exact ⟨rfl, h.advance inquiry _⟩
  · exact ⟨rfl, h⟩

theorem Alike.park (h : Alike recipient left right) {inquiry : Inquiry}
    (hself : inquiry.recipient = recipient) :
    (left.park inquiry).1 = (right.park inquiry).1 ∧
      Alike recipient (left.park inquiry).2 (right.park inquiry).2 := by
  unfold System.park
  rw [h.underway inquiry hself]
  split
  · next bound _ =>
    have hparked : Registry.Alike recipient (left.registry.park inquiry.id inquiry.recipient bound)
        (right.registry.park inquiry.id inquiry.recipient bound) := by
      rw [hself]
      exact h.registry.park inquiry.id bound
    have halike : Alike recipient ⟨_, left.underway⟩ ⟨_, right.underway⟩ := ⟨hparked, h.underway⟩
    exact ⟨rfl, halike.advance inquiry none⟩
  · exact ⟨rfl, h⟩

theorem Alike.trans {middle : System} (h : Alike recipient left middle)
    (h' : Alike recipient middle right) : Alike recipient left right where
  registry id := (h.registry id).trans (h'.registry id)
  underway inquiry hself := (h.underway inquiry hself).trans (h'.underway inquiry hself)

theorem Alike.symm (h : Alike recipient left right) : Alike recipient right left where
  registry id := (h.registry id).symm
  underway inquiry hself := (h.underway inquiry hself).symm

theorem Alike.refl (system : System) : Alike recipient system system :=
  ⟨Registry.Alike.refl _, fun _ _ => rfl⟩

/-- No step of another recipient's inquiry is seen. -/
theorem alike_step_other (policy : Policy) (system : System) (move : Move)
    (hwhole : move.step.operation? = none) (hother : move.step.concerns recipient = false) :
    Alike recipient (system.step policy move).2 system := by
  obtain ⟨store, step⟩ := move
  cases step with
  | start id subject => cases hwhole
  | finish id => cases hwhole
  | finalize id message => cases hwhole
  | summary id => cases hwhole
  | snapshot inquiry =>
    have hne : inquiry.recipient ≠ recipient := by simpa [Step.concerns] using hother
    simp only [System.step, System.snapshot]
    split
    · exact Alike.refl system
    · exact Alike.refl system
    · split
      · exact Alike.refl system
      · exact alike_advance_other system hne _
  | lookUp inquiry =>
    have hne : inquiry.recipient ≠ recipient := by simpa [Step.concerns] using hother
    simp only [System.step, System.lookUp]
    split
    · split
      · exact alike_advance_other system hne _
      · exact alike_advance_other system hne _
    · exact Alike.refl system
  | park inquiry =>
    have hne : inquiry.recipient ≠ recipient := by simpa [Step.concerns] using hother
    simp only [System.step, System.park]
    split
    · next bound _ =>
      refine (alike_advance_other _ hne none).trans ⟨?_, fun _ _ => rfl⟩
      exact Registry.alike_park_other system.registry inquiry.id (Ne.symm hne) bound
    · exact Alike.refl system

/-- A step of an inquiry in two systems that are alike. -/
theorem Alike.step_inquiry (h : Alike recipient left right) (policy : Policy) {s t : Store}
    (agree : s.Agree recipient t) {step : Step} (hwhole : step.operation? = none) :
    (step.concerns recipient → (left.step policy ⟨s, step⟩).1 = (right.step policy ⟨t, step⟩).1) ∧
      Alike recipient (left.step policy ⟨s, step⟩).2 (right.step policy ⟨t, step⟩).2 := by
  cases hconcerns : step.concerns recipient with
  | false =>
    have hleft := alike_step_other policy left ⟨s, step⟩ hwhole hconcerns
    have hright := alike_step_other policy right ⟨t, step⟩ hwhole hconcerns
    refine ⟨?_, (hleft.trans h).trans hright.symm⟩
    intro hfalse
    cases hfalse
  | true =>
    cases step with
    | start id subject => cases hwhole
    | finish id => cases hwhole
    | finalize id message => cases hwhole
    | summary id => cases hwhole
    | snapshot inquiry =>
      have hself : inquiry.recipient = recipient := by simpa [Step.concerns] using hconcerns
      obtain ⟨hanswer, hafter⟩ := h.snapshot hself
      exact ⟨fun _ => hanswer, hafter⟩
    | lookUp inquiry =>
      have hself : inquiry.recipient = recipient := by simpa [Step.concerns] using hconcerns
      obtain ⟨hanswer, hafter⟩ := h.lookUp agree hself
      exact ⟨fun _ => hanswer, hafter⟩
    | park inquiry =>
      have hself : inquiry.recipient = recipient := by simpa [Step.concerns] using hconcerns
      obtain ⟨hanswer, hafter⟩ := h.park hself
      exact ⟨fun _ => hanswer, hafter⟩

/-- One step in two systems that are alike. -/
theorem Alike.step (h : Alike recipient left right) (policy : Policy) {m n : Move}
    (agree : m.Agree recipient n) :
    (m.step.concerns recipient → (left.step policy m).1 = (right.step policy n).1) ∧
      Alike recipient (left.step policy m).2 (right.step policy n).2 := by
  obtain ⟨s, step⟩ := m
  obtain ⟨t, _⟩ := n
  obtain ⟨rfl, hstore⟩ := agree
  cases hwhole : step.operation? with
  | none => exact h.step_inquiry policy hstore hwhole
  | some operation =>
    obtain ⟨hanswer, hregistry⟩ := h.registry.perform policy hstore hwhole
    rw [step_whole policy left s hwhole, step_whole policy right t hwhole]
    exact ⟨fun hconcerns => congrArg some (hanswer hconcerns), hregistry, h.underway⟩

theorem answersTo_cons (policy : Policy) (system : System) (move : Move) (rest : List Move) :
    system.answersTo policy recipient (move :: rest) =
      (if move.step.concerns recipient then (system.step policy move).1.toList.map (Prod.mk move.step)
        else []) ++ (system.step policy move).2.answersTo policy recipient rest := by
  unfold answersTo
  rw [answers, List.filter_append]
  congr 1
  cases (system.step policy move).1 with
  | none => simp
  | some answer => cases h : move.step.concerns recipient <;> simp [h]

/-- Whole schedules from two systems that are alike. -/
theorem Alike.run (h : Alike recipient left right) (policy : Policy) {moves moves' : List Move}
    (agree : List.Forall₂ (Move.Agree recipient) moves moves') :
    left.answersTo policy recipient moves = right.answersTo policy recipient moves' ∧
      Alike recipient (left.run policy moves) (right.run policy moves') := by
  induction agree generalizing left right with
  | nil => exact ⟨rfl, h⟩
  | @cons move move' rest rest' hmove _ ih =>
    obtain ⟨hanswer, hafter⟩ := h.step policy hmove
    obtain ⟨hrest, hreached⟩ := ih hafter
    refine ⟨?_, hreached⟩
    rw [answersTo_cons, answersTo_cons, hrest, ← hmove.step]
    split
    · next hconcerns => rw [hanswer hconcerns]
    · rfl

end System

/-- Whatever a schedule does, and whatever the store knows of other recipients or fails to find out, a
recipient is answered alike and every campaign looks alike. -/
theorem answersTo_eq_of_agree (policy : Policy) (recipient : String) {moves moves' : List Move}
    (agree : List.Forall₂ (Move.Agree recipient) moves moves') :
    System.initial.answersTo policy recipient moves = System.initial.answersTo policy recipient moves' ∧
      ∀ id, (System.reached policy moves).registry.summary? id =
        (System.reached policy moves').registry.summary? id := by
  have hinitial : System.Alike recipient System.initial System.initial := System.Alike.refl _
  obtain ⟨hanswers, hreached⟩ := hinitial.run policy agree
  exact ⟨hanswers, hreached.registry.summary?_eq⟩

/-- Two recipients share a campaign that is started again while one of them is looked up. -/
def shared (bob : Lookup) : List Move :=
  let annsInquiry : Inquiry := ⟨0, "c1", "ann"⟩
  let bobsInquiry : Inquiry := ⟨0, "c1", "bob"⟩
  let store : Store := ⟨.ok ["Name"], .ok ["ann", "bob"], fun recipient =>
    if recipient = "ann" then .found (.ofList [("Name", some "Ann")]) else bob⟩
  [.start "c1" "Hi [NAME?you]", .snapshot annsInquiry, .snapshot bobsInquiry, .lookUp bobsInquiry,
    .park bobsInquiry, .finalize "c1" ⟨"bob", "Hi [NAME?you]"⟩, .start "c1" "[NAME] now",
    .lookUp annsInquiry, .park annsInquiry, .finalize "c1" ⟨"ann", "Hi [NAME?you]"⟩].map (Move.mk store)

/-- The subjects of the messages among these answers. -/
def subjects (answers : List (Step × Answer)) : List String :=
  answers.filterMap fun answered => match answered.2 with
    | .finalized (.ok message) => some message.subject
    | _ => none

/-- Whether bob is found makes a difference to bob and none to ann. -/
theorem answersTo_shared :
    let found := shared (.found (.ofList [("Name", some "Bob")]))
    let offline := shared (.failed (.unavailable "offline"))
    (System.initial.answersTo .failOpen "ann" found = System.initial.answersTo .failOpen "ann" offline ∧
      ∀ id, (System.reached .failOpen found).registry.summary? id =
        (System.reached .failOpen offline).registry.summary? id) ∧
    subjects (System.initial.answersTo .failOpen "bob" found) = ["Hi Bob"] ∧
      subjects (System.initial.answersTo .failOpen "bob" offline) = ["Hi you"] := by
  refine ⟨answersTo_eq_of_agree .failOpen "ann" ?_, by decide, by decide⟩
  rw [shared, shared, List.forall₂_map_left_iff, List.forall₂_map_right_iff, List.forall₂_same]
  intro step _
  exact ⟨rfl, rfl, rfl⟩

end SubjectMerge
