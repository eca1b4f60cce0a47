import SubjectMerge.Proofs.Registry.Alike
import SubjectMerge.Proofs.Registry.Effect

/-! What a step depends on. A start or an end concerns its campaign as a whole, a summary what all of the
campaign's recipients share, and every other step the campaign and one recipient. Systems that agree so far
answer the step alike and agree afterwards, and they need not have run the steps that concern others. -/

namespace SubjectMerge

namespace Step

/-- The campaign that a step is about. -/
def id : Step → String
  | .start id _ | .finish id | .finalize id _ | .summary id => id
  | .snapshot inquiry | .lookUp inquiry | .park inquiry => inquiry.id

/-- The recipient that a step is about, if there is one. -/
def recipient? : Step → Option String
  | .start _ _ | .finish _ | .summary _ => none
  | .finalize _ message => some message.recipientId
  | .snapshot inquiry | .lookUp inquiry | .park inquiry => some inquiry.recipient

/-- Starts and ends change a campaign for all of its recipients. -/
def replaces : Step → Bool
  | .start _ _ | .finish _ => true
  | .finalize _ _ | .summary _ | .snapshot _ | .lookUp _ | .park _ => false

/-- The step matters to this recipient of this campaign; no recipient stands for what they all share. -/
def touches (id : String) (who : Option String) (step : Step) : Bool :=
  step.id == id && (step.replaces || step.recipient? == who)

theorem touches_iff {id : String} {who : Option String} {step : Step} :
    step.touches id who ↔ step.id = id ∧ (step.replaces ∨ step.recipient? = who) := by
  simp [touches]

/-- A request that starts or ends a campaign is a step that does. -/
theorem replaces_of_whole {policy : Policy} {call : Call} {step : Step} {id : String}
    (whole : step.operation? = some call.operation) (h : call.Replaces policy id) :
    step.id = id ∧ step.replaces := by
  rcases h with ⟨subject, names, hstart, -⟩ | hfinish
  · rw [operation?_eq_start_iff.1 (whole.trans (congrArg some hstart))]
    exact ⟨rfl, rfl⟩
  · rw [operation?_eq_finish_iff.1 (whole.trans (congrArg some hfinish))]
    exact ⟨rfl, rfl⟩

end Step

/-- What a campaign is to one of its recipients; for no recipient, what it is to all of them. -/
def Campaign.seenFor (who : Option String) (c : Campaign) : Summary × Option Table :=
  (c.summary, who.bind c.parked.get?)

theorem Campaign.seenFor_of_sameCore {who : Option String} {c d : Campaign} (core : SameCore c d)
    (parked : ∀ recipient, who = some recipient → d.parked.get? recipient = c.parked.get? recipient) :
    d.seenFor who = c.seenFor who := by
  cases who with
  | none => simp [seenFor, summary, core.id, core.subject, core.table]
  | some recipient => exact seenBy_of_sameCore core (parked recipient rfl)

namespace System

/-- The systems are the same to this recipient of this campaign. -/
structure AgreeAt (id : String) (who : Option String) (left right : System) : Prop where
  campaign : (left.registry.get? id).map (Campaign.seenFor who) =
    (right.registry.get? id).map (Campaign.seenFor who)
  underway : ∀ inquiry, inquiry.id = id → some inquiry.recipient = who →
    left.underway inquiry = right.underway inquiry

variable {id : String} {who : Option String} {left middle right : System}

theorem AgreeAt.refl (system : System) : AgreeAt id who system system := ⟨rfl, fun _ _ _ => rfl⟩

theorem AgreeAt.symm (h : AgreeAt id who left right) : AgreeAt id who right left where
  campaign := h.campaign.symm
  underway inquiry hid hwho := (h.underway inquiry hid hwho).symm

theorem AgreeAt.trans (h : AgreeAt id who left middle) (h' : AgreeAt id who middle right) :
    AgreeAt id who left right where
  campaign := h.campaign.trans h'.campaign
  underway inquiry hid hwho := (h.underway inquiry hid hwho).trans (h'.underway inquiry hid hwho)

theorem AgreeAt.cases (h : AgreeAt id who left right) :
    (left.registry.get? id = none ∧ right.registry.get? id = none) ∨
      ∃ c d, left.registry.get? id = some c ∧ right.registry.get? id = some d ∧
        c.seenFor who = d.seenFor who := by
  have hid := h.campaign
  cases hleft : left.registry.get? id with
  | none =>
    rw [hleft] at hid
    exact Or.inl ⟨rfl, Option.map_eq_none_iff.1 hid.symm⟩
  | some c =>
    rw [hleft] at hid
    obtain ⟨d, hd, hseen⟩ := Option.map_eq_some_iff.1 hid.symm
    exact Or.inr ⟨c, d, rfl, hd, hseen.symm⟩

section Aside

variable (policy : Policy) (system : System) (move : Move)

/-- A step changes its own campaign only, and there nothing but what is its recipient's. -/
theorem campaign_step_aside (aside : ¬ move.step.touches id who) :
    ((system.step policy move).2.registry.get? id).map (Campaign.seenFor who) =
      (system.registry.get? id).map (Campaign.seenFor who) := by
  cases system.change_step policy move with
  | same inquiries unchanged => rw [unchanged]
  | parked inquiry bound step held park =>
    rw [park, Registry.get?_park]
    split
    · next hid =>
      subst hid
      cases system.registry.get? inquiry.id with
      | none => rfl
      | some c =>
        refine congrArg some (Campaign.seenFor_of_sameCore (c.sameCore_park inquiry.recipient bound) ?_)
        rintro recipient rfl
        have hne : recipient ≠ inquiry.recipient := by
          rintro rfl
          exact aside (Step.touches_iff.2 (by simp [step, Step.id, Step.recipient?]))
        simp [Campaign.get?_parked_park, hne]
    · rfl
  | called operation whole performed =>
    rw [performed]
    have touched (h : (Call.mk move.store operation).Replaces policy id) : move.step.touches id who := by
      obtain ⟨hid, hreplaces⟩ := Step.replaces_of_whole whole h
      exact Step.touches_iff.2 ⟨hid, Or.inl hreplaces⟩
    cases effect_perform policy system.registry id ⟨move.store, operation⟩ with
    | started subject names starts opened => exact absurd (touched (Or.inl ⟨subject, names, starts⟩)) aside
    | ended finishes gone => exact absurd (touched (Or.inr finishes)) aside
    | passed stays passes =>
      generalize system.registry.get? id = before at passes ⊢
      generalize (system.registry.perform policy _).registry.get? id = after at passes ⊢
      cases passes with
      | none => rfl
      | @some c d passes =>
        refine congrArg some (Campaign.seenFor_of_sameCore passes.core ?_)
        rintro recipient rfl
        refine passes.kept recipient ?_ ?_
        · rintro bound ⟨hop, -⟩
          exact Step.operation?_ne_eligible _ _ _ (whole.trans (congrArg some hop))
        · rintro ⟨text, hop⟩
          have hstep := Step.operation?_eq_finalize_iff.1 (whole.trans (congrArg some hop))
          exact absurd (Step.touches_iff.2 (by simp [hstep, Step.id, Step.recipient?])) aside

/-- A step that concerns others is not noticed. -/
theorem agreeAt_step_aside (aside : ¬ move.step.touches id who) :
    AgreeAt id who (system.step policy move).2 system where
  campaign := campaign_step_aside policy system move aside
  underway := by
    rintro inquiry rfl rfl
    have own (h : Belongs inquiry move.step) : move.step.touches inquiry.id (some inquiry.recipient) := by
      rcases h with h | h | h <;> simp [h, Step.touches, Step.id, Step.recipient?]
    cases system.turn_step policy move inquiry with
    | stands same => exact same
    | opens table step free found tokens copied => exact absurd (own (Or.inl step)) aside
    | binds table bound step copied resolved holds => exact absurd (own (Or.inr (Or.inl step))) aside
    | ends step gone => exact absurd (own (Or.inr step)) aside

end Aside

section Touching

variable (policy : Policy) (store : Store)

/-- A request in two systems that agree on what it touches. -/
theorem AgreeAt.perform (h : AgreeAt id who left right) {step : Step} {operation : Operation}
    (whole : step.operation? = some operation) (touches : step.touches id who) :
    (left.perform policy ⟨store, operation⟩).1 = (right.perform policy ⟨store, operation⟩).1 ∧
      AgreeAt id who (left.perform policy ⟨store, operation⟩).2
        (right.perform policy ⟨store, operation⟩).2 := by
  obtain ⟨hid, hwho⟩ := Step.touches_iff.1 touches
  cases step with
  | start other subject =>
    cases whole
    have hid : other = id := hid
    subst hid
    simp only [System.perform, Registry.perform, Registry.start_eq]
    cases Campaign.directory policy store with
    | error e => exact ⟨rfl, h⟩
    | ok names => exact ⟨rfl, by simp [Keyed.get?_insert], h.underway⟩
  | finish other =>
    cases whole
    have hid : other = id := hid
    subst hid
    simp only [System.perform, Registry.perform, Registry.finish_eq]
    rcases h.cases with ⟨hl, hr⟩ | ⟨c, d, hl, hr, -⟩
    · rw [hl, hr]
      exact ⟨rfl, h⟩
    · rw [hl, hr]
      exact ⟨rfl, by simp [Keyed.get?_erase], h.underway⟩
  | finalize other message =>
    cases whole
    have hid : other = id := hid
    subst hid
    obtain ⟨recipient, text⟩ := message
    obtain rfl : some recipient = who := by simpa [Step.replaces, Step.recipient?] using hwho
    simp only [System.perform, Registry.perform, Registry.finalize_eq]
    rcases h.cases with ⟨hl, hr⟩ | ⟨c, d, hl, hr, hseen⟩
    · rw [hl, hr]
      exact ⟨rfl, h⟩
    · rw [hl, hr]
      obtain ⟨hmessage, hafter⟩ := Campaign.finalize_self hseen text
      refine ⟨congrArg (fun after => some (Answer.finalized (.ok after))) hmessage, ?_, h.underway⟩
      simp only [Keyed.get?_insert, if_true, Option.map_some]
      exact congrArg some hafter
  | summary other =>
    cases whole
    have hid : other = id := hid
    subst hid
    refine ⟨?_, h⟩
    simp only [System.perform, Registry.perform, Registry.summary?]
    rcases h.cases with ⟨hl, hr⟩ | ⟨c, d, hl, hr, hseen⟩
    · rw [hl, hr]
    · have hsummary : c.summary = d.summary := congrArg Prod.fst hseen
      rw [hl, hr, Option.map_some, Option.map_some, hsummary]
  | snapshot inquiry => cases whole
  | lookUp inquiry => cases whole
  | park inquiry => cases whole

theorem AgreeAt.advance (h : AgreeAt id who left right) (inquiry : Inquiry) (stage : Option Stage) :
    AgreeAt id who (left.advance inquiry stage) (right.advance inquiry stage) where
  campaign := h.campaign
  underway other hid hwho := by
    simp only [System.advance]
    split
    · rfl
    · exact h.underway other hid hwho

variable {inquiry : Inquiry}

theorem AgreeAt.snapshot (h : AgreeAt inquiry.id (some inquiry.recipient) left right) :
    (left.snapshot inquiry).1 = (right.snapshot inquiry).1 ∧
      AgreeAt inquiry.id (some inquiry.recipient) (left.snapshot inquiry).2 (right.snapshot inquiry).2 := by
  have hfound : left.registry.snapshot inquiry.id = right.registry.snapshot inquiry.id := by
    rw [Registry.snapshot_eq, Registry.snapshot_eq]
    rcases h.cases with ⟨hl, hr⟩ | ⟨c, d, hl, hr, hseen⟩
    · rw [hl, hr]
    · have htable : c.table = d.table := Campaign.table_eq_of_seenBy hseen
      simp only [hl, hr, htable]
  unfold System.snapshot
  rw [h.underway inquiry rfl rfl, hfound]
  split
  · exact ⟨rfl, h⟩
  · exact ⟨rfl, h⟩
  · split
    · exact ⟨rfl, h⟩
    · exact ⟨rfl, h.advance inquiry _⟩

theorem AgreeAt.lookUp (h : AgreeAt inquiry.id (some inquiry.recipient) left right) :
    (left.lookUp store inquiry).1 = (right.lookUp store inquiry).1 ∧
      AgreeAt inquiry.id (some inquiry.recipient) (left.lookUp store inquiry).2
        (right.lookUp store inquiry).2 := by
  unfold System.lookUp
  rw [h.underway inquiry rfl rfl]
  split
  · split
    · exact ⟨rfl, h.advance inquiry _⟩
    · exact ⟨rfl, h.advance inquiry _⟩
  · exact ⟨rfl, h⟩

theorem AgreeAt.park (h : AgreeAt inquiry.id (some inquiry.recipient) left right) :
    (left.park inquiry).1 = (right.park inquiry).1 ∧
      AgreeAt inquiry.id (some inquiry.recipient) (left.park inquiry).2 (right.park inquiry).2 := by
  unfold System.park
  rw [h.underway inquiry rfl rfl]
  split
  · next bound _ =>
    have hparked : AgreeAt inquiry.id (some inquiry.recipient)
        ⟨left.registry.park inquiry.id inquiry.recipient bound, left.underway⟩
        ⟨right.registry.park inquiry.id inquiry.recipient bound, right.underway⟩ := by
      refine ⟨?_, h.underway⟩
      simp only [Registry.get?_park, if_true, Option.map_map]
      rcases h.cases with ⟨hl, hr⟩ | ⟨c, d, hl, hr, hseen⟩
      · rw [hl, hr]
      · rw [hl, hr]
        exact congrArg some (Campaign.seenBy_park_self hseen bound)
    exact ⟨rfl, hparked.advance inquiry none⟩
  · exact ⟨rfl, h⟩

/-- One step in two systems that agree on what it touches. -/
theorem AgreeAt.step (h : AgreeAt id who left right) {step : Step} (touches : step.touches id who) :
    (left.step policy ⟨store, step⟩).1 = (right.step policy ⟨store, step⟩).1 ∧
      AgreeAt id who (left.step policy ⟨store, step⟩).2 (right.step policy ⟨store, step⟩).2 := by
  cases whole : step.operation? with
  | some operation =>
    rw [step_whole policy left store whole, step_whole policy right store whole]
    exact h.perform policy store whole touches
  | none =>
    obtain ⟨hid, hwho⟩ := Step.touches_iff.1 touches
    cases step with
    | start other subject => cases whole
    | finish other => cases whole
    | finalize other message => cases whole
    | summary other => cases whole
    | snapshot inquiry =>
      obtain rfl : inquiry.id = id := hid
      obtain rfl : some inquiry.recipient = who := by simpa [Step.replaces, Step.recipient?] using hwho
      exact h.snapshot
    | lookUp inquiry =>
      obtain rfl : inquiry.id = id := hid
      obtain rfl : some inquiry.recipient = who := by simpa [Step.replaces, Step.recipient?] using hwho
      exact h.lookUp store
    | park inquiry =>
      obtain rfl : inquiry.id = id := hid
      obtain rfl : some inquiry.recipient = who := by simpa [Step.replaces, Step.recipient?] using hwho
      exact h.park

end Touching

end System

end SubjectMerge
