import SubjectMerge.Proofs.Registry.Inquiry
import SubjectMerge.Store.Scripted

/-! Whose placeholders a parked table has. An inquiry parks in whatever campaign runs under its id by then,
so a campaign that was started again during the lookup is given the placeholders of the one before it. This
is the only way a parked table can differ from its campaign's own in more than values. -/

namespace SubjectMerge

/-- Every parked table has the tokens of its campaign's own table, in order and with the same attributes,
fallbacks and markers. -/
def Registry.Own (registry : Registry) : Prop :=
  ∀ id c recipient bound, registry.get? id = some c → c.parked.get? recipient = some bound →
    bound.shape = c.table.shape

section Own

variable (policy : Policy) (moves : List Move)

/-- No inquiry parks in a campaign that has other placeholders than the table it copied. -/
def Undisturbed : Prop :=
  ∀ before store inquiry after, moves = before ++ ⟨store, .park inquiry⟩ :: after →
    (∃ bound, (System.reached policy before).underway inquiry = some (.bound bound)) →
    ∀ copied current, Holds policy inquiry copied before →
      tableAt policy inquiry.id before = some current → copied.shape = current.shape

/-- No campaign is started again while an inquiry of it is under way to its park. -/
def Unrestarted : Prop :=
  ∀ before store inquiry after, moves = before ++ ⟨store, .park inquiry⟩ :: after →
    ∀ copied, Holds policy inquiry copied before → HoldsCurrent policy inquiry copied before

variable {policy moves}

theorem own_park {registry : Registry} (own : registry.Own) {id recipient : String} {bound : Table}
    (h : ∀ c, registry.get? id = some c → bound.shape = c.table.shape) :
    (registry.park id recipient bound).Own := by
  intro other d name table hd htable
  rw [Registry.get?_park] at hd
  split at hd
  · next hid =>
    subst hid
    obtain ⟨c, hc, rfl⟩ := Option.map_eq_some_iff.1 hd
    rw [Campaign.get?_parked_park] at htable
    split at htable
    · cases htable
      exact h c hc
    · exact own other c name table hc htable
  · exact own other d name table hd htable

theorem own_perform {registry : Registry} (own : registry.Own) {call : Call}
    (whole : ∀ id recipient, call.operation ≠ .eligible id recipient) :
    (registry.perform policy call).registry.Own := by
  intro id d recipient bound hd hbound
  rcases (effect_perform policy registry id call).of_running hd with
    ⟨subject, names, -, rfl⟩ | ⟨-, c, hc, passes⟩
  · cases hbound
  · rw [passes.core.table]
    exact own id c recipient bound hc (passes.parked_of_parked (whole id) hbound)

/-- Only the park of an inquiry can make a registry lose the property. -/
theorem own_step {system : System} (own : system.registry.Own) {move : Move}
    (h : ∀ inquiry bound c, move.step = .park inquiry → system.underway inquiry = some (.bound bound) →
      system.registry.get? inquiry.id = some c → bound.shape = c.table.shape) :
    (system.step policy move).2.registry.Own := by
  cases system.change_step policy move with
  | called operation whole performed =>
    rw [performed]
    refine own_perform own ?_
    intro id recipient heligible
    exact move.step.operation?_ne_eligible id recipient (whole.trans (congrArg some heligible))
  | parked inquiry bound step held park =>
    rw [park]
    exact own_park own fun c hc => h inquiry bound c step held hc
  | same inquiries unchanged =>
    rw [unchanged]
    exact own

theorem own_of_undisturbed (h : Undisturbed policy moves) {part : List Move} (hpart : part <+: moves) :
    (System.reached policy part).registry.Own := by
  induction part using List.reverseRecOn with
  | nil =>
    intro id c recipient bound hc
    cases hc
  | append_singleton part move ih =>
    rw [System.reached_concat]
    refine own_step (ih ((List.prefix_append part [move]).trans hpart)) ?_
    intro inquiry bound c hstep hheld hc
    obtain ⟨rest, hrest⟩ := hpart
    obtain ⟨store, step⟩ := move
    cases hstep
    obtain ⟨copied, hcopied⟩ := exists_holds hheld
    obtain ⟨stage, hstage, hshape⟩ := stage_of_holds hcopied
    rw [hheld] at hstage
    cases hstage
    have hcurrent : tableAt policy inquiry.id part = some c.table := by simp [tableAt, hc]
    exact hshape.trans
      (h part store inquiry rest (by simp [← hrest]) ⟨bound, hheld⟩ copied c.table hcopied hcurrent)

theorem undisturbed_of_own (h : ∀ part, part <+: moves → (System.reached policy part).registry.Own) :
    Undisturbed policy moves := by
  rintro before store inquiry after rfl ⟨bound, hheld⟩ copied current hcopied hcurrent
  obtain ⟨stage, hstage, hshape⟩ := stage_of_holds hcopied
  rw [hheld] at hstage
  cases hstage
  obtain ⟨c, hc, rfl⟩ := Option.map_eq_some_iff.1 hcurrent
  have own := h (before ++ [⟨store, .park inquiry⟩]) (by simp)
  rw [System.reached_concat] at own
  have hparked : ((System.reached policy before).step policy ⟨store, .park inquiry⟩).2.registry =
      (System.reached policy before).registry.park inquiry.id inquiry.recipient bound := by
    simp [System.step, System.park, hheld, System.advance]
  rw [hparked] at own
  have hbound := own inquiry.id (c.park inquiry.recipient bound) inquiry.recipient bound
    (by simp [Registry.get?_park, hc]) (by simp [Campaign.get?_parked_park])
  exact hshape.symm.trans hbound

theorem undisturbed_of_unrestarted (h : Unrestarted policy moves) : Undisturbed policy moves := by
  intro before store inquiry after hmoves _ copied current hcopied hcurrent
  rw [tableAt_of_holdsCurrent (h before store inquiry after hmoves copied hcopied) hcurrent]

end Own

/-- Parked tables have their campaigns' own placeholders, all along a schedule, exactly when no inquiry
parks in a campaign with other placeholders than it copied; it never does when its campaign is not started
again before it parks. -/
theorem own_reached_iff (policy : Policy) (moves : List Move) :
    ((∀ part, part <+: moves → (System.reached policy part).registry.Own) ↔ Undisturbed policy moves) ∧
      (Unrestarted policy moves → Undisturbed policy moves) :=
  ⟨⟨undisturbed_of_own, fun h _ hpart => own_of_undisturbed h hpart⟩, undisturbed_of_unrestarted⟩

/-- A recipient is looked up for one campaign and parked in the next one under its id. -/
def overtaken : List Move :=
  let store := ScriptedStore.store
    { names := ["Name"], recipients := .ofList [("ann", .ofList [("Name", some "Ann")])] }
  let inquiry : Inquiry := ⟨0, "c1", "ann"⟩
  [.start "c1" "Hi [NAME?you]", .snapshot inquiry, .start "c1" "[NAME] now", .lookUp inquiry,
    .park inquiry].map (Move.mk store)

theorem not_own_overtaken : ¬ (System.reached .failOpen overtaken).registry.Own := by
  intro own
  exact absurd (own "c1" _ "ann" _ rfl rfl) (by decide)

end SubjectMerge
