import SubjectMerge.Proofs.Registry.Captured
import SubjectMerge.Proofs.Registry.Locality
import SubjectMerge.Proofs.Store.Contents
import SubjectMerge.Proofs.Store.Valueless
import SubjectMerge.Proofs.Subject.Render

/-! Recipients for whom there is no value. One may not have been asked about, an inquiry may not have parked yet, or
its lookup may have failed, crashed or found nothing. A message is then filled in from the campaign's own table or
from one that is equal to it, since none of these ways binds anything: each token falls back or goes. -/

namespace SubjectMerge

/-- What a token comes to without a value: its fallback, in capitals if it is marked, or nothing. -/
def Token.blanked (t : Token) : List Char :=
  let text := String.ofList (t.fallback.getD [])
  (if t.lead ∨ t.tail then Text.upper text else text).toList

/-- A text with the table's tokens blanked and all else as it is. -/
def Table.blank (table : Table) (text : String) : String :=
  String.ofList <| renderFrom (fun t => if t.literal ∈ table.tokens then t.blanked else t.chars) 0 text.toList

theorem Token.toList_replacement_binding (t : Token) (name : String) :
    (t.binding name).replacement.toList = t.blanked := by
  have hunbound : (t.binding name).bind .empty = t.binding name := rfl
  have htext : t.textFor none = String.ofList (t.fallback.getD []) := by
    unfold textFor
    cases t.fallback <;> rfl
  rw [← hunbound, toList_replacement_bind, Keyed.get?_empty, htext]
  rfl

/-- A subject's own table blanks its tokens. -/
theorem Table.fill_ofSubject (names : List String) (subject text : String) :
    (ofSubject names subject).fill text = (ofSubject names subject).blank text := by
  rw [fill, blank]
  congr 1
  apply fillChars_eq_renderFrom
  intro t ht
  have wf := (mem_tokensOf_iff.1 ht).1
  rw [fillPiece]
  cases hfind : (ofSubject names subject).find? t.literal with
  | none => rw [if_neg (find?_eq_none_iff.1 hfind)]
  | some binding =>
    have hmem := mem_tokens_of_find? hfind
    rw [find?_ofSubject names subject wf, Option.ite_none_right_eq_some] at hfind
    obtain ⟨-, hbinding⟩ := hfind
    obtain ⟨name, -, rfl⟩ := Option.map_eq_some_iff.1 hbinding
    rw [if_pos hmem]
    exact t.toList_replacement_binding name

/-- The steps of one inquiry, with the store as it answers throughout. -/
def Inquiry.course (inquiry : Inquiry) (store : Store) : List Move :=
  [⟨store, .snapshot inquiry⟩, ⟨store, .lookUp inquiry⟩, ⟨store, .park inquiry⟩]

/-- The inquiry is about this recipient of the campaign and may come to its end along the course. -/
def Inquiry.ParksIn (inquiry : Inquiry) (id recipient : String) (course : List Move) : Prop :=
  inquiry.id = id ∧ inquiry.recipient = recipient ∧ ∃ store, ⟨store, .park inquiry⟩ ∈ course

/-- Steps along which no value is parked for a recipient of a campaign with this table: those of other requests, which
neither start the campaign again nor end it, of inquiries that do not park, and of inquiries that find no value. -/
structure Wanting (id recipient : String) (own : Table) (system : System) (course : List Move) : Prop where
  lasts : ∀ move ∈ course, move.step.id = id → move.step.replaces = false
  /-- An inquiry that parks is still to begin or has the campaign's table, -/
  held : ∀ inquiry : Inquiry, inquiry.ParksIn id recipient course →
    ∀ stage, system.underway inquiry = some stage → stage.table = own
  /-- and is given no value. -/
  valueless : ∀ inquiry : Inquiry, inquiry.ParksIn id recipient course →
    ∀ store, ⟨store, .lookUp inquiry⟩ ∈ course → (store.lookUp recipient).Valueless

/-- The campaign runs with this table, and nothing else is parked in it for the recipient. -/
def Unbound (id recipient : String) (own : Table) (registry : Registry) : Prop :=
  ∃ c, registry.get? id = some c ∧ c.table = own ∧
    ∀ bound, c.parked.get? recipient = some bound → bound = own

/-- Every message for the recipient is finalized with the table's tokens blanked. -/
def System.Blanks (policy : Policy) (id recipient : String) (own : Table) (system : System) : Prop :=
  ∀ store text, (system.step policy ⟨store, .finalize id ⟨recipient, text⟩⟩).1 =
    some (.finalized (.ok ⟨recipient, own.blank text⟩))

variable {policy : Policy} {id recipient : String} {own : Table} {system : System}

theorem Inquiry.ParksIn.cons {inquiry : Inquiry} {course : List Move} (h : inquiry.ParksIn id recipient course)
    (move : Move) : inquiry.ParksIn id recipient (move :: course) := by
  obtain ⟨hid, hrecipient, store, hpark⟩ := h
  exact ⟨hid, hrecipient, store, List.mem_cons_of_mem move hpark⟩

theorem Unbound.park {registry : Registry} (h : Unbound id recipient own registry) {other name : String}
    {bound : Table} (hbound : other = id → name = recipient → bound = own) :
    Unbound id recipient own (registry.park other name bound) := by
  obtain ⟨c, hc, htable, hparked⟩ := h
  rw [Unbound, Registry.get?_park]
  by_cases hid : id = other
  · refine ⟨c.park name bound, by rw [if_pos hid, ← hid, hc]; rfl, htable, fun found hfound => ?_⟩
    rw [Campaign.get?_parked_park] at hfound
    by_cases hname : recipient = name
    · rw [if_pos hname] at hfound
      exact (Option.some.inj hfound).symm.trans (hbound hid.symm hname.symm)
    · rw [if_neg hname] at hfound
      exact hparked found hfound
  · exact ⟨c, by rw [if_neg hid, hc], htable, hparked⟩

/-- A call that keeps the campaign and is no eligibility request parks nothing. -/
theorem Unbound.perform {registry : Registry} (h : Unbound id recipient own registry) {call : Call}
    (stays : ¬ call.Replaces policy id) (whole : ∀ other, call.operation ≠ .eligible id other) :
    Unbound id recipient own (registry.perform policy call).registry := by
  obtain ⟨c, hc, htable, hparked⟩ := h
  have effect := effect_perform policy registry id call
  rw [hc] at effect
  cases effect with
  | started subject names starts opened => exact absurd (.inl ⟨subject, names, starts⟩) stays
  | ended finishes gone => exact absurd (.inr finishes) stays
  | passed _ passes =>
    generalize hafter : (registry.perform policy call).registry.get? id = after at passes
    cases passes with
    | @some _ d passes =>
      exact ⟨d, hafter, passes.core.table.trans htable, fun bound hbound =>
        hparked bound (passes.parked_of_parked whole hbound)⟩

/-- What a step of such a course leaves in the registry, -/
theorem Wanting.unbound_step {move : Move} {course : List Move}
    (h : Wanting id recipient own system (move :: course)) (unbound : Unbound id recipient own system.registry) :
    Unbound id recipient own (system.step policy move).2.registry := by
  cases system.change_step policy move with
  | same inquiries unchanged =>
    rw [unchanged]
    exact unbound
  | parked inquiry bound step held park =>
    rw [park]
    refine unbound.park fun hid hrecipient => ?_
    have hmem : ⟨move.store, .park inquiry⟩ ∈ move :: course := by
      rw [← step]
      exact List.mem_cons_self
    exact h.held inquiry ⟨hid, hrecipient, move.store, hmem⟩ (.bound bound) held
  | called operation whole performed =>
    rw [performed]
    refine unbound.perform ?_ fun other heligible =>
      move.step.operation?_ne_eligible id other (whole.trans (congrArg some heligible))
    intro hreplaces
    obtain ⟨hid, hstep⟩ := Step.replaces_of_whole whole hreplaces
    rw [h.lasts move List.mem_cons_self hid] at hstep
    cases hstep

/-- and what it leaves of the course. -/
theorem Wanting.step {move : Move} {course : List Move} (h : Wanting id recipient own system (move :: course))
    (bare : own.Bare) (unbound : Unbound id recipient own system.registry) :
    Wanting id recipient own (system.step policy move).2 course := by
  constructor
  case lasts => exact fun other hother => h.lasts other (List.mem_cons_of_mem move hother)
  case valueless =>
    intro inquiry hparks store hlook
    exact h.valueless inquiry (hparks.cons move) store (List.mem_cons_of_mem move hlook)
  case held =>
    intro inquiry hparks stage hstage
    have hheld := h.held inquiry (hparks.cons move)
    have turn := system.turn_step policy move inquiry
    rw [hstage] at turn
    cases turn with
    | stands same => exact hheld stage same.symm
    | opens table step free found tokens copied =>
      obtain ⟨c, hc, htable, -⟩ := unbound
      rw [hparks.1, hc] at found
      obtain rfl : stage = .copied table := Option.some.inj copied
      exact (Option.some.inj found).symm.trans htable
    | binds table bound step copied resolved holds =>
      obtain rfl : stage = .bound bound := Option.some.inj holds
      obtain rfl : table = own := hheld (.copied table) copied
      have hlook : ⟨move.store, .lookUp inquiry⟩ ∈ move :: course := by
        rw [← step]
        exact List.mem_cons_self
      have hvalueless := h.valueless inquiry (hparks.cons move) move.store hlook
      rw [← hparks.2.1] at hvalueless
      exact Store.bound_eq_of_valueless resolved bare hvalueless
    | ends step gone => cases gone

theorem Wanting.unbound_run {course : List Move} (h : Wanting id recipient own system course) (bare : own.Bare)
    (unbound : Unbound id recipient own system.registry) :
    Unbound id recipient own (system.run policy course).registry := by
  induction course generalizing system with
  | nil => exact unbound
  | cons move course ih => exact ih (h.step bare unbound) (h.unbound_step unbound)

theorem Campaign.finalize_of_unbound {c : Campaign}
    (parked : ∀ bound, c.parked.get? recipient = some bound → bound = c.table) (text : String) :
    (c.finalize ⟨recipient, text⟩).1 = ⟨recipient, c.table.fill text⟩ := by
  have htable : c.tableFor recipient = c.table := by
    unfold tableFor
    cases h : c.parked.get? recipient with
    | none => rfl
    | some bound => exact parked bound h
  rw [fst_finalize]
  split
  case isTrue hempty => rw [Table.fill_of_isEmpty hempty]
  case isFalse => rw [htable]

theorem Unbound.blanks (h : Unbound id recipient own system.registry)
    (blank : ∀ text, own.fill text = own.blank text) : system.Blanks policy id recipient own := by
  intro store text
  obtain ⟨c, hc, rfl, hparked⟩ := h
  simp only [System.step, System.perform, Registry.perform, Registry.finalize_eq, hc,
    Campaign.finalize_of_unbound hparked, blank]

/-- How the ways of going without a value compare. -/
structure BlankedAlike (policy : Policy) (id recipient : String) (own : Table) (system : System) : Prop where
  /-- The recipient was not asked about, or the inquiries under way have not parked. -/
  unparked : system.Blanks policy id recipient own
  /-- An inquiry is made now and gets no further than its lookup, whatever that gives, -/
  partway : ∀ number store, ∀ n ≤ 2,
    (system.run policy ((Inquiry.course ⟨number, id, recipient⟩ store).take n)).Blanks policy id recipient own
  /-- or it is made whole, and the lookup gives no value. -/
  whole : ∀ number store, system.underway ⟨number, id, recipient⟩ = none → (store.lookUp recipient).Valueless →
    (system.run policy (Inquiry.course ⟨number, id, recipient⟩ store)).Blanks policy id recipient own
  /-- So it is with any number of such inquiries in the midst of other requests. -/
  amid : ∀ course, Wanting id recipient own system course →
    (system.run policy course).Blanks policy id recipient own

/-- Steps of inquiries neither start a campaign nor end it. -/
theorem replaces_of_mem_course {inquiry : Inquiry} {store : Store} {move : Move} (h : move ∈ inquiry.course store) :
    move.step.replaces = false := by
  simp only [Inquiry.course, List.mem_cons, List.not_mem_nil, or_false] at h
  rcases h with rfl | rfl | rfl <;> rfl

theorem wanting_of_unparked {course : List Move}
    (lasts : ∀ move ∈ course, move.step.id = id → move.step.replaces = false)
    (unparked : ∀ inquiry store, ⟨store, .park inquiry⟩ ∉ course) : Wanting id recipient own system course := by
  have hnone (inquiry : Inquiry) : ¬ inquiry.ParksIn id recipient course :=
    fun ⟨_, _, store, hpark⟩ => unparked inquiry store hpark
  exact ⟨lasts, fun inquiry h => absurd h (hnone inquiry), fun inquiry h => absurd h (hnone inquiry)⟩

theorem wanting_course {inquiry : Inquiry} (free : system.underway inquiry = none) {store : Store}
    (valueless : (store.lookUp recipient).Valueless) :
    Wanting id recipient own system (inquiry.course store) := by
  refine ⟨fun move hmove _ => replaces_of_mem_course hmove, ?held, ?valueless⟩
  case held =>
    rintro other ⟨-, -, asked, hpark⟩ stage hstage
    obtain ⟨-, rfl⟩ : asked = store ∧ other = inquiry := by simpa [Inquiry.course] using hpark
    rw [free] at hstage
    cases hstage
  case valueless =>
    rintro other - asked hlook
    obtain ⟨rfl, -⟩ : asked = store ∧ other = inquiry := by simpa [Inquiry.course] using hlook
    exact valueless

/-- However a recipient with nothing parked goes without a value, each message comes to the same: the campaign's tokens
fall back or go. -/
theorem blankedAlike {moves : List Move} {c : Campaign}
    (running : (System.reached policy moves).registry.get? id = some c) (free : c.parked.get? recipient = none) :
    BlankedAlike policy id recipient c.table (System.reached policy moves) := by
  have hsummary : (System.reached policy moves).registry.summary? id = some c.summary := by
    rw [Registry.summary?, running]
    rfl
  obtain ⟨subject, names, -, hcaptured⟩ := (summary?_reached_iff policy moves id _).1 hsummary
  have htable : c.table = .ofSubject names subject := congrArg Summary.table hcaptured
  have bare : c.table.Bare := htable ▸ Table.bare_ofSubject names subject
  have blank (text : String) : c.table.fill text = c.table.blank text := by
    rw [htable, Table.fill_ofSubject]
  have unbound : Unbound id recipient c.table (System.reached policy moves).registry :=
    ⟨c, running, rfl, fun bound hbound => by rw [free] at hbound; cases hbound⟩
  have amid (course : List Move) (h : Wanting id recipient c.table (System.reached policy moves) course) :
      ((System.reached policy moves).run policy course).Blanks policy id recipient c.table :=
    (h.unbound_run bare unbound).blanks blank
  refine ⟨unbound.blanks blank, ?partway, ?whole, amid⟩
  case partway =>
    intro number store n hn
    refine amid _ (wanting_of_unparked (fun move hmove _ => replaces_of_mem_course (List.mem_of_mem_take hmove)) ?_)
    intro inquiry asked hpark
    have htwo := (List.take_prefix_take_left hn).subset hpark
    simp [Inquiry.course] at htwo
  case whole => exact fun number store hfree hvalueless => amid _ (wanting_course hfree hvalueless)

/-- A value that was looked up is not parked yet, and four more inquiries find none. -/
theorem blankedAlike_ann :
    let store (lookup : Lookup) : Store := ⟨.ok ["Name", "City"], .ok ["ann"], fun _ => lookup⟩
    let found := store (.found (.ofList [("Name", some "Ann"), ("City", some "Rome")]))
    let system := System.reached .failOpen [⟨found, .start "c1" "[NAME?you!] of [CITY]"⟩,
      ⟨found, .snapshot ⟨0, "c1", "ann"⟩⟩, ⟨found, .lookUp ⟨0, "c1", "ann"⟩⟩]
    let c : Campaign := .opened "c1" "[NAME?you!] of [CITY]" ["Name", "City"]
    let finalized (after : System) : Option Answer :=
      (after.step .failOpen ⟨found, .finalize "c1" ⟨"ann", "Dear [NAME?you!], [CITY] [X]"⟩⟩).1
    let inquired (lookup : Lookup) : System := system.run .failOpen (Inquiry.course ⟨1, "c1", "ann"⟩ (store lookup))
    let blanked : Option Answer := some (.finalized (.ok ⟨"ann", "Dear YOU,  [X]"⟩))
    system.registry.get? "c1" = some c ∧ c.parked.get? "ann" = none ∧ finalized system = blanked ∧
      finalized (inquired (.failed (.unavailable "offline"))) = blanked ∧
      finalized (inquired (.crashed "broken off")) = blanked ∧ finalized (inquired (.found .empty)) = blanked ∧
      finalized (inquired (.found (.ofList [("Name", none), ("City", none)]))) = blanked := by
  intro store found system c finalized inquired blanked
  have running : system.registry.get? "c1" = some c := rfl
  have free : c.parked.get? "ann" = none := rfl
  have alike : BlankedAlike .failOpen "c1" "ann" c.table system := blankedAlike running free
  have hblank : c.table.blank "Dear [NAME?you!], [CITY] [X]" = "Dear YOU,  [X]" := by decide
  have answer (after : System) (h : after.Blanks .failOpen "c1" "ann" c.table) : finalized after = blanked := by
    have hanswer := h found "Dear [NAME?you!], [CITY] [X]"
    rw [hblank] at hanswer
    exact hanswer
  have inquire (lookup : Lookup) (h : lookup.Valueless) : finalized (inquired lookup) = blanked :=
    answer _ (alike.whole 1 (store lookup) rfl h)
  have nulls : (Lookup.found (.ofList [("Name", none), ("City", none)])).Valueless := by
    refine .nulls fun name value hget => ?_
    have hmem := Keyed.mem_of_get?_ofList hget
    simp only [List.mem_cons, Prod.mk.injEq, List.not_mem_nil, or_false] at hmem
    rcases hmem with ⟨-, hvalue⟩ | ⟨-, hvalue⟩ <;> exact hvalue
  exact ⟨running, free, answer system alike.unparked, inquire _ (.failed _), inquire _ (.crashed _),
    inquire _ .unknown, inquire _ nulls⟩

end SubjectMerge
