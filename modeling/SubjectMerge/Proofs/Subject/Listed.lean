import Mathlib.Data.List.Induction
import SubjectMerge.Proofs.Registry.Captured
import SubjectMerge.Proofs.Token.Positions

/-! What a subject's table lists. Of the tokens of the subject it keeps those that name an attribute, each once
and in the order in which they first stand in the subject. The table grows token by token, and what is kept of
a beginning stays. -/

namespace SubjectMerge

/-- The directory's first name with the capitals of the token's. -/
def Token.Names (names : List String) (t : Token) (name : String) : Prop :=
  ∃ earlier later, names = earlier ++ name :: later ∧
    Text.upper name = Text.upper (String.ofList t.name) ∧
    ∀ other ∈ earlier, Text.upper other ≠ Text.upper (String.ofList t.name)

/-- The first text stands somewhere ahead of every place where the second one stands. -/
def StandsBefore (text a b : List Char) : Prop :=
  ∃ before after, text = before ++ (a ++ after) ∧
    ∀ before' after', text = before' ++ (b ++ after') → before.length < before'.length

/-- What a table lists that a subject gives against a directory. -/
structure Table.Lists (names : List String) (subject : String) (table : Table) : Prop where
  known : ∀ literal, literal ∈ table.tokens ↔ ∃ t : Token, t.WellFormed ∧ t.literal = literal ∧
    t.chars <:+: subject.toList ∧ ∃ name ∈ names, Text.upper name = Text.upper (String.ofList t.name)
  once : table.tokens.Nodup
  ordered : table.tokens.Pairwise fun a b => StandsBefore subject.toList a.toList b.toList
  written : ∀ entry ∈ table.entries, ∀ t : Token, t.WellFormed → t.literal = entry.token →
    t.Names names entry.binding.attributeName ∧
      entry.binding.fallbackText = t.fallback.map String.ofList ∧
      entry.binding.uppercase = (t.lead || t.tail) ∧ entry.binding.resolvedValue = none

theorem Token.attribute?_eq_some_iff {names : List String} {t : Token} {name : String} :
    t.attribute? names = some name ↔ t.Names names name := by
  simp only [attribute?, directoryName?, List.find?_eq_some_iff_append, beq_iff_eq, Bool.not_eq_true',
    beq_eq_false_iff_ne, Names]
  constructor
  · rintro ⟨hname, earlier, later, hnames, hearlier⟩
    exact ⟨earlier, later, hnames, hname, hearlier⟩
  · rintro ⟨earlier, later, hnames, hname, hearlier⟩
    exact ⟨hname, earlier, later, hnames, hearlier⟩

theorem Token.exists_attribute?_iff {names : List String} {t : Token} :
    (∃ name, t.attribute? names = some name) ↔
      ∃ name ∈ names, Text.upper name = Text.upper (String.ofList t.name) := by
  rw [← Option.isSome_iff_exists, attribute?, directoryName?, List.find?_isSome]
  simp

/-- Of two tokens of a list this one comes before every place of the other. -/
def FirstBefore (ts : List Token) (t u : Token) : Prop :=
  ∃ before after, ts = before ++ t :: after ∧ u ∈ after ∧ u ∉ before ∧ u ≠ t

theorem FirstBefore.append {ts : List Token} {t u : Token} (h : FirstBefore ts t u) (more : List Token) :
    FirstBefore (ts ++ more) t u := by
  obtain ⟨before, after, rfl, hafter, hbefore, hne⟩ := h
  exact ⟨before, after ++ more, by simp, List.mem_append_left _ hafter, hbefore, hne⟩

theorem firstBefore_new {ts : List Token} {t u : Token} (ht : t ∈ ts) (hu : u ∉ ts) :
    FirstBefore (ts ++ [u]) t u := by
  obtain ⟨before, after, rfl⟩ := List.append_of_mem ht
  refine ⟨before, after ++ [u], by simp, by simp, fun h => hu (List.mem_append_left _ h), ?_⟩
  rintro rfl
  exact hu ht

/-- Tokens stand in a text in the order in which the scan finds them. -/
theorem FirstBefore.standsBefore {text : List Char} {t u : Token} (h : FirstBefore (tokensOf text) t u) :
    StandsBefore text t.chars u.chars := by
  obtain ⟨before, after, hts, hafter, hbefore, hne⟩ := h
  have hmem : u ∈ tokensOf text := by simp [hts, hafter]
  have hu : u.WellFormed := (mem_tokensOf_iff.1 hmem).1
  have hspans : (spansOf text).map Span.token = before ++ t :: after :=
    (map_token_spansFrom 0 (pieces text)).trans hts
  obtain ⟨earlier, rest, hsplit, hearlier, hrest⟩ := List.map_eq_append_iff.1 hspans
  obtain ⟨span, later, rfl, rfl, -⟩ := List.map_eq_cons_iff.1 hrest
  have hspan : span ∈ spansOf text := by simp [hsplit]
  obtain ⟨-, x, y, htext, hstart⟩ := mem_spansOf.1 hspan
  refine ⟨x, y, htext, fun x' y' htext' => ?_⟩
  have hother : (⟨x'.length, u⟩ : Span) ∈ spansOf text := mem_spansOf.2 ⟨hu, x', y', htext', rfl⟩
  rw [hsplit, List.mem_append, List.mem_cons] at hother
  rcases hother with hother | hother | hother
  · exact absurd (hearlier ▸ List.mem_map_of_mem hother) hbefore
  · exact absurd (congrArg Span.token hother) hne
  · have hapart := spansFrom_apart 0 (pieces text)
    rw [show spansFrom 0 (pieces text) = earlier ++ span :: later from hsplit, List.pairwise_append,
      List.pairwise_cons] at hapart
    have hstop : span.stop ≤ x'.length := hapart.2.1.1 _ hother
    rw [Span.stop, Token.length_chars] at hstop
    omega

/-- The entry that a token of the subject gets. -/
def Token.Entered (names : List String) (t : Token) (entry : Entry) : Prop :=
  ∃ name, t.attribute? names = some name ∧ entry = ⟨t.literal, t.binding name⟩

/-- The entries of two tokens of a list, in the order of their first places. -/
def Entry.Precedes (ts : List Token) (a b : Entry) : Prop :=
  ∃ t u, t.literal = a.token ∧ u.literal = b.token ∧ FirstBefore ts t u

theorem Entry.Precedes.append {ts : List Token} {a b : Entry} (h : a.Precedes ts b) (more : List Token) :
    a.Precedes (ts ++ more) b := by
  obtain ⟨t, u, ha, hb, hfirst⟩ := h
  exact ⟨t, u, ha, hb, hfirst.append more⟩

/-- What a table keeps of the tokens that were added to it. -/
structure Table.Keeps (names : List String) (ts : List Token) (table : Table) : Prop where
  entered : ∀ entry ∈ table.entries, ∃ t ∈ ts, t.Entered names entry
  complete : ∀ t ∈ ts, (∃ name, t.attribute? names = some name) → t.literal ∈ table.tokens
  ordered : table.entries.Pairwise (Entry.Precedes ts)

namespace Table

variable {names : List String} {ts : List Token} {table : Table}

/-- One more token changes nothing about what is kept of the others. -/
theorem Keeps.append (h : Keeps names ts table) {t : Token}
    (ht : (∃ name, t.attribute? names = some name) → t.literal ∈ table.tokens) :
    Keeps names (ts ++ [t]) table := by
  constructor
  case entered =>
    intro entry hentry
    obtain ⟨u, hu, hentered⟩ := h.entered entry hentry
    exact ⟨u, List.mem_append_left _ hu, hentered⟩
  case complete =>
    intro u hu hknown
    rcases List.mem_append.1 hu with hu | hu
    · exact h.complete u hu hknown
    · obtain rfl := List.mem_singleton.1 hu
      exact ht hknown
  case ordered => exact h.ordered.imp fun hab => hab.append [t]

/-- One more token is kept unless it names no attribute or is there already. -/
theorem Keeps.addToken (h : Keeps names ts table) (t : Token) :
    Keeps names (ts ++ [t]) (table.addToken names t) := by
  unfold Table.addToken
  split
  case h_1 unknown =>
    refine h.append ?_
    rintro ⟨name, hname⟩
    rw [unknown] at hname
    cases hname
  case h_2 name hname =>
    unfold Table.insert
    split
    case h_1 found hfound => exact h.append fun _ => mem_tokens_of_find? hfound
    case h_2 hnone =>
      have hfresh : t ∉ ts := fun hmem =>
        find?_eq_none_iff.1 hnone (h.complete t hmem ⟨name, hname⟩)
      constructor
      case entered =>
        intro entry hentry
        rcases List.mem_append.1 hentry with hentry | hentry
        · obtain ⟨u, hu, hentered⟩ := h.entered entry hentry
          exact ⟨u, List.mem_append_left _ hu, hentered⟩
        · exact ⟨t, by simp, name, hname, List.mem_singleton.1 hentry⟩
      case complete =>
        intro u hu hknown
        rw [tokens, List.map_append]
        rcases List.mem_append.1 hu with hu | hu
        · exact List.mem_append_left _ (h.complete u hu hknown)
        · obtain rfl := List.mem_singleton.1 hu
          exact List.mem_append_right _ (List.mem_singleton.2 rfl)
      case ordered =>
        have hold := h.ordered.imp fun hab => hab.append [t]
        refine List.pairwise_append.2 ⟨hold, List.pairwise_singleton _ _, ?_⟩
        intro a ha b hb
        rw [List.mem_singleton.1 hb]
        obtain ⟨u, hu, _, _, rfl⟩ := h.entered a ha
        exact ⟨u, t, rfl, rfl, firstBefore_new hu hfresh⟩

/-- A table keeps the known ones of all tokens that were added to it. -/
theorem keeps_foldl_addToken (names : List String) (ts : List Token) :
    Keeps names ts (ts.foldl (addToken names) empty) := by
  induction ts using List.reverseRecOn with
  | nil => exact ⟨by simp [empty], by simp, .nil⟩
  | append_singleton ts t ih =>
    rw [List.foldl_append]
    exact ih.addToken t

theorem lists_ofSubject (names : List String) (subject : String) :
    (ofSubject names subject).Lists names subject := by
  have hkeeps : Keeps names (tokensOf subject.toList) (ofSubject names subject) :=
    keeps_foldl_addToken names _
  constructor
  case known =>
    intro literal
    constructor
    · intro hmem
      obtain ⟨entry, hentry, rfl⟩ := List.mem_map.1 hmem
      obtain ⟨t, ht, name, hname, rfl⟩ := hkeeps.entered entry hentry
      obtain ⟨wf, hsub⟩ := mem_tokensOf_iff.1 ht
      exact ⟨t, wf, rfl, hsub, Token.exists_attribute?_iff.1 ⟨name, hname⟩⟩
    · rintro ⟨t, wf, rfl, hsub, hknown⟩
      exact hkeeps.complete t (mem_tokensOf_iff.2 ⟨wf, hsub⟩) (Token.exists_attribute?_iff.2 hknown)
  case ordered =>
    refine List.pairwise_map.2 (hkeeps.ordered.imp ?_)
    rintro a b ⟨t, u, ha, hb, hfirst⟩
    rw [← ha, ← hb, Token.literal, Token.literal, String.toList_ofList, String.toList_ofList]
    exact hfirst.standsBefore
  case once => exact (bare_ofSubject names subject).distinct
  case written =>
    intro entry hentry t wf hliteral
    obtain ⟨u, hu, name, hname, rfl⟩ := hkeeps.entered entry hentry
    have hsame : t = u := (wf.literal_eq_iff (mem_tokensOf_iff.1 hu).1).1 hliteral
    subst hsame
    exact ⟨Token.attribute?_eq_some_iff.1 hname, rfl, rfl, rfl⟩

end Table

/-- A subject's table lists the known tokens of the subject, and what a campaign reports at its start is this
list. -/
theorem listed_and_reported (names : List String) (subject : String) :
    (Table.ofSubject names subject).Lists names subject ∧
      ∀ policy store registry id, Store.Lists policy store names → ∃ after,
        Registry.start policy store registry id subject =
            .ok ((Table.ofSubject names subject).tokens, after) ∧
          (after.get? id).map Campaign.table = some (Table.ofSubject names subject) := by
  refine ⟨Table.lists_ofSubject names subject, fun policy store registry id hlists => ?_⟩
  refine ⟨registry.insert id (Campaign.opened id subject names), ?_, ?_⟩
  · rw [Registry.start_eq, directory_eq_ok_iff.2 hlists]
  · rw [Keyed.get?_insert, if_pos rfl]
    rfl

/-- A start against a directory with two spellings of one name, and a subject that repeats a token. -/
theorem listed_and_reported_city :
    let store : Store := { names := .ok ["City", "CITY"], ids := .ok [], lookUp := fun _ => .found .empty }
    Store.Lists .surface store ["City", "CITY"] ∧ ∃ after,
      Registry.start .surface store .empty "c1" "[X] [city], [CITY?] and [city]" =
        .ok (["[city]", "[CITY?]"], after) := by
  intro store
  have hlists : Store.Lists .surface store ["City", "CITY"] := Or.inl rfl
  have htokens : (Table.ofSubject ["City", "CITY"] "[X] [city], [CITY?] and [city]").tokens =
      ["[city]", "[CITY?]"] := by decide
  obtain ⟨after, hstart, -⟩ := (listed_and_reported ["City", "CITY"] "[X] [city], [CITY?] and [city]").2
    .surface store .empty "c1" hlists
  exact ⟨hlists, after, htokens ▸ hstart⟩

example : (Table.ofSubject ["City", "CITY"] "[X] [city], [CITY?] and [city]").entries =
    [⟨"[city]", { attributeName := "City", fallbackText := none, uppercase := false }⟩,
      ⟨"[CITY?]", { attributeName := "City", fallbackText := some "", uppercase := false }⟩] := by
  decide

end SubjectMerge
