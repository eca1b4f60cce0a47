import Mathlib.Data.List.Forall2
import SubjectMerge.Http.Route
import SubjectMerge.Proofs.Runs
import SubjectMerge.Proofs.Text.Percent

/-! Paths that name a campaign and a recipient by their ids. Where every byte of an id is escaped, nothing in it is
taken for a slash or for the end of the path, and the route has the very id, whatever characters are in it. -/

namespace SubjectMerge

namespace Text

theorem slashParts_cons_slash (cs : List Char) : slashParts ('/' :: cs) = [] :: slashParts cs := by
  rw [slashParts]
  cases h : slashParts cs with
  | nil => exact absurd h (slashParts_ne_nil cs)
  | cons part parts => exact if_pos rfl

/-- A part goes on up to the next slash. -/
theorem slashParts_append {part rest : List Char} (clean : '/' ∉ part) {parts : List (List Char)}
    (h : slashParts rest = [] :: parts) : slashParts (part ++ rest) = part :: parts := by
  induction part with
  | nil => exact h
  | cons c part ih =>
    simp only [List.mem_cons, not_or] at clean
    rw [List.cons_append, slashParts, ih clean.2]
    exact if_neg (Ne.symm clean.1)

theorem slashParts_flatMap {parts : List (List Char)} (clean : ∀ part ∈ parts, '/' ∉ part) :
    slashParts (parts.flatMap fun part => '/' :: part) = [] :: parts := by
  induction parts with
  | nil => rfl
  | cons part parts ih =>
    rw [List.flatMap_cons, List.cons_append, slashParts_cons_slash, slashParts_append (clean part List.mem_cons_self)
      (ih fun other hother => clean other (List.mem_cons_of_mem _ hother))]

end Text

namespace Http

open Text (Escapes encodeUtf8 unescape)

/-- A query or a fragment, or nothing. -/
def IsPathEnd (rest : List Char) : Prop := ∀ c ∈ rest.head?, c = '?' ∨ c = '#'

/-- The target is a path of these parts, with a slash before each. -/
def HasParts (target : String) (parts : List (List Char)) : Prop :=
  ∃ rest, IsPathEnd rest ∧ target.toList = (parts.flatMap fun part => '/' :: part) ++ rest

/-- The path of an eligibility request, with both ids escaped. -/
def NamesRecipient (target id recipient : String) : Prop :=
  ∃ campaign coded, Escapes (encodeUtf8 id) campaign ∧ Escapes (encodeUtf8 recipient) coded ∧
    HasParts target ["api".toList, "campaigns".toList, campaign, "recipients".toList, coded, "eligible".toList]

/-- The path of a request to finalize, with the campaign's id escaped. -/
def NamesFinalize (target id : String) : Prop :=
  ∃ campaign, Escapes (encodeUtf8 id) campaign ∧
    HasParts target ["api".toList, "campaigns".toList, campaign, "finalize".toList]

/-- No character of a part is a separator. -/
def IsClean (part : List Char) : Prop := ∀ c ∈ part, c ≠ '/' ∧ c ≠ '?' ∧ c ≠ '#'

theorem isClean_of_escapes {bytes : List UInt8} {part : List Char} (h : Escapes bytes part) : IsClean part := by
  intro c hc
  refine ⟨?_, ?_, ?_⟩ <;> rintro rfl <;> exact absurd (h.isAlphanum_of_mem _ hc) (by decide)

/-- A path that begins with a slash is the whole target up to its query. -/
theorem pathOf_of_hasParts {target : String} {parts : List (List Char)} (h : HasParts target parts)
    (hne : parts ≠ []) (clean : ∀ part ∈ parts, IsClean part) :
    pathOf target = parts.flatMap fun part => '/' :: part := by
  obtain ⟨rest, hrest, htarget⟩ := h
  have hinside : ∀ c ∈ parts.flatMap (fun part => '/' :: part), (c != '?' && c != '#') = true := by
    intro c hc
    obtain ⟨part, hpart, hc⟩ := List.mem_flatMap.1 hc
    rcases List.mem_cons.1 hc with rfl | hc
    · decide
    · obtain ⟨-, hquery, hfragment⟩ := clean part hpart c hc
      simp [hquery, hfragment]
  have hend : ∀ c ∈ rest.head?, (c != '?' && c != '#') = false := by
    intro c hc
    rcases hrest c hc with rfl | rfl <;> decide
  obtain ⟨cs, hcs⟩ : ∃ cs, target.toList = '/' :: cs := by
    obtain ⟨part, parts, rfl⟩ := List.exists_cons_of_ne_nil hne
    exact ⟨_, htarget⟩
  -- no scheme begins with a slash
  have hscheme : target.toList.dropWhile isSchemeChar = '/' :: cs := by
    rw [hcs]
    exact List.dropWhile_cons_of_neg (by decide)
  have hpath : pathOf target = target.toList.takeWhile fun c => c != '?' && c != '#' := by
    simp only [pathOf, hscheme]
    rfl
  rw [hpath, htarget, takeWhile_run hinside hend]

/-- The first pass makes this of the part. -/
structure IsSegment (part : List Char) (segment : String) : Prop where
  clean : IsClean part
  unescaped : unescape keptEscapes (String.ofList part) = segment

theorem isClean_and_map_eq {parts : List (List Char)} {names : List String}
    (named : List.Forall₂ IsSegment parts names) : (∀ part ∈ parts, IsClean part) ∧
      parts.map (fun part => unescape keptEscapes (String.ofList part)) = names := by
  induction named with
  | nil => exact ⟨nofun, rfl⟩
  | cons hpart _ ih =>
    exact ⟨List.forall_mem_cons.2 ⟨hpart.clean, ih.1⟩, by rw [List.map_cons, hpart.unescaped, ih.2]⟩

theorem segments_of_hasParts {target : String} {parts : List (List Char)} (h : HasParts target parts)
    (hne : parts ≠ []) {names : List String} (named : List.Forall₂ IsSegment parts names) :
    segments (pathOf target) = "" :: names := by
  obtain ⟨clean, hnames⟩ := isClean_and_map_eq named
  have hempty : unescape keptEscapes (String.ofList []) = "" := by decide
  rw [segments, pathOf_of_hasParts h hne clean,
    Text.slashParts_flatMap fun part hpart hslash => (clean part hpart _ hslash).1 rfl, List.map_cons, hempty,
    hnames]

/-- The fixed parts of the routes' paths. -/
def fixedParts : List String := ["api", "campaigns", "recipients", "eligible", "finalize"]

theorem isSegment_fixed {part : String} (h : part ∈ fixedParts) : IsSegment part.toList part := by
  have hfixed : ∀ part ∈ fixedParts,
      part.toList.all (fun c => c != '/' && c != '?' && c != '#') = true ∧ 0x25 ∉ encodeUtf8 part := by
    decide +kernel
  obtain ⟨hclean, hpercent⟩ := hfixed part h
  refine ⟨fun c hc => ?_, by rw [String.ofList_toList, Text.unescape_of_not_mem keptEscapes hpercent]⟩
  simpa [and_assoc] using List.all_eq_true.1 hclean c hc

/-- An escaped id comes out of the first pass as something that stands for the id. -/
theorem exists_isSegment {s : String} {part : List Char} (h : Escapes (encodeUtf8 s) part) :
    ∃ segment, IsSegment part segment ∧ idOf segment = s ∧ (s ≠ "" → segment ≠ "") := by
  have hid : idOf (unescape keptEscapes (String.ofList part)) = s :=
    Text.unescape_unescape (by decide) (by decide +kernel) h
  refine ⟨_, ⟨isClean_of_escapes h, rfl⟩, hid, fun hne hempty => hne ?_⟩
  rw [← hid, hempty]
  decide

variable {target id recipient : String}

theorem find?_of_namesRecipient (h : NamesRecipient target id recipient) (hid : id ≠ "")
    (hrecipient : recipient ≠ "") : Route.find? "POST" target = some (.eligible id recipient) := by
  obtain ⟨campaign, coded, hcampaign, hcoded, hparts⟩ := h
  obtain ⟨a, ha, rfl, hane⟩ := exists_isSegment hcampaign
  obtain ⟨b, hb, rfl, hbne⟩ := exists_isSegment hcoded
  have hsegments := segments_of_hasParts hparts (List.cons_ne_nil _ _) <|
    .cons (isSegment_fixed (by decide)) <| .cons (isSegment_fixed (by decide)) <| .cons ha <|
    .cons (isSegment_fixed (by decide)) <| .cons hb <| .cons (isSegment_fixed (by decide)) .nil
  simp [Route.find?, hsegments, Route.ofParts?, (hane hid).symm, (hbne hrecipient).symm]

theorem find?_of_namesFinalize (h : NamesFinalize target id) (hid : id ≠ "") :
    Route.find? "POST" target = some (.finalize id) := by
  obtain ⟨campaign, hcampaign, hparts⟩ := h
  obtain ⟨a, ha, rfl, hane⟩ := exists_isSegment hcampaign
  have hsegments := segments_of_hasParts hparts (List.cons_ne_nil _ _) <|
    .cons (isSegment_fixed (by decide)) <| .cons (isSegment_fixed (by decide)) <| .cons ha <|
    .cons (isSegment_fixed (by decide)) .nil
  simp [Route.find?, hsegments, Route.ofParts?, (hane hid).symm]

theorem exists_hasParts (parts : List (List Char)) : ∃ target, HasParts target parts :=
  ⟨String.ofList (parts.flatMap fun part => '/' :: part), [], nofun, by rw [String.toList_ofList, List.append_nil]⟩

/-- There is such a path for every id. -/
theorem exists_namesFinalize (id : String) : ∃ target, NamesFinalize target id := by
  obtain ⟨target, htarget⟩ := exists_hasParts _
  exact ⟨target, _, Text.escapes_escape _, htarget⟩

end Http

end SubjectMerge
