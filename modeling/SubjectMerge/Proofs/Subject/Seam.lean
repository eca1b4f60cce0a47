import SubjectMerge.Proofs.Subject.Cut
import SubjectMerge.Proofs.Subject.Entries

/-! A text put together from two. Unless a bracket is left open on the one side of the seam and closed on the
other, no token lies across it: both sides are filled in as if they stood alone, and their tables are put
together without repeating a token. The scan may still cut the plain text at the seam in another way than before,
so what is compared is what is read off the pieces. -/

namespace SubjectMerge

open Token (isBracket)

def firstBracket? (text : List Char) : Option Char := text.find? isBracket

def lastBracket? (text : List Char) : Option Char := text.reverse.find? isBracket

/-- A bracket is open at the end of the first text, and the second one closes it. -/
def OpenAcross (a b : List Char) : Prop := lastBracket? a = some '[' ∧ firstBracket? b = some ']'

/-- What is read off pieces one by one does not depend on where plain text is cut. -/
def Seamless {α : Type*} (read : Piece → List α) : Prop :=
  ∀ cs ds, read (.verbatim (cs ++ ds)) = read (.verbatim cs) ++ read (.verbatim ds)

theorem lastBracket?_append_of_opening (before : List Char) {text : List Char}
    (h : lastBracket? text = some '[') : lastBracket? (before ++ text) = some '[' := by
  rw [lastBracket?, List.reverse_append, List.find?_append, ← lastBracket?, h]
  rfl

theorem lastBracket?_openedChars {body : List Char} (plain : OpenedPlain (some body)) :
    lastBracket? (openedChars (some body)) = some '[' := by
  have hbody : body.find? isBracket = none := List.find?_eq_none.2 fun c hc => by simp [plain body rfl c hc]
  simp [lastBracket?, openedChars, List.find?_append, hbody, isBracket]

section

variable {α : Type*} {read : Piece → List α} (seamless : Seamless read)

include seamless

/-- What stands open when a text begins that does not close it was plain text. -/
theorem flatMap_piecesFrom_unclosed (body : List Char) {text : List Char} (h : firstBracket? text ≠ some ']') :
    (piecesFrom (some body) text).flatMap read =
      read (.verbatim (openedChars (some body))) ++ (pieces text).flatMap read := by
  induction text generalizing body with
  | nil => simp [piecesFrom, pieces, openedChars]
  | cons c rest ih =>
    by_cases hopen : c = '['
    · subst hopen
      simp [piecesFrom, pieces, openedChars]
    · have hclose : c ≠ ']' := by
        rintro rfl
        simp [firstBracket?, isBracket] at h
      have hrest : firstBracket? rest ≠ some ']' := by
        have hc : isBracket c = false := isBracket_eq_false_iff.2 ⟨hopen, hclose⟩
        simpa [firstBracket?, hc] using h
      have hmore : openedChars (some (c :: body)) = openedChars (some body) ++ [c] := by simp [openedChars]
      simp only [piecesFrom, pieces, if_neg hopen, if_neg hclose, List.flatMap_cons]
      rw [ih (c :: body) hrest, hmore, seamless, List.append_assoc]
      rfl

/-- The scan of a text put together from two, by what is read off it. -/
theorem flatMap_pieces_append {a b : List Char} (h : ¬ OpenAcross a b) :
    (pieces (a ++ b)).flatMap read = (pieces a).flatMap read ++ (pieces b).flatMap read := by
  refine piecesFrom_induct (P := fun opened text found => ¬ OpenAcross (openedChars opened ++ text) b →
    (piecesFrom opened (text ++ b)).flatMap read = found.flatMap read ++ (pieces b).flatMap read)
    ?done ?unclosed ?plain ?opening ?reopening ?closing ?inside openedPlain_none a h
  case done => exact fun _ => rfl
  case unclosed =>
    intro body hbody h
    have hlast := lastBracket?_openedChars hbody
    rw [List.append_nil] at h
    rw [List.nil_append, flatMap_piecesFrom_unclosed seamless body fun hfirst => h ⟨hlast, hfirst⟩]
    simp
  case plain =>
    intro c rest hc ih h
    have hlater := ih fun hacross => h ⟨lastBracket?_append_of_opening [c] hacross.1, hacross.2⟩
    simp [piecesFrom, hc, hlater]
  case opening =>
    intro rest ih h
    simpa [piecesFrom] using ih h
  case reopening =>
    intro body rest hbody ih h
    have hlater := ih fun hacross => h ⟨lastBracket?_append_of_opening _ hacross.1, hacross.2⟩
    simp [piecesFrom, hlater, openedChars]
  case closing =>
    intro body rest hbody ih h
    have hlater := ih fun hacross => h
      ⟨lastBracket?_append_of_opening _ (lastBracket?_append_of_opening [']'] hacross.1), hacross.2⟩
    simp [piecesFrom, hlater]
  case inside =>
    intro body c rest hbody hopen hclose ih h
    have hlater := ih (by simpa [openedChars] using h)
    simpa [piecesFrom, hopen, hclose] using hlater

end

theorem tokensOf_append {a b : List Char} (h : ¬ OpenAcross a b) : tokensOf (a ++ b) = tokensOf a ++ tokensOf b := by
  have hread : Seamless fun piece => piece.token?.toList := fun _ _ => rfl
  simpa [tokensOf, List.filterMap_eq_flatMap_toList] using flatMap_pieces_append hread h

theorem Table.fill_append (table : Table) {a b : String} (h : ¬ OpenAcross a.toList b.toList) :
    table.fill (a ++ b) = table.fill a ++ table.fill b := by
  have hwrite : Seamless (Piece.write (textAmong table.entries)) := fun _ _ => rfl
  rw [fill_eq_flatMap, String.toList_append, flatMap_pieces_append hwrite h, String.ofList_append,
    ← fill_eq_flatMap, ← fill_eq_flatMap]

/-- A token that a subject repeats from an earlier one is entered once. -/
theorem Token.entry?_filter_notMem {names : List String} {t : Token} (wf : t.WellFormed) (subject : String) :
    (t.entry? names).filter (fun entry => entry.token ∉ (Table.ofSubject names subject).tokens) =
      if t ∈ tokensOf subject.toList then none else t.entry? names := by
  cases hentry : t.entry? names with
  | none => simp
  | some entry =>
    have hmem := Table.literal_mem_tokens_ofSubject subject wf hentry
    obtain ⟨name, -, rfl⟩ := Option.map_eq_some_iff.1 hentry
    by_cases h : t ∈ tokensOf subject.toList <;> simp [hmem, h]

theorem Table.entries_ofSubject_append (names : List String) {a b : String} (h : ¬ OpenAcross a.toList b.toList) :
    (ofSubject names (a ++ b)).entries = (ofSubject names a).entries ++
      (ofSubject names b).entries.filter fun entry => entry.token ∉ (ofSubject names a).tokens := by
  rw [entries_ofSubject, String.toList_append, tokensOf_append h, List.eraseDups_append, List.filterMap_append,
    ← entries_ofSubject, List.removeAll, eraseDups_filter, List.filterMap_filter, entries_ofSubject names b,
    List.filter_filterMap]
  congr 1
  apply List.filterMap_congr
  intro t ht
  have wf : t.WellFormed := (mem_tokensOf_iff.1 (List.mem_eraseDups.1 ht)).1
  rw [Token.entry?_filter_notMem wf a]
  by_cases hrepeated : t ∈ tokensOf a.toList <;> simp [hrepeated]

/-- Filling in and parsing go along with putting texts together, unless a bracket is open across the seam: what
a table makes of both texts is put together, and the second text adds the entries whose tokens the first one does
not have. -/
theorem fill_append_and_entries_append (a b : String)
    (closed : ¬ (lastBracket? a.toList = some '[' ∧ firstBracket? b.toList = some ']')) :
    (∀ table : Table, table.fill (a ++ b) = table.fill a ++ table.fill b) ∧
      ∀ names, (Table.ofSubject names (a ++ b)).entries = (Table.ofSubject names a).entries ++
        (Table.ofSubject names b).entries.filter fun entry => entry.token ∉ (Table.ofSubject names a).tokens :=
  ⟨fun table => table.fill_append closed, fun names => Table.entries_ofSubject_append names closed⟩

/-- Two texts of which the first leaves a bracket open and the second repeats a token. -/
theorem fill_append_and_entries_append_leftOpen :
    let table : Table := ⟨[
      ⟨"[NAME]", { attributeName := "Name", fallbackText := some "Ann", uppercase := false }⟩]⟩
    let a := "Hi [NAME] [NAME"
    let b := "?x [NAME], [CITY]"
    ¬ (lastBracket? a.toList = some '[' ∧ firstBracket? b.toList = some ']') ∧
      table.fill (a ++ b) = "Hi Ann [NAME" ++ "?x Ann, [CITY]" ∧
      (Table.ofSubject ["Name", "City"] (a ++ b)).tokens = ["[NAME]"] ++ ["[CITY]"] := by
  intro table a b
  have closed : ¬ (lastBracket? a.toList = some '[' ∧ firstBracket? b.toList = some ']') := by decide
  obtain ⟨hfill, hentries⟩ := fill_append_and_entries_append a b closed
  have ha : table.fill a = "Hi Ann [NAME" := by decide
  have hb : table.fill b = "?x Ann, [CITY]" := by decide
  have hfirst : (Table.ofSubject ["Name", "City"] a).tokens = ["[NAME]"] := by decide
  have hmore : ((Table.ofSubject ["Name", "City"] b).entries.filter fun entry =>
      entry.token ∉ (Table.ofSubject ["Name", "City"] a).tokens).map Entry.token = ["[CITY]"] := by decide
  refine ⟨closed, ?_, ?_⟩
  · rw [hfill, ha, hb]
  · rw [Table.tokens, hentries, List.map_append, hmore, ← Table.tokens, hfirst]

/-- A token across the seam is a token of neither side. -/
example : (Table.ofSubject ["Name"] ("[NA" ++ "ME]")).tokens = ["[NAME]"] ∧
    (Table.ofSubject ["Name"] "[NA").tokens = [] ∧ (Table.ofSubject ["Name"] "ME]").tokens = [] := by
  decide

end SubjectMerge
