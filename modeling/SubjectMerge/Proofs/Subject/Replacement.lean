import SubjectMerge.Proofs.Subject.Cut
import SubjectMerge.Proofs.Token.Alternating

/-! Filling in against plain replacement. Replacing the tokens of a table one after another reads again what it
has written, and a text may also come to hold a token whose brackets stood apart before. Where brackets do not
nest and no replacement has any, neither happens, and both come to the same text. -/

namespace SubjectMerge

open Token (isBracket)

/-- Writes a new text for every occurrence of an old one, which is not empty, from left to right. `skip` counts
the characters of an occurrence that are still to be passed over. -/
def replaceFrom (old new : List Char) : Nat → List Char → List Char
  | _, [] => []
  | skip + 1, _ :: rest => replaceFrom old new skip rest
  | 0, c :: rest =>
    if old <+: c :: rest then new ++ replaceFrom old new (old.length - 1) rest
    else c :: replaceFrom old new 0 rest

def replaceAll (old new text : String) : String :=
  String.ofList (replaceFrom old.toList new.toList 0 text.toList)

/-- Replaces the tokens of a table entry by entry, each in what the entries before it have left. -/
def Table.replaceEach (table : Table) (text : String) : String :=
  table.entries.foldl (fun text entry => replaceAll entry.token entry.binding.replacement text) text

/-! One token. -/

/-- A new text for one token, and every other token as it is. -/
def insteadOf (k : Token) (new : List Char) (t : Token) : List Char :=
  if t.chars = k.chars then new else t.chars

theorem replaceFrom_skip (old new run rest : List Char) :
    replaceFrom old new run.length (run ++ rest) = replaceFrom old new 0 rest := by
  induction run with
  | nil => rfl
  | cons c run ih => simpa [replaceFrom] using ih

/-- No token is written where no bracket is opened. -/
theorem replaceFrom_run (t : Token) (new : List Char) {run : List Char} (hrun : ∀ c ∈ run, c ≠ '[')
    (rest : List Char) : replaceFrom t.chars new 0 (run ++ rest) = run ++ replaceFrom t.chars new 0 rest := by
  induction run with
  | nil => rfl
  | cons c run ih =>
    have hnot : ¬ t.chars <+: c :: (run ++ rest) := by
      rintro ⟨after, hafter⟩
      exact hrun c List.mem_cons_self (List.cons.inj hafter).1.symm
    rw [List.cons_append, replaceFrom, if_neg hnot, ih fun d hd => hrun d (List.mem_cons_of_mem c hd)]
    rfl

theorem replaceFrom_token {k t : Token} (hk : k.WellFormed) (ht : t.WellFormed) (new rest : List Char) :
    replaceFrom k.chars new 0 (t.chars ++ rest) =
      insteadOf k new t ++ replaceFrom k.chars new 0 rest := by
  unfold insteadOf
  have hspan : t.chars ++ rest = '[' :: (t.body ++ [']'] ++ rest) := by simp [Token.chars]
  by_cases hsame : t.chars = k.chars
  · have hprefix : k.chars <+: '[' :: (t.body ++ [']'] ++ rest) := by
      rw [← hspan, ← hsame]
      exact List.prefix_append _ _
    have hskip : k.chars.length - 1 = (t.body ++ [']']).length := by
      rw [← hsame]
      simp [Token.chars]
    rw [hspan, replaceFrom, if_pos hprefix, hskip, replaceFrom_skip, if_pos hsame]
  · have hnot : ¬ k.chars <+: '[' :: (t.body ++ [']'] ++ rest) := fun h => by
      have hfirst := Token.atStart?_eq_some_iff.2 ⟨ht, List.prefix_append t.chars rest⟩
      rw [hspan, Token.atStart?_eq_some_iff.2 ⟨hk, h⟩] at hfirst
      exact hsame (congrArg Token.chars (Option.some.inj hfirst).symm)
    have hinside : ∀ c ∈ t.body ++ [']'], c ≠ '[' := fun c hc => by
      rcases List.mem_append.1 hc with hc | hc
      · exact (isBracket_eq_false_iff.1 (ht.body_plain c hc)).1
      · simp [List.mem_singleton.1 hc]
    rw [hspan, replaceFrom, if_neg hnot, replaceFrom_run k new hinside, if_neg hsame]
    rfl

/-- Replacing what is written for one token is walking over the spans of the text. -/
theorem replaceFrom_eq_renderFrom {k : Token} (hk : k.WellFormed) (new text : List Char) :
    replaceFrom k.chars new 0 text = renderFrom (insteadOf k new) 0 text := by
  induction hn : text.length using Nat.strong_induction_on generalizing text with
  | _ n ih =>
    cases text with
    | nil => rfl
    | cons c rest =>
      cases hstart : Token.atStart? (c :: rest) with
      | none =>
        have hnot : ¬ k.chars <+: c :: rest := fun h => by
          rw [Token.atStart?_eq_some_iff.2 ⟨hk, h⟩] at hstart
          cases hstart
        rw [replaceFrom, if_neg hnot, renderFrom, hstart, ih rest.length (by simp [← hn]) rest rfl]
      | some t =>
        obtain ⟨wf, after, hafter⟩ := Token.atStart?_eq_some_iff.1 hstart
        have hlt : after.length < n := by
          rw [← hn, ← hafter]
          simp [Token.chars]
          omega
        rw [← hafter, replaceFrom_token hk wf, renderFrom_token _ wf, ih after.length hlt after rfl]

/-! One walk after another. -/

section

variable {first : Token → List Char} (second : Token → List Char)
  (plain : ∀ t : Token, first t = t.chars ∨ ∀ c ∈ first t, isBracket c = false)

include plain

/-- The second walk over what the first one has written for a closed body: it reads a token that was left and
passes over anything else. -/
theorem renderFrom_rewritten {body : List Char} (hbody : ∀ c ∈ body, isBracket c = false) (rest : List Char) :
    renderFrom second 0 (((Token.ofBody? body).map first).getD ('[' :: (body ++ [']'])) ++ rest) =
        ((Token.ofBody? body).map fun t => if first t = t.chars then second t else first t).getD
          ('[' :: (body ++ [']'])) ++ renderFrom second 0 rest ∧
      (Alternates rest →
        Alternates (((Token.ofBody? body).map first).getD ('[' :: (body ++ [']'])) ++ rest)) := by
  have hspan : '[' :: (body ++ [']']) ++ rest = '[' :: (body ++ ']' :: rest) := by simp
  cases hread : Token.ofBody? body with
  | none =>
    rw [Option.map_none, Option.getD_none, hspan, renderFrom_closed second hbody, hread]
    exact ⟨rfl, .closed hbody⟩
  | some t =>
    obtain ⟨wf, rfl⟩ := (Token.ofBody?_eq_some_iff hbody).1 hread
    rw [Option.map_some, Option.getD_some, Option.map_some, Option.getD_some]
    by_cases hsame : first t = t.chars
    · rw [if_pos hsame, hsame, renderFrom_token second wf, Token.chars, hspan]
      exact ⟨rfl, .closed hbody⟩
    · have hplain := (plain t).resolve_left hsame
      rw [if_neg hsame, renderFrom_plain second hplain]
      exact ⟨rfl, .append hplain⟩

/-- A walk that leaves a token as it is or writes no bracket for it can be followed by a second one, and both
together are one walk. What they write does not nest either. -/
theorem renderFrom_renderFrom {text : List Char} (h : Alternates text) :
    renderFrom second 0 (renderFrom first 0 text) =
        renderFrom (fun t => if first t = t.chars then second t else first t) 0 text ∧
      Alternates (renderFrom first 0 text) := by
  induction h with
  | nil => exact ⟨rfl, .nil⟩
  | plain c hc _ ih =>
    rw [renderFrom_cons first hc, renderFrom_cons second hc, renderFrom_cons _ hc, ih.1]
    exact ⟨rfl, .plain c hc ih.2⟩
  | @closed body rest hbody _ ih =>
    obtain ⟨hagain, hkept⟩ := renderFrom_rewritten second plain hbody (renderFrom first 0 rest)
    rw [renderFrom_closed first hbody, renderFrom_closed _ hbody, ← ih.1]
    exact ⟨hagain, hkept ih.2⟩
  | @unclosed body hbody =>
    have hkept (emit : Token → List Char) : renderFrom emit 0 ('[' :: body) = '[' :: body := by
      have hrest : ∀ c ∈ ([] : List Char).head?, c = '[' := by simp
      simpa [renderFrom] using renderFrom_unclosed emit hbody hrest
    rw [hkept, hkept, hkept]
    exact ⟨rfl, .unclosed hbody⟩

end

theorem insteadOf_plain (k : Token) {new : List Char} (plain : ∀ c ∈ new, isBracket c = false) (t : Token) :
    insteadOf k new t = t.chars ∨ ∀ c ∈ insteadOf k new t, isBracket c = false := by
  unfold insteadOf
  split
  · exact Or.inr plain
  · exact Or.inl rfl

/-- A token gets the replacement of the first entry, or else what the later ones have for it. -/
theorem textAmong_cons {k : Token} {entry : Entry} (hk : k.literal = entry.token)
    (plain : ∀ c ∈ entry.binding.replacement.toList, isBracket c = false) (entries : List Entry) (t : Token) :
    textAmong (entry :: entries) t =
      if insteadOf k entry.binding.replacement.toList t = t.chars then textAmong entries t
      else insteadOf k entry.binding.replacement.toList t := by
  unfold insteadOf
  by_cases hsame : t.chars = k.chars
  · have hfound : entry.token = t.literal := by rw [← hk, Token.literal, Token.literal, hsame]
    have hne : entry.binding.replacement.toList ≠ t.chars := fun h => by
      have hopening := plain '[' (by rw [h]; exact List.mem_cons_self)
      simp [isBracket] at hopening
    rw [if_pos hsame, if_neg hne]
    simp [textAmong, hfound]
  · have hother : entry.token ≠ t.literal := fun h => by
      rw [← hk, Token.literal, Token.literal] at h
      exact hsame (String.ofList_injective h).symm
    rw [if_neg hsame, if_pos rfl]
    simp [textAmong, hother]

/-- The text of a table is the text of its later entries in what its first entry has left. -/
theorem fill_cons {entry : Entry} (spelled : Token.Spelled entry.token)
    (plain : ∀ c ∈ entry.binding.replacement.toList, isBracket c = false) (entries : List Entry) {text : String}
    (h : Alternates text.toList) :
    Table.fill ⟨entry :: entries⟩ text =
        Table.fill ⟨entries⟩ (replaceAll entry.token entry.binding.replacement text) ∧
      Alternates (replaceAll entry.token entry.binding.replacement text).toList := by
  obtain ⟨k, wf, hk⟩ := spelled
  have hchars : entry.token.toList = k.chars := by rw [← hk, Token.literal, String.toList_ofList]
  have hleft : (replaceAll entry.token entry.binding.replacement text).toList =
      renderFrom (insteadOf k entry.binding.replacement.toList) 0 text.toList := by
    rw [replaceAll, String.toList_ofList, hchars, replaceFrom_eq_renderFrom wf]
  obtain ⟨hwalks, hkept⟩ := renderFrom_renderFrom (textAmong entries) (insteadOf_plain k plain) h
  rw [Table.fill_eq_renderFrom, Table.fill_eq_renderFrom, hleft, hwalks]
  refine ⟨?_, hkept⟩
  congr 2
  funext t
  exact textAmong_cons hk plain entries t

/-- Filling in a text is replacing the table's tokens in it one after another, if the tokens are complete spans,
no replacement has a bracket, and the brackets of the text do not nest. -/
theorem fill_eq_replaceEach (table : Table)
    (spelled : ∀ entry ∈ table.entries, Token.Spelled entry.token)
    (plain : ∀ entry ∈ table.entries, ∀ c ∈ entry.binding.replacement.toList, c ≠ '[' ∧ c ≠ ']')
    (text : String) (alternating : Alternating text.toList) : table.fill text = table.replaceEach text := by
  obtain ⟨entries⟩ := table
  have halternates := alternating.alternates
  clear alternating
  induction entries generalizing text with
  | nil => exact Table.fill_of_isEmpty rfl text
  | cons entry entries ih =>
    have hplain : ∀ c ∈ entry.binding.replacement.toList, isBracket c = false := fun c hc =>
      isBracket_eq_false_iff.2 (plain entry List.mem_cons_self c hc)
    obtain ⟨hfirst, hleft⟩ := fill_cons (spelled entry List.mem_cons_self) hplain entries halternates
    rw [hfirst, ih _ (fun e he => spelled e (List.mem_cons_of_mem entry he))
      (fun e he => plain e (List.mem_cons_of_mem entry he)) hleft]
    rfl

/-- The same text both ways, for a table that repeats a token and writes nothing for one, and a text that
leaves a bracket open. -/
theorem fill_eq_replaceEach_leftOpen :
    let table : Table := ⟨[
      ⟨"[NAME?you!]", { attributeName := "Name", fallbackText := some "you", uppercase := true }⟩,
      ⟨"[CITY]", { attributeName := "City", fallbackText := none, uppercase := false }⟩,
      ⟨"[CITY]", { attributeName := "City", fallbackText := some "Oslo", uppercase := false }⟩]⟩
    let text := "Hi] [NAME?you!][CITY][X] [NAME?you!"
    (∀ entry ∈ table.entries, Token.Spelled entry.token) ∧
      (∀ entry ∈ table.entries, ∀ c ∈ entry.binding.replacement.toList, c ≠ '[' ∧ c ≠ ']') ∧
      Alternating text.toList ∧ table.fill text = "Hi] YOU[X] [NAME?you!" ∧
      table.replaceEach text = "Hi] YOU[X] [NAME?you!" := by
  intro table text
  have name : Token.Spelled "[NAME?you!]" :=
    ⟨⟨false, "NAME".toList, some "you".toList, true⟩, ((Token.ofBody?_eq_some_iff (by simp [isBracket])).1
      (by decide : Token.ofBody? "NAME?you!".toList = _)).1, by decide⟩
  have city : Token.Spelled "[CITY]" :=
    ⟨⟨false, "CITY".toList, none, false⟩, ((Token.ofBody?_eq_some_iff (by simp [isBracket])).1
      (by decide : Token.ofBody? "CITY".toList = _)).1, by decide⟩
  have spelled : ∀ entry ∈ table.entries, Token.Spelled entry.token := by simp [table, name, city]
  have written : table.entries.map (fun entry => entry.binding.replacement) = ["YOU", "", "Oslo"] := by decide
  have plain : ∀ entry ∈ table.entries, ∀ c ∈ entry.binding.replacement.toList, c ≠ '[' ∧ c ≠ ']' := by
    intro entry hentry
    have hmem := written ▸ List.mem_map_of_mem hentry
    simp only [List.mem_cons, List.not_mem_nil, or_false] at hmem
    rcases hmem with h | h | h <;> simp [h]
  have alternating : Alternating text.toList := by
    have htext : text.toList = 'H' :: 'i' :: ']' :: ' ' :: '[' :: ("NAME?you!".toList ++ ']' ::
        '[' :: ("CITY".toList ++ ']' :: '[' :: ("X".toList ++ ']' :: ' ' :: '[' :: "NAME?you!".toList))) := by
      decide
    have last : Alternates ('[' :: "NAME?you!".toList) := .unclosed (by simp [isBracket])
    rw [htext]
    exact Alternates.alternating <| .plain _ (by decide) <| .plain _ (by decide) <| .plain _ (by decide) <|
      .plain _ (by decide) <| .closed (by simp [isBracket]) <| .closed (by simp [isBracket]) <|
      .closed (by simp [isBracket]) <| .plain _ (by decide) last
  have hfill : table.fill text = "Hi] YOU[X] [NAME?you!" := by decide
  refine ⟨spelled, plain, alternating, hfill, ?_⟩
  rw [← fill_eq_replaceEach table spelled plain text alternating, hfill]

/-- Where brackets nest, what one replacement leaves may be a token for the next. -/
example :
    let table : Table := ⟨[
      ⟨"[A]", { attributeName := "A", fallbackText := none, uppercase := false }⟩,
      ⟨"[B]", { attributeName := "B", fallbackText := none, uppercase := false }⟩]⟩
    table.fill "[[A]B]" = "[B]" ∧ table.replaceEach "[[A]B]" = "" := by
  decide

end SubjectMerge
