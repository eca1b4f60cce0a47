import SubjectMerge.Proofs.Registry.Operations
import SubjectMerge.Proofs.Subject.Replacement

/-! Messages that are finalized twice. The first time uses up the recipient's bound table, so the second time the
campaign's own one is filled in, in which no value is bound and which would blank each of its tokens. None is left
in the message: if the brackets of a text do not nest and no replacement has any, what is written for one token
never completes another. -/

namespace SubjectMerge

open Token (isBracket)

theorem textAmong_of_notMem {table : Table} {t : Token} (h : t.literal ∉ table.tokens) :
    textAmong table.entries t = t.chars := by
  have hnone : (table.entries.find? fun entry => entry.token = t.literal) = none := by
    simpa [Table.tokens] using h
  rw [textAmong, hnone]

/-- What stands for one of a table's tokens has no bracket if none of its replacements has. -/
theorem textAmong_plain {table : Table}
    (plain : ∀ entry ∈ table.entries, ∀ c ∈ entry.binding.replacement.toList, isBracket c = false)
    {t : Token} (h : t.literal ∈ table.tokens) :
    ∀ c ∈ textAmong table.entries t, isBracket c = false := by
  unfold textAmong
  split
  · next entry hfound => exact plain entry (List.mem_of_find?_eq_some hfound)
  · next hnone =>
    obtain ⟨entry, hentry, htoken⟩ := List.mem_map.1 h
    simpa [htoken] using List.find?_eq_none.1 hnone entry hentry

/-- A second table with the same tokens finds none of them in what the first one has filled in. -/
theorem Table.fill_fill {bound own : Table} (same : own.tokens = bound.tokens)
    (plain : ∀ entry ∈ bound.entries, ∀ c ∈ entry.binding.replacement.toList, isBracket c = false)
    {text : String} (h : Alternating text.toList) : own.fill (bound.fill text) = bound.fill text := by
  have hfirst (t : Token) :
      textAmong bound.entries t = t.chars ∨ ∀ c ∈ textAmong bound.entries t, isBracket c = false := by
    by_cases hmem : t.literal ∈ bound.tokens
    · exact Or.inr (textAmong_plain plain hmem)
    · exact Or.inl (textAmong_of_notMem hmem)
  have hboth : (fun t => if textAmong bound.entries t = t.chars then textAmong own.entries t
      else textAmong bound.entries t) = textAmong bound.entries := by
    funext t
    split
    · next hleft =>
      -- a token that is left is in neither table
      have habsent : t.literal ∉ bound.tokens := fun hmem => by
        have hopening := textAmong_plain plain hmem '[' (by rw [hleft]; exact List.mem_cons_self)
        simp [isBracket] at hopening
      rw [hleft, textAmong_of_notMem (same ▸ habsent)]
    · rfl
  rw [fill_eq_renderFrom own, fill_eq_renderFrom bound, String.toList_ofList,
    (renderFrom_renderFrom (textAmong own.entries) hfirst h.alternates).1, hboth]

/-- A campaign without tokens leaves every message alone; in any other the second time finds nothing parked. -/
theorem Campaign.finalize_finalize {c : Campaign} {message : Message} {values : Values}
    (parked : c.parked.get? message.recipientId = some (c.table.bind values))
    (plain : ∀ entry ∈ (c.table.bind values).entries,
      ∀ ch ∈ entry.binding.replacement.toList, isBracket ch = false)
    (h : Alternating message.subject.toList) :
    ((c.finalize message).2.finalize (c.finalize message).1).1 = (c.finalize message).1 := by
  have hcore := (sameCore_finalize c message).table
  cases hempty : c.table.isEmpty with
  | true => simp [finalize, hempty]
  | false =>
    have hparked : (c.finalize message).2.parked.get? message.recipientId = none := by
      rw [get?_parked_finalize, if_pos ⟨hempty, rfl⟩]
    have honce : (c.finalize message).1 =
        { message with subject := (c.table.bind values).fill message.subject } := by
      rw [fst_finalize, hempty, tableFor, parked]
      rfl
    have hagain : c.table.fill ((c.table.bind values).fill message.subject) =
        (c.table.bind values).fill message.subject :=
      Table.fill_fill (Table.tokens_bind c.table values).symm plain h
    rw [fst_finalize, honce, hcore, hempty, tableFor, hparked, hcore, Option.getD_none, hagain]
    rfl

/-- If a running campaign has a table parked for the recipient of a message, bound from its own, then finalizing
the message uses that table up, and finalizing the answer, with nothing parked any more, leaves it as it is. -/
theorem finalize_again {registry : Registry} {id : String} {c : Campaign} (running : registry.get? id = some c)
    {message : Message} {values : Values}
    (parked : c.parked.get? message.recipientId = some (c.table.bind values))
    (plain : ∀ entry ∈ (c.table.bind values).entries,
      ∀ ch ∈ entry.binding.replacement.toList, ch ≠ '[' ∧ ch ≠ ']')
    (alternating : Alternating message.subject.toList) :
    ∃ once between again, registry.finalize id message = .ok (once, between) ∧
      between.finalize id once = .ok (once, again) ∧
      ∃ d, between.get? id = some d ∧ d.table = c.table ∧
        (c.table.isEmpty = false → d.parked.get? message.recipientId = none) := by
  have hplain : ∀ entry ∈ (c.table.bind values).entries,
      ∀ ch ∈ entry.binding.replacement.toList, isBracket ch = false := fun entry hentry ch hch =>
    isBracket_eq_false_iff.2 (plain entry hentry ch hch)
  have hbetween : (registry.insert id (c.finalize message).2).get? id = some (c.finalize message).2 := by
    rw [Keyed.get?_insert, if_pos rfl]
  have honce : registry.finalize id message = .ok ((c.finalize message).1,
      registry.insert id (c.finalize message).2) := by
    rw [Registry.finalize_eq, running]
  have hagain := Registry.finalize_eq (registry.insert id (c.finalize message).2) id (c.finalize message).1
  rw [hbetween] at hagain
  dsimp only at hagain
  rw [Campaign.finalize_finalize parked hplain alternating] at hagain
  refine ⟨_, _, _, honce, hagain, (c.finalize message).2, hbetween, (c.sameCore_finalize message).table, ?_⟩
  intro hempty
  rw [Campaign.get?_parked_finalize, if_pos ⟨hempty, rfl⟩]

/-- A message with a token that falls back, one that is blanked, and one that the table does not hold. -/
theorem finalize_again_ann :
    let own := Table.ofSubject ["Name", "City"] "[NAME?you!] [CITY]"
    let values : Values := .ofList [("Name", some "")]
    let c : Campaign := ⟨"c1", "[NAME?you!] [CITY]", own, Keyed.empty.insert "ann" (own.bind values)⟩
    let registry : Registry := Keyed.empty.insert "c1" c
    let message : Message := ⟨"ann", "Hi [NAME?you!][CITY] [X]"⟩
    registry.get? "c1" = some c ∧ c.parked.get? message.recipientId = some (c.table.bind values) ∧
      (∀ entry ∈ (c.table.bind values).entries, ∀ ch ∈ entry.binding.replacement.toList, ch ≠ '[' ∧ ch ≠ ']') ∧
      Alternating message.subject.toList ∧
      ∃ between again, registry.finalize "c1" message = .ok (⟨"ann", "Hi YOU [X]"⟩, between) ∧
        between.finalize "c1" ⟨"ann", "Hi YOU [X]"⟩ = .ok (⟨"ann", "Hi YOU [X]"⟩, again) := by
  intro own values c registry message
  have running : registry.get? "c1" = some c := rfl
  have parked : c.parked.get? message.recipientId = some (c.table.bind values) := rfl
  have written : (c.table.bind values).entries.map (fun entry => entry.binding.replacement) = ["YOU", ""] := by
    decide
  have plain : ∀ entry ∈ (c.table.bind values).entries,
      ∀ ch ∈ entry.binding.replacement.toList, ch ≠ '[' ∧ ch ≠ ']' := by
    intro entry hentry
    have hmem := written ▸ List.mem_map_of_mem hentry
    simp only [List.mem_cons, List.not_mem_nil, or_false] at hmem
    rcases hmem with h | h <;> simp [h]
  have alternating : Alternating message.subject.toList := by
    have htext : message.subject.toList = 'H' :: 'i' :: ' ' :: '[' :: ("NAME?you!".toList ++ ']' ::
        '[' :: ("CITY".toList ++ ']' :: ' ' :: '[' :: ("X".toList ++ ']' :: []))) := by decide
    rw [htext]
    exact Alternates.alternating <| .plain _ (by decide) <| .plain _ (by decide) <| .plain _ (by decide) <|
      .closed (by simp [isBracket]) <| .closed (by simp [isBracket]) <| .plain _ (by decide) <|
      .closed (by simp [isBracket]) .nil
  refine ⟨running, parked, plain, alternating, ?_⟩
  obtain ⟨once, between, again, hfirst, hsecond, -⟩ := finalize_again running parked plain alternating
  have honce : (registry.finalize "c1" message).toOption.map Prod.fst = some ⟨"ann", "Hi YOU [X]"⟩ := by decide
  rw [hfirst] at honce
  obtain rfl : once = ⟨"ann", "Hi YOU [X]"⟩ := Option.some.inj honce
  exact ⟨between, again, hfirst, hsecond⟩

/-- Where brackets nest, the first time may leave a token that the second one blanks. -/
example :
    let own := Table.ofSubject ["A", "B"] "[A][B]"
    let once := (own.bind .empty).fill "[[A]B]"
    once = "[B]" ∧ own.fill once = "" := by
  decide

end SubjectMerge
