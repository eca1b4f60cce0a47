import SubjectMerge.Proofs.Json.RecordText
import SubjectMerge.Proofs.Json.Skipped
import SubjectMerge.Proofs.Results

/-! Lists and records read leniently. A reader that takes the texts of an item or a field takes those of lists and
records of them: the parts are met one by one, each behind its comma and blanks, members of other names are passed
over, and the order in which the fields were met does not show in the end. Where a field is met again nothing behind
its name is looked at. -/

namespace SubjectMerge.Json

/-- The reader finds the value behind any of these texts, and stops right after it. -/
structure Takes (read : Reader Value) (Gives : List Char → Prop) (v : Value) : Prop where
  opens : ∀ text, Gives text → Opens text
  reads : ∀ text, Gives text → Reads read text v

/-- The reader passes over blanks, and comes to no end behind these beginnings, in which a field is doubled. -/
structure Refuses (read : Reader Value) (Doubled : List Char → Prop) : Prop where
  ahead : ∀ s, read (skipSpace s) = read s
  opens : ∀ text, Doubled text → Opens text
  fails : ∀ text, Doubled text → ∀ rest, read (text ++ rest) = .error .mistyped

theorem Refuses.read_blanks {read : Reader Value} {Doubled : List Char → Prop} (h : Refuses read Doubled) (b : Blanks)
    (s : List Char) : read (b.chars ++ s) = read s := by
  rw [← h.ahead, skipSpace_blanks, h.ahead]

/-! Single values. There is no field in them that could be doubled. -/

theorem refuses_nothing {read : Reader Value} (ahead : ∀ s, read (skipSpace s) = read s) :
    Refuses read fun _ => False where
  ahead := ahead
  opens _ h := h.elim
  fails _ h := h.elim

theorem refuses_text : Refuses readText fun _ => False :=
  refuses_nothing fun s => by simp only [readText, skipSpace_skipSpace]

theorem refuses_optionalText : Refuses readOptionalText fun _ => False :=
  refuses_nothing fun s => by simp only [readOptionalText, readText, skipSpace_skipSpace]

theorem refuses_flag : Refuses readFlag fun _ => False :=
  refuses_nothing fun s => by simp only [readFlag, skipSpace_skipSpace]

theorem takes_text (s : String) : Takes readText (Texts.text.Gives s) (.text s) where
  opens text := by
    rintro ⟨spelling, -, rfl⟩
    exact ⟨_, _, rfl, by decide⟩
  reads text := by
    rintro ⟨spelling, spells, rfl⟩ rest -
    rw [List.cons_append, List.append_assoc, readText, skipSpace_cons (by decide)]
    simp only [List.singleton_append, stringRest_spells spells, String.ofList_toList, Except.map]

theorem takes_null : Takes readOptionalText (Texts.optionalText.Gives none) .null where
  opens text h := ⟨_, _, h, by decide⟩
  reads text h rest _ := by
    obtain rfl : text = _ := h
    rw [List.cons_append, readOptionalText, skipSpace_cons (by decide)]
    simp only [keyword_append, Except.map]

theorem takes_some (s : String) : Takes readOptionalText (Texts.optionalText.Gives (some s)) (.text s) where
  opens := (takes_text s).opens
  reads text h rest ends := by
    have hread := (takes_text s).reads text h rest ends
    obtain ⟨spelling, -, rfl⟩ := h
    rw [List.cons_append] at hread ⊢
    rw [readOptionalText, skipSpace_cons (by decide)]
    exact hread

theorem takes_flag (b : Bool) : Takes readFlag (Texts.flag.Gives b) (.flag b) where
  opens text h := by
    cases b with
    | true => exact ⟨_, _, h, by decide⟩
    | false => exact ⟨_, _, h, by decide⟩
  reads text h rest _ := by
    cases b with
    | true =>
      obtain rfl : text = ['t', 'r', 'u', 'e'] := h
      rw [List.cons_append, readFlag, skipSpace_cons (by decide)]
      simp only [keyword_append, Except.map]
    | false =>
      obtain rfl : text = ['f', 'a', 'l', 's', 'e'] := h
      rw [List.cons_append, readFlag, skipSpace_cons (by decide)]
      simp only [keyword_append, Except.map]

/-! Parts one after the other. The first of them stands behind the bracket, every other behind a comma. -/

def lead (first : Bool) (s : List Char) : List Char := if first then s else ',' :: s

theorem nextItem?_lead {text : List Char} (opens : Opens text) (first : Bool) (before : Blanks) (rest : List Char) :
    nextItem? first (lead first (before.chars ++ (text ++ rest))) = .ok (true, text ++ rest) := by
  obtain ⟨c, cs, rfl, hspace, hclose, hcomma⟩ := opens
  have hskip := skipSpace_blanks_cons before hspace (cs ++ rest)
  cases first with
  | true => simp [lead, nextItem?, hskip, hclose, hcomma]
  | false => simp [lead, nextItem?, skipSpace_cons (c := ',') (by decide), hskip, hclose]

theorem nextItem?_closing (first : Bool) (b : Blanks) (rest : List Char) :
    nextItem? first (b.chars ++ ']' :: rest) = .ok (false, rest) := by
  rw [nextItem?, skipSpace_blanks_cons b (by decide)]
  rfl

theorem nextMember?_lead (first : Bool) (before : Blanks) (rest : List Char) :
    nextMember? first (lead first (before.chars ++ '"' :: rest)) = .ok (true, rest) := by
  have hskip := skipSpace_blanks_cons before (c := '"') (by decide) rest
  cases first with
  | true => simp [lead, nextMember?, hskip]
  | false => simp [lead, nextMember?, skipSpace_cons (c := ',') (by decide), hskip]

theorem nextMember?_closing (first : Bool) (b : Blanks) (rest : List Char) :
    nextMember? first (b.chars ++ '}' :: rest) = .ok (false, rest) := by
  rw [nextMember?, skipSpace_blanks_cons b (by decide)]
  rfl

theorem colon_blanks (b : Blanks) (rest : List Char) : colon (b.chars ++ ':' :: rest) = .ok rest := by
  rw [colon, skipSpace_blanks_cons b (by decide)]
  rfl

theorem nextItem?_blanks (first : Bool) (b : Blanks) (s : List Char) :
    nextItem? first (b.chars ++ s) = nextItem? first s := by
  simp only [nextItem?, skipSpace_blanks]

theorem nextMember?_blanks (first : Bool) (b : Blanks) (s : List Char) :
    nextMember? first (b.chars ++ s) = nextMember? first s := by
  simp only [nextMember?, skipSpace_blanks]

/-! Lists. -/

section Items

variable {read : Reader Value}

/-- One item read. -/
theorem readItems_item {Gives : List Char → Prop} {v : Value} (h : Takes read Gives v) {item : Padded}
    (gives : Gives item.inner) (fuel : Nat) (first : Bool) {c : Char} (mark : c ∈ [',', ']', '}']) (rest : List Char) :
    readItems read (fuel + 1) first (lead first (item.chars ++ c :: rest)) =
      (readItems read fuel false (c :: rest)).map fun (vs, s) => (v :: vs, s) := by
  have ends := endsNumber_blanks item.after (endsNumber_cons mark rest)
  have hread := h.reads item.inner gives _ ends
  have hnext := nextItem?_lead (h.opens item.inner gives) first item.before (item.after.chars ++ c :: rest)
  have hafter : readItems read fuel false (item.after.chars ++ c :: rest) = readItems read fuel false (c :: rest) := by
    cases fuel with
    | zero => rfl
    | succ fuel => simp only [readItems, nextItem?_blanks]
  rw [Padded.chars, List.append_assoc, List.append_assoc, readItems]
  simp only [hnext, hread, hafter, bind, Except.bind]
  cases readItems read fuel false (c :: rest) <;> rfl

variable {α : Type} {texts : Texts α} {value : α → Value}

/-- Items read that have something behind them. -/
theorem readItems_followed (h : ∀ a, Takes read (texts.Gives a) (value a)) {as : List α} {items : List Padded}
    (gives : List.Forall₂ (fun a item => texts.Gives a item.inner) as items) (fuel : Nat) (first : Bool) (s : List Char) :
    readItems read (fuel + items.length) first (lead first (followed (items.map Padded.chars) ++ s)) =
      (readItems read fuel (first && items.isEmpty) (lead (first && items.isEmpty) s)).map
        fun (vs, s) => (as.map value ++ vs, s) := by
  induction gives generalizing first with
  | nil =>
    rw [List.map_nil, followed, List.flatMap_nil, List.nil_append, List.isEmpty_nil, Bool.and_true]
    cases readItems read fuel first (lead first s) <;> rfl
  | @cons a item as items ha _ ih =>
    rw [List.map_cons, followed_cons, List.length_cons, ← Nat.add_assoc, readItems_item (h a) ha _ _ (by decide)]
    have hrest := ih false
    rw [lead, Bool.false_and, if_neg Bool.false_ne_true] at hrest
    rw [hrest, List.isEmpty_cons, Bool.and_false]
    cases readItems read fuel false (lead false s) <;> rfl

theorem readItems_closing (read : Reader Value) (fuel : Nat) (first : Bool) (b : Blanks) (rest : List Char) :
    readItems read (fuel + 1) first (b.chars ++ ']' :: rest) = .ok ([], rest) := by
  rw [readItems, nextItem?_closing]
  rfl

theorem forall₂_concat {β : Type} {R : α → β → Prop} {as : List α} {bs : List β} {b : β}
    (h : List.Forall₂ R as (bs ++ [b])) : ∃ init a, as = init ++ [a] ∧ List.Forall₂ R init bs ∧ R a b := by
  obtain ⟨a, rest, hab, hrest, hdrop⟩ := List.forall₂_cons_right_iff.1 (List.forall₂_drop_append as bs [b] h)
  obtain rfl := List.forall₂_nil_right_iff.1 hrest
  exact ⟨_, a, hdrop ▸ (List.take_append_drop _ as).symm, List.forall₂_take_append as bs [b] h, hab⟩

/-- Fuel for some parts and what is behind them. -/
theorem exists_fuel (parts : List (List Char)) (s : List Char) :
    ∃ fuel, (followed parts ++ s).length + 1 = fuel + 1 + parts.length := by
  refine ⟨(followed parts ++ s).length - parts.length, ?_⟩
  have hle := length_le_followed parts
  rw [List.length_append]
  omega

/-- All that stands between two brackets read. -/
theorem readItems_inside (h : ∀ a, Takes read (texts.Gives a) (value a)) {as : List α} {items : List Padded}
    (gives : List.Forall₂ (fun a item => texts.Gives a item.inner) as items) (blank : Blanks) (rest : List Char) {fuel : Nat}
    (enough : items.length < fuel) :
    readItems read fuel true (inside blank (items.map Padded.chars) ++ ']' :: rest) = .ok (as.map value, rest) := by
  rcases items.eq_nil_or_concat' with rfl | ⟨items, last, rfl⟩
  · obtain rfl := List.forall₂_nil_right_iff.1 gives
    obtain ⟨fuel, rfl⟩ := Nat.exists_eq_succ_of_ne_zero (Nat.pos_iff_ne_zero.1 enough)
    exact readItems_closing read fuel true blank rest
  · obtain ⟨as, a, rfl, gives, hlast⟩ := forall₂_concat gives
    obtain ⟨fuel, rfl⟩ : ∃ k, fuel = k + 1 + 1 + items.length := by
      rw [List.length_append, List.length_singleton] at enough
      exact ⟨fuel - items.length - 2, by omega⟩
    have hclosing : readItems read (fuel + 1) false (']' :: rest) = .ok ([], rest) :=
      readItems_closing read fuel false .none rest
    have hitems := readItems_followed h gives (fuel + 1 + 1) true (last.chars ++ ']' :: rest)
    rw [readItems_item (h a) hlast _ _ (by decide), hclosing, lead, if_pos rfl] at hitems
    rw [List.map_append, List.map_singleton, inside_concat, List.append_assoc, hitems, List.map_append]
    rfl

/-- A list of items is read as the list of their values. -/
theorem takes_list (h : ∀ a, Takes read (texts.Gives a) (value a)) (as : List α) :
    Takes (readList read) (texts.list.Gives as) (.list (as.map value)) where
  opens text := by
    rintro ⟨blank, items, -, rfl⟩
    exact ⟨_, _, rfl, by decide⟩
  reads text := by
    rintro ⟨blank, items, gives, rfl⟩ rest -
    have enough : items.length < (inside blank (items.map Padded.chars) ++ ']' :: rest).length + 1 := by
      have hle := length_le_inside blank (items.map Padded.chars)
      simp only [List.length_map, List.length_append, List.length_cons] at hle ⊢
      omega
    rw [List.cons_append, List.append_assoc, List.singleton_append, readList, skipSpace_cons (by decide)]
    simp only [readItems_inside h gives blank rest enough, Except.map]

theorem refuses_list (h : ∀ a, Takes read (texts.Gives a) (value a)) (refuses : Refuses read texts.Doubled) :
    Refuses (readList read) texts.list.Doubled where
  ahead s := by simp only [readList, skipSpace_skipSpace]
  opens text := by
    rintro ⟨as, items, ahead, last, -, -, rfl⟩
    exact ⟨_, _, rfl, by decide⟩
  fails text := by
    rintro ⟨as, items, ahead, last, gives, doubled, rfl⟩ rest
    obtain ⟨fuel, hfuel⟩ := exists_fuel (items.map Padded.chars) (ahead.chars ++ (last ++ rest))
    have hlast : ∀ first, readItems read (fuel + 1) first (lead first (ahead.chars ++ (last ++ rest))) =
        .error .mistyped := by
      intro first
      rw [readItems, nextItem?_lead (refuses.opens last doubled)]
      simp only [refuses.fails last doubled, bind, Except.bind]
    have hitems := readItems_followed h gives (fuel + 1) true (ahead.chars ++ (last ++ rest))
    rw [List.length_map] at hfuel
    rw [hlast, ← hfuel, lead, if_pos rfl] at hitems
    rw [List.cons_append, List.append_assoc, List.append_assoc, readList, skipSpace_cons (by decide)]
    simp only [hitems, Except.map]

end Items

end SubjectMerge.Json
