import SubjectMerge.Json.Skip
import SubjectMerge.Proofs.Json.Layout
import SubjectMerge.Proofs.Json.Spellings
import SubjectMerge.Proofs.Json.Values

/-! Values passed over. Whatever JSON value stands in front, of any size and depth, exactly that value is passed
over: the calls go down along its grammar, and twice its length is enough of them. -/

namespace SubjectMerge.Json

/-! Numbers. -/

theorem AllDigits.isDigit {ds : List Char} (h : AllDigits ds) : ∀ d ∈ ds, isDigit d = true := by
  intro d hd
  obtain ⟨low, high⟩ := h d hd
  simp [Json.isDigit, low, high]

theorem skipDigits_append {ds rest : List Char} (nonempty : ds ≠ []) (h : AllDigits ds)
    (stop : ∀ c ∈ rest.head?, isDigit c = false) : skipDigits (ds ++ rest) = .ok rest := by
  have hhead : (ds ++ rest).head?.any isDigit = true := by
    obtain ⟨d, ds, rfl⟩ := List.exists_cons_of_ne_nil nonempty
    exact h.isDigit d List.mem_cons_self
  rw [skipDigits, if_pos hhead, dropWhile_run h.isDigit stop]

theorem skipExponent_append {exponent rest : List Char} (h : Exponent exponent) (ends : EndsNumber rest) :
    skipExponent (exponent ++ rest) = .ok rest := by
  have stop : ∀ c ∈ rest.head?, isDigit c = false := fun c hc => (ends c hc).1
  cases h with
  | none =>
    cases rest with
    | nil => rfl
    | cons c rest => simp [skipExponent, (ends c rfl).2.2]
  | @digits letter sign ds hletter hsign nonempty hds =>
    have hexponent : isExponentLetter letter = true := by
      rcases hletter with rfl | rfl <;> rfl
    have hskip := skipDigits_append nonempty hds stop
    rw [List.cons_append, List.append_assoc]
    unfold skipExponent
    simp only [hexponent, if_true]
    rcases hsign with rfl | rfl | rfl
    · -- a digit is no sign
      obtain ⟨d, ds, rfl⟩ := List.exists_cons_of_ne_nil nonempty
      have hd : isDigit d = true := hds.isDigit d List.mem_cons_self
      rw [List.nil_append]
      split
      · next heq =>
        obtain rfl := (List.cons.inj heq).1
        exact absurd hd (by decide)
      · next heq =>
        obtain rfl := (List.cons.inj heq).1
        exact absurd hd (by decide)
      · exact hskip
    · exact hskip
    · exact hskip

/-- An exponent does not go on with what a whole part or a fraction has. -/
theorem head?_exponent {exponent rest : List Char} (h : Exponent exponent) (ends : EndsNumber rest) :
    ∀ c ∈ (exponent ++ rest).head?, isDigit c = false ∧ c ≠ '.' := by
  intro c hc
  cases h with
  | none => exact ⟨(ends c hc).1, (ends c hc).2.1⟩
  | digits hletter =>
    obtain rfl := Option.some.inj hc
    rcases hletter with rfl | rfl <;> decide

theorem head?_fraction {fraction exponent rest : List Char} (hfraction : Fraction fraction)
    (hexponent : Exponent exponent) (ends : EndsNumber rest) :
    ∀ c ∈ (fraction ++ (exponent ++ rest)).head?, isDigit c = false := by
  intro c hc
  cases hfraction with
  | none => exact (head?_exponent hexponent ends c hc).1
  | digits nonempty h =>
    obtain rfl := Option.some.inj hc
    decide

/-- Passes over what a number has behind its whole part. -/
def skipParts : List Char → Except Fault (List Char)
  | '.' :: fraction => do skipExponent (← skipDigits fraction)
  | rest => skipExponent rest

theorem skipUnsigned_whole {whole s : List Char} (h : Whole whole) (stop : ∀ c ∈ s.head?, isDigit c = false) :
    skipUnsigned (whole ++ s) = skipParts s := by
  cases h with
  | zero =>
    have hnone : s.head?.any isDigit = false := by
      cases hhead : s.head? with
      | none => rfl
      | some c => exact stop c hhead
    have hzero : skipUnsigned ('0' :: s) =
        if s.head?.any isDigit then .error .malformed else skipParts s := rfl
    rw [List.singleton_append, hzero, hnone, if_neg Bool.false_ne_true]
  | @digits d ds nonzero hall =>
    have hskip := skipDigits_append (List.cons_ne_nil d ds) hall stop
    unfold skipUnsigned
    split
    · next heq => exact absurd (List.cons.inj heq).1 nonzero
    · rw [hskip]
      rfl

theorem skipParts_append {fraction exponent rest : List Char} (hfraction : Fraction fraction)
    (hexponent : Exponent exponent) (ends : EndsNumber rest) :
    skipParts (fraction ++ (exponent ++ rest)) = .ok rest := by
  have hhead := head?_exponent hexponent ends
  cases hfraction with
  | none =>
    rw [List.nil_append]
    unfold skipParts
    split
    · next heq => exact absurd rfl (hhead '.' (by rw [heq]; rfl)).2
    · exact skipExponent_append hexponent ends
  | digits nonempty hds =>
    have hskip := skipDigits_append nonempty hds fun c hc => (hhead c hc).1
    simp only [List.cons_append, skipParts, hskip, bind, Except.bind]
    exact skipExponent_append hexponent ends

theorem skipUnsigned_append {number rest : List Char} (h : Unsigned number) (ends : EndsNumber rest) :
    skipUnsigned (number ++ rest) = .ok rest := by
  obtain @⟨whole, fraction, exponent, hwhole, hfraction, hexponent⟩ := h
  rw [List.append_assoc, List.append_assoc, skipUnsigned_whole hwhole (head?_fraction hfraction hexponent ends),
    skipParts_append hfraction hexponent ends]

/-! Values. -/

/-- A number begins with a digit. -/
theorem Unsigned.exists_digit {number : List Char} (h : Unsigned number) :
    ∃ d ds, number = d :: ds ∧ isDigit d = true := by
  obtain @⟨whole, fraction, exponent, hwhole, -, -⟩ := h
  cases hwhole with
  | zero => exact ⟨'0', _, rfl, rfl⟩
  | digits _ hall => exact ⟨_, _, rfl, hall.isDigit _ List.mem_cons_self⟩

theorem opens_of_isDigit {d : Char} (h : isDigit d = true) (ds : List Char) : Opens (d :: ds) := by
  refine ⟨d, ds, rfl, (ne_of_isDigit h).1, ?_, ?_⟩ <;> rintro rfl <;> exact absurd h (by decide)

theorem ValueText.opens {text : List Char} (h : ValueText text) : Opens text := by
  cases h with
  | null => exact ⟨_, _, rfl, by decide⟩
  | true => exact ⟨_, _, rfl, by decide⟩
  | false => exact ⟨_, _, rfl, by decide⟩
  | unsigned h =>
    obtain ⟨d, ds, rfl, hd⟩ := h.exists_digit
    exact opens_of_isDigit hd ds
  | negative => exact ⟨_, _, rfl, by decide⟩
  | string => exact ⟨_, _, rfl, by decide⟩
  | list => exact ⟨_, _, rfl, by decide⟩
  | object => exact ⟨_, _, rfl, by decide⟩

theorem skipFrom_skipSpace (fuel : Nat) (s : List Char) : skipFrom fuel (skipSpace s) = skipFrom fuel s := by
  cases fuel with
  | zero => rfl
  | succ fuel => rw [skipFrom, skipFrom, skipSpace_skipSpace]

theorem skipFrom_blanks (fuel : Nat) (b : Blanks) (s : List Char) : skipFrom fuel (b.chars ++ s) = skipFrom fuel s := by
  rw [← skipFrom_skipSpace, skipSpace_blanks, skipFrom_skipSpace]

/-- The text is passed over by so many calls, whatever follows. -/
def Skips (text : List Char) : Prop :=
  ∀ fuel rest, 2 * text.length ≤ fuel → EndsNumber rest → skipFrom fuel (text ++ rest) = .ok rest

/-- Of a text there is something to pass over, so there is one call at least. -/
theorem skips_of_succ {text : List Char} (nonempty : text ≠ [])
    (h : ∀ fuel rest, 2 * text.length ≤ fuel + 1 → EndsNumber rest → skipFrom (fuel + 1) (text ++ rest) = .ok rest) :
    Skips text := by
  intro fuel rest enough ends
  have hlength := List.length_pos_iff.2 nonempty
  obtain ⟨fuel, rfl⟩ : ∃ n, fuel = n + 1 := Nat.exists_eq_succ_of_ne_zero (by omega)
  exact h fuel rest enough ends

theorem skips_unsigned {number : List Char} (h : Unsigned number) : Skips number := by
  obtain ⟨d, ds, hnumber, hd⟩ := h.exists_digit
  refine skips_of_succ (by simp [hnumber]) fun fuel rest _ ends => ?_
  have hskip := skipUnsigned_append h ends
  have hne : ∀ c, isDigit c = false → d ≠ c := by
    rintro c hc rfl
    rw [hd] at hc
    cases hc
  rw [hnumber, List.cons_append] at hskip ⊢
  rw [skipFrom, skipSpace_cons (ne_of_isDigit hd).1]
  simp [hd, hskip, hne 'n' rfl, hne 't' rfl, hne 'f' rfl, hne '"' rfl, hne '-' rfl, hne '[' rfl, hne '{' rfl]

theorem skips_negative {number : List Char} (h : Unsigned number) : Skips ('-' :: number) := by
  refine skips_of_succ (List.cons_ne_nil _ _) fun fuel rest _ ends => ?_
  rw [List.cons_append, skipFrom, skipSpace_cons (by decide)]
  exact skipUnsigned_append h ends

theorem skips_keyword {c : Char} {word : List Char}
    (h : ∀ fuel s, skipFrom (fuel + 1) (c :: s) = keyword word s) : Skips (c :: word) := by
  refine skips_of_succ (List.cons_ne_nil _ _) fun fuel rest _ _ => ?_
  rw [List.cons_append, h, keyword_append]

theorem skips_string {body : List Char} (h : Quotable body) : Skips ('"' :: (body ++ ['"'])) := by
  refine skips_of_succ (List.cons_ne_nil _ _) fun fuel rest _ _ => ?_
  rw [List.cons_append, List.append_assoc, skipFrom, skipSpace_cons (by decide)]
  exact skipStringRest_quotable h rest

/-! Lists. -/

/-- A value with the blanks around it, up to those and the mark behind it. -/
theorem Skips.padded {value : Padded} (skips : Skips value.inner) {fuel : Nat}
    (enough : 2 * value.chars.length ≤ fuel) {c : Char} (mark : c ∈ [',', ']', '}']) (rest : List Char) :
    skipFrom fuel (value.chars ++ c :: rest) = .ok (value.after.chars ++ c :: rest) := by
  rw [Padded.chars, List.append_assoc, List.append_assoc, skipFrom_blanks]
  refine skips fuel _ ?_ (endsNumber_blanks value.after (endsNumber_cons mark rest))
  simp only [Padded.chars, List.length_append] at enough
  omega

theorem skipItems_followed {items : List Padded} {last : Padded} (h : ∀ item ∈ items, Skips item.inner)
    (hlast : Skips last.inner) {fuel : Nat}
    (enough : 2 * (followed (items.map Padded.chars) ++ last.chars).length < fuel) (rest : List Char) :
    skipItems fuel (followed (items.map Padded.chars) ++ (last.chars ++ ']' :: rest)) = .ok rest := by
  obtain ⟨fuel, rfl⟩ : ∃ n, fuel = n + 1 := Nat.exists_eq_succ_of_ne_zero (by omega)
  induction items generalizing fuel with
  | nil =>
    have enough' : 2 * last.chars.length ≤ fuel := by
      simp only [List.map_nil, followed, List.flatMap_nil, List.nil_append] at enough
      omega
    rw [List.map_nil, followed, List.flatMap_nil, List.nil_append, skipItems, hlast.padded enough' (by decide)]
    simp only [bind, Except.bind, skipSpace_blanks_cons last.after (c := ']') (by decide)]
  | cons item items ih =>
    obtain ⟨hitem, hitems⟩ := List.forall_mem_cons.1 h
    have henough : 2 * (item.chars.length + 1 + (followed (items.map Padded.chars) ++ last.chars).length) < fuel + 1 := by
      simp only [List.map_cons, followed_cons, List.length_append, List.length_cons] at enough ⊢
      omega
    obtain ⟨fuel, rfl⟩ : ∃ n, fuel = n + 1 := Nat.exists_eq_succ_of_ne_zero (by omega)
    rw [List.map_cons, followed_cons, skipItems, hitem.padded (by omega) (by decide)]
    simp only [bind, Except.bind, skipSpace_blanks_cons item.after (c := ',') (by decide)]
    exact ih hitems fuel (by omega)

theorem skipItems_skipSpace (fuel : Nat) (s : List Char) : skipItems fuel (skipSpace s) = skipItems fuel s := by
  cases fuel with
  | zero => rfl
  | succ fuel => rw [skipItems, skipItems, skipFrom_skipSpace]

/-- A list that does not end at once is passed over item by item. -/
theorem skipFrom_list {s cs : List Char} {c : Char} (h : skipSpace s = c :: cs) (hc : c ≠ ']') (fuel : Nat) :
    skipFrom (fuel + 1) ('[' :: s) = skipItems fuel s := by
  have hitems := skipItems_skipSpace fuel s
  rw [h] at hitems
  rw [skipFrom, skipSpace_cons (by decide)]
  simp [h, hc, hitems]

theorem skips_list (blank : Blanks) {items : List Padded} (texts : ∀ item ∈ items, ValueText item.inner)
    (h : ∀ item ∈ items, Skips item.inner) : Skips ('[' :: (inside blank (items.map Padded.chars) ++ [']'])) := by
  refine skips_of_succ (List.cons_ne_nil _ _) fun fuel rest enough _ => ?_
  rw [List.cons_append, List.append_assoc, List.singleton_append]
  cases items with
  | nil =>
    rw [List.map_nil, inside_nil, skipFrom, skipSpace_cons (by decide)]
    simp only [skipSpace_blanks_cons blank (c := ']') (by decide)]
  | cons first items =>
    -- the first item is not the closing bracket
    obtain ⟨more, hfirst⟩ := inside_cons blank first.chars (items.map Padded.chars)
    obtain ⟨c, cs, hopens, hspace, hclose, -⟩ := (texts first List.mem_cons_self).opens
    have hskip : skipSpace (inside blank ((first :: items).map Padded.chars) ++ ']' :: rest) =
        c :: (cs ++ (first.after.chars ++ (more ++ ']' :: rest))) := by
      rw [List.map_cons, hfirst, Padded.chars, hopens]
      simp only [List.append_assoc, List.cons_append, skipSpace_blanks_cons first.before hspace]
    rw [skipFrom_list hskip hclose]
    obtain ⟨before, last, hsplit⟩ := (List.eq_nil_or_concat' (first :: items)).resolve_left (List.cons_ne_nil _ _)
    rw [hsplit] at h enough ⊢
    rw [List.map_append, List.map_singleton, inside_concat] at enough ⊢
    rw [List.append_assoc]
    refine skipItems_followed (fun item hitem => h item (by simp [hitem])) (h last (by simp)) ?_ rest
    simp only [List.length_append, List.length_cons] at enough ⊢
    omega

/-! Objects. -/

theorem skipMembers_member {m : Member} (name : Quotable m.label) (skips : Skips m.value.inner) {fuel : Nat}
    (enough : 2 * m.chars.length ≤ fuel) {c : Char} (mark : c = ',' ∨ c = '}') (rest : List Char) :
    skipMembers (fuel + 1) (m.chars ++ c :: rest) = if c = ',' then skipMembers fuel rest else .ok rest := by
  have henough : 2 * m.value.chars.length ≤ fuel := by
    simp only [Member.chars, List.length_append] at enough
    omega
  have hvalue := skips.padded henough (c := c) (by rcases mark with rfl | rfl <;> decide) rest
  rw [Member.chars, List.append_assoc, nameChars_append, skipMembers,
    skipSpace_blanks_cons m.before (c := '"') (by decide)]
  simp only [skipStringRest_quotable name, hvalue, bind, Except.bind,
    skipSpace_blanks_cons m.behind (c := ':') (by decide)]
  rcases mark with rfl | rfl
  · simp only [skipSpace_blanks_cons m.value.after (c := ',') (by decide), if_true]
  · simp only [skipSpace_blanks_cons m.value.after (c := '}') (by decide)]
    rfl

theorem skipMembers_followed {members : List Member} {last : Member} (names : ∀ m ∈ members, Quotable m.label)
    (h : ∀ m ∈ members, Skips m.value.inner) (lastName : Quotable last.label) (hlast : Skips last.value.inner)
    {fuel : Nat} (enough : 2 * (followed (members.map Member.chars) ++ last.chars).length < fuel)
    (rest : List Char) :
    skipMembers fuel (followed (members.map Member.chars) ++ (last.chars ++ '}' :: rest)) = .ok rest := by
  obtain ⟨fuel, rfl⟩ : ∃ n, fuel = n + 1 := Nat.exists_eq_succ_of_ne_zero (by omega)
  induction members generalizing fuel with
  | nil =>
    have henough : 2 * last.chars.length ≤ fuel := by
      simp only [List.map_nil, followed, List.flatMap_nil, List.nil_append] at enough
      omega
    exact skipMembers_member lastName hlast henough (Or.inr rfl) rest
  | cons m members ih =>
    obtain ⟨name, names⟩ := List.forall_mem_cons.1 names
    obtain ⟨hm, hmembers⟩ := List.forall_mem_cons.1 h
    have henough : 2 * (m.chars.length + 1 + (followed (members.map Member.chars) ++ last.chars).length) < fuel + 1 := by
      simp only [List.map_cons, followed_cons, List.length_append, List.length_cons] at enough ⊢
      omega
    obtain ⟨fuel, rfl⟩ : ∃ n, fuel = n + 1 := Nat.exists_eq_succ_of_ne_zero (by omega)
    rw [List.map_cons, followed_cons, skipMembers_member name hm (by omega) (Or.inl rfl), if_pos rfl]
    exact ih names hmembers fuel (by omega)

theorem skipMembers_skipSpace (fuel : Nat) (s : List Char) : skipMembers fuel (skipSpace s) = skipMembers fuel s := by
  cases fuel with
  | zero => rfl
  | succ fuel => rw [skipMembers, skipMembers, skipSpace_skipSpace]

theorem skipFrom_object {s cs : List Char} (h : skipSpace s = '"' :: cs) (fuel : Nat) :
    skipFrom (fuel + 1) ('{' :: s) = skipMembers fuel s := by
  have hmembers := skipMembers_skipSpace fuel s
  rw [h] at hmembers
  rw [skipFrom, skipSpace_cons (by decide)]
  simp [h, hmembers]

theorem skips_object (blank : Blanks) {members : List Member} (names : ∀ m ∈ members, Quotable m.label)
    (h : ∀ m ∈ members, Skips m.value.inner) :
    Skips ('{' :: (inside blank (members.map Member.chars) ++ ['}'])) := by
  refine skips_of_succ (List.cons_ne_nil _ _) fun fuel rest enough _ => ?_
  rw [List.cons_append, List.append_assoc, List.singleton_append]
  cases members with
  | nil =>
    rw [List.map_nil, inside_nil, skipFrom, skipSpace_cons (by decide)]
    simp only [skipSpace_blanks_cons blank (c := '}') (by decide)]
  | cons first members =>
    obtain ⟨more, hfirst⟩ := inside_cons blank first.chars (members.map Member.chars)
    have hskip : skipSpace (inside blank ((first :: members).map Member.chars) ++ '}' :: rest) =
        '"' :: (first.label ++ '"' :: (first.behind.chars ++ ':' :: (first.value.chars ++ (more ++ '}' :: rest)))) := by
      rw [List.map_cons, hfirst, Member.chars, List.append_assoc, List.append_assoc, nameChars_append,
        skipSpace_blanks_cons first.before (by decide)]
    rw [skipFrom_object hskip]
    obtain ⟨before, last, hsplit⟩ :=
      (List.eq_nil_or_concat' (first :: members)).resolve_left (List.cons_ne_nil _ _)
    rw [hsplit] at names h enough ⊢
    rw [List.map_append, List.map_singleton, inside_concat] at enough ⊢
    rw [List.append_assoc]
    refine skipMembers_followed (fun m hm => names m (by simp [hm])) (fun m hm => h m (by simp [hm]))
      (names last (by simp)) (h last (by simp)) ?_ rest
    simp only [List.length_append, List.length_cons] at enough ⊢
    omega

/-- A value of any depth is passed over. -/
theorem ValueText.skips {text : List Char} (h : ValueText text) : Skips text := by
  induction h with
  | null => exact skips_keyword fun _ _ => rfl
  | true => exact skips_keyword fun _ _ => rfl
  | false => exact skips_keyword fun _ _ => rfl
  | unsigned h => exact skips_unsigned h
  | negative h => exact skips_negative h
  | string h => exact skips_string h
  | list blank items h ih => exact skips_list blank h ih
  | object blank members names h ih => exact skips_object blank names ih

/-- A value is passed over with the blanks before it, and no further. -/
theorem skipValue_padded {value : Padded} (h : ValueText value.inner) {c : Char} (mark : c ∈ [',', ']', '}'])
    (rest : List Char) : skipValue (value.chars ++ c :: rest) = .ok (value.after.chars ++ c :: rest) := by
  refine h.skips.padded ?_ mark rest
  simp only [List.length_append]
  omega

end SubjectMerge.Json
