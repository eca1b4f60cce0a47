import Mathlib.Data.List.Nodup
import SubjectMerge.Proofs.Json.Lenient

/-! Records read leniently. While the members of an object are read, what is known of the fields is told by the names
that have been met, in whatever order they came and whatever stood between them; the values found are arranged by the
fields at the end. -/

namespace SubjectMerge.Json

/-- A field, what a text may say for it, and the value that it has then. -/
structure Slot where
  field : Field
  part : Part
  value : Value
  name_eq : field.name = part.name
  takes : Takes field.read part.Gives value
  refuses : Refuses field.read part.Doubled
  absent : part.Absent → field.optional = true ∧ value = .null
  trailing : part.Trailing → field.trailing = true ∧ value = .null

namespace Slot

variable {slots : List Slot} {met : List String} {known : List (String × Value)}

def names (slots : List Slot) : List String := slots.map fun slot => slot.part.name

theorem names_eq (slots : List Slot) : names slots = (slots.map field).map Field.name := by
  rw [names, List.map_map]
  exact List.map_congr_left fun slot _ => slot.name_eq.symm

theorem find?_field (slots : List Slot) (name : String) :
    (slots.map field).find? (fun field => field.name == name) =
      (slots.find? fun slot => slot.part.name == name).map field := by
  rw [List.find?_map]
  refine congrArg _ (congrArg₂ _ (funext fun slot => ?_) rfl)
  rw [Function.comp_apply, slot.name_eq]

/-! Objects. -/

/-- What is known of the fields once members of these names have been met. -/
def Knows (slots : List Slot) (met : List String) (known : List (String × Value)) : Prop :=
  ∀ slot ∈ slots, known.lookup slot.part.name = if slot.part.name ∈ met then some slot.value else none

theorem knows_nil (slots : List Slot) : Knows slots [] [] := fun _ _ => rfl

theorem Knows.isSome_lookup (knows : Knows slots met known) {slot : Slot} (mem : slot ∈ slots) :
    (known.lookup slot.part.name).isSome = decide (slot.part.name ∈ met) := by
  rw [knows slot mem]
  split <;> simp_all

/-- A member of another name tells nothing. -/
theorem Knows.unknown (knows : Knows slots met known) {name : String}
    (other : ∀ slot ∈ slots, slot.part.name ≠ name) : Knows slots (met ++ [name]) known := by
  intro slot mem
  simp only [knows slot mem, List.mem_append, List.mem_singleton, other slot mem, or_false]

theorem Knows.found (knows : Knows slots met known) (distinct : (names slots).Nodup) {slot : Slot}
    (mem : slot ∈ slots) : Knows slots (met ++ [slot.part.name]) ((slot.part.name, slot.value) :: known) := by
  intro other hother
  by_cases heq : other.part.name = slot.part.name
  · obtain rfl := List.inj_on_of_nodup_map distinct hother mem heq
    simp
  · simp only [List.lookup_cons, beq_eq_false_iff_ne.2 heq, knows other hother, List.mem_append, List.mem_singleton,
      heq, or_false]

end Slot

theorem readMembers_blanks (fields : List Field) (fuel : Nat) (first : Bool) (known : List (String × Value))
    (b : Blanks) (s : List Char) :
    readMembers fields fuel first known (b.chars ++ s) = readMembers fields fuel first known s := by
  cases fuel with
  | zero => rfl
  | succ fuel => simp only [readMembers, nextMember?_blanks]

theorem readMembers_closing (fields : List Field) (fuel : Nat) (first : Bool) (known : List (String × Value))
    (b : Blanks) (rest : List Char) :
    readMembers fields (fuel + 1) first known (b.chars ++ '}' :: rest) = .ok (known, rest) := by
  rw [readMembers, nextMember?_closing]
  rfl

/-- The name of a member read. -/
theorem readMembers_name (fields : List Field) {label : List Char} {name : String} (spells : Spells label name.toList)
    (fuel : Nat) (first : Bool) (known : List (String × Value)) (before : Blanks) (s : List Char) :
    readMembers fields (fuel + 1) first known (lead first (before.chars ++ '"' :: (label ++ '"' :: s))) =
      (match fields.find? fun field => field.name == name with
      | none => do
        let s ← skipValue (← colon s)
        readMembers fields fuel false known s
      | some field =>
        if (known.lookup name).isSome then .error .mistyped
        else do
          let (v, s) ← field.read (← colon s)
          readMembers fields fuel false ((name, v) :: known) s) := by
  rw [readMembers, nextMember?_lead]
  change (stringRest (label ++ '"' :: s) >>= _) = _
  rw [stringRest_spells spells, String.ofList_toList]
  rfl

namespace Slot

variable {slots : List Slot} {met : List String} {known : List (String × Value)}

/-- One member read. -/
theorem readMembers_fits (distinct : (names slots).Nodup) {m : Named} (fits : Fits (slots.map part) m)
    (knows : Knows slots met known) (fresh : m.name ∈ names slots → m.name ∉ met) :
    ∃ known', Knows slots (met ++ [m.name]) known' ∧
      ∀ (fuel : Nat) (first : Bool) {c : Char} (_ : c ∈ [',', ']', '}']) (rest : List Char),
        readMembers (slots.map field) (fuel + 1) first known (lead first (m.chars ++ c :: rest)) =
          readMembers (slots.map field) fuel false known' (c :: rest) := by
  cases hfind : slots.find? fun slot => slot.part.name == m.name with
  | none =>
    have other : ∀ slot ∈ slots, slot.part.name ≠ m.name := by
      simpa using List.find?_eq_none.1 hfind
    refine ⟨known, knows.unknown other, fun fuel first c mark rest => ?_⟩
    have hskip := skipValue_padded (fits.unknown (by simpa using fun slot mem => (other slot mem).symm)) mark rest
    rw [Member.chars, List.append_assoc, nameChars_append, readMembers_name _ m.spells, find?_field, hfind]
    simp only [Option.map_none, colon_blanks, hskip, bind, Except.bind, readMembers_blanks]
  | some slot =>
    have mem := List.mem_of_find?_eq_some hfind
    have hname : slot.part.name = m.name := by simpa using List.find?_some hfind
    have hfresh : m.name ∉ met := fresh (List.mem_map.2 ⟨slot, mem, hname⟩)
    refine ⟨(m.name, slot.value) :: known, hname ▸ knows.found distinct mem, fun fuel first c mark rest => ?_⟩
    have hunknown : (known.lookup m.name).isSome = false := by
      rw [← hname, knows.isSome_lookup mem, hname, decide_eq_false hfresh]
    have gives := fits.known slot.part (List.mem_map_of_mem mem) hname.symm
    have hread := slot.takes.reads _ gives _ (endsNumber_blanks m.value.after (endsNumber_cons mark rest))
    rw [Member.chars, List.append_assoc, nameChars_append, readMembers_name _ m.spells, find?_field, hfind]
    simp only [Option.map_some, hunknown, colon_blanks, Padded.chars, List.append_assoc, slot.refuses.read_blanks,
      hread, bind, Except.bind, readMembers_blanks, Bool.false_eq_true, if_false]

theorem notMem_of_count_le_one {name : String} {met later : List String} (h : (met ++ name :: later).count name ≤ 1) :
    name ∉ met := by
  intro hmet
  have hpos := List.count_pos_iff.2 hmet
  rw [List.count_append, List.count_cons_self] at h
  omega

/-- Members read that have something behind them. -/
theorem readMembers_followed (distinct : (names slots).Nodup) {members : List Named}
    (fits : ∀ m ∈ members, Fits (slots.map part) m) (knows : Knows slots met known)
    (once : ∀ name ∈ names slots, (met ++ members.map Named.name).count name ≤ 1) (first : Bool) :
    ∃ known', Knows slots (met ++ members.map Named.name) known' ∧ ∀ (fuel : Nat) (s : List Char),
      readMembers (slots.map field) (fuel + members.length) first known
          (lead first (followed (members.map fun m => m.chars) ++ s)) =
        readMembers (slots.map field) fuel (first && members.isEmpty) known'
          (lead (first && members.isEmpty) s) := by
  induction members generalizing met known first with
  | nil =>
    refine ⟨known, by rwa [List.map_nil, List.append_nil], fun fuel s => ?_⟩
    rw [List.map_nil, followed, List.flatMap_nil, List.nil_append, List.isEmpty_nil, Bool.and_true]
    rfl
  | cons m members ih =>
    have hsplit : met ++ (m :: members).map Named.name = met ++ [m.name] ++ members.map Named.name := by simp
    have fresh : m.name ∈ names slots → m.name ∉ met := fun mem => notMem_of_count_le_one (once m.name mem)
    obtain ⟨known₁, knows₁, hm⟩ := readMembers_fits distinct (fits m List.mem_cons_self) knows fresh
    obtain ⟨known₂, knows₂, hms⟩ :=
      ih (fun m hm => fits m (List.mem_cons_of_mem _ hm)) knows₁ (by rwa [← hsplit]) false
    refine ⟨known₂, by rwa [hsplit], fun fuel s => ?_⟩
    have hrest := hms fuel s
    rw [lead, Bool.false_and, if_neg Bool.false_ne_true] at hrest
    rw [List.map_cons, followed_cons, List.length_cons, ← Nat.add_assoc, hm _ _ (by decide), hrest, List.isEmpty_cons,
      Bool.and_false]

theorem count_name_le_one {members : List Named} (begins : Begins (slots.map part) members) {name : String}
    (mem : name ∈ names slots) : (members.map Named.name).count name ≤ 1 := by
  obtain ⟨slot, hslot, rfl⟩ := List.mem_map.1 mem
  exact begins.once slot.part (List.mem_map_of_mem hslot)

/-- The first members of an object read. -/
theorem readMembers_begins (distinct : (names slots).Nodup) {members : List Named}
    (begins : Begins (slots.map part) members) :
    ∃ known, Knows slots (members.map Named.name) known ∧ ∀ (fuel : Nat) (s : List Char),
      readMembers (slots.map field) (fuel + members.length) true []
          (followed (members.map fun m => m.chars) ++ s) =
        readMembers (slots.map field) fuel members.isEmpty known (lead members.isEmpty s) :=
  readMembers_followed distinct begins.fits (knows_nil slots) (fun _ => count_name_le_one begins) true

theorem begins_of_concat {parts : List Part} {members : List Named} {last : Named}
    (begins : Begins parts (members ++ [last])) : Begins parts members where
  fits m hm := begins.fits m (List.mem_append_left _ hm)
  once part mem := by
    have hcount := begins.once part mem
    rw [List.map_append, List.count_append] at hcount
    omega

/-- All that stands between two braces read. -/
theorem readMembers_inside (distinct : (names slots).Nodup) {members : List Named}
    (begins : Begins (slots.map part) members) (blank : Blanks) :
    ∃ known, Knows slots (members.map Named.name) known ∧ ∀ (rest : List Char) {fuel : Nat} (_ : members.length < fuel),
      readMembers (slots.map field) fuel true [] (inside blank (members.map fun m => m.chars) ++ '}' :: rest) =
        .ok (known, rest) := by
  rcases members.eq_nil_or_concat' with rfl | ⟨members, last, rfl⟩
  · refine ⟨[], knows_nil slots, fun rest fuel enough => ?_⟩
    obtain ⟨fuel, rfl⟩ := Nat.exists_eq_succ_of_ne_zero (Nat.pos_iff_ne_zero.1 enough)
    exact readMembers_closing _ fuel true [] blank rest
  · have fresh : last.name ∈ names slots → last.name ∉ members.map Named.name := by
      intro mem
      have hcount := count_name_le_one begins mem
      rw [List.map_append, List.map_singleton] at hcount
      exact notMem_of_count_le_one hcount
    obtain ⟨known₁, knows₁, hmembers⟩ := readMembers_begins distinct (begins_of_concat begins)
    obtain ⟨known₂, knows₂, hlast⟩ := readMembers_fits distinct (begins.fits last List.mem_concat_self) knows₁ fresh
    refine ⟨known₂, by rwa [List.map_append, List.map_singleton], fun rest fuel enough => ?_⟩
    obtain ⟨fuel, rfl⟩ : ∃ k, fuel = k + 1 + 1 + members.length := by
      rw [List.length_append, List.length_singleton] at enough
      exact ⟨fuel - members.length - 2, by omega⟩
    have hclosing : readMembers (slots.map field) (fuel + 1) false known₂ ('}' :: rest) = .ok (known₂, rest) :=
      readMembers_closing _ fuel false known₂ .none rest
    rw [List.map_append, List.map_singleton, inside_concat, List.append_assoc, hmembers, hlast _ _ (by decide), hclosing]

/-- Whatever the order in which the fields were met. -/
theorem arrange_eq (knows : Knows slots met known)
    (present : ∀ slot ∈ slots, slot.part.Absent ∨ slot.part.name ∈ met) :
    arrange (slots.map field) known = .ok (slots.map value) := by
  rw [arrange, mapM_eq_ok_iff_forall₂, List.forall₂_map_left_iff, List.forall₂_map_right_iff, List.forall₂_same]
  intro slot mem
  rw [slot.name_eq, knows slot mem]
  by_cases hmet : slot.part.name ∈ met
  · rw [if_pos hmet]
  · obtain ⟨optional, hnull⟩ := slot.absent ((present slot mem).resolve_right hmet)
    rw [if_neg hmet, hnull]
    simp only [optional, if_true]

/-! Lists. -/

theorem readInOrder_blanks (fields : List Field) (first : Bool) (b : Blanks) (s : List Char) :
    readInOrder fields first (b.chars ++ s) = readInOrder fields first s := by
  cases fields with
  | nil => simp only [readInOrder, closeList, skipSpace_blanks]
  | cons field fields => simp only [readInOrder, nextItem?_blanks]

theorem readInOrder_item (slot : Slot) (slots : List Slot) {item : Padded} (gives : slot.part.Gives item.inner)
    (first : Bool) {c : Char} (mark : c ∈ [',', ']', '}']) (rest : List Char) :
    readInOrder ((slot :: slots).map field) first (lead first (item.chars ++ c :: rest)) =
      (readInOrder (slots.map field) false (c :: rest)).map fun (vs, s) => (slot.value :: vs, s) := by
  have hread := slot.takes.reads _ gives _ (endsNumber_blanks item.after (endsNumber_cons mark rest))
  have hnext := nextItem?_lead (slot.takes.opens _ gives) first item.before (item.after.chars ++ c :: rest)
  rw [Padded.chars, List.append_assoc, List.append_assoc, List.map_cons, readInOrder]
  simp only [hnext, hread, readInOrder_blanks, bind, Except.bind]
  cases readInOrder (slots.map field) false (c :: rest) <;> rfl

/-- Fields read that have something behind them. -/
theorem readInOrder_followed {taken : List Slot} {items : List Padded}
    (gives : List.Forall₂ (fun slot item => slot.part.Gives item.inner) taken items) (left : List Slot) (first : Bool)
    (s : List Char) :
    readInOrder ((taken ++ left).map field) first (lead first (followed (items.map Padded.chars) ++ s)) =
      (readInOrder (left.map field) (first && items.isEmpty) (lead (first && items.isEmpty) s)).map
        fun (vs, s) => (taken.map value ++ vs, s) := by
  induction gives generalizing first with
  | nil =>
    rw [List.map_nil, followed, List.flatMap_nil, List.nil_append, List.isEmpty_nil, Bool.and_true]
    cases h : readInOrder (left.map field) first (lead first s) <;> simp [h, Except.map]
  | @cons slot item taken items hslot _ ih =>
    have hrest := ih false
    rw [lead, Bool.false_and, if_neg Bool.false_ne_true] at hrest
    rw [List.map_cons, followed_cons, List.cons_append, readInOrder_item slot _ hslot _ (by decide), hrest,
      List.isEmpty_cons, Bool.and_false]
    cases readInOrder (left.map field) false (lead false s) <;> rfl

theorem readInOrder_closing {left : List Slot} (trailing : ∀ slot ∈ left, slot.part.Trailing) (first : Bool)
    (b : Blanks) (rest : List Char) :
    readInOrder (left.map field) first (b.chars ++ ']' :: rest) = .ok (left.map value, rest) := by
  cases left with
  | nil =>
    rw [List.map_nil, readInOrder, closeList, skipSpace_blanks_cons b (by decide)]
    rfl
  | cons slot left =>
    have hall : ((slot :: left).map field).all Field.trailing = true := by
      rw [List.all_map, List.all_eq_true]
      exact fun other mem => (other.trailing (trailing other mem)).1
    have hnull : ((slot :: left).map field).map (fun _ => Value.null) = (slot :: left).map value := by
      rw [List.map_map]
      exact List.map_congr_left fun other mem => (other.trailing (trailing other mem)).2.symm
    rw [List.map_cons] at hall hnull ⊢
    rw [readInOrder, nextItem?_closing]
    simp only [bind, Except.bind, hall, if_true, hnull]

/-- All the fields of a list read. -/
theorem readInOrder_inside {taken left : List Slot} {items : List Padded}
    (gives : List.Forall₂ (fun slot item => slot.part.Gives item.inner) taken items)
    (trailing : ∀ slot ∈ left, slot.part.Trailing) (blank : Blanks) (rest : List Char) :
    readInOrder ((taken ++ left).map field) true (inside blank (items.map Padded.chars) ++ ']' :: rest) =
      .ok ((taken ++ left).map value, rest) := by
  rcases items.eq_nil_or_concat' with rfl | ⟨items, last, rfl⟩
  · obtain rfl := List.forall₂_nil_right_iff.1 gives
    exact readInOrder_closing trailing true blank rest
  · obtain ⟨taken, slot, rfl, gives, hlast⟩ := forall₂_concat gives
    have hclosing : readInOrder (left.map field) false (']' :: rest) = .ok (left.map value, rest) :=
      readInOrder_closing trailing false .none rest
    have hread := readInOrder_followed gives (slot :: left) true (last.chars ++ ']' :: rest)
    rw [readInOrder_item slot left hlast _ (by decide), hclosing, lead, if_pos rfl] at hread
    rw [List.append_assoc, List.singleton_append]
    simp only [List.map_append, List.map_singleton, inside_concat, List.append_assoc] at hread ⊢
    rw [hread]
    rfl

/-! Both. -/

/-- A record of fields with different names is read from any of its texts. -/
theorem takes_record (distinct : (names slots).Nodup) :
    Takes (readRecord (slots.map field)) (RecordText (slots.map part)) (.list (slots.map value)) where
  opens text h := by
    cases h with
    | object => exact ⟨_, _, rfl, by decide⟩
    | list => exact ⟨_, _, rfl, by decide⟩
  reads text h rest _ := by
    cases h with
    | object blank members begins present =>
      obtain ⟨known, knows, hread⟩ := readMembers_inside distinct begins blank
      have harrange := arrange_eq knows fun slot mem => present slot.part (List.mem_map_of_mem mem)
      have enough : members.length < (inside blank (members.map fun m => m.chars) ++ '}' :: rest).length + 1 := by
        have hle := length_le_inside blank (members.map fun m => m.chars)
        simp only [List.length_map, List.length_append, List.length_cons] at hle ⊢
        omega
      rw [List.cons_append, List.append_assoc, List.singleton_append, readRecord, skipSpace_cons (by decide)]
      simp only [hread rest enough, harrange, bind, Except.bind]
    | list blank items parts_eq gives trailing =>
      obtain ⟨taken, left, rfl, rfl, rfl⟩ := List.map_eq_append_iff.1 parts_eq
      rw [List.forall₂_map_left_iff] at gives
      rw [List.forall_mem_map] at trailing
      rw [List.cons_append, List.append_assoc, List.singleton_append, readRecord, skipSpace_cons (by decide)]
      simp only [readInOrder_inside gives trailing blank rest, bind, Except.bind]

theorem find?_name (distinct : (names slots).Nodup) {slot : Slot} (mem : slot ∈ slots) :
    (slots.find? fun other => other.part.name == slot.part.name) = some slot := by
  cases hfind : slots.find? fun other => other.part.name == slot.part.name with
  | none => simpa using List.find?_eq_none.1 hfind slot mem
  | some other =>
    have hname : other.part.name = slot.part.name := by simpa using List.find?_some hfind
    rw [List.inj_on_of_nodup_map distinct (List.mem_of_find?_eq_some hfind) mem hname]

/-- A record read up to where its members have something behind them. -/
theorem readRecord_begins (distinct : (names slots).Nodup) {members : List Named}
    (begins : Begins (slots.map part) members) (s : List Char) :
    ∃ known fuel first, Knows slots (members.map Named.name) known ∧
      readRecord (slots.map field) ('{' :: (followed (members.map fun m => m.chars) ++ s)) = (do
        let (known, s) ← readMembers (slots.map field) (fuel + 1) first known (lead first s)
        let vs ← arrange (slots.map field) known
        .ok (.list vs, s)) := by
  obtain ⟨known, knows, hmembers⟩ := readMembers_begins distinct begins
  obtain ⟨fuel, hfuel⟩ := exists_fuel (members.map fun m => m.chars) s
  rw [List.length_map] at hfuel
  refine ⟨known, fuel, members.isEmpty, knows, ?_⟩
  rw [readRecord, skipSpace_cons (by decide)]
  simp only [hfuel, hmembers]

/-- No record is read where a field is doubled. -/
theorem fails_record (distinct : (names slots).Nodup) {text : List Char} (h : RecordDoubled (slots.map part) text)
    (rest : List Char) : readRecord (slots.map field) (text ++ rest) = .error .mistyped := by
  cases h with
  | @repeated members begins part mem met before label spells =>
    obtain ⟨slot, hslot, rfl⟩ := List.mem_map.1 mem
    obtain ⟨known, fuel, first, knows, hread⟩ :=
      readRecord_begins distinct begins (before.chars ++ '"' :: (label ++ '"' :: rest))
    have hmet : (known.lookup slot.part.name).isSome = true := by
      rw [knows.isSome_lookup hslot, decide_eq_true met]
    rw [readMembers_name _ spells, find?_field, find?_name distinct hslot] at hread
    simp only [Option.map_some, hmet, if_true, bind, Except.bind] at hread
    simpa using hread
  | @member members begins part mem fresh before label spells behind ahead text doubled =>
    obtain ⟨slot, hslot, rfl⟩ := List.mem_map.1 mem
    obtain ⟨known, fuel, first, knows, hread⟩ :=
      readRecord_begins distinct begins (nameChars before label behind ++ (ahead.chars ++ (text ++ rest)))
    have hfresh : (known.lookup slot.part.name).isSome = false := by
      rw [knows.isSome_lookup hslot, decide_eq_false fresh]
    rw [nameChars_append, readMembers_name _ spells, find?_field, find?_name distinct hslot] at hread
    simp only [Option.map_some, hfresh, colon_blanks, slot.refuses.read_blanks, slot.refuses.fails text doubled,
      Bool.false_eq_true, if_false, bind, Except.bind] at hread
    simpa [nameChars] using hread
  | @item items taken left part parts_eq gives ahead text doubled =>
    obtain ⟨taken, rest', rfl, rfl, hleft⟩ := List.map_eq_append_iff.1 parts_eq
    obtain ⟨slot, left, rfl, rfl, -⟩ := List.map_eq_cons_iff.1 hleft
    rw [List.forall₂_map_left_iff] at gives
    have hnext := nextItem?_lead (slot.refuses.opens text doubled)
    have hread := readInOrder_followed gives (slot :: left) true (ahead.chars ++ (text ++ rest))
    rw [List.map_cons, readInOrder, hnext] at hread
    simp only [slot.refuses.fails text doubled, bind, Except.bind, Except.map, lead, if_true] at hread
    rw [List.cons_append, List.append_assoc, List.append_assoc, readRecord, skipSpace_cons (by decide)]
    simp only [hread, bind, Except.bind]

/-- Records of the same fields, whatever their values. -/
theorem refuses_record {α : Type} {slots : α → List Slot} {fields : List Field}
    (fields_eq : ∀ a, (slots a).map field = fields) (distinct : ∀ a, (names (slots a)).Nodup) :
    Refuses (readRecord fields) (Texts.record fun a => (slots a).map part).Doubled where
  ahead s := by simp only [readRecord, skipSpace_skipSpace]
  opens text := by
    rintro ⟨a, h⟩
    cases h with
    | repeated => exact ⟨_, _, rfl, by decide⟩
    | member => exact ⟨_, _, rfl, by decide⟩
    | item => exact ⟨_, _, rfl, by decide⟩
  fails text := by
    rintro ⟨a, h⟩ rest
    rw [← fields_eq a]
    exact fails_record (distinct a) h rest

/-- A field that must be there. -/
def required {α : Type} (name : String) {read : Reader Value} {texts : Texts α} {a : α} {v : Value}
    (takes : Takes read (texts.Gives a) v) (refuses : Refuses read texts.Doubled) : Slot where
  field := { name, read }
  part := .required name texts a
  value := v
  name_eq := rfl
  takes := takes
  refuses := refuses
  absent h := h.elim
  trailing h := h.elim

end Slot

end SubjectMerge.Json
