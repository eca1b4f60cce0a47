import SubjectMerge.Proofs.Text.Utf8
import SubjectMerge.Text.Percent

/-! Escapes read back. A text may have every one of its bytes escaped and is read back from that in one pass, or in
two, of which the first leaves some escapes to the second; percent signs have to be among them, as else the second
pass would take one that the first has made for the front of an escape. -/

namespace SubjectMerge.Text

/-- The character is a hexadecimal digit, in either case. -/
def IsHexDigit (c : Char) (n : Nat) : Prop := n < 16 ∧ (c = n.digitChar ∨ c = n.digitChar.toUpper)

/-- What is so of the sixteen digits is so in both cases. -/
theorem IsHexDigit.forall {p : Nat → Char → Prop} {c : Char} {n : Nat} (hc : IsHexDigit c n)
    (h : ∀ n < 16, p n n.digitChar ∧ p n n.digitChar.toUpper) : p n c := by
  obtain ⟨hlt, rfl | rfl⟩ := hc
  · exact (h n hlt).1
  · exact (h n hlt).2

/-- Every byte is written as a percent sign and its two hexadecimal digits. -/
inductive Escapes : List UInt8 → List Char → Prop where
  | nil : Escapes [] []
  | cons {byte : UInt8} {bytes : List UInt8} {high low : Char} {cs : List Char} :
      IsHexDigit high (byte.toNat / 16) → IsHexDigit low (byte.toNat % 16) → Escapes bytes cs →
      Escapes (byte :: bytes) ('%' :: high :: low :: cs)

/-- Bytes escaped with capital digits. -/
def escape (bytes : List UInt8) : List Char :=
  bytes.flatMap fun byte => ['%', (byte.toNat / 16).digitChar.toUpper, (byte.toNat % 16).digitChar.toUpper]

theorem escapes_escape (bytes : List UInt8) : Escapes bytes (escape bytes) := by
  induction bytes with
  | nil => exact .nil
  | cons byte bytes ih =>
    have hbyte : byte.toNat < 256 := byte.toNat_lt
    exact .cons ⟨by omega, .inr rfl⟩ ⟨by omega, .inr rfl⟩ ih

namespace Escapes

/-- What follows some of the bytes is written after them. -/
theorem split {front back : List UInt8} {cs : List Char} (h : Escapes (front ++ back) cs) :
    ∃ ds es, cs = ds ++ es ∧ Escapes front ds ∧ Escapes back es := by
  induction front generalizing cs with
  | nil => exact ⟨[], cs, rfl, .nil, h⟩
  | cons byte front ih =>
    cases h with
    | cons hhigh hlow hrest =>
      obtain ⟨ds, es, rfl, hds, hes⟩ := ih hrest
      exact ⟨_, es, rfl, .cons hhigh hlow hds, hes⟩

theorem isAlphanum_of_mem {bytes : List UInt8} {cs : List Char} (h : Escapes bytes cs) :
    ∀ c ∈ cs, c = '%' ∨ c.isAlphanum = true := by
  have digit {c : Char} {n : Nat} (hc : IsHexDigit c n) : c.isAlphanum = true :=
    hc.forall (p := fun _ c => c.isAlphanum = true) (by decide)
  induction h with
  | nil => nofun
  | cons hhigh hlow _ ih =>
    intro c hc
    rcases List.mem_cons.1 hc with rfl | hc
    · exact .inl rfl
    rcases List.mem_cons.1 hc with rfl | hc
    · exact .inr (digit hhigh)
    rcases List.mem_cons.1 hc with rfl | hc
    · exact .inr (digit hlow)
    exact ih c hc

end Escapes

/-! Single characters in bytes. -/

theorem utf8EncodeChar_of_lt {c : Char} (h : c.toNat < 0x80) :
    String.utf8EncodeChar c = [UInt8.ofNat c.toNat] := if_pos (Nat.le_of_lt_succ h)

/-- A byte of seven bits is a character by itself. -/
theorem utf8EncodeChar_of_mem {c : Char} {byte : UInt8} (h : byte ∈ String.utf8EncodeChar c)
    (small : byte.toNat < 0x80) : String.utf8EncodeChar c = [byte] := by
  have far {n : Nat} (large : 0x80 ≤ n % 256) : byte ≠ UInt8.ofNat n := by
    rintro rfl
    rw [UInt8.toNat_ofNat'] at small
    omega
  simp only [String.utf8EncodeChar] at h ⊢
  split_ifs at h ⊢ <;> simp only [List.mem_cons, List.not_mem_nil, or_false] at h
  · rw [h]
  · rcases h with h | h <;> exact absurd h (far (by omega))
  · rcases h with h | h | h <;> exact absurd h (far (by omega))
  · rcases h with h | h | h | h <;> exact absurd h (far (by omega))

theorem encodeUtf8_ofList (cs : List Char) : encodeUtf8 (String.ofList cs) = cs.flatMap String.utf8EncodeChar := by
  rw [encodeUtf8, String.toList_ofList]

theorem decodeUtf8Lenient_encodeUtf8 (s : String) : decodeUtf8Lenient (encodeUtf8 s) = s := by
  rw [decodeUtf8Lenient, utf8Items_encodeUtf8, List.map_map]
  exact (congrArg String.ofList (List.map_id _)).trans (String.ofList_toList)

/-- A digit is one byte, which is no percent sign. -/
theorem IsHexDigit.exists_byte {c : Char} {n : Nat} (h : IsHexDigit c n) :
    ∃ byte, String.utf8EncodeChar c = [byte] ∧ hexValue? byte = some n ∧ byte ≠ 0x25 := by
  obtain ⟨hsmall, hvalue, hpercent⟩ := h.forall (p := fun n c =>
    c.toNat < 0x80 ∧ hexValue? (UInt8.ofNat c.toNat) = some n ∧ UInt8.ofNat c.toNat ≠ 0x25) (by decide)
  exact ⟨_, utf8EncodeChar_of_lt hsmall, hvalue, hpercent⟩

/-! One pass. -/

theorem percentDecode_cons_of_ne (kept : List UInt8) {byte : UInt8} (h : byte ≠ 0x25) (rest : List UInt8) :
    percentDecode kept (byte :: rest) = byte :: percentDecode kept rest := by
  rw [percentDecode]
  rintro high low rest' rfl
  exact absurd rfl h

theorem percentDecode_append_of_not_mem (kept : List UInt8) {bytes : List UInt8} (h : 0x25 ∉ bytes)
    (rest : List UInt8) : percentDecode kept (bytes ++ rest) = bytes ++ percentDecode kept rest := by
  induction bytes with
  | nil => rfl
  | cons byte bytes ih =>
    simp only [List.mem_cons, not_or] at h
    rw [List.cons_append, percentDecode_cons_of_ne kept (Ne.symm h.1), ih h.2, List.cons_append]

/-- An escape is resolved unless its byte is to be kept. -/
theorem percentDecode_escape (kept : List UInt8) {byte : UInt8} {high low : Char}
    (hhigh : IsHexDigit high (byte.toNat / 16)) (hlow : IsHexDigit low (byte.toNat % 16)) (rest : List UInt8) :
    percentDecode kept (['%', high, low].flatMap String.utf8EncodeChar ++ rest) =
      (if byte ∈ kept then ['%', high, low].flatMap String.utf8EncodeChar else [byte]) ++
        percentDecode kept rest := by
  obtain ⟨h, henc, hvalue, hne⟩ := hhigh.exists_byte
  obtain ⟨l, lenc, lvalue, lne⟩ := hlow.exists_byte
  have hbytes : ['%', high, low].flatMap String.utf8EncodeChar = [0x25, h, l] := by
    simp only [List.flatMap_cons, List.flatMap_nil, henc, lenc]
    rfl
  have hpair : hexPair? h l = some byte := by
    have hcode : byte.toNat / 16 * 16 + byte.toNat % 16 = byte.toNat := Nat.div_add_mod' _ _
    simp only [hexPair?, hvalue, lvalue, bind, Option.bind, pure, hcode, UInt8.ofNat_toNat]
  rw [hbytes]
  simp only [List.cons_append, List.nil_append]
  rw [percentDecode, hpair]
  simp only
  split_ifs
  · rw [percentDecode_cons_of_ne kept hne, percentDecode_cons_of_ne kept lne]
    rfl
  · rfl

theorem percentDecode_escapes {kept bytes : List UInt8} {cs : List Char} (h : Escapes bytes cs)
    (resolved : ∀ byte ∈ bytes, byte ∉ kept) (rest : List UInt8) :
    percentDecode kept (cs.flatMap String.utf8EncodeChar ++ rest) = bytes ++ percentDecode kept rest := by
  induction h with
  | nil => rfl
  | @cons byte bytes high low cs hhigh hlow _ ih =>
    have hsplit : ('%' :: high :: low :: cs).flatMap String.utf8EncodeChar ++ rest =
        ['%', high, low].flatMap String.utf8EncodeChar ++ (cs.flatMap String.utf8EncodeChar ++ rest) := by
      rw [← List.append_assoc, ← List.flatMap_append]
      rfl
    rw [hsplit, percentDecode_escape kept hhigh hlow, if_neg (resolved byte List.mem_cons_self),
      ih fun other hother => resolved other (List.mem_cons_of_mem _ hother)]
    rfl

/-! Two passes. -/

/-- What the first pass gives is a text again, and the second resolves what is left in it. -/
theorem exists_first_pass {kept : List UInt8} (percent : 0x25 ∈ kept) (single : ∀ byte ∈ kept, byte.toNat < 0x80)
    {cs coded : List Char} (h : Escapes (cs.flatMap String.utf8EncodeChar) coded) :
    ∃ ds : List Char,
      percentDecode kept (coded.flatMap String.utf8EncodeChar) = ds.flatMap String.utf8EncodeChar ∧
      percentDecode [] (ds.flatMap String.utf8EncodeChar) = cs.flatMap String.utf8EncodeChar := by
  induction cs generalizing coded with
  | nil =>
    cases h
    exact ⟨[], rfl, rfl⟩
  | cons c cs ih =>
    obtain ⟨front, back, rfl, hfront, hback⟩ := h.split
    obtain ⟨ds, hfirst, hsecond⟩ := ih hback
    rw [List.flatMap_append]
    by_cases hc : ∃ byte ∈ String.utf8EncodeChar c, byte ∈ kept
    · -- the escape of a byte that is kept stays, and there is no other byte in its character
      obtain ⟨byte, hbyte, hkept⟩ := hc
      have hsingle := utf8EncodeChar_of_mem hbyte (single byte hkept)
      rw [hsingle] at hfront
      cases hfront with
      | @cons _ _ high low _ hhigh hlow hnil =>
        cases hnil
        refine ⟨['%', high, low] ++ ds, ?_, ?_⟩
        · rw [percentDecode_escape kept hhigh hlow, if_pos hkept, hfirst, List.flatMap_append]
        · rw [List.flatMap_append, percentDecode_escape [] hhigh hlow, if_neg List.not_mem_nil, hsecond,
            List.flatMap_cons, hsingle]
    · have resolved : ∀ byte ∈ String.utf8EncodeChar c, byte ∉ kept := fun byte hbyte hkept =>
        hc ⟨byte, hbyte, hkept⟩
      refine ⟨c :: ds, ?_, ?_⟩
      · rw [percentDecode_escapes hfront resolved, hfirst, List.flatMap_cons]
      · rw [List.flatMap_cons, percentDecode_append_of_not_mem [] (fun hmem => resolved _ hmem percent), hsecond,
          List.flatMap_cons]

/-- An escaped text comes out of both passes as it was. -/
theorem unescape_unescape {kept : List UInt8} (percent : 0x25 ∈ kept) (single : ∀ byte ∈ kept, byte.toNat < 0x80)
    {s : String} {coded : List Char} (h : Escapes (encodeUtf8 s) coded) :
    unescape [] (unescape kept (String.ofList coded)) = s := by
  obtain ⟨ds, hfirst, hsecond⟩ := exists_first_pass percent single h
  have first : unescape kept (String.ofList coded) = String.ofList ds := by
    rw [unescape, encodeUtf8_ofList, hfirst, ← encodeUtf8_ofList, decodeUtf8Lenient_encodeUtf8]
  rw [first, unescape, encodeUtf8_ofList, hsecond]
  exact decodeUtf8Lenient_encodeUtf8 s

/-- A text without percent signs is left as it is. -/
theorem unescape_of_not_mem (kept : List UInt8) {s : String} (h : 0x25 ∉ encodeUtf8 s) : unescape kept s = s := by
  have hbytes := percentDecode_append_of_not_mem kept h []
  rw [List.append_nil, percentDecode, List.append_nil] at hbytes
  rw [unescape, hbytes, decodeUtf8Lenient_encodeUtf8]

end SubjectMerge.Text
