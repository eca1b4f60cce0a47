import Mathlib.Tactic.Common
import Mathlib.Tactic.SplitIfs
import SubjectMerge.Text.Utf8

/-! Bytes of a text read back. The reader goes from the start of a character to the start of the next over the
bytes that encode it, so that a text's own bytes are sound and no two texts have the same ones. The bounds that it
keeps let nothing else pass: sound bytes are those of the text that is read from them. -/

namespace SubjectMerge.Text

namespace Utf8State

theorem items_cons_of_start {byte : Nat} (fits : byte < 256) {found : List Utf8Item} {state : Utf8State}
    (step : first byte = (state, found)) (rest : List UInt8) :
    start.items (UInt8.ofNat byte :: rest) = found ++ state.items rest := by
  have hbyte : (UInt8.ofNat byte).toNat = byte := Nat.mod_eq_of_lt fits
  rw [items, hbyte, next, step]

/-- The last byte of a character. -/
theorem items_cons_of_last {seen low high code byte : Nat} (fits : byte < 256) (hlow : low ≤ byte)
    (hhigh : byte ≤ high) (rest : List UInt8) :
    (inside seen 1 low high code).items (UInt8.ofNat byte :: rest) =
      .char (Char.ofNat (code * 64 + (byte - 0x80))) :: start.items rest := by
  have hbyte : (UInt8.ofNat byte).toNat = byte := Nat.mod_eq_of_lt fits
  rw [items, hbyte, next, if_pos ⟨hlow, hhigh⟩]
  rfl

/-- A byte in the midst of a character. -/
theorem items_cons_of_more {seen owed low high code byte : Nat} (fits : byte < 256) (more : owed ≠ 1)
    (hlow : low ≤ byte) (hhigh : byte ≤ high) (rest : List UInt8) :
    (inside seen owed low high code).items (UInt8.ofNat byte :: rest) =
      (inside (seen + 1) (owed - 1) 0x80 0xbf (code * 64 + (byte - 0x80))).items rest := by
  have hbyte : (UInt8.ofNat byte).toNat = byte := Nat.mod_eq_of_lt fits
  rw [items, hbyte, next, if_pos ⟨hlow, hhigh⟩]
  simp [more]

/-- The first of two bytes tells the bits it holds. -/
theorem first_of_two {n : Nat} (lower : 0x80 ≤ n) (upper : n ≤ 0x7ff) :
    first (n / 64 % 32 + 192) = (.inside 1 1 0x80 0xbf (n / 64), []) := by
  have hbits : n / 64 % 32 + 192 - 0xc0 = n / 64 := by omega
  rw [first, if_neg (by omega), if_neg (by omega), if_pos (by omega), hbits]

/-- The bounds that come with the first of three bytes leave out only what two bytes encode, and surrogates. -/
theorem first_of_three {n : Nat} (lower : 0x800 ≤ n) (upper : n ≤ 0xffff) (valid : n.isValidChar) :
    ∃ low high, first (n / 4096 % 16 + 224) = (.inside 1 2 low high (n / 4096), []) ∧
      low ≤ n / 64 % 64 + 128 ∧ n / 64 % 64 + 128 ≤ high := by
  have hbits : n / 4096 % 16 = n / 4096 := by omega
  rw [hbits, first, if_neg (by omega), if_neg (by omega), if_neg (by omega)]
  by_cases hleast : n / 4096 = 0
  · rw [hleast, if_pos rfl]
    exact ⟨0xa0, 0xbf, rfl, by omega, by omega⟩
  · rw [if_neg (by omega)]
    by_cases hsurrogate : n / 4096 = 0xd
    · rw [hsurrogate, if_pos rfl]
      exact ⟨0x80, 0x9f, rfl, by omega, by omega⟩
    · rw [if_neg (by omega), if_pos (by omega), Nat.add_sub_cancel]
      exact ⟨0x80, 0xbf, rfl, by omega, by omega⟩

/-- Those with the first of four leave out what three bytes encode, and codes that are too high. -/
theorem first_of_four {n : Nat} (lower : 0x10000 ≤ n) (valid : n.isValidChar) :
    ∃ low high, first (n / 262144 % 8 + 240) = (.inside 1 3 low high (n / 262144), []) ∧
      low ≤ n / 4096 % 64 + 128 ∧ n / 4096 % 64 + 128 ≤ high := by
  have hbits : n / 262144 % 8 = n / 262144 := by omega
  rw [hbits, first, if_neg (by omega), if_neg (by omega), if_neg (by omega), if_neg (by omega),
    if_neg (by omega), if_neg (by omega)]
  by_cases hleast : n / 262144 = 0
  · rw [hleast, if_pos rfl]
    exact ⟨0x90, 0xbf, rfl, by omega, by omega⟩
  · rw [if_neg (by omega)]
    by_cases hmost : n / 262144 = 4
    · rw [hmost, if_neg (by omega), if_pos rfl]
      exact ⟨0x80, 0x8f, rfl, by omega, by omega⟩
    · rw [if_pos (by omega), Nat.add_sub_cancel]
      exact ⟨0x80, 0xbf, rfl, by omega, by omega⟩

/-- The bytes of one character are read as that character. -/
theorem items_utf8EncodeChar (c : Char) (rest : List UInt8) :
    start.items (String.utf8EncodeChar c ++ rest) = .char c :: start.items rest := by
  have valid : c.toNat.isValidChar := c.valid
  have hchar : Char.ofNat c.toNat = c := Char.ofNat_toNat c
  have hval : c.val.toNat = c.toNat := rfl
  simp only [String.utf8EncodeChar, hval]
  generalize c.toNat = n at valid hchar
  split_ifs with hone htwo hthree
  · have hfirst : first n = (.start, [.char (Char.ofNat n)]) := if_pos (by omega)
    rw [List.singleton_append, items_cons_of_start (by omega) hfirst, hchar]
    rfl
  · have hcode : n / 64 * 64 + (n % 64 + 128 - 0x80) = n := by omega
    rw [List.cons_append, List.singleton_append,
      items_cons_of_start (by omega) (first_of_two (by omega) (by omega)), List.nil_append,
      items_cons_of_last (by omega) (by omega) (by omega), hcode, hchar]
  · obtain ⟨low, high, hfirst, hlow, hhigh⟩ := first_of_three (by omega) (by omega) valid
    have hcode : (n / 4096 * 64 + (n / 64 % 64 + 128 - 0x80)) * 64 + (n % 64 + 128 - 0x80) = n := by omega
    rw [List.cons_append, List.cons_append, List.singleton_append, items_cons_of_start (by omega) hfirst,
      List.nil_append, items_cons_of_more (by omega) (by omega) hlow hhigh,
      items_cons_of_last (by omega) (by omega) (by omega), hcode, hchar]
  · obtain ⟨low, high, hfirst, hlow, hhigh⟩ := first_of_four (by omega) valid
    have hcode : ((n / 262144 * 64 + (n / 4096 % 64 + 128 - 0x80)) * 64 + (n / 64 % 64 + 128 - 0x80)) * 64 +
        (n % 64 + 128 - 0x80) = n := by omega
    rw [List.cons_append, List.cons_append, List.cons_append, List.singleton_append,
      items_cons_of_start (by omega) hfirst, List.nil_append,
      items_cons_of_more (by omega) (by omega) hlow hhigh,
      items_cons_of_more (by omega) (by omega) (by omega) (by omega),
      items_cons_of_last (by omega) (by omega) (by omega), hcode, hchar]

end Utf8State

theorem utf8Items_encodeUtf8 (s : String) : utf8Items (encodeUtf8 s) = s.toList.map .char := by
  rw [utf8Items, encodeUtf8]
  induction s.toList with
  | nil => rfl
  | cons c cs ih => rw [List.flatMap_cons, Utf8State.items_utf8EncodeChar, ih, List.map_cons]

theorem strictChars_map_char (index : Nat) (cs : List Char) : strictChars index (cs.map .char) = .ok cs := by
  induction cs generalizing index with
  | nil => rfl
  | cons c cs ih => rw [List.map_cons, strictChars, ih, Except.map]

theorem decodeUtf8_encodeUtf8 (s : String) : decodeUtf8 (encodeUtf8 s) = .ok s := by
  rw [decodeUtf8, utf8Items_encodeUtf8, strictChars_map_char, Except.map, String.ofList_toList]

theorem encodeUtf8_inj {s t : String} : encodeUtf8 s = encodeUtf8 t ↔ s = t := by
  refine ⟨fun h => ?_, fun h => h ▸ rfl⟩
  have hdecoded := decodeUtf8_encodeUtf8 s
  rw [h, decodeUtf8_encodeUtf8] at hdecoded
  exact (Except.ok.inj hdecoded).symm

/-! Sound bytes. -/

namespace Utf8State

/-- Inside a character sound bytes go on with one that fits. -/
theorem exists_next_of_inside {seen owed low high code : Nat} {bytes : List UInt8} {cs : List Char}
    (sound : (inside seen owed low high code).items bytes = cs.map .char) :
    ∃ byte rest, bytes = byte :: rest ∧ low ≤ byte.toNat ∧ byte.toNat ≤ high ∧
      (if owed = 1 then .char (Char.ofNat (code * 64 + (byte.toNat - 0x80))) :: start.items rest
        else (inside (seen + 1) (owed - 1) 0x80 0xbf (code * 64 + (byte.toNat - 0x80))).items rest) =
        cs.map .char := by
  cases bytes with
  | nil => cases cs <;> simp [items] at sound
  | cons byte rest =>
    rw [items, next] at sound
    by_cases hbyte : low ≤ byte.toNat ∧ byte.toNat ≤ high
    · refine ⟨byte, rest, rfl, hbyte.1, hbyte.2, ?_⟩
      rw [if_pos hbyte] at sound
      split <;> simpa [*] using sound
    · rw [if_neg hbyte] at sound
      cases cs <;> simp at sound

/-- A byte in the midst of a character. -/
theorem exists_more_of_inside {seen owed low high code : Nat} {bytes : List UInt8} {cs : List Char}
    (more : owed ≠ 1) (sound : (inside seen owed low high code).items bytes = cs.map .char) :
    ∃ byte rest, bytes = byte :: rest ∧ low ≤ byte.toNat ∧ byte.toNat ≤ high ∧
      (inside (seen + 1) (owed - 1) 0x80 0xbf (code * 64 + (byte.toNat - 0x80))).items rest =
        cs.map .char := by
  obtain ⟨byte, rest, hbytes, hlow, hhigh, hrest⟩ := exists_next_of_inside sound
  rw [if_neg more] at hrest
  exact ⟨byte, rest, hbytes, hlow, hhigh, hrest⟩

/-- The last byte that a character needs. -/
theorem exists_last_of_inside {seen low high code : Nat} {bytes : List UInt8} {cs : List Char}
    (sound : (inside seen 1 low high code).items bytes = cs.map .char) :
    ∃ byte rest cs', bytes = byte :: rest ∧ low ≤ byte.toNat ∧ byte.toNat ≤ high ∧
      cs = Char.ofNat (code * 64 + (byte.toNat - 0x80)) :: cs' ∧ start.items rest = cs'.map .char := by
  obtain ⟨byte, rest, hbytes, hlow, hhigh, hrest⟩ := exists_next_of_inside sound
  rw [if_pos rfl] at hrest
  cases cs with
  | nil => cases hrest
  | cons c cs =>
    obtain ⟨hc, hcs⟩ := List.cons.inj hrest
    exact ⟨byte, rest, cs, hbytes, hlow, hhigh, by rw [Utf8Item.char.inj hc], hcs⟩

end Utf8State

theorem ofNat_eq_of_toNat {n : Nat} {b : UInt8} (h : n = b.toNat) : UInt8.ofNat n = b := by
  rw [h, UInt8.ofNat_toNat]

theorem val_ofNat {n : Nat} (valid : n.isValidChar) : (Char.ofNat n).val.toNat = n := by
  rw [Char.ofNat, dif_pos valid]
  rfl

theorem utf8EncodeChar_of_one {a : UInt8} (ha : a.toNat < 0x80) :
    String.utf8EncodeChar (Char.ofNat a.toNat) = [a] := by
  have valid : a.toNat.isValidChar := by unfold Nat.isValidChar; omega
  simp only [String.utf8EncodeChar, val_ofNat valid]
  rw [if_pos (by omega), UInt8.ofNat_toNat]

theorem utf8EncodeChar_of_two {a b : UInt8} (ha : 0xc2 ≤ a.toNat ∧ a.toNat < 0xe0)
    (hb : 0x80 ≤ b.toNat ∧ b.toNat ≤ 0xbf) :
    String.utf8EncodeChar (Char.ofNat ((a.toNat - 0xc0) * 64 + (b.toNat - 0x80))) = [a, b] := by
  have valid : ((a.toNat - 0xc0) * 64 + (b.toNat - 0x80)).isValidChar := by unfold Nat.isValidChar; omega
  simp only [String.utf8EncodeChar, val_ofNat valid]
  rw [if_neg (by omega), if_pos (by omega), ofNat_eq_of_toNat (b := a) (by omega),
    ofNat_eq_of_toNat (b := b) (by omega)]

theorem utf8EncodeChar_of_three {a b c : UInt8} {n : Nat} (ha : 0xe0 ≤ a.toNat ∧ a.toNat < 0xf0)
    (hb : 0x80 ≤ b.toNat ∧ b.toNat ≤ 0xbf) (hc : 0x80 ≤ c.toNat ∧ c.toNat ≤ 0xbf)
    (hn : n = ((a.toNat - 0xe0) * 64 + (b.toNat - 0x80)) * 64 + (c.toNat - 0x80)) (long : 0x800 ≤ n)
    (valid : n.isValidChar) : String.utf8EncodeChar (Char.ofNat n) = [a, b, c] := by
  simp only [String.utf8EncodeChar, val_ofNat valid]
  rw [if_neg (by omega), if_neg (by omega), if_pos (by omega), ofNat_eq_of_toNat (b := a) (by omega),
    ofNat_eq_of_toNat (b := b) (by omega), ofNat_eq_of_toNat (b := c) (by omega)]

theorem utf8EncodeChar_of_four {a b c d : UInt8} {n : Nat} (ha : 0xf0 ≤ a.toNat ∧ a.toNat < 0xf8)
    (hb : 0x80 ≤ b.toNat ∧ b.toNat ≤ 0xbf) (hc : 0x80 ≤ c.toNat ∧ c.toNat ≤ 0xbf)
    (hd : 0x80 ≤ d.toNat ∧ d.toNat ≤ 0xbf)
    (hn : n = (((a.toNat - 0xf0) * 64 + (b.toNat - 0x80)) * 64 + (c.toNat - 0x80)) * 64 + (d.toNat - 0x80))
    (long : 0x10000 ≤ n) (valid : n.isValidChar) :
    String.utf8EncodeChar (Char.ofNat n) = [a, b, c, d] := by
  simp only [String.utf8EncodeChar, val_ofNat valid]
  rw [if_neg (by omega), if_neg (by omega), if_neg (by omega), ofNat_eq_of_toNat (b := a) (by omega),
    ofNat_eq_of_toNat (b := b) (by omega), ofNat_eq_of_toNat (b := c) (by omega),
    ofNat_eq_of_toNat (b := d) (by omega)]

/-- The two bytes after the first of three. -/
theorem exists_three {a : UInt8} {low high : Nat} {bytes : List UInt8} {cs : List Char}
    (sound : (Utf8State.inside 1 2 low high (a.toNat - 0xe0)).items bytes = cs.map .char)
    (ha : 0xe0 ≤ a.toNat ∧ a.toNat < 0xf0) (bounds : 0x80 ≤ low ∧ high ≤ 0xbf)
    (overlong : a.toNat = 0xe0 → 0xa0 ≤ low) (surrogate : a.toNat = 0xed → high ≤ 0x9f) :
    ∃ c rest cs', cs = c :: cs' ∧ a :: bytes = String.utf8EncodeChar c ++ rest ∧
      Utf8State.start.items rest = cs'.map .char := by
  obtain ⟨b, bytes, rfl, hb, hb', more⟩ := Utf8State.exists_more_of_inside (by omega) sound
  obtain ⟨c, rest, cs', rfl, hc, hc', rfl, hrest⟩ := Utf8State.exists_last_of_inside more
  refine ⟨_, rest, cs', rfl, ?_, hrest⟩
  rw [utf8EncodeChar_of_three ha ⟨by omega, by omega⟩ ⟨hc, hc'⟩ rfl (by omega)
    (by unfold Nat.isValidChar; omega)]
  rfl

/-- The three bytes after the first of four. -/
theorem exists_four {a : UInt8} {low high : Nat} {bytes : List UInt8} {cs : List Char}
    (sound : (Utf8State.inside 1 3 low high (a.toNat - 0xf0)).items bytes = cs.map .char)
    (ha : 0xf0 ≤ a.toNat ∧ a.toNat ≤ 0xf4) (bounds : 0x80 ≤ low ∧ high ≤ 0xbf)
    (overlong : a.toNat = 0xf0 → 0x90 ≤ low) (highest : a.toNat = 0xf4 → high ≤ 0x8f) :
    ∃ c rest cs', cs = c :: cs' ∧ a :: bytes = String.utf8EncodeChar c ++ rest ∧
      Utf8State.start.items rest = cs'.map .char := by
  obtain ⟨b, bytes, rfl, hb, hb', more⟩ := Utf8State.exists_more_of_inside (by omega) sound
  obtain ⟨c, bytes, rfl, hc, hc', more⟩ := Utf8State.exists_more_of_inside (by omega) more
  obtain ⟨d, rest, cs', rfl, hd, hd', rfl, hrest⟩ := Utf8State.exists_last_of_inside more
  refine ⟨_, rest, cs', rfl, ?_, hrest⟩
  rw [utf8EncodeChar_of_four ⟨ha.1, by omega⟩ ⟨by omega, by omega⟩ ⟨hc, hc'⟩ ⟨hd, hd'⟩ rfl (by omega)
    (by unfold Nat.isValidChar; omega)]
  rfl

/-- Sound bytes begin with the bytes of a character. -/
theorem exists_first_char {bytes : List UInt8} {cs : List Char}
    (sound : Utf8State.start.items bytes = cs.map .char) (more : bytes ≠ []) :
    ∃ c rest cs', cs = c :: cs' ∧ bytes = String.utf8EncodeChar c ++ rest ∧
      Utf8State.start.items rest = cs'.map .char := by
  cases bytes with
  | nil => exact absurd rfl more
  | cons a bytes =>
    rw [Utf8State.items, Utf8State.next, Utf8State.first] at sound
    split_ifs at sound with hone hbad htwo hleast hsurrogate hthree hleast' hfour hmost
    · cases cs with
      | nil => cases sound
      | cons c cs =>
        obtain ⟨hc, hcs⟩ := List.cons.inj sound
        obtain rfl := Utf8Item.char.inj hc
        exact ⟨_, bytes, cs, rfl, by rw [utf8EncodeChar_of_one hone]; rfl, hcs⟩
    · cases cs <;> simp at sound
    · obtain ⟨b, rest, cs', rfl, hb, hb', rfl, hrest⟩ := Utf8State.exists_last_of_inside sound
      exact ⟨_, rest, cs', rfl, by rw [utf8EncodeChar_of_two ⟨by omega, htwo⟩ ⟨hb, hb'⟩]; rfl, hrest⟩
    · have sound : (Utf8State.inside 1 2 0xa0 0xbf (a.toNat - 0xe0)).items bytes = cs.map .char := by
        rw [hleast]
        exact sound
      exact exists_three sound (by omega) (by omega) (by omega) (by omega)
    · have sound : (Utf8State.inside 1 2 0x80 0x9f (a.toNat - 0xe0)).items bytes = cs.map .char := by
        rw [hsurrogate]
        exact sound
      exact exists_three sound (by omega) (by omega) (by omega) (by omega)
    · exact exists_three sound (by omega) (by omega) (by omega) (by omega)
    · have sound : (Utf8State.inside 1 3 0x90 0xbf (a.toNat - 0xf0)).items bytes = cs.map .char := by
        rw [hleast']
        exact sound
      exact exists_four sound (by omega) (by omega) (by omega) (by omega)
    · exact exists_four sound (by omega) (by omega) (by omega) (by omega)
    · have sound : (Utf8State.inside 1 3 0x80 0x8f (a.toNat - 0xf0)).items bytes = cs.map .char := by
        rw [hmost]
        exact sound
      exact exists_four sound (by omega) (by omega) (by omega) (by omega)
    · cases cs <;> simp at sound

theorem eq_flatMap_of_items {bytes : List UInt8} {cs : List Char}
    (sound : Utf8State.start.items bytes = cs.map .char) : bytes = cs.flatMap String.utf8EncodeChar := by
  induction cs generalizing bytes with
  | nil =>
    cases bytes with
    | nil => rfl
    | cons byte bytes =>
      obtain ⟨c, rest, cs', hcs, -⟩ := exists_first_char sound (List.cons_ne_nil byte bytes)
      cases hcs
  | cons c cs ih =>
    have more : bytes ≠ [] := by
      rintro rfl
      cases sound
    obtain ⟨c', rest, cs', hcs, rfl, hrest⟩ := exists_first_char sound more
    obtain ⟨rfl, rfl⟩ := List.cons.inj hcs
    rw [List.flatMap_cons, ← ih hrest]

theorem strictChars_eq_ok_iff {index : Nat} {items : List Utf8Item} {cs : List Char} :
    strictChars index items = .ok cs ↔ items = cs.map .char := by
  refine ⟨fun h => ?_, fun h => h ▸ strictChars_map_char index cs⟩
  induction items generalizing index cs with
  | nil =>
    cases h
    rfl
  | cons item items ih =>
    cases item with
    | char c =>
      rw [strictChars] at h
      cases hrest : strictChars (index + c.utf8Size) items with
      | error fault => simp [hrest, Except.map] at h
      | ok rest =>
        obtain rfl : c :: rest = cs := by simpa [hrest, Except.map] using h
        rw [ih hrest, List.map_cons]
    | bad size => cases h
    | cut size => cases h

/-- Only the very bytes of a text are read as that text. -/
theorem decodeUtf8_eq_ok_iff {bytes : List UInt8} {s : String} :
    decodeUtf8 bytes = .ok s ↔ bytes = encodeUtf8 s := by
  refine ⟨fun h => ?_, fun h => h ▸ decodeUtf8_encodeUtf8 s⟩
  rw [decodeUtf8] at h
  cases hchars : strictChars 0 (utf8Items bytes) with
  | error fault => simp [hchars, Except.map] at h
  | ok cs =>
    obtain rfl : String.ofList cs = s := by simpa [hchars, Except.map] using h
    rw [encodeUtf8, String.toList_ofList]
    exact eq_flatMap_of_items (strictChars_eq_ok_iff.1 hchars)

end SubjectMerge.Text
