import SubjectMerge.Proofs.Text.Percent

/-! The texts that stand for JSON values, told without any reader: white space around every value and mark, strings
with any of their escapes, numbers of any size, lists and objects of any depth. A list or an object is taken apart
into its items or members, each with the blanks around it. -/

namespace SubjectMerge.Json

open Text (IsHexDigit)

/-- White space without meaning. -/
structure Blanks where
  chars : List Char
  blank : ∀ c ∈ chars, c = ' ' ∨ c = '\n' ∨ c = '\t' ∨ c = '\r'

def Blanks.none : Blanks := ⟨[], fun _ h => absurd h List.not_mem_nil⟩

/-- A text and the blanks around it. -/
structure Padded where
  before : Blanks
  inner : List Char
  after : Blanks

def Padded.chars (p : Padded) : List Char := p.before.chars ++ (p.inner ++ p.after.chars)

/-- A member of an object: what stands between the quotes of its name, and its value. -/
structure Member where
  before : Blanks
  label : List Char
  behind : Blanks
  value : Padded

/-- A member up to the colon. -/
def nameChars (before : Blanks) (label : List Char) (behind : Blanks) : List Char :=
  before.chars ++ '"' :: (label ++ '"' :: (behind.chars ++ [':']))

def Member.chars (m : Member) : List Char := nameChars m.before m.label m.behind ++ m.value.chars

/-- What stands between the brackets of a list or an object: its parts with commas between them, or blanks. -/
def inside (blank : Blanks) (parts : List (List Char)) : List Char :=
  if parts = [] then blank.chars else [','].intercalate parts

/-- The parts of a list or an object that have another part behind them, each with its comma. -/
def followed (parts : List (List Char)) : List Char := parts.flatMap (· ++ [','])

/-! Strings. -/

/-- Four hexadecimal digits and the number they write. -/
inductive Code : List Char → Nat → Prop where
  | digits {a b c d : Char} {i j k l : Nat} (ha : IsHexDigit a i) (hb : IsHexDigit b j) (hc : IsHexDigit c k)
      (hd : IsHexDigit d l) : Code [a, b, c, d] (((i * 16 + j) * 16 + k) * 16 + l)

/-- The characters that stand for one character behind a backslash. -/
def shortEscapes : List (Char × Char) :=
  [('"', '"'), ('\\', '\\'), ('/', '/'), ('b', '\x08'), ('f', '\x0c'), ('n', '\n'), ('r', '\r'), ('t', '\t')]

/-- A character that stands for itself between quotes. -/
def IsPlain (c : Char) : Prop := c ≠ '"' ∧ c ≠ '\\' ∧ 0x20 ≤ c.toNat

/-- The ways to write a character between quotes. Beyond 16 bits it takes the two halves of a pair. -/
inductive SpellsChar : List Char → Char → Prop where
  | plain {c : Char} (h : IsPlain c) : SpellsChar [c] c
  | short {e c : Char} (h : (e, c) ∈ shortEscapes) : SpellsChar ['\\', e] c
  | code {digits : List Char} {n : Nat} (h : Code digits n) (single : n < 0xd800 ∨ 0xe000 ≤ n) :
      SpellsChar ('\\' :: 'u' :: digits) (Char.ofNat n)
  | pair {first second : List Char} {high low : Nat} (hfirst : Code first high) (hsecond : Code second low)
      (hhigh : 0xd800 ≤ high ∧ high < 0xdc00) (hlow : 0xdc00 ≤ low ∧ low < 0xe000) :
      SpellsChar ('\\' :: 'u' :: (first ++ '\\' :: 'u' :: second))
        (Char.ofNat (0x10000 + (high - 0xd800) * 0x400 + (low - 0xdc00)))

/-- The ways to write a text between quotes. -/
inductive Spells : List Char → List Char → Prop where
  | nil : Spells [] []
  | cons {spelling rest : List Char} {c : Char} {cs : List Char} (hc : SpellsChar spelling c) (hcs : Spells rest cs) :
      Spells (spelling ++ rest) (c :: cs)

/-- What may stand between quotes where no text is asked for: a code may be half of a pair then. -/
inductive Quotable : List Char → Prop where
  | nil : Quotable []
  | plain {c : Char} {rest : List Char} (h : IsPlain c) (hrest : Quotable rest) : Quotable (c :: rest)
  | short {e c : Char} {rest : List Char} (h : (e, c) ∈ shortEscapes) (hrest : Quotable rest) :
      Quotable ('\\' :: e :: rest)
  | code {digits rest : List Char} {n : Nat} (h : Code digits n) (hrest : Quotable rest) :
      Quotable ('\\' :: 'u' :: (digits ++ rest))

/-! Numbers. -/

def AllDigits (ds : List Char) : Prop := ∀ d ∈ ds, '0' ≤ d ∧ d ≤ '9'

/-- The whole part of a number, without a zero in front of other digits. -/
inductive Whole : List Char → Prop where
  | zero : Whole ['0']
  | digits {d : Char} {ds : List Char} (nonzero : d ≠ '0') (h : AllDigits (d :: ds)) : Whole (d :: ds)

inductive Fraction : List Char → Prop where
  | none : Fraction []
  | digits {ds : List Char} (nonempty : ds ≠ []) (h : AllDigits ds) : Fraction ('.' :: ds)

inductive Exponent : List Char → Prop where
  | none : Exponent []
  | digits {letter : Char} {sign ds : List Char} (hletter : letter = 'e' ∨ letter = 'E')
      (hsign : sign = [] ∨ sign = ['+'] ∨ sign = ['-']) (nonempty : ds ≠ []) (h : AllDigits ds) :
      Exponent (letter :: (sign ++ ds))

/-- A number without its sign. -/
inductive Unsigned : List Char → Prop where
  | parts {whole fraction exponent : List Char} (hwhole : Whole whole) (hfraction : Fraction fraction)
      (hexponent : Exponent exponent) : Unsigned (whole ++ (fraction ++ exponent))

/-! Values. -/

/-- The texts of JSON values, without the blanks around them. -/
inductive ValueText : List Char → Prop where
  | null : ValueText ['n', 'u', 'l', 'l']
  | true : ValueText ['t', 'r', 'u', 'e']
  | false : ValueText ['f', 'a', 'l', 's', 'e']
  | unsigned {number : List Char} (h : Unsigned number) : ValueText number
  | negative {number : List Char} (h : Unsigned number) : ValueText ('-' :: number)
  | string {body : List Char} (h : Quotable body) : ValueText ('"' :: (body ++ ['"']))
  | list (blank : Blanks) (items : List Padded) (h : ∀ item ∈ items, ValueText item.inner) :
      ValueText ('[' :: (inside blank (items.map Padded.chars) ++ [']']))
  | object (blank : Blanks) (members : List Member) (names : ∀ m ∈ members, Quotable m.label)
      (h : ∀ m ∈ members, ValueText m.value.inner) :
      ValueText ('{' :: (inside blank (members.map Member.chars) ++ ['}']))

end SubjectMerge.Json
