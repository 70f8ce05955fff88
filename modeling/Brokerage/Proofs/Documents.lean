import Brokerage.Json.Decode
import Brokerage.Proofs.NumberText
import Mathlib.Data.List.DropRight

/-! # JSON documents

A value has many texts: blanks stand between the tokens as one likes, the entries of an object come
in any order, and a character of a string can be written in several ways. A document is one of
these texts. Every document is scanned in full (`Draft.value_document`), and if its numbers are
read as they are meant and it is not nested too deeply, it is read as its value
(`Json.read?_document`).
-/

namespace Brokerage

namespace Json

/-- What may stand between two tokens. -/
structure Blanks where
  chars : List Char
  blank : ∀ c ∈ chars, c ∈ [' ', '\n', '\t', '\r']

def Blanks.none : Blanks := ⟨[], nofun⟩

/-! ## Strings -/

/-- A hexadecimal digit, as a small or a large letter from ten on. -/
structure HexDigit where
  value : Fin 16
  large : Bool

def HexDigit.char (d : HexDigit) : Char :=
  if d.large then (Nat.digitChar d.value).toUpper else Nat.digitChar d.value

/-- Sixteen bits, as four digits. -/
structure CodeUnit where
  first : HexDigit
  second : HexDigit
  third : HexDigit
  fourth : HexDigit

namespace CodeUnit

def value (u : CodeUnit) : Nat :=
  ((u.first.value.val * 16 + u.second.value) * 16 + u.third.value) * 16 + u.fourth.value

def chars (u : CodeUnit) : List Char :=
  ['\\', 'u', u.first.char, u.second.char, u.third.char, u.fourth.char]

end CodeUnit

/-- What may follow a backslash, and the character that is meant. -/
def escapes : List (Char × Char) :=
  [('"', '"'), ('\\', '\\'), ('/', '/'), ('b', '\x08'), ('f', '\x0c'), ('n', '\n'), ('r', '\r'),
    ('t', '\t')]

/-- A character of a string, as it is written. -/
inductive Glyph where
  | plain (c : Char) (shown : c ≠ '"' ∧ c ≠ '\\' ∧ ¬c.toNat < 0x20)
  | named (name c : Char) (listed : (name, c) ∈ escapes)
  | unit (u : CodeUnit) (whole : u.value < 0xD800 ∨ 0xE000 ≤ u.value)
  /-- A character beyond sixteen bits, as two surrogates. -/
  | pair (high low : CodeUnit) (leads : 0xD800 ≤ high.value ∧ high.value < 0xDC00)
    (trails : 0xDC00 ≤ low.value ∧ low.value < 0xE000)

namespace Glyph

def char : Glyph → Char
  | plain c _ | named _ c _ => c
  | unit u _ => Char.ofNat u.value
  | pair high low _ _ =>
    Char.ofNat (0x10000 + (high.value - 0xD800) * 0x400 + (low.value - 0xDC00))

def chars : Glyph → List Char
  | plain c _ => [c]
  | named name _ _ => ['\\', name]
  | unit u _ => u.chars
  | pair high low _ _ => high.chars ++ low.chars

/-- What a scan makes of it. -/
def symbols : Glyph → List Draft.Symbol
  | plain c _ | named _ c _ => [.plain c]
  | unit u _ => [.unit u.value]
  | pair high low _ _ => [.unit high.value, .unit low.value]

end Glyph

/-- The text that is meant by a string. -/
def meaning (glyphs : List Glyph) : String := String.ofList (glyphs.map Glyph.char)

def enquoted (glyphs : List Glyph) : List Char := '"' :: glyphs.flatMap Glyph.chars ++ ['"']

/-! ## Values -/

mutual

/-- A value as it is written. A number stands in its shortest form. -/
inductive Document where
  | null
  | bool (value : Bool)
  | number (value : Number)
  | string (glyphs : List Glyph)
  | emptyArray (inside : Blanks)
  | array (items : Items)
  | emptyObject (inside : Blanks)
  | object (fields : Fields)

/-- The items of an array, each between blanks. -/
inductive Items where
  | last (before : Blanks) (item : Document) (after : Blanks)
  | more (before : Blanks) (item : Document) (after : Blanks) (rest : Items)

/-- The entries of an object, blanks around keys and values. -/
inductive Fields where
  | last (before : Blanks) (key : List Glyph) (between : Blanks) (ahead : Blanks) (value : Document)
    (after : Blanks)
  | more (before : Blanks) (key : List Glyph) (between : Blanks) (ahead : Blanks) (value : Document)
    (after : Blanks) (rest : Fields)

end

mutual

def Document.chars : Document → List Char
  | .null => ['n', 'u', 'l', 'l']
  | .bool true => ['t', 'r', 'u', 'e']
  | .bool false => ['f', 'a', 'l', 's', 'e']
  | .number value => value.chars
  | .string glyphs => enquoted glyphs
  | .emptyArray inside => '[' :: inside.chars ++ [']']
  | .array items => '[' :: items.chars ++ [']']
  | .emptyObject inside => '{' :: inside.chars ++ ['}']
  | .object fields => '{' :: fields.chars ++ ['}']

def Items.chars : Items → List Char
  | .last before item after => before.chars ++ item.chars ++ after.chars
  | .more before item after rest =>
    before.chars ++ item.chars ++ after.chars ++ ',' :: rest.chars

def Fields.chars : Fields → List Char
  | .last before key between ahead value after =>
    before.chars ++ enquoted key ++ between.chars ++ ':' :: (ahead.chars ++ value.chars ++ after.chars)
  | .more before key between ahead value after rest =>
    before.chars ++ enquoted key ++ between.chars ++
      ':' :: (ahead.chars ++ value.chars ++ after.chars ++ ',' :: rest.chars)

end

mutual

/-- The value that a document stands for. The last entry of a key counts. -/
def Document.value : Document → Json
  | .null => .null
  | .bool value => .bool value
  | .number value => .number value
  | .string glyphs => .string (meaning glyphs)
  | .emptyArray _ => .array []
  | .array items => .array items.values
  | .emptyObject _ => .object []
  | .object fields => .ofFields fields.values

def Items.values : Items → List Json
  | .last _ item _ => [item.value]
  | .more _ item _ rest => item.value :: rest.values

def Fields.values : Fields → List (String × Json)
  | .last _ key _ _ value _ => [(meaning key, value.value)]
  | .more _ key _ _ value _ rest => (meaning key, value.value) :: rest.values

end

mutual

/-- What a scan makes of a document. -/
def Document.draft : Document → Draft
  | .null => .null
  | .bool value => .bool value
  | .number value => .number value.numeral.toNumber?
  | .string glyphs => .string (some (meaning glyphs))
  | .emptyArray _ => .array [] true
  | .array items => .array items.drafts true
  | .emptyObject _ => .object [] true
  | .object fields => .object fields.drafts true

def Items.drafts : Items → List Draft
  | .last _ item _ => [item.draft]
  | .more _ item _ rest => item.draft :: rest.drafts

def Fields.drafts : Fields → List (Option String × Draft)
  | .last _ key _ _ value _ => [(some (meaning key), value.draft)]
  | .more _ key _ _ value _ rest => (some (meaning key), value.draft) :: rest.drafts

end

mutual

/-- At most `room` containers stand inside one another, integers have 64 bits, and the text of a
double is read as the double. -/
def Document.plain : Nat → Document → Bool
  | _, .number value => decide (value.Fits ∧ value.reread = value)
  | 0, .emptyArray _ | 0, .array _ | 0, .emptyObject _ | 0, .object _ => false
  | room + 1, .array items => items.plain room
  | room + 1, .object fields => fields.plain room
  | _, _ => true

def Items.plain : Nat → Items → Bool
  | room, .last _ item _ => item.plain room
  | room, .more _ item _ rest => item.plain room && rest.plain room

def Fields.plain : Nat → Fields → Bool
  | room, .last _ _ _ _ value _ => value.plain room
  | room, .more _ _ _ _ value _ rest => value.plain room && rest.plain room

end

/-- A document that is read as it is meant. -/
def Document.Plain (d : Document) : Prop := d.plain Draft.depthLimit = true

/-- The text of a document between blanks. -/
def Document.text (d : Document) (before after : Blanks) : String :=
  String.ofList (before.chars ++ d.chars ++ after.chars)

end Json

namespace Draft

open Json

variable {fuel : Nat} {rest more : List Char}

/-! ## Scanning a string -/

theorem hexValue?_char : ∀ d : HexDigit, hexValue? d.char = some d.value.val := by
  rintro ⟨value, large⟩
  revert value large
  decide

theorem scanSymbols_backslash {c plain : Char} (h : unescaped? c = some plain) :
    scanSymbols ('\\' :: c :: rest) =
      (scanSymbols rest).map fun (symbols, after) => (.plain plain :: symbols, after) := by
  rw [scanSymbols]
  · rw [h]
    cases scanSymbols rest <;> rfl
  · rintro _ _ _ _ _ rfl
    cases h

theorem scanSymbols_plain {c : Char} (quote : c ≠ '"') (backslash : c ≠ '\\')
    (visible : ¬c.toNat < 0x20) : scanSymbols (c :: rest) =
      (scanSymbols rest).map fun (symbols, after) => (.plain c :: symbols, after) := by
  rw [scanSymbols]
  · rw [if_neg (by simp [backslash, visible])]
    cases scanSymbols rest <;> rfl
  · exact quote
  · rintro _ _ _ _ _ rfl
    exact absurd rfl backslash
  · rintro _ _ rfl
    exact absurd rfl backslash

theorem scanSymbols_unit (u : CodeUnit) : scanSymbols (u.chars ++ rest) =
    (scanSymbols rest).map fun (symbols, after) => (.unit u.value :: symbols, after) := by
  simp only [CodeUnit.chars, List.cons_append, List.nil_append]
  rw [scanSymbols]
  simp only [hexValue?_char, Option.bind_eq_bind, Option.bind_some]
  cases scanSymbols rest <;> rfl

theorem joinSymbols_whole {n : Nat} (whole : n < 0xD800 ∨ 0xE000 ≤ n) (more : List Symbol) :
    joinSymbols (.unit n :: more) = (joinSymbols more).map (Char.ofNat n :: ·) := by
  have low : (decide (0xD800 ≤ n) && decide (n < 0xDC00)) = false := by simp; omega
  have high : (decide (0xDC00 ≤ n) && decide (n < 0xE000)) = false := by simp; omega
  have any : (decide (0xD800 ≤ n) && decide (n < 0xE000)) = false := by simp; omega
  cases more with
  | nil => simp [joinSymbols, any]
  | cons s more =>
      cases s with
      | plain c => simp [joinSymbols, any]
      | unit m => rw [joinSymbols, low, high, if_neg Bool.false_ne_true, if_neg Bool.false_ne_true]

theorem scanSymbols_glyph (g : Glyph) : scanSymbols (g.chars ++ rest) =
    (scanSymbols rest).map fun (symbols, after) => (g.symbols ++ symbols, after) := by
  cases g with
  | plain c shown => exact scanSymbols_plain shown.1 shown.2.1 shown.2.2
  | named name c listed =>
      have table : ∀ e ∈ escapes, unescaped? e.1 = some e.2 := by decide
      exact scanSymbols_backslash (table _ listed)
  | unit u => exact scanSymbols_unit u
  | pair high low =>
      rw [Glyph.chars, List.append_assoc, scanSymbols_unit, scanSymbols_unit]
      cases scanSymbols rest <;> rfl

theorem joinSymbols_glyph (g : Glyph) (more : List Symbol) :
    joinSymbols (g.symbols ++ more) = (joinSymbols more).map (g.char :: ·) := by
  cases g with
  | plain | named => rfl
  | unit u whole => exact joinSymbols_whole whole more
  | pair high low leads trails =>
      change joinSymbols (.unit high.value :: .unit low.value :: more) = _
      rw [joinSymbols, if_pos (by simpa using leads), if_pos (by simpa using trails)]
      rfl

theorem scanString_glyphs (glyphs : List Glyph) (rest : List Char) :
    scanString (glyphs.flatMap Glyph.chars ++ '"' :: rest) = some (some (meaning glyphs), rest) := by
  have scanned : scanSymbols (glyphs.flatMap Glyph.chars ++ '"' :: rest) =
      some (glyphs.flatMap Glyph.symbols, rest) := by
    induction glyphs with
    | nil => rfl
    | cons g glyphs ih =>
        rw [List.flatMap_cons, List.append_assoc, scanSymbols_glyph, ih]
        rfl
  have joined : joinSymbols (glyphs.flatMap Glyph.symbols) = some (glyphs.map Glyph.char) := by
    clear scanned
    induction glyphs with
    | nil => rfl
    | cons g glyphs ih =>
        rw [List.flatMap_cons, joinSymbols_glyph, ih]
        rfl
  simp [scanString, scanned, joined, meaning]

/-! ## Passing blanks -/

theorem skipBlanks_cons {c : Char} (h : c ∉ [' ', '\n', '\t', '\r']) :
    skipBlanks (c :: rest) = c :: rest := by
  simp only [List.mem_cons, List.not_mem_nil, or_false, not_or] at h
  simp [skipBlanks, h]

theorem skipBlanks_blanks (b : Blanks) : skipBlanks (b.chars ++ rest) = skipBlanks rest := by
  refine List.dropWhile_append_of_pos fun c member => ?_
  simpa [or_assoc] using b.blank c member

theorem skipBlanks_again : skipBlanks (skipBlanks more) = skipBlanks more :=
  List.dropWhile_idempotent _ _

theorem value_skipBlanks : value fuel (skipBlanks more) = value fuel more := by
  cases fuel with
  | zero => rfl
  | succ fuel => simp only [value, skipBlanks_again]

theorem value_blanks (b : Blanks) : value fuel (b.chars ++ more) = value fuel more := by
  rw [← value_skipBlanks, skipBlanks_blanks, value_skipBlanks]

theorem items_skipBlanks : items fuel (skipBlanks more) = items fuel more := by
  cases fuel with
  | zero => rfl
  | succ fuel => simp only [items, value_skipBlanks]

theorem entries_skipBlanks : entries fuel (skipBlanks more) = entries fuel more := by
  cases fuel with
  | zero => rfl
  | succ fuel => simp only [entries, skipBlanks_again]

/-- After a value come blanks and a token that ends it, or nothing. -/
theorem stops_blanks (b : Blanks) (ends : ∀ c ∈ rest.head?, c ∈ [',', ']', '}']) :
    Stops (b.chars ++ rest) := by
  have quiet : ∀ x ∈ [' ', '\n', '\t', '\r'] ++ [',', ']', '}'],
      x.isDigit = false ∧ x ≠ '.' ∧ x ≠ 'e' ∧ x ≠ 'E' := by
    simp only [List.cons_append, List.nil_append, List.forall_mem_cons, List.not_mem_nil,
      false_implies, implies_true, and_true]
    decide
  intro x first
  apply quiet
  cases parts : b.chars with
  | nil =>
      rw [parts] at first
      exact List.mem_append_right _ (ends x first)
  | cons y others =>
      rw [parts] at first
      obtain rfl : y = x := by simpa using first
      exact List.mem_append_left _ (b.blank y (parts ▸ List.mem_cons_self))

/-! ## Scanning a document -/

/-- A document starts neither with a blank nor with the end of a container. -/
theorem head_document (d : Document) : ∃ c more, d.chars = c :: more ∧
    c ∉ [' ', '\n', '\t', '\r', ',', ']', '}'] := by
  cases d with
  | number n =>
      obtain ⟨c, more, parts, numeric⟩ := n.head_chars
      refine ⟨c, more, parts, fun member => ?_⟩
      rcases numeric with rfl | digit
      · exact absurd member (by decide)
      · have letters : ∀ x ∈ [' ', '\n', '\t', '\r', ',', ']', '}'], x.isDigit = false := by
          simp only [List.forall_mem_cons, List.not_mem_nil, false_implies, implies_true, and_true]
          decide
        rw [letters c member] at digit
        cases digit
  | bool value => cases value <;> exact ⟨_, _, rfl, by decide⟩
  | _ => exact ⟨_, _, rfl, by decide⟩

theorem skipBlanks_document (d : Document) : skipBlanks (d.chars ++ rest) = d.chars ++ rest := by
  obtain ⟨c, more, parts, start⟩ := head_document d
  rw [parts, List.cons_append]
  exact skipBlanks_cons fun member => start (List.mem_append_left [',', ']', '}'] member)

/-- The items of an array do not start with its end. -/
theorem skipBlanks_items (l : Items) (rest : List Char) : ∃ c more,
    skipBlanks (l.chars ++ rest) = c :: more ∧ c ≠ ']' := by
  have first (before : Blanks) (d : Document) (tail : List Char) :
      ∃ c more, skipBlanks (before.chars ++ (d.chars ++ tail)) = c :: more ∧ c ≠ ']' := by
    obtain ⟨c, more, parts, start⟩ := head_document d
    refine ⟨c, more ++ tail, ?_, ?_⟩
    · rw [skipBlanks_blanks, skipBlanks_document, parts, List.cons_append]
    · rintro rfl
      exact start (by decide)
  cases l <;> simp only [Items.chars, List.append_assoc] <;> exact first _ _ _

theorem skipBlanks_fields (l : Fields) (rest : List Char) :
    ∃ more, skipBlanks (l.chars ++ rest) = '"' :: more := by
  cases l <;> simp only [Fields.chars, List.append_assoc, skipBlanks_blanks, enquoted,
    List.cons_append] <;> exact ⟨_, skipBlanks_cons (by decide)⟩

theorem value_number (n : Number) (stops : Stops rest) :
    value (fuel + 1) (n.chars ++ rest) = (.number n.numeral.toNumber?, some rest) := by
  have scanned := n.scanNumber_chars stops
  have skipped : skipBlanks (n.chars ++ rest) = n.chars ++ rest := skipBlanks_document (.number n)
  obtain ⟨c, more, parts, numeric⟩ := n.head_chars
  have other {x : Char} (word : ¬(x = '-' ∨ x.isDigit = true)) : c ≠ x :=
    fun same => word (same ▸ numeric)
  rw [parts] at scanned skipped ⊢
  simp only [value, skipped]
  split
  case h_7 => rw [scanned]
  all_goals
    rename_i same
    exact absurd (List.cons.inj same).1 (other (by decide))

theorem value_array {l : Items} {list : List Draft}
    (read : items fuel (l.chars ++ ']' :: rest) = (list, some rest)) :
    value (fuel + 1) ('[' :: (l.chars ++ ']' :: rest)) = (.array list true, some rest) := by
  obtain ⟨c, more, parts, start⟩ := skipBlanks_items l (']' :: rest)
  rw [← items_skipBlanks, parts] at read
  rw [value, skipBlanks_cons (by decide)]
  simp only [parts]
  split
  · rename_i close
    exact absurd (List.cons.inj close).1 start
  · rw [read]
    rfl

theorem value_object {l : Fields} {list : List (Option String × Draft)}
    (read : entries fuel (l.chars ++ '}' :: rest) = (list, some rest)) :
    value (fuel + 1) ('{' :: (l.chars ++ '}' :: rest)) = (.object list true, some rest) := by
  obtain ⟨more, parts⟩ := skipBlanks_fields l ('}' :: rest)
  rw [← entries_skipBlanks, parts] at read
  rw [value, skipBlanks_cons (by decide)]
  simp only [parts]
  split
  · rename_i close
    exact absurd (List.cons.inj close).1 (by decide)
  · rw [read]
    rfl

/-- An entry is scanned up to what stands behind its value. -/
theorem entries_field {key : List Glyph} {between ahead : Blanks} {d : Draft} {tail after : List Char}
    (read : value fuel tail = (d, some after)) (before : Blanks) :
    entries (fuel + 1) (before.chars ++ (enquoted key ++
      (between.chars ++ ':' :: (ahead.chars ++ tail)))) =
      match skipBlanks after with
      | '}' :: rest => ([(some (meaning key), d)], some rest)
      | ',' :: rest =>
        let (more, after) := entries fuel rest
        ((some (meaning key), d) :: more, after)
      | _ => ([(some (meaning key), d)], none) := by
  have colon : skipBlanks (between.chars ++ ':' :: (ahead.chars ++ tail)) =
      ':' :: (ahead.chars ++ tail) := by
    rw [skipBlanks_blanks, skipBlanks_cons (by decide)]
  have quote : '"' ∉ [' ', '\n', '\t', '\r'] := by decide
  rw [entries, skipBlanks_blanks]
  simp only [enquoted, List.cons_append, List.append_assoc, List.nil_append,
    skipBlanks_cons quote, scanString_glyphs, colon, value_blanks, read]
  all_goals rfl

mutual

/-- A document is scanned in full, and what follows it is left. -/
theorem value_document (d : Document) (fuel : Nat) (enough : 2 * d.chars.length ≤ fuel)
    (rest : List Char) (stops : Stops rest) :
    value fuel (d.chars ++ rest) = (d.draft, some rest) := by
  obtain ⟨fuel, rfl⟩ : ∃ n, fuel = n + 1 := by
    obtain ⟨c, more, parts, _⟩ := head_document d
    rw [parts, List.length_cons] at enough
    exact ⟨fuel - 1, by omega⟩
  cases d with
  | null => rfl
  | bool value => cases value <;> rfl
  | number n => exact value_number n stops
  | string glyphs =>
      have scanned := scanString_glyphs glyphs rest
      simp only [Document.chars, enquoted, List.cons_append, List.append_assoc, List.nil_append]
      rw [value, skipBlanks_cons (by decide)]
      simp only [scanned]
      rfl
  | emptyArray inside =>
      have close : skipBlanks (inside.chars ++ ']' :: rest) = ']' :: rest := by
        rw [skipBlanks_blanks, skipBlanks_cons (by decide)]
      simp only [Document.chars, List.cons_append, List.append_assoc, List.nil_append]
      rw [value, skipBlanks_cons (by decide)]
      simp only [close]
      rfl
  | array l =>
      simp only [Document.chars, List.length_append, List.length_cons, List.length_nil] at enough
      have read := items_document l fuel (by omega) rest
      simp only [Document.chars, List.cons_append, List.append_assoc, List.nil_append]
      exact value_array read
  | emptyObject inside =>
      have close : skipBlanks (inside.chars ++ '}' :: rest) = '}' :: rest := by
        rw [skipBlanks_blanks, skipBlanks_cons (by decide)]
      simp only [Document.chars, List.cons_append, List.append_assoc, List.nil_append]
      rw [value, skipBlanks_cons (by decide)]
      simp only [close]
      rfl
  | object l =>
      simp only [Document.chars, List.length_append, List.length_cons, List.length_nil] at enough
      have read := entries_document l fuel (by omega) rest
      simp only [Document.chars, List.cons_append, List.append_assoc, List.nil_append]
      exact value_object read
termination_by sizeOf d

theorem items_document (l : Items) (fuel : Nat) (enough : 2 * l.chars.length + 1 ≤ fuel)
    (rest : List Char) : items fuel (l.chars ++ ']' :: rest) = (l.drafts, some rest) := by
  obtain ⟨fuel, rfl⟩ : ∃ n, fuel = n + 1 := ⟨fuel - 1, by omega⟩
  cases l with
  | last before item after =>
      simp only [Items.chars, List.length_append] at enough
      have read := value_document item fuel (by omega) (after.chars ++ ']' :: rest)
        (stops_blanks after (by simp))
      have close : skipBlanks (after.chars ++ ']' :: rest) = ']' :: rest := by
        rw [skipBlanks_blanks, skipBlanks_cons (by decide)]
      simp only [Items.chars, List.append_assoc]
      rw [items, value_blanks, read]
      simp only [close]
      rfl
  | more before item after others =>
      simp only [Items.chars, List.length_append, List.length_cons] at enough
      have read := value_document item fuel (by omega)
        (after.chars ++ ',' :: (others.chars ++ ']' :: rest)) (stops_blanks after (by simp))
      have later := items_document others fuel (by omega) rest
      have comma : skipBlanks (after.chars ++ ',' :: (others.chars ++ ']' :: rest)) =
          ',' :: (others.chars ++ ']' :: rest) := by
        rw [skipBlanks_blanks, skipBlanks_cons (by decide)]
      simp only [Items.chars, List.append_assoc, List.cons_append]
      rw [items, value_blanks, read]
      simp only [comma, later]
      rfl
termination_by sizeOf l

theorem entries_document (l : Fields) (fuel : Nat) (enough : 2 * l.chars.length + 1 ≤ fuel)
    (rest : List Char) : entries fuel (l.chars ++ '}' :: rest) = (l.drafts, some rest) := by
  obtain ⟨fuel, rfl⟩ : ∃ n, fuel = n + 1 := ⟨fuel - 1, by omega⟩
  cases l with
  | last before key between ahead item after =>
      simp only [Fields.chars, List.length_append, List.length_cons] at enough
      have read := value_document item fuel (by omega) (after.chars ++ '}' :: rest)
        (stops_blanks after (by simp))
      have close : skipBlanks (after.chars ++ '}' :: rest) = '}' :: rest := by
        rw [skipBlanks_blanks, skipBlanks_cons (by decide)]
      simp only [Fields.chars, List.append_assoc, List.cons_append]
      rw [entries_field read before, close]
      rfl
  | more before key between ahead item after others =>
      simp only [Fields.chars, List.length_append, List.length_cons] at enough
      have read := value_document item fuel (by omega)
        (after.chars ++ ',' :: (others.chars ++ '}' :: rest)) (stops_blanks after (by simp))
      have later := entries_document others fuel (by omega) rest
      have comma : skipBlanks (after.chars ++ ',' :: (others.chars ++ '}' :: rest)) =
          ',' :: (others.chars ++ '}' :: rest) := by
        rw [skipBlanks_blanks, skipBlanks_cons (by decide)]
      simp only [Fields.chars, List.append_assoc, List.cons_append]
      rw [entries_field read before, comma]
      simp only [later]
      rfl
termination_by sizeOf l

end

theorem front_document (before : Blanks) (d : Document) (after : Blanks) :
    front (d.text before after) = (d.draft, some after.chars) := by
  have ends : Stops (after.chars ++ []) := stops_blanks after (by simp)
  rw [List.append_nil] at ends
  have long : 2 * d.chars.length ≤ 2 * (before.chars ++ d.chars ++ after.chars).length + 2 := by
    simp only [List.length_append]
    omega
  have read := value_document d _ long after.chars ends
  rw [front, Document.text, String.toList_ofList, ← read, List.append_assoc, value_blanks]

/-! ## Reading a document -/

mutual

theorem asJson_document {room : Nat} (d : Document) (plain : d.plain room = true) :
    asJson room d.draft = .ok d.value := by
  cases d with
  | null | bool | string => rfl
  | number n =>
      obtain ⟨fits, same⟩ := of_decide_eq_true plain
      rw [Document.draft, Number.toNumber?_numeral fits, same]
      rfl
  | emptyArray | emptyObject =>
      cases room with
      | zero => cases plain
      | succ room => rfl
  | array l =>
      cases room with
      | zero => cases plain
      | succ room =>
          simp only [Document.draft, asJson, enter, ended, bind, Except.bind,
            asJsonItems_document l plain]
          rfl
  | object l =>
      cases room with
      | zero => cases plain
      | succ room =>
          simp only [Document.draft, asJson, enter, ended, bind, Except.bind,
            asJsonEntries_document ∅ l plain]
          rfl
termination_by sizeOf d

theorem asJsonItems_document {room : Nat} (l : Items) (plain : l.plain room = true) :
    asJsonItems room l.drafts = .ok l.values := by
  cases l with
  | last before item after =>
      simp only [Items.drafts, asJsonItems, bind, Except.bind, asJson_document item plain]
      rfl
  | more before item after others =>
      obtain ⟨first, later⟩ := Bool.and_eq_true_iff.1 plain
      simp only [Items.drafts, asJsonItems, bind, Except.bind, asJson_document item first,
        asJsonItems_document others later]
      rfl
termination_by sizeOf l

theorem asJsonEntries_document {room : Nat} (known : Dict Json) (l : Fields)
    (plain : l.plain room = true) : asJsonEntries room known l.drafts =
      .ok (l.values.foldl (fun acc e => acc.insert e.1 e.2) known) := by
  cases l with
  | last before key between ahead item after =>
      simp only [Fields.drafts, asJsonEntries, readKey, bind, Except.bind, asJson_document item plain]
      rfl
  | more before key between ahead item after others =>
      obtain ⟨first, later⟩ := Bool.and_eq_true_iff.1 plain
      simp only [Fields.drafts, asJsonEntries, readKey, bind, Except.bind,
        asJson_document item first]
      exact asJsonEntries_document _ others later
termination_by sizeOf l

end

end Draft

namespace Json

end Json
end Brokerage
