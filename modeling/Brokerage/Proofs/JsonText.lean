import Brokerage.Proofs.Dict
import Brokerage.Proofs.Documents

/-! # Values and their text

The compact text of a value is a document of the value. It is read as that value, up to its doubles,
if its integers have 64 bits.
-/

namespace Brokerage

namespace Json

/-! ## Values that text can hold -/

mutual

/-- At most `room` containers stand inside one another, and integers have 64 bits. -/
def fits : Nat → Json → Bool
  | _, .null | _, .bool _ | _, .string _ => true
  | _, .number n => n.Fits
  | 0, .array _ | 0, .object _ => false
  | room + 1, .array items => fitsItems room items
  | room + 1, .object entries => fitsEntries room entries

def fitsItems (room : Nat) : List Json → Bool
  | [] => true
  | x :: rest => fits room x && fitsItems room rest

def fitsEntries (room : Nat) : List (String × Json) → Bool
  | [] => true
  | (_, x) :: rest => fits room x && fitsEntries room rest

end

mutual

/-- The value that its text is read as: a double may be another one. -/
def reread : Json → Json
  | .number n => .number n.reread
  | .array items => .array (rereadItems items)
  | .object entries => .object (rereadEntries entries)
  | v => v

def rereadItems : List Json → List Json
  | [] => []
  | x :: rest => reread x :: rereadItems rest

def rereadEntries : List (String × Json) → List (String × Json)
  | [] => []
  | (k, x) :: rest => (k, reread x) :: rereadEntries rest

end

mutual

/-- In every object the entries stand in strictly ascending order of their keys. -/
def ordered : Json → Bool
  | .array items => orderedItems items
  | .object entries => decide (entries.Pairwise fun a b => a.1 < b.1) && orderedEntries entries
  | _ => true

def orderedItems : List Json → Bool
  | [] => true
  | x :: rest => ordered x && orderedItems rest

def orderedEntries : List (String × Json) → Bool
  | [] => true
  | (_, x) :: rest => ordered x && orderedEntries rest

end

/-! ## Compact documents -/

/-- A character of a string is written after a backslash, as a number, or as it is. -/
theorem escaped_cases (c : Char) :
    (∃ e, escaped c = ['\\', e] ∧ (e, c) ∈ escapes) ∨
    (c.toNat < 0x20 ∧ escaped c =
      ['\\', 'u', '0', '0', Nat.digitChar (c.toNat / 16), Nat.digitChar (c.toNat % 16)]) ∨
    (escaped c = [c] ∧ c ≠ '"' ∧ c ≠ '\\' ∧ ¬c.toNat < 0x20) := by
  by_cases named : c ∈ ['"', '\\', '\x08', '\x0c', '\n', '\r', '\t']
  · left
    simp only [List.mem_cons, List.not_mem_nil, or_false] at named
    rcases named with rfl | rfl | rfl | rfl | rfl | rfl | rfl <;> exact ⟨_, rfl, by decide⟩
  · right
    simp only [List.mem_cons, List.not_mem_nil, or_false, not_or] at named
    obtain ⟨quote, backslash, others⟩ := named
    simp only [escaped, quote, backslash, others, if_false]
    split
    · rename_i control
      exact .inl ⟨control, rfl⟩
    · rename_i visible
      exact .inr ⟨rfl, quote, backslash, visible⟩

theorem exists_glyph (c : Char) : ∃ g : Glyph, g.chars = escaped c ∧ g.char = c := by
  rcases escaped_cases c with ⟨e, same, listed⟩ | ⟨control, same⟩ | ⟨same, shown⟩
  · exact ⟨.named e c listed, same.symm, rfl⟩
  · have high : c.toNat / 16 < 16 := by omega
    have low : c.toNat % 16 < 16 := by omega
    have value : (CodeUnit.mk ⟨0, false⟩ ⟨0, false⟩ ⟨⟨_, high⟩, false⟩ ⟨⟨_, low⟩, false⟩).value =
        c.toNat := by
      simp only [CodeUnit.value, Fin.val_zero]
      omega
    refine ⟨.unit _ (.inl (value ▸ Nat.lt_trans control (by decide))), ?_, ?_⟩
    · rw [same]
      rfl
    · rw [Glyph.char, value, Char.ofNat_toNat]
  · exact ⟨.plain c shown, same.symm, rfl⟩

theorem exists_glyphs (text : String) :
    ∃ glyphs : List Glyph, enquoted glyphs = quoted text ∧ meaning glyphs = text := by
  have written : ∀ chars : List Char, ∃ glyphs : List Glyph,
      glyphs.flatMap Glyph.chars = chars.flatMap escaped ∧ glyphs.map Glyph.char = chars := by
    intro chars
    induction chars with
    | nil => exact ⟨[], rfl, rfl⟩
    | cons c chars ih =>
        obtain ⟨g, first, char⟩ := exists_glyph c
        obtain ⟨glyphs, others, same⟩ := ih
        exact ⟨g :: glyphs, by simp [first, others], by simp [char, same]⟩
  obtain ⟨glyphs, same, meant⟩ := written text.toList
  exact ⟨glyphs, by rw [enquoted, quoted, same], by rw [meaning, meant, String.ofList_toList]⟩

/-- A document that is written as a value is printed. -/
structure Compact (v : Json) (d : Document) : Prop where
  chars : d.chars = v.chars
  draft : ∀ room, v.fits room = true → d.draft = .ofJson v.reread
  value : v.ordered = true → d.value = v
  plain : ∀ room, v.fits room = true → v.reread = v → d.plain room = true

structure CompactItems (x : Json) (more : List Json) (l : Items) : Prop where
  chars : l.chars ++ [']'] = x.chars ++ charsItems more
  drafts : ∀ room, fitsItems room (x :: more) = true →
    l.drafts = Draft.ofItems (rereadItems (x :: more))
  values : orderedItems (x :: more) = true → l.values = x :: more
  plain : ∀ room, fitsItems room (x :: more) = true → rereadItems (x :: more) = x :: more →
    l.plain room = true

structure CompactFields (key : String) (x : Json) (more : List (String × Json)) (l : Fields) :
    Prop where
  chars : l.chars ++ ['}'] = quoted key ++ ':' :: x.chars ++ charsEntries more
  drafts : ∀ room, fitsEntries room ((key, x) :: more) = true →
    l.drafts = Draft.ofEntries (rereadEntries ((key, x) :: more))
  values : orderedEntries ((key, x) :: more) = true → l.values = (key, x) :: more
  plain : ∀ room, fitsEntries room ((key, x) :: more) = true →
    rereadEntries ((key, x) :: more) = (key, x) :: more → l.plain room = true

theorem CompactItems.array {x : Json} {more : List Json} {l : Items} (h : CompactItems x more l) :
    Compact (.array (x :: more)) (.array l) where
  chars := by rw [Document.chars, Json.chars, List.cons_append, h.chars, List.cons_append]
  draft room fits := by
    cases room with
    | zero => cases fits
    | succ room => rw [Document.draft, h.drafts room fits]; rfl
  value order := by rw [Document.value, h.values order]
  plain room fits same := by
    cases room with
    | zero => cases fits
    | succ room => exact h.plain room fits (Json.array.inj same)

theorem CompactFields.object {key : String} {x : Json} {more : List (String × Json)} {l : Fields}
    (h : CompactFields key x more l) : Compact (.object ((key, x) :: more)) (.object l) where
  chars := by
    rw [Document.chars, Json.chars, List.cons_append, h.chars, List.cons_append, List.cons_append]
  draft room fits := by
    cases room with
    | zero => cases fits
    | succ room => rw [Document.draft, h.drafts room fits]; rfl
  value order := by
    obtain ⟨ascending, inner⟩ := Bool.and_eq_true_iff.1 order
    rw [Document.value, h.values inner]
    exact congrArg (Json.object ·.entries)
      (Dict.ofList_entries ⟨(key, x) :: more, of_decide_eq_true ascending⟩)
  plain room fits same := by
    cases room with
    | zero => cases fits
    | succ room => exact h.plain room fits (Json.object.inj same)

mutual

/-- The printed text of every value is a document. -/
theorem exists_document (v : Json) : ∃ d, Compact v d := by
  cases v with
  | null => exact ⟨.null, rfl, fun _ _ => rfl, fun _ => rfl, fun _ _ _ => rfl⟩
  | bool value =>
      exact ⟨.bool value, by cases value <;> rfl, fun _ _ => rfl, fun _ => rfl, fun _ _ _ => rfl⟩
  | number n =>
      refine ⟨.number n, rfl, fun room fits => ?_, fun _ => rfl, fun room fits same => ?_⟩
      · rw [Document.draft, n.toNumber?_numeral (by simpa [Json.fits] using fits)]
        rfl
      · have whole : n.Fits := by simpa [Json.fits] using fits
        simpa [Document.plain] using And.intro whole (Json.number.inj same)
  | string text =>
      obtain ⟨glyphs, same, meant⟩ := exists_glyphs text
      refine ⟨.string glyphs, same, fun _ _ => ?_, fun _ => ?_, fun _ _ _ => rfl⟩
      · rw [Document.draft, meant]
        rfl
      · rw [Document.value, meant]
  | array items =>
      cases items with
      | nil =>
          refine ⟨.emptyArray .none, rfl, fun _ _ => rfl, fun _ => rfl, fun room fits _ => ?_⟩
          cases room with
          | zero => cases fits
          | succ room => rfl
      | cons x more =>
          obtain ⟨l, h⟩ := exists_items x more
          exact ⟨_, h.array⟩
  | object entries =>
      cases entries with
      | nil =>
          refine ⟨.emptyObject .none, rfl, fun _ _ => rfl, fun _ => rfl, fun room fits _ => ?_⟩
          cases room with
          | zero => cases fits
          | succ room => rfl
      | cons e more =>
          cases e with
          | mk key x =>
              obtain ⟨l, h⟩ := exists_fields key x more
              exact ⟨_, h.object⟩
termination_by sizeOf v

theorem exists_items (x : Json) (more : List Json) : ∃ l, CompactItems x more l := by
  cases more with
  | nil =>
      obtain ⟨d, first⟩ := exists_document x
      refine ⟨.last .none d .none, ?_, fun room fits => ?_, fun order => ?_, fun room fits same => ?_⟩
      · simp [Items.chars, Blanks.none, first.chars, charsItems]
      · rw [Items.drafts, first.draft room (Bool.and_eq_true_iff.1 fits).1]
        rfl
      · rw [Items.values, first.value (Bool.and_eq_true_iff.1 order).1]
      · exact first.plain room (Bool.and_eq_true_iff.1 fits).1 (List.cons.inj same).1
  | cons y more =>
      obtain ⟨d, first⟩ := exists_document x
      obtain ⟨l, later⟩ := exists_items y more
      refine ⟨.more .none d .none l, ?_, fun room fits => ?_, fun order => ?_,
        fun room fits same => ?_⟩
      · simp [Items.chars, Blanks.none, first.chars, later.chars, charsItems]
      · obtain ⟨fx, others⟩ := Bool.and_eq_true_iff.1 fits
        rw [Items.drafts, first.draft room fx, later.drafts room others]
        rfl
      · obtain ⟨hx, others⟩ := Bool.and_eq_true_iff.1 order
        rw [Items.values, first.value hx, later.values others]
      · obtain ⟨fx, others⟩ := Bool.and_eq_true_iff.1 fits
        obtain ⟨hx, rest⟩ := List.cons.inj same
        exact Bool.and_eq_true_iff.2 ⟨first.plain room fx hx, later.plain room others rest⟩
termination_by sizeOf x + sizeOf more

theorem exists_fields (key : String) (x : Json) (more : List (String × Json)) :
    ∃ l, CompactFields key x more l := by
  obtain ⟨glyphs, same, meant⟩ := exists_glyphs key
  cases more with
  | nil =>
      obtain ⟨d, first⟩ := exists_document x
      refine ⟨.last .none glyphs .none .none d .none, ?_, fun room fits => ?_, fun order => ?_,
        fun room fits kept => ?_⟩
      · simp [Fields.chars, Blanks.none, same, first.chars, charsEntries]
      · rw [Fields.drafts, meant, first.draft room (Bool.and_eq_true_iff.1 fits).1]
        rfl
      · rw [Fields.values, meant, first.value (Bool.and_eq_true_iff.1 order).1]
      · exact first.plain room (Bool.and_eq_true_iff.1 fits).1
          (Prod.mk.inj (List.cons.inj kept).1).2
  | cons e more =>
      cases e with
      | mk next y =>
          obtain ⟨d, first⟩ := exists_document x
          obtain ⟨l, later⟩ := exists_fields next y more
          refine ⟨.more .none glyphs .none .none d .none l, ?_, fun room fits => ?_, fun order => ?_,
            fun room fits kept => ?_⟩
          · simp [Fields.chars, Blanks.none, same, first.chars, later.chars, charsEntries]
          · obtain ⟨fx, others⟩ := Bool.and_eq_true_iff.1 fits
            rw [Fields.drafts, meant, first.draft room fx, later.drafts room others]
            rfl
          · obtain ⟨hx, others⟩ := Bool.and_eq_true_iff.1 order
            rw [Fields.values, meant, first.value hx, later.values others]
          · obtain ⟨fx, others⟩ := Bool.and_eq_true_iff.1 fits
            obtain ⟨hx, rest⟩ := List.cons.inj kept
            exact Bool.and_eq_true_iff.2
              ⟨first.plain room fx (Prod.mk.inj hx).2, later.plain room others rest⟩
termination_by sizeOf x + sizeOf more

end

theorem Compact.text {v : Json} {d : Document} (h : Compact v d) : d.text .none .none = v.text := by
  simp [Document.text, Blanks.none, h.chars, Json.text]

end Json

theorem Draft.front_text {room : Nat} {v : Json} (h : v.fits room = true) :
    front v.text = (ofJson v.reread, some []) := by
  obtain ⟨d, compact⟩ := v.exists_document
  rw [← compact.text, front_document, compact.draft room h]
  rfl

/-- Arrays inside one another. -/
def nested : Nat → Json
  | 0 => .null
  | depth + 1 => .array [nested depth]

end Brokerage
