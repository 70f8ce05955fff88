import Brokerage.Json.Decode
import Brokerage.Proofs.JsonText

/-! # What decoding gives

A value whose integers have 64 bits and whose containers do not stand too deeply in one another is
decoded from its text, and every value that is decoded from a text is such a value. So what was read
once can be written and read again.
-/

namespace Brokerage

theorem bind_eq_ok {ε α β : Type} {x : Except ε α} {f : α → Except ε β} {b : β} :
    (x >>= f) = .ok b ↔ ∃ a, x = .ok a ∧ f a = .ok b := by
  cases x with
  | error e => simp [bind, Except.bind]
  | ok a => simp [bind, Except.bind]

namespace Number

theorem reread_fits {n : Number} (h : n.Fits) : n.reread.Fits :=
  Draft.Numeral.fits_of_toNumber? (toNumber?_numeral h)

end Number

namespace Json

theorem fitsEntries_iff {room : Nat} {entries : List (String × Json)} :
    fitsEntries room entries = true ↔ ∀ e ∈ entries, e.2.fits room = true := by
  induction entries with
  | nil => simp [fitsEntries]
  | cons e rest ih => simp [fitsEntries, ih]

mutual

theorem fits_reread {room : Nat} (v : Json) (h : v.fits room = true) : v.reread.fits room = true := by
  cases v with
  | null | bool | string => exact h
  | number n =>
      simp only [fits, decide_eq_true_eq] at h
      simpa [reread, fits] using n.reread_fits h
  | array items =>
      cases room with
      | zero => cases h
      | succ room => exact fitsItems_reread items h
  | object entries =>
      cases room with
      | zero => cases h
      | succ room => exact fitsEntries_reread entries h

theorem fitsItems_reread {room : Nat} (items : List Json) (h : fitsItems room items = true) :
    fitsItems room (rereadItems items) = true := by
  cases items with
  | nil => rfl
  | cons x rest =>
      obtain ⟨hx, others⟩ := Bool.and_eq_true_iff.1 h
      exact Bool.and_eq_true_iff.2 ⟨fits_reread x hx, fitsItems_reread rest others⟩

theorem fitsEntries_reread {room : Nat} (entries : List (String × Json))
    (h : fitsEntries room entries = true) : fitsEntries room (rereadEntries entries) = true := by
  cases entries with
  | nil => rfl
  | cons e rest =>
      cases e with
      | mk key x =>
          obtain ⟨hx, others⟩ := Bool.and_eq_true_iff.1 h
          exact Bool.and_eq_true_iff.2 ⟨fits_reread x hx, fitsEntries_reread rest others⟩

end

end Json

namespace Draft

mutual

theorem asJson_ofJson {room : Nat} (v : Json) (h : v.fits room = true) :
    ∃ w, asJson room (ofJson v) = .ok w := by
  cases v with
  | null | bool | number | string => exact ⟨_, rfl⟩
  | array items =>
      cases room with
      | zero => cases h
      | succ room =>
          obtain ⟨values, decoded⟩ := asJsonItems_ofItems items h
          refine ⟨.array values, ?_⟩
          simp only [ofJson, asJson, enter, ended, bind, Except.bind, decoded]
          rfl
  | object entries =>
      cases room with
      | zero => cases h
      | succ room =>
          obtain ⟨known, decoded⟩ := asJsonEntries_ofEntries ∅ entries h
          refine ⟨.object known.entries, ?_⟩
          simp only [ofJson, asJson, enter, ended, bind, Except.bind, decoded]
          rfl

theorem asJsonItems_ofItems {room : Nat} (items : List Json) (h : Json.fitsItems room items = true) :
    ∃ values, asJsonItems room (ofItems items) = .ok values := by
  cases items with
  | nil => exact ⟨[], rfl⟩
  | cons x rest =>
      obtain ⟨hx, others⟩ := Bool.and_eq_true_iff.1 h
      obtain ⟨v, first⟩ := asJson_ofJson x hx
      obtain ⟨values, later⟩ := asJsonItems_ofItems rest others
      refine ⟨v :: values, ?_⟩
      simp only [ofItems, asJsonItems, bind, Except.bind, first, later]
      rfl

theorem asJsonEntries_ofEntries {room : Nat} (known : Dict Json) (entries : List (String × Json))
    (h : Json.fitsEntries room entries = true) :
    ∃ all, asJsonEntries room known (ofEntries entries) = .ok all := by
  cases entries with
  | nil => exact ⟨known, rfl⟩
  | cons e rest =>
      cases e with
      | mk key x =>
          obtain ⟨hx, others⟩ := Bool.and_eq_true_iff.1 h
          obtain ⟨v, first⟩ := asJson_ofJson x hx
          obtain ⟨all, later⟩ := asJsonEntries_ofEntries (known.insert key v) rest others
          refine ⟨all, ?_⟩
          simp only [ofEntries, asJsonEntries, readKey, bind, Except.bind, first, later]

end

/-! ## Drafts of texts -/

mutual

/-- The integers of a draft have 64 bits. -/
def Fits : Draft → Prop
  | .number (some n) => n.Fits
  | .array items _ => FitsItems items
  | .object entries _ => FitsEntries entries
  | _ => True

def FitsItems : List Draft → Prop
  | [] => True
  | d :: rest => Fits d ∧ FitsItems rest

def FitsEntries : List (Option String × Draft) → Prop
  | [] => True
  | (_, d) :: rest => Fits d ∧ FitsEntries rest

end

theorem read_fits (fuel : Nat) :
    (∀ input, (value fuel input).1.Fits) ∧ (∀ input, FitsItems (items fuel input).1) ∧
      ∀ input, FitsEntries (entries fuel input).1 := by
  induction fuel with
  | zero => exact ⟨fun _ => trivial, fun _ => trivial, fun _ => trivial⟩
  | succ fuel ih =>
      obtain ⟨values, lists, objects⟩ := ih
      refine ⟨fun input => ?_, fun input => ?_, fun input => ?_⟩
      · unfold value
        split
        · split
          · trivial
          · exact lists _
        · split
          · trivial
          · exact objects _
        · split <;> trivial
        · trivial
        · trivial
        · trivial
        · split
          · rename_i numeral _ _
            cases read : numeral.toNumber? with
            | none => trivial
            | some n => exact Numeral.fits_of_toNumber? read
          · trivial
      · unfold items
        have first := values input
        split
        · rename_i same
          rw [same] at first
          exact ⟨first, trivial⟩
        · rename_i same
          rw [same] at first
          split
          · exact ⟨first, trivial⟩
          · exact ⟨first, lists _⟩
          · exact ⟨first, trivial⟩
      · unfold entries
        split
        · split
          · trivial
          · split
            · rename_i rest _
              have first := values rest
              split
              · rename_i same
                rw [same] at first
                exact ⟨first, trivial⟩
              · rename_i same
                rw [same] at first
                split
                · exact ⟨first, trivial⟩
                · exact ⟨first, objects _⟩
                · exact ⟨first, trivial⟩
            · exact ⟨trivial, trivial⟩
        · trivial

theorem front_fits (text : String) : (front text).1.Fits := (read_fits _).1 _

/-! ## Decoded values -/

theorem insert_fits {room : Nat} {known : Dict Json} {key : String} {v : Json}
    (hk : Json.fitsEntries room known.entries = true) (hv : v.fits room = true) :
    Json.fitsEntries room (known.insert key v).entries = true := by
  rw [Json.fitsEntries_iff] at hk ⊢
  intro e member
  rcases Dict.mem_insertEntry member with rfl | old
  · exact hv
  · exact hk e old

mutual

theorem fits_of_asJson {room : Nat} {v : Json} (d : Draft) (fits : d.Fits)
    (h : asJson room d = .ok v) : v.fits room = true := by
  cases d with
  | null | bool =>
      cases h
      rfl
  | number value =>
      cases value with
      | none => cases h
      | some n =>
          cases h
          exact decide_eq_true fits
  | string text =>
      cases text with
      | none => cases h
      | some text =>
          cases h
          rfl
  | broken => cases h
  | array items closed =>
      cases room with
      | zero => cases h
      | succ room =>
          obtain ⟨_, ⟨⟩, h⟩ := bind_eq_ok.1 h
          obtain ⟨values, decoded, h⟩ := bind_eq_ok.1 h
          obtain ⟨_, _, ⟨⟩⟩ := bind_eq_ok.1 h
          exact fitsItems_of_asJsonItems items fits decoded
  | object entries closed =>
      cases room with
      | zero => cases h
      | succ room =>
          obtain ⟨_, ⟨⟩, h⟩ := bind_eq_ok.1 h
          obtain ⟨known, decoded, h⟩ := bind_eq_ok.1 h
          obtain ⟨_, _, ⟨⟩⟩ := bind_eq_ok.1 h
          exact fitsEntries_of_asJsonEntries ∅ entries fits rfl decoded

theorem fitsItems_of_asJsonItems {room : Nat} {values : List Json} (items : List Draft)
    (fits : FitsItems items) (h : asJsonItems room items = .ok values) :
    Json.fitsItems room values = true := by
  cases items with
  | nil =>
      cases h
      rfl
  | cons d rest =>
      obtain ⟨v, first, h⟩ := bind_eq_ok.1 h
      obtain ⟨others, later, ⟨⟩⟩ := bind_eq_ok.1 h
      exact Bool.and_eq_true_iff.2
        ⟨fits_of_asJson d fits.1 first, fitsItems_of_asJsonItems rest fits.2 later⟩

theorem fitsEntries_of_asJsonEntries {room : Nat} {all : Dict Json} (known : Dict Json)
    (entries : List (Option String × Draft)) (fits : FitsEntries entries)
    (before : Json.fitsEntries room known.entries = true)
    (h : asJsonEntries room known entries = .ok all) :
    Json.fitsEntries room all.entries = true := by
  cases entries with
  | nil =>
      cases h
      exact before
  | cons e rest =>
      cases e with
      | mk key d =>
          obtain ⟨key, _, h⟩ := bind_eq_ok.1 h
          obtain ⟨v, first, h⟩ := bind_eq_ok.1 h
          exact fitsEntries_of_asJsonEntries (known.insert key v) rest fits.2
            (insert_fits before (fits_of_asJson d fits.1 first)) h

end

/-! ## Metadata -/

theorem decodeEntries_asJson {room : Nat} (known : Dict Json)
    (entries : List (Option String × Draft)) :
    decodeEntries (asJson room) known entries = asJsonEntries room known entries := by
  induction entries generalizing known with
  | nil => rfl
  | cons e rest ih =>
      simp only [decodeEntries, asJsonEntries, ih]

variable {room : Nat} {m : Metadata}

/-- Metadata are decoded like any other object. -/
theorem asJson_of_asMetadata {d : Draft} (h : asMetadata room d = .ok m) :
    asJson room d = .ok (.ofDict m) := by
  cases d with
  | object entries closed =>
      obtain ⟨inner, entered, h⟩ := bind_eq_ok.1 h
      obtain ⟨known, decoded, h⟩ := bind_eq_ok.1 h
      obtain ⟨_, closing, ⟨⟩⟩ := bind_eq_ok.1 h
      rw [decodeEntries_asJson] at decoded
      simp only [asJson, entered, decoded, closing, bind, Except.bind]
      rfl
  | _ => cases h

theorem fits_of_asMetadata {d : Draft} (fits : d.Fits) (h : asMetadata room d = .ok m) :
    (Json.ofDict m).fits room = true :=
  fits_of_asJson d fits (asJson_of_asMetadata h)

/-- A printed value is decoded as the value that its text is read as. -/
theorem decodeText_text {α : Type} (item : Decoder α) {v : Json} (fits : v.fits room = true) :
    decodeText item v.text = item depthLimit (ofJson v.reread) := by
  unfold decodeText
  rw [front_text fits]
  simp only [bind, Except.bind]
  cases item depthLimit (ofJson v.reread) <;> rfl

theorem decodeText_asMetadata (h : (Json.ofDict m).fits depthLimit = true) :
    ∃ read, decodeText asMetadata (Json.ofDict m).text = .ok read := by
  have entries : Json.fitsEntries 126 (Json.rereadEntries m.entries) = true :=
    Json.fitsEntries_reread m.entries h
  obtain ⟨read, decoded⟩ := asJsonEntries_ofEntries ∅ _ entries
  refine ⟨read, (decodeText_text _ h).trans ?_⟩
  rw [← decodeEntries_asJson] at decoded
  exact bind_eq_ok.2 ⟨126, rfl, bind_eq_ok.2 ⟨read, decoded, rfl⟩⟩

theorem decodeText_ok {α : Type} {item : Decoder α} {text : String} {a : α}
    (h : decodeText item text = .ok a) : item depthLimit (front text).1 = .ok a := by
  obtain ⟨value, decoded, h⟩ := bind_eq_ok.1 h
  split at h
  · split at h
    · cases h
      exact decoded
    · cases h
  · cases h

/-- Metadata that was read from a text can be written and read again. -/
theorem fits_of_decodeText {text : String} (h : decodeText asMetadata text = .ok m) :
    (Json.ofDict m).fits depthLimit = true :=
  fits_of_asMetadata (front_fits text) (decodeText_ok h)

end Draft
end Brokerage
