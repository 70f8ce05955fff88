import Brokerage.Proofs.Ledger

/-! # Metadata that is read back unchanged

A value without doubles whose objects have their entries in order is read back from its text as it
was. Whatever was read from a text has its entries in order, so among such values only the doubles
can change.
-/

namespace Brokerage

theorem Dict.insertEntry_last {α : Type} {key : String} {value : α} {entries : List (String × α)}
    (last : ∀ e ∈ entries, e.1 < key) : insertEntry key value entries = entries ++ [(key, value)] := by
  induction entries with
  | nil => rfl
  | cons e rest ih =>
      obtain ⟨k, v⟩ := e
      have less : k < key := last (k, v) List.mem_cons_self
      have apart : key ≠ k := (String.ne_of_lt less).symm
      rw [insertEntry, if_neg (String.lt_asymm less), if_neg apart,
        ih fun e member => last e (List.mem_cons_of_mem _ member), List.cons_append]

namespace Json

mutual

/-- No number is a double. -/
def exact : Json → Bool
  | .number (.float _) => false
  | .array items => exactItems items
  | .object entries => exactEntries entries
  | _ => true

def exactItems : List Json → Bool
  | [] => true
  | x :: rest => exact x && exactItems rest

def exactEntries : List (String × Json) → Bool
  | [] => true
  | (_, x) :: rest => exact x && exactEntries rest

end

mutual

theorem reread_exact {room : Nat} (v : Json) (fits : v.fits room = true) (h : v.exact = true) :
    v.reread = v := by
  cases v with
  | null | bool | string => rfl
  | number n =>
      cases n with
      | float => cases h
      | integer value =>
          simp only [Json.fits, decide_eq_true_eq] at fits
          rw [reread, Number.reread_integer fits]
  | array items =>
      cases room with
      | zero => cases fits
      | succ room => rw [reread, rereadItems_exact items fits h]
  | object entries =>
      cases room with
      | zero => cases fits
      | succ room => rw [reread, rereadEntries_exact entries fits h]

theorem rereadItems_exact {room : Nat} (items : List Json) (fits : fitsItems room items = true)
    (h : exactItems items = true) : rereadItems items = items := by
  cases items with
  | nil => rfl
  | cons x rest =>
      obtain ⟨fx, others⟩ := Bool.and_eq_true_iff.1 fits
      obtain ⟨hx, more⟩ := Bool.and_eq_true_iff.1 h
      rw [rereadItems, reread_exact x fx hx, rereadItems_exact rest others more]

theorem rereadEntries_exact {room : Nat} (entries : List (String × Json))
    (fits : fitsEntries room entries = true) (h : exactEntries entries = true) :
    rereadEntries entries = entries := by
  cases entries with
  | nil => rfl
  | cons e rest =>
      cases e with
      | mk key x =>
          obtain ⟨fx, others⟩ := Bool.and_eq_true_iff.1 fits
          obtain ⟨hx, more⟩ := Bool.and_eq_true_iff.1 h
          rw [rereadEntries, reread_exact x fx hx, rereadEntries_exact rest others more]

end

theorem orderedEntries_iff {entries : List (String × Json)} :
    orderedEntries entries = true ↔ ∀ e ∈ entries, e.2.ordered = true := by
  induction entries with
  | nil => simp [orderedEntries]
  | cons e rest ih => simp [orderedEntries, ih]

end Json

namespace Draft

mutual

theorem asJson_ordered {room : Nat} (v : Json) (fits : v.fits room = true) (h : v.ordered = true) :
    asJson room (ofJson v) = .ok v := by
  cases v with
  | null | bool | number | string => rfl
  | array items =>
      cases room with
      | zero => cases fits
      | succ room =>
          simp only [ofJson, asJson, enter, ended, bind, Except.bind,
            asJsonItems_ordered items fits h]
          rfl
  | object entries =>
      cases room with
      | zero => cases fits
      | succ room =>
          obtain ⟨ascending, inner⟩ := Bool.and_eq_true_iff.1 h
          obtain ⟨all, decoded, same⟩ :=
            asJsonEntries_ordered ∅ entries fits inner (of_decide_eq_true ascending)
          simp only [ofJson, asJson, enter, ended, bind, Except.bind, decoded]
          rw [same]
          rfl

theorem asJsonItems_ordered {room : Nat} (items : List Json)
    (fits : Json.fitsItems room items = true) (h : Json.orderedItems items = true) :
    asJsonItems room (ofItems items) = .ok items := by
  cases items with
  | nil => rfl
  | cons x rest =>
      obtain ⟨fx, others⟩ := Bool.and_eq_true_iff.1 fits
      obtain ⟨hx, more⟩ := Bool.and_eq_true_iff.1 h
      simp only [ofItems, asJsonItems, bind, Except.bind, asJson_ordered x fx hx,
        asJsonItems_ordered rest others more]
      rfl

/-- Entries that come after the known ones are put behind them. -/
theorem asJsonEntries_ordered {room : Nat} (known : Dict Json) (entries : List (String × Json))
    (fits : Json.fitsEntries room entries = true) (h : Json.orderedEntries entries = true)
    (ascending : (known.entries ++ entries).Pairwise fun a b => a.1 < b.1) :
    ∃ all, asJsonEntries room known (ofEntries entries) = .ok all ∧
      all.entries = known.entries ++ entries := by
  cases entries with
  | nil => exact ⟨known, rfl, (List.append_nil _).symm⟩
  | cons e rest =>
      cases e with
      | mk key x =>
          obtain ⟨fx, others⟩ := Bool.and_eq_true_iff.1 fits
          obtain ⟨hx, more⟩ := Bool.and_eq_true_iff.1 h
          have inserted : (known.insert key x).entries = known.entries ++ [(key, x)] :=
            Dict.insertEntry_last fun e member =>
              (List.pairwise_append.1 ascending).2.2 e member (key, x) List.mem_cons_self
          have behind : ((known.insert key x).entries ++ rest).Pairwise fun a b => a.1 < b.1 := by
            rwa [inserted, List.append_assoc, List.singleton_append]
          obtain ⟨all, decoded, same⟩ :=
            asJsonEntries_ordered (known.insert key x) rest others more behind
          refine ⟨all, ?_, ?_⟩
          · simp only [ofEntries, asJsonEntries, readKey, bind, Except.bind,
              asJson_ordered x fx hx, decoded]
          · rw [same, inserted, List.append_assoc, List.singleton_append]

end

mutual

theorem ordered_of_asJson {room : Nat} {v : Json} (d : Draft) (h : asJson room d = .ok v) :
    v.ordered = true := by
  cases d with
  | null | bool =>
      cases h
      rfl
  | number value =>
      cases value with
      | none => cases h
      | some n =>
          cases h
          rfl
  | string text =>
      cases text with
      | none => cases h
      | some text =>
          cases h
          rfl
  | broken => cases h
  | array items closed =>
      obtain ⟨_, _, h⟩ := bind_eq_ok.1 h
      obtain ⟨values, decoded, h⟩ := bind_eq_ok.1 h
      obtain ⟨_, _, ⟨⟩⟩ := bind_eq_ok.1 h
      exact orderedItems_of_asJsonItems items decoded
  | object entries closed =>
      obtain ⟨_, _, h⟩ := bind_eq_ok.1 h
      obtain ⟨known, decoded, h⟩ := bind_eq_ok.1 h
      obtain ⟨_, _, ⟨⟩⟩ := bind_eq_ok.1 h
      have inner := orderedEntries_of_asJsonEntries ∅ entries rfl decoded
      exact Bool.and_eq_true_iff.2 ⟨decide_eq_true known.ascending, inner⟩

theorem orderedItems_of_asJsonItems {room : Nat} {values : List Json} (items : List Draft)
    (h : asJsonItems room items = .ok values) : Json.orderedItems values = true := by
  cases items with
  | nil =>
      cases h
      rfl
  | cons d rest =>
      obtain ⟨v, first, h⟩ := bind_eq_ok.1 h
      obtain ⟨others, later, ⟨⟩⟩ := bind_eq_ok.1 h
      exact Bool.and_eq_true_iff.2
        ⟨ordered_of_asJson d first, orderedItems_of_asJsonItems rest later⟩

theorem orderedEntries_of_asJsonEntries {room : Nat} {all : Dict Json} (known : Dict Json)
    (entries : List (Option String × Draft)) (before : Json.orderedEntries known.entries = true)
    (h : asJsonEntries room known entries = .ok all) : Json.orderedEntries all.entries = true := by
  cases entries with
  | nil =>
      cases h
      exact before
  | cons e rest =>
      cases e with
      | mk key d =>
          obtain ⟨key, _, h⟩ := bind_eq_ok.1 h
          obtain ⟨v, first, h⟩ := bind_eq_ok.1 h
          refine orderedEntries_of_asJsonEntries (known.insert key v) rest ?_ h
          rw [Json.orderedEntries_iff] at before ⊢
          intro e member
          rcases Dict.mem_insertEntry member with rfl | old
          · exact ordered_of_asJson d first
          · exact before e old

end

theorem ordered_of_asMetadata {room : Nat} {d : Draft} {m : Metadata}
    (h : asMetadata room d = .ok m) : (Json.ofDict m).ordered = true :=
  ordered_of_asJson d (asJson_of_asMetadata h)

end Draft

namespace Ledger

/-- Metadata without doubles, nested at most 127 deep, whose integers have 64 bits and whose objects
have their entries in order. -/
def Plain (metadata : Option Metadata) : Prop :=
  Legible metadata ∧ ∀ m ∈ metadata, (Json.ofDict m).ordered = true ∧ (Json.ofDict m).exact = true

instance (metadata : Option Metadata) : Decidable (Plain metadata) :=
  inferInstanceAs (Decidable (_ ∧ ∀ m ∈ metadata, _))

theorem Plain.decode_encode {metadata : Option Metadata} (h : Plain metadata) :
    decodeMetadata (encodeMetadata metadata) = .ok metadata := by
  cases metadata with
  | none => rfl
  | some m =>
      have fits := h.1 m rfl
      obtain ⟨ordered, exact⟩ := h.2 m rfl
      obtain ⟨_, inner⟩ := Bool.and_eq_true_iff.1 ordered
      obtain ⟨all, decoded, same⟩ := Draft.asJsonEntries_ordered ∅ m.entries fits inner m.ascending
      obtain rfl : all = m := by
        cases all
        cases m
        cases same
        rfl
      have read : Draft.asMetadata Draft.depthLimit (Draft.ofJson (Json.ofDict all)) = .ok all := by
        rw [← Draft.decodeEntries_asJson] at decoded
        exact bind_eq_ok.2 ⟨126, rfl, bind_eq_ok.2 ⟨all, decoded, rfl⟩⟩
      have text := Draft.decodeText_text Draft.asMetadata fits
      rw [Json.reread_exact _ fits exact, read] at text
      simp only [encodeMetadata, decodeMetadata, Option.map_some, text]

theorem plain_of_decode {text : Option String} {metadata : Option Metadata}
    (h : decodeMetadata text = .ok metadata) (exact : ∀ m ∈ metadata, (Json.ofDict m).exact = true) :
    Plain metadata := by
  refine ⟨legible_of_decode h, ?_⟩
  rintro m ⟨⟩
  refine ⟨?_, exact m rfl⟩
  cases text with
  | none => cases h
  | some text =>
      simp only [decodeMetadata] at h
      split at h
      · rename_i decoded
        cases h
        exact Draft.ordered_of_asMetadata (Draft.decodeText_ok decoded)
      · cases h
      · cases h

end Ledger

/-! ## A double that drifts -/

/-- A double that is written `2.2372770451019998e-15`. -/
def drifting : Binary64 := ⟨false, 5672171178200779, 973, by decide⟩

/-- The double that `2.2372770451019998e-15` is read as; it is written `2.237277045102e-15`, which is
read as the one before. -/
def drifted : Binary64 := ⟨false, 5672171178200780, 973, by decide⟩

/-- Metadata that is one double. -/
def reading (x : Binary64) : Metadata := .ofList [("reading", .number (.float x))]

end Brokerage
