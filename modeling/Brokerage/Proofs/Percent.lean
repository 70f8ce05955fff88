import Brokerage.Proofs.ByteOrder
import Brokerage.Text.Percent
import Mathlib.Data.List.TakeWhile
import Mathlib.Tactic.Ring

/-! # Reading encoded texts

Texts come back from their UTF-8 bytes, from the percent-encoding of a path and from a form.
-/

namespace Brokerage

namespace Utf8

variable {k v top : Nat} {rest : List UInt8}

theorem continuation_length (k v : Nat) : (continuation k v).length = k := by
  induction k with
  | zero => rfl
  | succ k ih => simp [continuation, ih]

theorem continuation_within : ∀ b ∈ continuation k v, within 0x80 0xBF b = true := by
  induction k with
  | zero => simp [continuation]
  | succ k ih =>
      intro b member
      rcases List.mem_cons.1 member with rfl | later
      · have small : v / 64 ^ k % 64 < 64 := Nat.mod_lt _ (by decide)
        simp only [within, UInt8.toNat_ofNat', Bool.and_eq_true, decide_eq_true_eq]
        omega
      · exact ih b later

/-- The last bytes give back the bits that they hold. -/
theorem foldl_continuation : (continuation k v).foldl (fun n b => n * 64 + b.toNat % 64) top =
    top * 64 ^ k + v % 64 ^ k := by
  induction k generalizing top with
  | zero => simp [continuation, Nat.mod_one]
  | succ k ih =>
      have bits : (UInt8.ofNat (v / 64 ^ k % 64 + 0x80)).toNat % 64 = v / 64 ^ k % 64 := by
        rw [UInt8.toNat_ofNat']
        omega
      rw [continuation, List.foldl_cons, ih, bits, Nat.pow_succ, Nat.mod_mul]
      ring

/-- The first byte of a longer character holds the bits that the others do not. -/
theorem lead_mod (large : 0x80 ≤ v) (bound : v < 0x110000) :
    lead v % (1 <<< (6 - width v)) = v / 64 ^ width v := by
  rcases size_cases v with ⟨h, width, lead⟩ | ⟨h, h', width, lead⟩ | ⟨h, h', width, lead⟩ |
    ⟨h, width, lead⟩ <;> rw [width, lead, Nat.one_shiftLeft] <;> omega

/-- The first byte of a longer character says how many follow, and the second is within its
bounds. -/
theorem lead?_lead (c : Char) (large : 0x80 ≤ c.toNat) : ∃ low high,
    lead? (UInt8.ofNat (lead c.toNat)) = some (low, high, width c.toNat) ∧
      low ≤ c.toNat / 64 ^ (width c.toNat - 1) % 64 + 0x80 ∧
      c.toNat / 64 ^ (width c.toNat - 1) % 64 + 0x80 ≤ high := by
  have bound := toNat_lt_scalars c
  have scalar : c.toNat < 0xD800 ∨ 0xDFFF < c.toNat := by
    rcases c.valid with small | ⟨above, _⟩
    · exact .inl small
    · exact .inr above
  have byte := UInt8.toNat_ofNat_of_lt' (lead_lt_256 bound)
  simp only [lead?, byte]
  rcases size_cases c.toNat with ⟨h, _⟩ | ⟨h, h', width, lead⟩ | ⟨h, h', width, lead⟩ |
    ⟨h, width, lead⟩
  · omega
  all_goals
    rw [width, lead]
    norm_num
    split_ifs <;> simp <;> omega

theorem front_encodeChar (c : Char) (rest : List UInt8) : ∃ b more,
    String.utf8EncodeChar c = b :: more ∧ front b (more ++ rest) = (some c, more.length + 1) := by
  have bound := toNat_lt_scalars c
  have byte := UInt8.toNat_ofNat_of_lt' (lead_lt_256 bound)
  refine ⟨_, _, encodeChar_eq c, ?_⟩
  rw [continuation_length]
  by_cases small : c.toNat < 0x80
  · have short : width c.toNat = 0 ∧ lead c.toNat = c.toNat := by
      have := size_cases c.toNat
      omega
    rw [front, byte, short.1, short.2, if_pos small, Char.ofNat_toNat]
  · obtain ⟨count, width⟩ : ∃ n, width c.toNat = n + 1 := by
      have := size_cases c.toNat
      exact ⟨width c.toNat - 1, by omega⟩
    have large : ¬ lead c.toNat < 0x80 := by
      have := size_cases c.toNat
      omega
    obtain ⟨low, high, starts, above, below⟩ := lead?_lead c (by omega)
    have bits := lead_mod (by omega) bound
    rw [width] at starts above below bits
    rw [Nat.add_sub_cancel] at above below
    have second : within low high (UInt8.ofNat (c.toNat / 64 ^ count % 64 + 0x80)) = true := by
      have small : c.toNat / 64 ^ count % 64 < 64 := Nat.mod_lt _ (by decide)
      rw [within, UInt8.toNat_ofNat_of_lt' (Nat.add_lt_add_right small 0x80 |>.trans (by decide))]
      simpa using And.intro above below
    have tail : ((continuation count c.toNat ++ rest).take count).takeWhile (within 0x80 0xBF) =
        continuation count c.toNat := by
      rw [List.take_left' (continuation_length _ _), List.takeWhile_eq_self_iff]
      exact continuation_within
    have code : (continuation (count + 1) c.toNat).foldl (fun n b => n * 64 + b.toNat % 64)
        (c.toNat / 64 ^ (count + 1)) = c.toNat := by
      rw [foldl_continuation, Nat.div_add_mod']
    rw [front, if_neg (by rwa [byte]), starts, width]
    simp only [continuation] at code ⊢
    simp only [List.cons_append, second, Nat.add_sub_cancel, tail, continuation_length, byte, bits,
      code, if_true, Char.ofNat_toNat]

theorem pieces_encode {fuel : Nat} {text : List Char} (enough : (encode text).length ≤ fuel) :
    pieces fuel (encode text) = text.map some := by
  induction text generalizing fuel with
  | nil => cases fuel <;> rfl
  | cons c text ih =>
      obtain ⟨b, more, bytes, read⟩ := front_encodeChar c (encode text)
      have parts : encode (c :: text) = b :: (more ++ encode text) := by
        rw [encode, List.flatMap_cons, bytes]
        rfl
      rw [parts] at enough ⊢
      cases fuel with
      | zero => cases enough
      | succ fuel =>
          simp only [List.length_cons, List.length_append] at enough
          simp only [pieces, read, List.drop_succ_cons, List.drop_left, List.map_cons]
          rw [ih (by omega)]

theorem decode?_encode (text : List Char) : decode? (encode text) = some text := by
  rw [decode?, pieces_encode (Nat.le_refl _), List.mapM_map]
  exact List.mapM_pure.trans (congrArg some (List.map_id text))

theorem decodeLossy_encode (text : List Char) : decodeLossy (encode text) = text := by
  rw [decodeLossy, pieces_encode (Nat.le_refl _)]
  simp

end Utf8

namespace Percent

variable {keep : Char → Bool} {text : List Char} {c : Char}

theorem hexValue?_hexDigit : ∀ n < 16, hexValue? (hexDigit n) = some n := by decide

theorem isUnreserved_hexDigit : ∀ n < 16, isUnreserved (hexDigit n) = true := by decide

theorem decodeBytes_cons (rest : List Char) (plain : c ≠ '%') :
    decodeBytes (c :: rest) = String.utf8EncodeChar c ++ decodeBytes rest := by
  rw [decodeBytes]
  simp [plain]

theorem decodeBytes_encodeByte (b : UInt8) (rest : List Char) :
    decodeBytes (encodeByte b ++ rest) = b :: decodeBytes rest := by
  have bound := b.toNat_lt
  have high := hexValue?_hexDigit (b.toNat / 16) (by omega)
  have low := hexValue?_hexDigit (b.toNat % 16) (by omega)
  simp only [encodeByte, List.cons_append, List.nil_append, decodeBytes, high, low,
    Nat.div_add_mod, UInt8.ofNat_toNat]

theorem decodeBytes_flatMap (bytes : List UInt8) (rest : List Char) :
    decodeBytes (bytes.flatMap encodeByte ++ rest) = bytes ++ decodeBytes rest := by
  induction bytes with
  | nil => rfl
  | cons b bytes ih =>
      rw [List.flatMap_cons, List.append_assoc, decodeBytes_encodeByte, ih, List.cons_append]

/-- An encoded text stands for its bytes. -/
theorem decodeBytes_encodeWith (escaped : keep '%' = false) (text : List Char) :
    decodeBytes (encodeWith keep text) = Utf8.encode text := by
  induction text with
  | nil => rfl
  | cons c text ih =>
      have parts : encodeWith keep (c :: text) =
          (if keep c then [c] else (String.utf8EncodeChar c).flatMap encodeByte) ++
            encodeWith keep text := rfl
      rw [parts, Utf8.encode, List.flatMap_cons, ← Utf8.encode, ← ih]
      by_cases kept : keep c
      · have plain : c ≠ '%' := by
          rintro rfl
          rw [kept] at escaped
          cases escaped
        rw [if_pos kept, List.singleton_append, decodeBytes_cons _ plain]
      · rw [if_neg kept, decodeBytes_flatMap]

theorem mem_encodeWith (h : c ∈ encodeWith keep text) :
    (c ∈ text ∧ keep c = true) ∨ c = '%' ∨ isUnreserved c = true := by
  obtain ⟨source, member, inside⟩ := List.mem_flatMap.1 h
  by_cases kept : keep source
  · rw [if_pos kept, List.mem_singleton] at inside
    exact .inl (inside ▸ ⟨member, kept⟩)
  · rw [if_neg kept] at inside
    obtain ⟨b, _, inside⟩ := List.mem_flatMap.1 inside
    have bound := b.toNat_lt
    simp only [encodeByte, List.mem_cons, List.not_mem_nil, or_false] at inside
    rcases inside with rfl | rfl | rfl
    · exact .inr (.inl rfl)
    · exact .inr (.inr (isUnreserved_hexDigit _ (by omega)))
    · exact .inr (.inr (isUnreserved_hexDigit _ (by omega)))

theorem decode?_encode (text : String) : decode? (encode text).toList = some text := by
  rw [decode?, encode, String.toList_ofList, decodeBytes_encodeWith rfl, Utf8.decode?_encode]
  simp

theorem mem_encode {text : String} (h : c ∈ (encode text).toList) :
    c = '%' ∨ isUnreserved c = true := by
  rw [encode, String.toList_ofList] at h
  rcases mem_encodeWith h with ⟨-, kept⟩ | rest
  · exact .inr kept
  · exact rest

/-- The characters that a form keeps, a blank as a plus sign. -/
def isFormChar (c : Char) : Bool := isUnreserved c && c != '~' || c = '*' || c = ' '

theorem encodeForm_eq (text : String) : (encodeForm text).toList =
    (encodeWith isFormChar text.toList).map fun c => if c = ' ' then '+' else c :=
  String.toList_ofList

theorem mem_encodeForm {text : String} (h : c ∈ (encodeForm text).toList) :
    c ∈ ['%', '+', '*'] ∨ isUnreserved c = true := by
  rw [encodeForm_eq] at h
  obtain ⟨source, inside, rfl⟩ := List.mem_map.1 h
  by_cases blank : source = ' '
  · simp [blank]
  · rw [if_neg blank]
    rcases mem_encodeWith inside with ⟨-, kept⟩ | rfl | plain
    · simp only [isFormChar, blank, decide_false, Bool.or_false, Bool.or_eq_true, Bool.and_eq_true,
        decide_eq_true_eq] at kept
      rcases kept with ⟨plain, _⟩ | rfl
      · exact .inr plain
      · simp
    · simp
    · exact .inr plain

theorem decodeForm_encodeForm (text : String) : decodeForm (encodeForm text).toList = text := by
  have blanks : ((encodeForm text).toList.map fun c => if c = '+' then ' ' else c) =
      encodeWith isFormChar text.toList := by
    rw [encodeForm_eq, List.map_map]
    conv_rhs => rw [← List.map_id (encodeWith isFormChar text.toList)]
    apply List.map_congr_left
    intro c member
    have other : c ≠ '+' := by
      rintro rfl
      rcases mem_encodeWith member with ⟨-, kept⟩ | rest
      · revert kept
        decide
      · revert rest
        decide
    by_cases blank : c = ' ' <;> simp [blank, other]
  rw [decodeForm, blanks, decodeBytes_encodeWith (by decide), Utf8.decodeLossy_encode,
    String.ofList_toList]

end Percent
end Brokerage
