import Brokerage.Identity
import Mathlib.Order.Defs.PartialOrder

/-! # Generated ids do not repeat

The theory of the other modules is about any generator: where it matters that ids differ, it is a
hypothesis. The digits of a number can be read off its id, so numbers of 128 bits have ids of their
own, and the generator that counts keeps to it.
-/

namespace Brokerage.IdSupply

theorem length_hexDigits (count n : Nat) : (hexDigits count n).length = count := by
  induction count generalizing n with
  | zero => rfl
  | succ count ih => simp [hexDigits, ih]

theorem digitChar_injective : ∀ a < 16, ∀ b < 16, Nat.digitChar a = Nat.digitChar b → a = b := by
  decide

theorem digitChar_ne_dash : ∀ a < 16, Nat.digitChar a ≠ '-' := by decide

theorem hexDigits_injective {count m n : Nat} (h : hexDigits count m = hexDigits count n) :
    m % 16 ^ count = n % 16 ^ count := by
  induction count generalizing m n with
  | zero => simp [Nat.mod_one]
  | succ count ih =>
      obtain ⟨front, last⟩ := List.append_inj' h rfl
      have digit : m % 16 = n % 16 :=
        digitChar_injective _ (Nat.mod_lt _ (by decide)) _ (Nat.mod_lt _ (by decide))
          (List.singleton_inj.1 last)
      rw [Nat.pow_succ', Nat.mod_mul, Nat.mod_mul, digit, ih front]

theorem hexDigits_ne_dash {count n : Nat} : ∀ c ∈ hexDigits count n, c ≠ '-' := by
  induction count generalizing n with
  | zero => simp [hexDigits]
  | succ count ih =>
      intro c member
      rcases List.mem_append.1 member with member | member
      · exact ih c member
      · rw [List.mem_singleton.1 member]
        exact digitChar_ne_dash _ (Nat.mod_lt _ (by decide))

theorem filter_name (n : Nat) : (name n).toList.filter (· != '-') = hexDigits 32 n := by
  have length := length_hexDigits 32 n
  have group (start count : Nat) : (((hexDigits 32 n).drop start).take count).filter (· != '-') =
      ((hexDigits 32 n).drop start).take count := by
    refine List.filter_eq_self.2 fun c member => ?_
    simpa using hexDigits_ne_dash c (List.mem_of_mem_drop (List.mem_of_mem_take member))
  have last : ((hexDigits 32 n).drop 20).take 12 = (hexDigits 32 n).drop 20 :=
    List.take_of_length_le (by simp [length])
  simp only [name, String.toList_ofList, List.filter_append, List.filter_cons, group]
  simp only [bne_self_eq_false, Bool.false_eq_true, if_false, last]
  have glue (start count : Nat) : ((hexDigits 32 n).drop start).take count ++
      (hexDigits 32 n).drop (start + count) = (hexDigits 32 n).drop start := by
    rw [← List.drop_drop, List.take_append_drop]
  simp only [List.append_assoc]
  rw [glue 16 4, glue 12 4, glue 8 4, glue 0 8, List.drop_zero]

theorem name_injective {m n : Nat} (hm : m < 16 ^ 32) (hn : n < 16 ^ 32) (h : name m = name n) :
    m = n := by
  have digits : hexDigits 32 m = hexDigits 32 n := by rw [← filter_name, h, filter_name]
  have same := hexDigits_injective digits
  rwa [Nat.mod_eq_of_lt hm, Nat.mod_eq_of_lt hn] at same

/-- A later supply has the same generator and has given out more. -/
instance : Preorder IdSupply where
  le ids later := later.generator = ids.generator ∧ ids.next ≤ later.next
  le_refl _ := ⟨rfl, Nat.le_refl _⟩
  le_trans _ _ _ first second := ⟨second.1.trans first.1, Nat.le_trans first.2 second.2⟩

variable {first middle last : IdSupply} {id : String}

theorem text_eq (h : first ≤ last) : last.text = first.text := by
  funext n
  rw [text, text, h.1]

theorem le_take (ids : IdSupply) : ids ≤ ids.take.2 := ⟨rfl, Nat.le_succ _⟩

/-- The id is given out between two points of a supply. -/
def Issued (first last : IdSupply) (id : String) : Prop :=
  ∃ n, first.next ≤ n ∧ n < last.next ∧ first.text n = id

theorem issued_take (ids : IdSupply) : Issued ids ids.take.2 ids.take.1 :=
  ⟨ids.next, Nat.le_refl _, Nat.lt_succ_self _, rfl⟩

theorem not_issued_self (ids : IdSupply) : ¬Issued ids ids id :=
  fun ⟨_, low, high, _⟩ => Nat.not_lt_of_le low high

theorem Issued.until (h : Issued first middle id) (later : middle ≤ last) : Issued first last id := by
  obtain ⟨n, low, high, text⟩ := h
  exact ⟨n, low, Nat.lt_of_lt_of_le high later.2, text⟩

theorem Issued.since (h : Issued middle last id) (later : first ≤ middle) : Issued first last id := by
  obtain ⟨n, low, high, text⟩ := h
  exact ⟨n, Nat.le_trans later.2 low, high, text_eq later ▸ text⟩

/-- No two of the ids that a supply gives out between two points are the same. -/
def NoRepeat (first last : IdSupply) : Prop :=
  ∀ m n, first.next ≤ m → m < n → n < last.next → first.text m ≠ first.text n

theorem NoRepeat.mono (h : NoRepeat first last) (earlier : middle ≤ last) : NoRepeat first middle :=
  fun m n low less high => h m n low less (Nat.lt_of_lt_of_le high earlier.2)

/-- What was given out is not given out again. -/
theorem NoRepeat.not_issued (h : NoRepeat first last) (later : first ≤ middle)
    (before : Issued first middle id) : ¬Issued middle last id := by
  rintro ⟨n, low, high, same⟩
  obtain ⟨m, started, less, text⟩ := before
  rw [text_eq later] at same
  exact h m n started (Nat.lt_of_lt_of_le less low) high (text.trans same.symm)

/-- Numbers of 128 bits are ids that do not repeat. -/
theorem noRepeat (counting : first.generator = .counting) (room : last.next ≤ 16 ^ 32) :
    NoRepeat first last := by
  intro m n _ earlier below same
  have hn := Nat.lt_of_lt_of_le below room
  have names : name m = name n := by rwa [text, text, counting] at same
  exact Nat.ne_of_lt earlier (name_injective (Nat.lt_trans earlier hn) hn names)

end Brokerage.IdSupply
