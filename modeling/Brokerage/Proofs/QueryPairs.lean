import Brokerage.Listing.Query
import Brokerage.Proofs.Decoding
import Brokerage.Proofs.Dict
import Mathlib.Data.List.Induction
import Mathlib.Logic.Function.Basic

/-! # The language of listing queries

Which pairs make a query, what the query says, and what is said about pairs that make none. A query
depends on the values of each key and their order; how the keys are mixed does not matter.
-/

namespace Brokerage

namespace Draft

/-- A text that is scanned to its end has digits only. -/
theorem leadingDigits_eq_whole {text : List Char} {numbers : List Nat} :
    leadingDigits text = (numbers, []) ↔
      (∀ c ∈ text, c.isDigit = true) ∧ numbers = digitValues text := by
  constructor
  · intro scanned
    induction text generalizing numbers with
    | nil =>
        cases scanned
        exact ⟨by simp, rfl⟩
    | cons c rest ih =>
        cases digit : c.isDigit with
        | false => simp [leadingDigits, digitValue?_of_not_isDigit digit] at scanned
        | true =>
            rw [leadingDigits, digitValue?_of_isDigit digit] at scanned
            rcases more : leadingDigits rest with ⟨others, after⟩
            rw [more] at scanned
            cases scanned
            obtain ⟨all, rfl⟩ := ih more
            exact ⟨by simpa [digit] using all, rfl⟩
  · rintro ⟨all, rfl⟩
    have scanned : leadingDigits (text ++ []) = (digitValues text, []) :=
      leadingDigits_append all (by simp)
    rwa [List.append_nil] at scanned

end Draft

namespace Listing.Query

/-- The values of a key, in order. -/
def valuesOf (pairs : List (String × String)) (key : String) : List String :=
  (pairs.filter (·.1 = key)).map (·.2)

/-- A text that says a natural number of 64 bits: ASCII digits, perhaps behind a plus sign. -/
def Numeral (text : String) (n : Nat) : Prop :=
  ∃ digits : List Char, (text.toList = digits ∨ text.toList = '+' :: digits) ∧ digits ≠ [] ∧
    (∀ c ∈ digits, c.isDigit = true) ∧ Nat.ofDigitChars 10 digits 0 = n ∧ n < 2 ^ 64

/-- What is said about a pair that cannot be read. -/
inductive Complaint : String × String → String → Prop where
  | sortDir {value : String} (neither : value ≠ "asc" ∧ value ≠ "desc") :
    Complaint ("sort_dir", value) ("invalid sort_dir: " ++ value)
  | limit {value : String} (none : ∀ n, ¬ Numeral value n) :
    Complaint ("limit", value) ("invalid limit: " ++ value)
  | pageReverse {value : String} (neither : value ≠ "true" ∧ value ≠ "false") :
    Complaint ("page_reverse", value) ("invalid page_reverse: " ++ value)

def Readable (pair : String × String) : Prop := ∀ message, ¬ Complaint pair message

/-- There are as many directions as sort keys, or none. -/
def Paired (pairs : List (String × String)) : Prop :=
  valuesOf pairs "sort_dir" = [] ∨
    (valuesOf pairs "sort_dir").length = (valuesOf pairs "sort_key").length

/-- The pairs that make a query. -/
structure Acceptable (pairs : List (String × String)) : Prop where
  directions : ∀ value ∈ valuesOf pairs "sort_dir", value = "asc" ∨ value = "desc"
  limits : ∀ value ∈ valuesOf pairs "limit", ∃ n, Numeral value n
  reverses : ∀ value ∈ valuesOf pairs "page_reverse", value = "true" ∨ value = "false"
  paired : Paired pairs

/-- The keys that are no filters. -/
def reservedKeys : List String :=
  ["fields", "sort_key", "sort_dir", "limit", "marker", "page_reverse"]

/-- What a query takes from the values of each key, its sort keys aside. -/
structure Takes (q : Query) (values : String → List String) : Prop where
  filters : ∀ key, q.filters.get? key =
    if key ∈ reservedKeys ∨ values key = [] then none else some (values key)
  fields : q.fields = if values "fields" = [] then none else some (values "fields")
  limit : Option.Rel Numeral (values "limit").getLast? q.limit
  marker : q.marker = (values "marker").getLast?
  pageReverse : q.pageReverse = true ↔ (values "page_reverse").getLast? = some "true"

/-- What a query says: the filters, fields, and so on that its pairs gave, and the sort keys, each
with the direction in its place or ascending if no direction was given. -/
structure Tells (q : Query) (pairs : List (String × String)) : Prop extends
    Takes q (valuesOf pairs) where
  sortKeys : q.sorts.map (·.key) = valuesOf pairs "sort_key"
  directions : q.sorts.map (·.ascending) =
    if valuesOf pairs "sort_dir" = [] then (valuesOf pairs "sort_key").map fun _ => true
    else (valuesOf pairs "sort_dir").map (· == "asc")

/-! ## Single values -/

/-- What stands behind a plus sign, if there is one. -/
def unsigned : List Char → List Char
  | '+' :: rest => rest
  | text => text

theorem spelled_unsigned (text : List Char) :
    text = unsigned text ∨ text = '+' :: unsigned text := by
  unfold unsigned
  split
  · exact .inr rfl
  · exact .inl rfl

theorem unsigned_spelled {text digits : List Char} (spelled : text = digits ∨ text = '+' :: digits)
    (all : ∀ c ∈ digits, c.isDigit = true) : unsigned text = digits := by
  rcases spelled with rfl | rfl
  · unfold unsigned
    split
    · exact absurd (all '+' List.mem_cons_self) (by decide)
    · rfl
  · rfl

theorem readLimit_eq (text : String) :
    readLimit text =
      let (numbers, rest) := leadingDigits (unsigned text.toList)
      if (numbers = [] ∨ rest ≠ []) ∨ limitBound ≤ ofDigits numbers then .error (.limit text)
      else .ok (ofDigits numbers) := by
  change (if _ = true then _ else _) = _
  simp only [Bool.or_eq_true, decide_eq_true_eq, bne_iff_ne]
  rfl

theorem readLimit_error {text : String} {e : Refusal} (refused : readLimit text = .error e) :
    e = .limit text := by
  rw [readLimit_eq] at refused
  dsimp only at refused
  split at refused <;> cases refused
  rfl

theorem readLimit_eq_ok {text : String} {n : Nat} : readLimit text = .ok n ↔ Numeral text n := by
  rw [readLimit_eq]
  rcases scanned : leadingDigits (unsigned text.toList) with ⟨numbers, rest⟩
  have written : Draft.digitValues (unsigned text.toList) = [] ↔ unsigned text.toList = [] :=
    List.map_eq_nil_iff
  constructor
  · intro read
    dsimp only at read
    split at read
    · cases read
    · rename_i fine
      simp only [not_or, not_not] at fine
      obtain ⟨⟨some_digit, rfl⟩, bound⟩ := fine
      obtain ⟨all, rfl⟩ := Draft.leadingDigits_eq_whole.1 scanned
      rw [Draft.ofDigits_digitValues] at read bound
      refine ⟨unsigned text.toList, spelled_unsigned _, mt written.2 some_digit, all,
        Except.ok.inj read, ?_⟩
      rw [← Except.ok.inj read]
      exact Nat.lt_of_not_le bound
  · rintro ⟨digits, spelled, some_digit, all, rfl, bound⟩
    obtain rfl := unsigned_spelled spelled all
    rw [Draft.leadingDigits_eq_whole.2 ⟨all, rfl⟩] at scanned
    cases scanned
    dsimp only
    rw [Draft.ofDigits_digitValues, if_neg]
    simp only [written, limitBound, not_or, not_not]
    exact ⟨⟨some_digit, trivial⟩, Nat.not_le.2 bound⟩

theorem readDirection_cases (value : String) :
    (value = "asc" ∨ value = "desc") ∧ readDirection value = .ok (value == "asc") ∨
      (value ≠ "asc" ∧ value ≠ "desc") ∧ readDirection value = .error (.sortDir value) := by
  unfold readDirection
  by_cases asc : value = "asc"
  · exact .inl ⟨.inl asc, by simp [asc]⟩
  · by_cases desc : value = "desc"
    · exact .inl ⟨.inr desc, by simp [desc]⟩
    · exact .inr ⟨⟨asc, desc⟩, by simp [asc, desc]⟩

theorem readReverse_cases (value : String) :
    (value = "true" ∨ value = "false") ∧ readReverse value = .ok (decide (value = "true")) ∨
      (value ≠ "true" ∧ value ≠ "false") ∧ readReverse value = .error (.pageReverse value) := by
  unfold readReverse
  by_cases yes : value = "true"
  · exact .inl ⟨.inl yes, by simp [yes]⟩
  · by_cases no : value = "false"
    · exact .inl ⟨.inr no, by simp [no]⟩
    · exact .inr ⟨⟨yes, no⟩, by simp [yes, no]⟩

theorem readDirection_ok {value : String} {ascending : Bool}
    (known : readDirection value = .ok ascending) : ascending = (value == "asc") := by
  rcases readDirection_cases value with ⟨_, read⟩ | ⟨_, refused⟩
  · exact Except.ok.inj (known.symm.trans read)
  · cases known.symm.trans refused

theorem readReverse_ok {value : String} {reverse : Bool}
    (known : readReverse value = .ok reverse) : reverse = decide (value = "true") := by
  rcases readReverse_cases value with ⟨_, read⟩ | ⟨_, refused⟩
  · exact Except.ok.inj (known.symm.trans read)
  · cases known.symm.trans refused

/-! ## One pair more -/

/-- The values as they are with one more of a key. -/
def withValue (values : String → List String) (key value : String) : String → List String :=
  Function.update values key (values key ++ [value])

theorem valuesOf_snoc (pairs : List (String × String)) (key value : String) :
    valuesOf (pairs ++ [(key, value)]) = withValue (valuesOf pairs) key value := by
  funext query
  unfold withValue valuesOf
  by_cases same : query = key
  · subst same
    simp
  · simp [Function.update_of_ne same, Ne.symm same]

@[simp]
theorem withValue_of_ne {values : String → List String} {key value query : String}
    (other : query ≠ key) : withValue values key value query = values query :=
  Function.update_of_ne other _ _

@[simp]
theorem withValue_self {values : String → List String} {key value : String} :
    withValue values key value key = values key ++ [value] := Function.update_self _ _ _

/-- What is read of the values of each key: a query without its sort keys, and these and their
directions apart. -/
structure Partial.Holds (p : Partial) (values : String → List String) : Prop extends
    Takes p.query values where
  keys : p.keys = values "sort_key"
  directions : p.directions = (values "sort_dir").map (· == "asc")

variable {p p' : Partial} {values : String → List String} {key value : String}

/-- A reserved key leaves the filters as they are. -/
theorem Takes.filters_reserved {q : Query} (h : q.Takes values) (reserved : key ∈ reservedKeys)
    (value query : String) : q.filters.get? query =
      if query ∈ reservedKeys ∨ withValue values key value query = [] then none
      else some (withValue values key value query) := by
  rw [h.filters]
  by_cases same : query = key
  · subst same
    rw [if_pos (.inl reserved), if_pos (.inl reserved)]
  · rw [withValue_of_ne same]

theorem Takes.filters_free {q : Query} (h : q.Takes values) (free : key ∉ reservedKeys)
    (value query : String) :
    (q.filters.insert key ((q.filters.get? key).getD [] ++ [value])).get? query =
      if query ∈ reservedKeys ∨ withValue values key value query = [] then none
      else some (withValue values key value query) := by
  rw [Dict.get?_insert]
  by_cases same : query = key
  · subst same
    have known : (q.filters.get? query).getD [] = values query := by
      rw [h.filters]
      split
      · rename_i none
        exact (none.resolve_left free).symm
      · rfl
    simp [known, free]
  · rw [if_neg same, h.filters, withValue_of_ne same]

/-- Each pair adds to what its key stands for and leaves the rest. -/
theorem Partial.Holds.addPair (h : p.Holds values) (read : addPair p key value = .ok p') :
    p'.Holds (withValue values key value) := by
  have reserved (own : key ∈ reservedKeys) := h.toTakes.filters_reserved own value
  have free (other : key ∉ reservedKeys) := h.toTakes.filters_free other value
  obtain ⟨⟨filters, fields, limit, marker, pageReverse⟩, keys, directions⟩ := h
  unfold Query.addPair at read
  -- One case for each reserved key, in the order of the definition, and one for all others.
  split at read
  · cases read
    refine ⟨⟨reserved (by decide), ?fields, ?_, ?_, ?_⟩, ?_, ?_⟩
    case fields =>
      rw [fields, withValue_self]
      split <;> simp_all
    all_goals simpa
  · cases read
    refine ⟨⟨reserved (by decide), ?_, ?_, ?_, ?_⟩, ?_, ?_⟩ <;> simpa
  · obtain ⟨ascending, known, ⟨⟩⟩ := bind_eq_ok.1 read
    refine ⟨⟨reserved (by decide), ?_, ?_, ?_, ?_⟩, ?_, ?directions⟩
    case directions =>
      rw [readDirection_ok known]
      simp [directions]
    all_goals simpa
  · obtain ⟨n, known, ⟨⟩⟩ := bind_eq_ok.1 read
    refine ⟨⟨reserved (by decide), ?_, ?limit, ?_, ?_⟩, ?_, ?_⟩
    case limit => simpa using Option.Rel.some (readLimit_eq_ok.1 known)
    all_goals simpa
  · cases read
    refine ⟨⟨reserved (by decide), ?_, ?_, ?_, ?_⟩, ?_, ?_⟩ <;> simp [*]
  · obtain ⟨reverse, known, ⟨⟩⟩ := bind_eq_ok.1 read
    refine ⟨⟨reserved (by decide), ?_, ?_, ?_, ?reverse⟩, ?_, ?_⟩
    case reverse =>
      rw [readReverse_ok known]
      simp
    all_goals simpa
  · cases read
    rename_i notFields notKey notDir notLimit notMarker notReverse
    have other : key ∉ reservedKeys := by
      simp only [reservedKeys, List.mem_cons, List.not_mem_nil, or_false, not_or]
      exact ⟨notFields, notKey, notDir, notLimit, notMarker, notReverse⟩
    have kept (query : String) (own : query ∈ reservedKeys) :
        withValue values key value query = values query :=
      withValue_of_ne fun same => other (same ▸ own)
    constructor
    · exact ⟨free other, by rwa [kept "fields" (by decide)], by rwa [kept "limit" (by decide)],
        by rwa [kept "marker" (by decide)], by rwa [kept "page_reverse" (by decide)]⟩
    · rwa [kept "sort_key" (by decide)]
    · rwa [kept "sort_dir" (by decide)]

theorem addPair_error {e : Refusal} (refused : addPair p key value = .error e) :
    Complaint (key, value) e.message := by
  unfold Query.addPair at refused
  split at refused
  · cases refused
  · cases refused
  · rcases readDirection_cases value with ⟨_, known⟩ | ⟨neither, known⟩
    · rw [known] at refused
      cases refused
    · rw [known] at refused
      cases refused
      exact .sortDir neither
  · cases known : readLimit value with
    | ok n =>
        rw [known] at refused
        cases refused
    | error e' =>
        rw [known] at refused
        cases refused
        rw [readLimit_error known]
        exact .limit fun n numeral => by cases known.symm.trans (readLimit_eq_ok.2 numeral)
  · cases refused
  · rcases readReverse_cases value with ⟨_, known⟩ | ⟨neither, known⟩
    · rw [known] at refused
      cases refused
    · rw [known] at refused
      cases refused
      exact .pageReverse neither
  · cases refused

theorem Complaint.refused {message : String} (h : Complaint (key, value) message) (p : Partial) :
    ∃ e, addPair p key value = .error e := by
  cases h with
  | sortDir neither =>
      rcases readDirection_cases value with ⟨one, _⟩ | ⟨_, known⟩
      · exact absurd one (by simpa using neither)
      · exact ⟨_, congrArg (· >>= _) known⟩
  | limit none =>
      cases known : readLimit value with
      | ok n => exact absurd (readLimit_eq_ok.1 known) (none n)
      | error e => exact ⟨e, congrArg (· >>= _) known⟩
  | pageReverse neither =>
      rcases readReverse_cases value with ⟨one, _⟩ | ⟨_, known⟩
      · exact absurd one (by simpa using neither)
      · exact ⟨_, congrArg (· >>= _) known⟩

theorem readable_of_addPair (read : addPair p key value = .ok p') : Readable (key, value) := by
  intro message complaint
  obtain ⟨e, refused⟩ := Complaint.refused complaint p
  cases read.symm.trans refused

/-! ## All pairs -/

/-- Read all pairs, one after the other. -/
def readPairs (pairs : List (String × String)) : Except Refusal Partial :=
  pairs.foldlM (fun p (key, value) => addPair p key value) ⟨all, [], []⟩

theorem holds_start : Partial.Holds ⟨all, [], []⟩ (valuesOf []) :=
  ⟨⟨fun _ => by simp [valuesOf, all], rfl, .none, rfl, by simp [valuesOf, all]⟩, rfl, rfl⟩

/-- Some pairs and the message about the first of them that cannot be read. -/
def Offends (pairs : List (String × String)) (message : String) : Prop :=
  ∃ before pair after, pairs = before ++ pair :: after ∧ (∀ earlier ∈ before, Readable earlier) ∧
    Complaint pair message

theorem readPairs_cases (pairs : List (String × String)) :
    (∃ p, readPairs pairs = .ok p ∧ p.Holds (valuesOf pairs) ∧ ∀ pair ∈ pairs, Readable pair) ∨
      ∃ e, readPairs pairs = .error e ∧ Offends pairs e.message := by
  induction pairs using List.reverseRecOn with
  | nil => exact .inl ⟨_, rfl, holds_start, by simp⟩
  | append_singleton pairs pair ih =>
      have step : readPairs (pairs ++ [pair]) =
          readPairs pairs >>= fun p => addPair p pair.1 pair.2 := by
        simp [readPairs, List.foldlM_append]
      rw [step, valuesOf_snoc]
      rcases ih with ⟨p, read, holds, readable⟩ |
        ⟨e, refused, before, bad, after, rfl, first, wrong⟩
      · rw [read]
        change (∃ p', addPair p pair.1 pair.2 = .ok p' ∧ _) ∨
          ∃ e, addPair p pair.1 pair.2 = .error e ∧ _
        cases last : addPair p pair.1 pair.2 with
        | ok p' =>
            refine .inl ⟨p', rfl, holds.addPair last, fun earlier member => ?_⟩
            rcases List.mem_append.1 member with inside | here
            · exact readable earlier inside
            · rw [List.mem_singleton.1 here]
              exact readable_of_addPair last
        | error e => exact .inr ⟨e, rfl, pairs, pair, [], rfl, readable, addPair_error last⟩
      · exact .inr ⟨e, by rw [refused]; rfl, before, bad, after ++ [pair], by simp, first, wrong⟩

theorem mem_valuesOf {pairs : List (String × String)} :
    value ∈ valuesOf pairs key ↔ (key, value) ∈ pairs := by
  simp [valuesOf]

theorem acceptable_iff {pairs : List (String × String)} :
    Acceptable pairs ↔ (∀ pair ∈ pairs, Readable pair) ∧ Paired pairs := by
  constructor
  · rintro ⟨directions, limits, reverses, paired⟩
    refine ⟨?_, paired⟩
    rintro ⟨key, value⟩ member message complaint
    cases complaint with
    | sortDir neither =>
        exact absurd (directions value (mem_valuesOf.2 member)) (by simpa using neither)
    | limit none =>
        obtain ⟨n, numeral⟩ := limits value (mem_valuesOf.2 member)
        exact none n numeral
    | pageReverse neither =>
        exact absurd (reverses value (mem_valuesOf.2 member)) (by simpa using neither)
  · rintro ⟨readable, paired⟩
    refine ⟨fun value member => ?_, fun value member => ?_, fun value member => ?_, paired⟩
    all_goals by_contra wrong
    · exact readable _ (mem_valuesOf.1 member) _ (.sortDir (by simpa using wrong))
    · exact readable _ (mem_valuesOf.1 member) _ (.limit (by simpa using wrong))
    · exact readable _ (mem_valuesOf.1 member) _ (.pageReverse (by simpa using wrong))

/-- Directions that are in pairs with their keys, and those that are not. -/
theorem pairSorts_cases (keys : List String) (directions : List Bool) :
    (directions = [] ∨ directions.length = keys.length) ∧
        (∃ sorts, pairSorts keys directions = .ok sorts ∧ sorts.map (·.key) = keys ∧
          sorts.map (·.ascending) =
            if directions = [] then keys.map fun _ => true else directions) ∨
      ¬(directions = [] ∨ directions.length = keys.length) ∧
        pairSorts keys directions = .error .unpairedSorts := by
  unfold pairSorts
  by_cases none : directions = []
  · refine .inl ⟨.inl none, keys.map (⟨·, true⟩), if_pos none, ?_, ?_⟩
    · rw [List.map_map]
      exact List.map_id keys
    · rw [List.map_map, if_pos none]
      rfl
  · by_cases paired : directions.length = keys.length
    · refine .inl ⟨.inr paired, List.zipWith SortKey.mk keys directions, ?_, ?_, ?_⟩
      · rw [if_neg none, if_pos paired]
      · exact List.ext_getElem (by simp [paired]) (by simp)
      · rw [if_neg none]
        exact List.ext_getElem (by simp [paired]) (by simp)
    · exact .inr ⟨by simp [none, paired], by rw [if_neg none, if_neg paired]⟩

/-- What a reading of pairs comes to. -/
theorem ofPairs_cases (pairs : List (String × String)) :
    (∃ q, ofPairs pairs = .ok q ∧ q.Tells pairs ∧ Acceptable pairs) ∨
      ∃ e, ofPairs pairs = .error e ∧ ¬ Acceptable pairs ∧
        (Offends pairs e.message ∨ (∀ pair ∈ pairs, Readable pair) ∧ e = .unpairedSorts) := by
  have unfolded : ofPairs pairs = readPairs pairs >>= fun p =>
      pairSorts p.keys p.directions >>= fun sorts => .ok { p.query with sorts } := rfl
  rw [unfolded]
  rcases readPairs_cases pairs with ⟨p, read, holds, readable⟩ | ⟨e, refused, offends⟩
  · rw [read]
    have paired : p.directions = [] ∨ p.directions.length = p.keys.length ↔ Paired pairs := by
      simp [holds.keys, holds.directions, Paired]
    rcases pairSorts_cases p.keys p.directions with
      ⟨both, sorts, done, keys, directions⟩ | ⟨apart, failed⟩
    · have fine := acceptable_iff.2 ⟨readable, paired.1 both⟩
      refine .inl ⟨{ p.query with sorts }, ?_, ⟨?_, ?_, ?_⟩, fine⟩
      · change pairSorts p.keys p.directions >>= _ = _
        rw [done]
        rfl
      · exact { holds.toTakes with }
      · rw [keys, holds.keys]
      · rw [directions, holds.keys, holds.directions]
        simp
    · refine .inr ⟨.unpairedSorts, ?_, ?_, .inr ⟨readable, rfl⟩⟩
      · change pairSorts p.keys p.directions >>= _ = _
        rw [failed]
        rfl
      · exact fun fine => apart (paired.2 (acceptable_iff.1 fine).2)
  · refine .inr ⟨e, by rw [refused]; rfl, fun fine => ?_, .inl offends⟩
    obtain ⟨before, pair, after, rfl, _, wrong⟩ := offends
    exact (acceptable_iff.1 fine).1 pair (by simp) _ wrong

theorem Numeral.unique {text : String} {m n : Nat} (h : Numeral text m) (h' : Numeral text n) :
    m = n :=
  Except.ok.inj ((readLimit_eq_ok.2 h).symm.trans (readLimit_eq_ok.2 h'))

theorem limit_unique {given : Option String} {limit limit' : Option Nat}
    (h : Option.Rel Numeral given limit) (h' : Option.Rel Numeral given limit') :
    limit = limit' := by
  cases h with
  | none =>
      cases h'
      rfl
  | some numeral =>
      cases h' with
      | some numeral' => rw [Numeral.unique numeral numeral']

theorem sorts_unique {sorts sorts' : List SortKey} (keys : sorts.map (·.key) = sorts'.map (·.key))
    (directions : sorts.map (·.ascending) = sorts'.map (·.ascending)) : sorts = sorts' := by
  have pairs : sorts.map (fun s => (s.key, s.ascending)) =
      sorts'.map fun s => (s.key, s.ascending) := by
    rw [← List.zip_map', ← List.zip_map', keys, directions]
  refine (List.map_inj_right ?_).1 pairs
  rintro ⟨key, ascending⟩ ⟨key', ascending'⟩ same
  cases same
  rfl

theorem Acceptable.regroup {pairs others : List (String × String)} (h : Acceptable pairs)
    (same : valuesOf others = valuesOf pairs) : Acceptable others where
  directions := same ▸ h.directions
  limits := same ▸ h.limits
  reverses := same ▸ h.reverses
  paired := by
    unfold Paired
    rw [same]
    exact h.paired

/-- The values of each key say all that a query says. -/
theorem Tells.unique {pairs others : List (String × String)} {q q' : Query} (h : q.Tells pairs)
    (h' : q'.Tells others) (same : valuesOf others = valuesOf pairs) : q = q' := by
  obtain ⟨⟨filters, fields, limit, marker, pageReverse⟩, keys, directions⟩ := h
  obtain ⟨⟨filters', fields', limit', marker', pageReverse'⟩, keys', directions'⟩ := h'
  rw [same] at filters' fields' limit' marker' pageReverse' keys' directions'
  have filtered : q.filters = q'.filters :=
    Dict.ext_get? fun key => (filters key).trans (filters' key).symm
  have reversed : q.pageReverse = q'.pageReverse :=
    Bool.eq_iff_iff.2 (pageReverse.trans pageReverse'.symm)
  have sorted : q.sorts = q'.sorts :=
    sorts_unique (keys.trans keys'.symm) (directions.trans directions'.symm)
  cases q
  cases q'
  simp only at *
  rw [filtered, fields.trans fields'.symm, sorted, limit_unique limit limit',
    marker.trans marker'.symm, reversed]

/-- Pairs make a query exactly when they are acceptable, and it tells what they give to each key.
What is said otherwise is about the first pair that cannot be read, or else about sort keys without
their directions. Pairs of different keys may change their places. -/
theorem ofPairs_exact (pairs : List (String × String)) :
    ((∃ q, ofPairs pairs = .ok q) ↔ Acceptable pairs) ∧
      (∀ q, ofPairs pairs = .ok q → q.Tells pairs) ∧
      (∀ e, ofPairs pairs = .error e → Offends pairs e.message ∨
        (∀ pair ∈ pairs, Readable pair) ∧
          e.message = "sort_key and sort_dir must be given in pairs") ∧
      ∀ others, (∀ key, valuesOf others key = valuesOf pairs key) →
        (ofPairs others).toOption = (ofPairs pairs).toOption := by
  refine ⟨?_, ?_, ?_, ?_⟩
  · rcases ofPairs_cases pairs with ⟨q, read, _, fine⟩ | ⟨e, refused, wrong, _⟩
    · exact ⟨fun _ => fine, fun _ => ⟨q, read⟩⟩
    · exact ⟨fun ⟨q, read⟩ => (nomatch refused.symm.trans read), fun fine => absurd fine wrong⟩
  · intro q read
    rcases ofPairs_cases pairs with ⟨q', read', told, _⟩ | ⟨e, refused, _⟩
    · rw [read'] at read
      exact Except.ok.inj read ▸ told
    · cases refused.symm.trans read
  · intro e refused
    rcases ofPairs_cases pairs with ⟨q, read, _⟩ | ⟨e', refused', _, offends | ⟨readable, rfl⟩⟩
    · cases read.symm.trans refused
    · rw [refused'] at refused
      exact .inl (Except.error.inj refused ▸ offends)
    · rw [refused'] at refused
      exact .inr ⟨readable, Except.error.inj refused ▸ rfl⟩
  · intro others regrouped
    have same : valuesOf others = valuesOf pairs := funext regrouped
    rcases ofPairs_cases pairs with ⟨q, read, told, fine⟩ | ⟨e, refused, wrong, _⟩ <;>
      rcases ofPairs_cases others with ⟨q', read', told', fine'⟩ | ⟨e', refused', wrong', _⟩
    · rw [read, read', told.unique told' same]
    · exact absurd (fine.regroup same) wrong'
    · exact absurd (fine'.regroup same.symm) wrong
    · rw [refused, refused']
      rfl

/-- Filters, a limit and a sort key in one order and in another. -/
def mixedPairs : List (String × String) :=
  [("vlan", "7"), ("limit", "+18446744073709551615"), ("vlan", "8"), ("sort_key", "name")]

def sortedPairs : List (String × String) :=
  [("limit", "+18446744073709551615"), ("sort_key", "name"), ("vlan", "7"), ("vlan", "8")]

theorem mixed_pairs_read_sorted : (∀ key, valuesOf sortedPairs key = valuesOf mixedPairs key) ∧
    (ofPairs sortedPairs).toOption = (ofPairs mixedPairs).toOption ∧
      (ofPairs mixedPairs).toOption.bind (·.limit) = some (2 ^ 64 - 1) := by
  have regrouped : ∀ key, valuesOf sortedPairs key = valuesOf mixedPairs key := by
    intro key
    simp only [valuesOf, sortedPairs, mixedPairs, List.filter_cons, List.filter_nil]
    by_cases vlan : "vlan" = key
    · subst vlan
      rfl
    · simp [vlan]
  refine ⟨regrouped, (ofPairs_exact mixedPairs).2.2.2 sortedPairs regrouped, ?_⟩
  decide +kernel

end Listing.Query
end Brokerage
