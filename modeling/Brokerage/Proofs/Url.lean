import Brokerage.Proofs.Percent
import Brokerage.Remote.Exchange
import Mathlib.Data.List.DropRight

/-! # The URL of a resource

The collection of resources has a URL that ends with a slash. An encoded id behind it stays one
segment of the path, and everything else of the URL stays as it is.
-/

namespace Brokerage.Remote

namespace Url

variable {front head segment : List Char} {u : Url}

/-! ## The stages of reading -/

/-- A text without what a URL is not read with, its slashes turned forward. -/
def clean (text : List Char) : List Char :=
  let text := text.filter fun c => c != '\t' && c != '\n' && c != '\r'
  let text := (text.dropWhile (·.toNat ≤ 0x20)).reverse.dropWhile (·.toNat ≤ 0x20)
  forward text.reverse

def schemeOf (text : List Char) : String :=
  (String.ofList (text.takeWhile (· != ':'))).map Char.toLower

def afterScheme (text : List Char) : List Char :=
  ((text.dropWhile (· != ':')).drop 1).dropWhile (· = '/')

def isEnd (c : Char) : Bool := c = '/' || c = '?' || c = '#'

/-- The segments of a path that begins with a slash, dots unresolved. -/
def pathSegments (path : List Char) : List String :=
  ((path.drop 1).splitOn '/').map fun s => String.ofList (Percent.encodeWith isPathChar s)

/-- A query without its question mark. -/
def queryOf : List Char → Option String
  | [] => none
  | _ :: query => some (String.ofList (Percent.encodeWith isQueryChar query))

/-- The URL of a text after it was cleaned. -/
def ofClean? [Hosts] (text : List Char) : Option Url :=
  let scheme := schemeOf text
  let rest := afterScheme text
  let authority := rest.takeWhile fun c => !isEnd c
  let rest := (rest.dropWhile fun c => !isEnd c).takeWhile (· != '#')
  if scheme != "http" && scheme != "https" then none
  else (Hosts.read? scheme authority).map fun authority =>
    ⟨scheme, authority, resolve [] (pathSegments (rest.takeWhile (· != '?'))),
      queryOf (rest.dropWhile (· != '?'))⟩

theorem ofText?_eq [Hosts] (text : String) : ofText? text = ofClean? (clean text.toList) := by
  unfold ofText?
  extract_lets stripped trimmed cleaned scheme rest ends front path query encoded segments read
  have whole : ofClean? (clean text.toList) =
      if scheme != "http" && scheme != "https" then none
      else (Hosts.read? scheme (rest.takeWhile fun c => !ends c)).map fun authority =>
        ⟨scheme, authority, resolve [] segments, queryOf query⟩ := rfl
  rw [whole]
  by_cases other : (scheme != "http" && scheme != "https") = true
  · rw [if_pos other, if_pos other]
    rfl
  · rw [if_neg other, if_neg other]
    unfold read
    cases Hosts.read? scheme (rest.takeWhile fun c => !ends c) with
    | none => rfl
    | some authority =>
        clear_value query
        cases query <;> rfl

/-! ## A segment at the end -/

/-- Whether an encoded segment can hold a character. -/
def isSegmentChar (c : Char) : Bool := c = '%' || Percent.isUnreserved c

theorem isSegmentChar_ascii {c : Char} (h : isSegmentChar c) : c.toNat < 128 := by
  simp only [isSegmentChar, Percent.isUnreserved, Bool.or_eq_true, Bool.and_eq_true,
    decide_eq_true_eq, Char.le_def, UInt32.le_iff_toNat_le] at h
  rcases h with rfl | ((((((⟨_, h⟩ | ⟨_, h⟩) | ⟨_, h⟩) | rfl) | rfl) | rfl) | rfl)
  all_goals first | exact Nat.lt_of_le_of_lt h (by decide) | decide

theorem isSegmentChar_plain {c : Char} (h : isSegmentChar c) :
    0x20 < c.toNat ∧ c ∉ ['/', '\\', '?', '#', '&'] ∧ isPathChar c := by
  have table : ∀ n < 128, isSegmentChar (Char.ofNat n) → 0x20 < (Char.ofNat n).toNat ∧
      Char.ofNat n ∉ ['/', '\\', '?', '#', '&'] ∧ isPathChar (Char.ofNat n) := by
    decide +kernel
  simpa using table c.toNat (isSegmentChar_ascii h) (by simpa using h)

theorem filter_visible {text : List Char} (visible : ∀ c ∈ text, 0x20 < c.toNat) :
    text.filter (fun c => c != '\t' && c != '\n' && c != '\r') = text := by
  apply List.filter_eq_self.2
  intro c member
  have seen := visible c member
  by_contra blank
  simp only [Bool.and_eq_true, bne_iff_ne, not_and_or, not_not] at blank
  rcases blank with (rfl | rfl) | rfl <;> revert seen <;> decide

theorem forward_eq_self {text : List Char} (turned : ∀ c ∈ text, c ≠ '\\') :
    forward text = text := by
  induction text with
  | nil => rfl
  | cons c rest ih =>
      have later := ih fun d member => turned d (List.mem_cons_of_mem _ member)
      simp [forward, turned c List.mem_cons_self, later]

theorem forward_append (front : List Char) {rest : List Char} (turned : ∀ c ∈ rest, c ≠ '\\') :
    forward (front ++ rest) = forward front ++ rest := by
  induction front with
  | nil => exact forward_eq_self turned
  | cons c front ih =>
      rw [List.cons_append, forward, forward, ih]
      split <;> rfl

theorem mem_forward {text : List Char} : ∀ c ∈ forward text, c ∈ text ∨ c = '/' := by
  induction text with
  | nil => exact List.forall_mem_nil _
  | cons d text ih =>
      intro c member
      rw [forward] at member
      split at member
      · exact .inl member
      · rcases List.mem_cons.1 member with rfl | later
        · split
          · exact .inr rfl
          · exact .inl List.mem_cons_self
        · exact (ih c later).imp_left (List.mem_cons_of_mem _)

section

variable {segment : List Char} (plain : ∀ c ∈ segment, isSegmentChar c)

include plain

theorem visible_segment : ∀ c ∈ '/' :: segment, 0x20 < c.toNat := by
  intro c member
  rcases List.mem_cons.1 member with rfl | inside
  · decide
  · exact (isSegmentChar_plain (plain c inside)).1

theorem unmarked_segment : ∀ c ∈ '/' :: segment, c ≠ '?' ∧ c ≠ '#' ∧ c ≠ '\\' := by
  intro c member
  rcases List.mem_cons.1 member with rfl | inside
  · decide
  · have ordinary := (isSegmentChar_plain (plain c inside)).2.1
    simp only [List.mem_cons, not_or] at ordinary
    exact ⟨ordinary.2.2.1, ordinary.2.2.2.1, ordinary.2.1⟩

end

section

variable {α : Type} {p : α → Bool} {first last : List α}

theorem rdropWhile_append_kept (kept : ∀ x ∈ last, p x = false) (some : last ≠ []) :
    (first ++ last).rdropWhile p = first ++ last := by
  apply List.rdropWhile_eq_self_iff.2
  intro _
  rw [List.getLast_append_of_ne_nil _ some, kept _ (List.getLast_mem some)]
  exact Bool.false_ne_true

theorem rdropWhile_append (kept : first.rdropWhile p = first) (last : List α) :
    (first ++ last).rdropWhile p = first ++ last.rdropWhile p := by
  induction last using List.reverseRecOn with
  | nil => simpa using kept
  | append_singleton last x ih =>
      rw [← List.append_assoc, List.rdropWhile_concat, List.rdropWhile_concat, ih]
      split <;> simp

end

theorem clean_append (front : List Char) : ∃ head, (∀ c ∈ head, c ∈ front ∨ c = '/') ∧
    ∀ segment, (∀ c ∈ segment, isSegmentChar c) →
      clean (front ++ '/' :: segment) = head ++ '/' :: segment := by
  let kept := (front.filter fun c => c != '\t' && c != '\n' && c != '\r').dropWhile (·.toNat ≤ 0x20)
  refine ⟨forward kept, ?_, ?_⟩
  · intro c member
    refine (mem_forward c member).imp_left fun inside => ?_
    exact List.mem_of_mem_filter ((List.dropWhile_suffix _).subset inside)
  · intro segment plain
    have front_trimmed : (front.filter (fun c => c != '\t' && c != '\n' && c != '\r') ++
        '/' :: segment).dropWhile (·.toNat ≤ 0x20) = kept ++ '/' :: segment := by
      rw [List.dropWhile_append]
      split
      · rename_i none
        rw [List.isEmpty_iff] at none
        simp [kept, none]
      · rfl
    have end_trimmed : ((kept ++ '/' :: segment).reverse.dropWhile (·.toNat ≤ 0x20)).reverse =
        kept ++ '/' :: segment := by
      refine rdropWhile_append_kept ?_ (List.cons_ne_nil _ _)
      intro c member
      simpa using visible_segment plain c member
    rw [clean, List.filter_append, filter_visible (visible_segment plain), front_trimmed,
      end_trimmed, forward_append _ fun c member => (unmarked_segment plain c member).2.2]

theorem dropWhile_append_cons {α : Type} {p : α → Bool} {x : α} (stops : p x = false)
    (front rest : List α) : (front ++ x :: rest).dropWhile p = front.dropWhile p ++ x :: rest := by
  induction front with
  | nil => simp [stops]
  | cons y front ih =>
      by_cases h : p y <;> simp [h, ih]

theorem takeWhile_append_cons {α : Type} {p : α → Bool} {x : α} (stops : p x = false)
    (front rest : List α) : (front ++ x :: rest).takeWhile p = front.takeWhile p := by
  induction front with
  | nil => simp [stops]
  | cons y front ih =>
      by_cases h : p y <;> simp [h, ih]

theorem mem_colon
    (web : ¬ (schemeOf (head ++ ['/']) != "http" && schemeOf (head ++ ['/']) != "https")) :
    ':' ∈ head := by
  by_contra missing
  have whole : (head ++ ['/']).takeWhile (· != ':') = head ++ ['/'] := by
    apply List.takeWhile_eq_self_iff.2
    intro c member
    rcases List.mem_append.1 member with inside | last
    · exact bne_iff_ne.2 fun same => missing (same ▸ inside)
    · rw [List.mem_singleton.1 last]
      decide
  have slash : '/' ∈ (schemeOf (head ++ ['/'])).toList := by
    rw [schemeOf, whole]
    simp
  apply web
  rw [Bool.and_eq_true, bne_iff_ne, bne_iff_ne]
  constructor <;>
  · intro same
    rw [same] at slash
    revert slash
    decide

theorem schemeOf_append (named : ':' ∈ head) (rest : List Char) :
    schemeOf (head ++ rest) = schemeOf head := by
  obtain ⟨before, after, rfl⟩ := List.append_of_mem named
  simp only [schemeOf, List.append_assoc, List.cons_append]
  rw [takeWhile_append_cons rfl, takeWhile_append_cons rfl]

theorem afterScheme_append (named : ':' ∈ head) (host : afterScheme (head ++ ['/']) ≠ []) :
    ∃ rest, ∀ segment, afterScheme (head ++ '/' :: segment) = rest ++ '/' :: segment := by
  cases found : head.dropWhile (· != ':') with
  | nil => simpa using List.dropWhile_eq_nil_iff.1 found ':' named
  | cons colon rest =>
      have later : ∀ more, afterScheme (head ++ more) = (rest ++ more).dropWhile (· = '/') := by
        intro more
        rw [afterScheme, List.dropWhile_append, found]
        rfl
      rw [later, List.dropWhile_append] at host
      refine ⟨rest.dropWhile (· = '/'), ?_⟩
      intro segment
      rw [later, List.dropWhile_append, if_neg]
      intro empty
      rw [if_pos empty] at host
      exact host rfl

theorem isDot_iff {text : String} : isDot text = true ↔
    text.toList = ['.'] ∨ text.toList.map Char.toLower = ['%', '2', 'e'] := by
  simp [isDot, ← String.toList_inj]

theorem isDoubleDot_iff {text : String} : isDoubleDot text = true ↔
    text.toList.map Char.toLower = ['.', '.'] ∨ text.toList.map Char.toLower = ['.', '%', '2', 'e'] ∨
    text.toList.map Char.toLower = ['%', '2', 'e', '.'] ∨
    text.toList.map Char.toLower = ['%', '2', 'e', '%', '2', 'e'] := by
  simp [isDoubleDot, ← String.toList_inj, or_assoc]

/-- The last segment is resolved against what those before it leave. -/
theorem resolve_append (done init : List String) : ∃ first, ∀ last,
    resolve done (init ++ [last]) =
      if isDoubleDot last then first.dropLast ++ [""]
      else if isDot last then first ++ [""]
      else first ++ [last] := by
  induction init generalizing done with
  | nil =>
      refine ⟨done.reverse, ?_⟩
      intro last
      simp [resolve]
  | cons segment rest ih =>
      have more : ∀ last, ∃ next others, rest ++ [last] = next :: others := by
        intro last
        exact List.exists_cons_of_ne_nil (by simp)
      have step : ∀ last, resolve done (segment :: (rest ++ [last])) =
          if isDoubleDot segment then resolve (done.drop 1) (rest ++ [last])
          else if isDot segment then resolve done (rest ++ [last])
          else resolve (segment :: done) (rest ++ [last]) := by
        intro last
        obtain ⟨next, others, parts⟩ := more last
        rw [parts, resolve]
        simp
      simp only [List.cons_append, step]
      by_cases dots : isDoubleDot segment
      · simpa only [if_pos dots] using ih (done.drop 1)
      · by_cases dot : isDot segment
        · simpa only [if_neg dots, if_pos dot] using ih done
        · simpa only [if_neg dots, if_neg dot] using ih (segment :: done)

theorem encodeWith_plain {segment : List Char} (plain : ∀ c ∈ segment, isSegmentChar c) :
    Percent.encodeWith isPathChar segment = segment := by
  induction segment with
  | nil => rfl
  | cons c rest ih =>
      have kept := (isSegmentChar_plain (plain c List.mem_cons_self)).2.2
      have later := ih fun d member => plain d (List.mem_cons_of_mem _ member)
      simp only [Percent.encodeWith, List.flatMap_cons, if_pos kept] at later ⊢
      rw [later]
      rfl

theorem pathSegments_segment (plain : ∀ c ∈ segment, isSegmentChar c) :
    pathSegments ('/' :: segment) = [String.ofList segment] := by
  have single : segment.splitOn '/' = [segment] := by
    apply List.splitOn_eq_singleton
    intro slash
    simpa using (isSegmentChar_plain (plain _ slash)).2.1
  rw [pathSegments, List.drop_succ_cons, List.drop_zero, single, List.map_singleton,
    encodeWith_plain plain]

/-- The segments of a path; none of the empty one. -/
def segmentsOf : List Char → List String
  | [] => []
  | c :: rest => pathSegments (c :: rest)

theorem pathSegments_append (path rest : List Char) :
    pathSegments (path ++ '/' :: rest) = segmentsOf path ++ pathSegments ('/' :: rest) := by
  cases path with
  | nil => rfl
  | cons c path => simp [segmentsOf, pathSegments, List.splitOn_append_cons_self]

/-- The path of a text as it is written there, of one without a query and a fragment. -/
def writtenPath (text : List Char) : List Char := (afterScheme text).dropWhile fun c => !isEnd c

theorem mem_afterScheme {text : List Char} : ∀ c ∈ afterScheme text, c ∈ text := by
  intro c member
  exact (List.dropWhile_suffix _).subset
    (List.mem_of_mem_drop ((List.dropWhile_suffix _).subset member))

section

variable [Hosts]

theorem ofClean?_unmarked {text : List Char} (unmarked : ∀ c ∈ text, c ≠ '?' ∧ c ≠ '#') :
    ofClean? text =
      if schemeOf text != "http" && schemeOf text != "https" then none
      else (Hosts.read? (schemeOf text) ((afterScheme text).takeWhile fun c => !isEnd c)).map
        fun authority => ⟨schemeOf text, authority, resolve [] (pathSegments (writtenPath text)),
          none⟩ := by
  have inside : ∀ c ∈ writtenPath text, c ≠ '?' ∧ c ≠ '#' := by
    intro c member
    exact unmarked c (mem_afterScheme c ((List.dropWhile_suffix _).subset member))
  have whole : (writtenPath text).takeWhile (· != '#') = writtenPath text :=
    List.takeWhile_eq_self_iff.2 fun c member => bne_iff_ne.2 (inside c member).2
  have path : (writtenPath text).takeWhile (· != '?') = writtenPath text :=
    List.takeWhile_eq_self_iff.2 fun c member => bne_iff_ne.2 (inside c member).1
  have query : (writtenPath text).dropWhile (· != '?') = [] :=
    List.dropWhile_eq_nil_iff.2 fun c member => bne_iff_ne.2 (inside c member).1
  unfold writtenPath at whole path query
  simp only [ofClean?, whole, path, query, queryOf, writtenPath]

/-- What stands before the slash at the end of a URL is read apart from what follows it. -/
theorem exists_host (read : (ofClean? (head ++ ['/'])).isSome) : ∃ rest, ':' ∈ head ∧
    ¬ (schemeOf head != "http" && schemeOf head != "https") = true ∧
    ∀ segment, afterScheme (head ++ '/' :: segment) = rest ++ '/' :: segment := by
  by_cases other :
    (schemeOf (head ++ ['/']) != "http" && schemeOf (head ++ ['/']) != "https") = true
  · rw [ofClean?, if_pos other] at read
    cases read
  have named := mem_colon other
  have host : afterScheme (head ++ ['/']) ≠ [] := by
    intro none
    simp [ofClean?, none, Hosts.read?_nil] at read
  obtain ⟨rest, following⟩ := afterScheme_append named host
  rw [schemeOf_append named] at other
  exact ⟨rest, named, other, following⟩

theorem ofClean?_append (noQuery : ∀ c ∈ head, c ≠ '?' ∧ c ≠ '#')
    (read : ofClean? (head ++ ['/']) = some u) : ∃ init : List String,
      u.query = none ∧ u.segments = resolve [] (init ++ [""]) ∧
      ∀ segment, (∀ c ∈ segment, isSegmentChar c) → ofClean? (head ++ '/' :: segment) =
        some { u with segments := resolve [] (init ++ [String.ofList segment]) } := by
  obtain ⟨rest, named, other, following⟩ := exists_host (by rw [read]; rfl)
  have value : ∀ segment, (∀ c ∈ segment, isSegmentChar c) →
      ofClean? (head ++ '/' :: segment) =
        (Hosts.read? (schemeOf head) (rest.takeWhile fun c => !isEnd c)).map fun authority =>
          ⟨schemeOf head, authority,
            resolve [] (segmentsOf (rest.dropWhile fun c => !isEnd c) ++ [String.ofList segment]),
            none⟩ := by
    intro segment plain
    have unmarked : ∀ c ∈ head ++ '/' :: segment, c ≠ '?' ∧ c ≠ '#' := by
      intro c member
      rcases List.mem_append.1 member with before | after
      · exact noQuery c before
      · have marks := unmarked_segment plain c after
        exact ⟨marks.1, marks.2.1⟩
    have slash : (!isEnd '/') = false := rfl
    simp only [ofClean?_unmarked unmarked, schemeOf_append named, if_neg other, following,
      takeWhile_append_cons (p := fun c => !isEnd c) slash, writtenPath,
      dropWhile_append_cons (p := fun c => !isEnd c) slash, pathSegments_append,
      pathSegments_segment plain]
  cases host : Hosts.read? (schemeOf head) (rest.takeWhile fun c => !isEnd c) with
  | none =>
      rw [value [] (List.forall_mem_nil _), host] at read
      cases read
  | some authority =>
      simp only [host, Option.map_some] at value
      rw [value [] (List.forall_mem_nil _)] at read
      cases read
      exact ⟨_, rfl, rfl, value⟩

theorem ofClean?_isSome_append {head : List Char} (read : (ofClean? (head ++ ['/'])).isSome)
    (segment : List Char) : (ofClean? (head ++ '/' :: segment)).isSome := by
  obtain ⟨rest, named, other, following⟩ := exists_host read
  have slash : (!isEnd '/') = false := rfl
  simp only [ofClean?, schemeOf_append named, if_neg other, following, Option.isSome_map,
    takeWhile_append_cons (p := fun c => !isEnd c) slash] at read ⊢
  exact read

/-- Where a segment stands that is written behind the URL of a collection: in place of the empty one
at its end, unless it is a dot or two. -/
def below (u : Url) (segment : String) : Url :=
  { u with segments :=
      if isDoubleDot segment then u.segments.dropLast.dropLast ++ [""]
      else if isDot segment then u.segments
      else u.segments.dropLast ++ [segment] }

theorem ofText?_append {base : String} (read : ofText? (base ++ "/") = some u)
    (noQuery : ∀ c ∈ base.toList, c ≠ '?' ∧ c ≠ '#') : u.query = none ∧
      ∀ segment : String, (∀ c ∈ segment.toList, isSegmentChar c) →
        ofText? (base ++ "/" ++ segment) = some (u.below segment) := by
  obtain ⟨head, known, cleaned⟩ := clean_append base.toList
  have unmarked : ∀ c ∈ head, c ≠ '?' ∧ c ≠ '#' := by
    intro c member
    rcases known c member with inside | rfl
    · exact noQuery c inside
    · decide
  have parts : (base ++ "/").toList = base.toList ++ ['/'] := by simp
  rw [ofText?_eq, parts, cleaned [] (List.forall_mem_nil _)] at read
  obtain ⟨init, query, segments, longer⟩ := ofClean?_append unmarked read
  obtain ⟨first, resolved⟩ := resolve_append [] init
  rw [resolved, if_neg (by simp [isDoubleDot_iff]), if_neg (by simp [isDot_iff])] at segments
  refine ⟨query, ?_⟩
  intro segment plain
  have more : (base ++ "/" ++ segment).toList = base.toList ++ '/' :: segment.toList := by simp
  rw [ofText?_eq, more, cleaned _ plain, longer _ plain, String.ofList_toList,
    resolved, below, segments, List.dropLast_concat]

theorem ofText?_isSome_append {base : String} (read : (ofText? (base ++ "/")).isSome)
    {segment : String} (plain : ∀ c ∈ segment.toList, isSegmentChar c) :
    (ofText? (base ++ "/" ++ segment)).isSome := by
  obtain ⟨head, -, cleaned⟩ := clean_append base.toList
  have parts : (base ++ "/").toList = base.toList ++ ['/'] := by simp
  have more : (base ++ "/" ++ segment).toList = base.toList ++ '/' :: segment.toList := by simp
  rw [ofText?_eq, parts, cleaned [] (List.forall_mem_nil _)] at read
  rw [ofText?_eq, more, cleaned _ plain]
  exact ofClean?_isSome_append read segment.toList

end

/-! ## Encoded ids -/

theorem encode_plain (id : String) : ∀ c ∈ (Percent.encode id).toList, isSegmentChar c := by
  intro c member
  rcases Percent.mem_encode member with rfl | plain
  · rfl
  · simp [isSegmentChar, plain]

theorem toLower_eq {c : Char} (h : isSegmentChar c) : (c.toLower = '.' → c = '.') ∧
    (c.toLower = '%' → c = '%') ∧ (c.toLower = '2' → c = '2') ∧
    (c.toLower = 'e' → c = 'e' ∨ c = 'E') := by
  have table : ∀ n < 128, ((Char.ofNat n).toLower = '.' → Char.ofNat n = '.') ∧
      ((Char.ofNat n).toLower = '%' → Char.ofNat n = '%') ∧
      ((Char.ofNat n).toLower = '2' → Char.ofNat n = '2') ∧
      ((Char.ofNat n).toLower = 'e' → Char.ofNat n = 'e' ∨ Char.ofNat n = 'E') := by
    decide +kernel
  simpa using table c.toNat (isSegmentChar_ascii h)

/-- A dot in any spelling stands for the byte of a dot. -/
theorem decodeBytes_dot {text more : List Char} (plain : ∀ c ∈ text, isSegmentChar c)
    (h : text.map Char.toLower = '.' :: more ∨ text.map Char.toLower = '%' :: '2' :: 'e' :: more) :
    ∃ rest, (∀ c ∈ rest, isSegmentChar c) ∧ rest.map Char.toLower = more ∧
      Percent.decodeBytes text = 0x2E :: Percent.decodeBytes rest := by
  rcases h with h | h
  · obtain ⟨c, rest, rfl, dot, later⟩ := List.map_eq_cons_iff.1 h
    obtain rfl := (toLower_eq (plain c List.mem_cons_self)).1 dot
    exact ⟨rest, fun d member => plain d (List.mem_cons_of_mem _ member), later,
      Percent.decodeBytes_cons rest (by decide)⟩
  · obtain ⟨a, _, rfl, percent, h⟩ := List.map_eq_cons_iff.1 h
    obtain ⟨b, _, rfl, two, h⟩ := List.map_eq_cons_iff.1 h
    obtain ⟨c, rest, rfl, e, later⟩ := List.map_eq_cons_iff.1 h
    obtain rfl := (toLower_eq (plain a (by simp))).2.1 percent
    obtain rfl := (toLower_eq (plain b (by simp))).2.2.1 two
    refine ⟨rest, fun d member => plain d (by simp [member]), later, ?_⟩
    rcases (toLower_eq (plain c (by simp))).2.2.2 e with rfl | rfl <;> rfl

/-- Only the ids that are dots themselves are encoded as dots. -/
theorem encode_noDots {id : String} (h : id ∉ [".", ".."]) :
    isDot (Percent.encode id) = false ∧ isDoubleDot (Percent.encode id) = false := by
  have plain := encode_plain id
  have back := Percent.decode?_encode id
  constructor <;> apply Bool.eq_false_iff.2
  · intro dot
    have spelled : (Percent.encode id).toList.map Char.toLower = ['.'] ∨
        (Percent.encode id).toList.map Char.toLower = ['%', '2', 'e'] := by
      rcases isDot_iff.1 dot with one | other
      · rw [one]
        exact .inl rfl
      · exact .inr other
    obtain ⟨rest, _, done, bytes⟩ := decodeBytes_dot plain spelled
    obtain rfl := List.map_eq_nil_iff.1 done
    rw [Percent.decode?, bytes] at back
    apply h
    rw [← Option.some.inj back]
    decide
  · intro dots
    have first : ∃ more, ((Percent.encode id).toList.map Char.toLower = '.' :: more ∨
          (Percent.encode id).toList.map Char.toLower = '%' :: '2' :: 'e' :: more) ∧
        (more = ['.'] ∨ more = ['%', '2', 'e']) := by
      rcases isDoubleDot_iff.1 dots with h | h | h | h
      · exact ⟨_, .inl h, .inl rfl⟩
      · exact ⟨_, .inl h, .inr rfl⟩
      · exact ⟨_, .inr h, .inl rfl⟩
      · exact ⟨_, .inr h, .inr rfl⟩
    obtain ⟨more, spelled, second⟩ := first
    obtain ⟨later, plain, rfl, bytes⟩ := decodeBytes_dot plain spelled
    obtain ⟨rest, _, done, others⟩ := decodeBytes_dot plain second
    obtain rfl := List.map_eq_nil_iff.1 done
    rw [Percent.decode?, bytes, others] at back
    apply h
    rw [← Option.some.inj back]
    decide

theorem below_encode {id : String} (named : id ∉ [".", ".."]) (u : Url) :
    u.below (Percent.encode id) =
      { u with segments := u.segments.dropLast ++ [Percent.encode id] } := by
  obtain ⟨dot, dots⟩ := encode_noDots named
  rw [below, dot, dots]
  rfl

end Url

/-- What a client reads behind the URL of a collection. -/
theorem Client.read?_append {client : Client} {base : String} {u : Url}
    (read : client.read? (base ++ "/") = some u) (noQuery : ∀ c ∈ base.toList, c ≠ '?' ∧ c ≠ '#') :
    u.query = none ∧ ∀ segment : String, (∀ c ∈ segment.toList, Url.isSegmentChar c) →
      client.read? (base ++ "/" ++ segment) = some (u.below segment) :=
  @Url.ofText?_append u client.hosts base read noQuery

/-! ## The query for a candidate -/

/-- The pairs that ask for one free resource of a type. -/
def listPairs (type : String) : List (String × String) :=
  [("limit", "1"), ("class", type), ("processing", "false"), ("unused", "true")]

theorem formPairs_listQuery (type : String) :
    Percent.formPairs (Request.listQuery type).toList = listPairs type := by
  have parts : (Request.listQuery type).toList = "limit=1".toList ++ '&' ::
      (("class=".toList ++ (Percent.encodeForm type).toList) ++ '&' ::
        ("processing=false".toList ++ '&' :: "unused=true".toList)) := by
    simp [Request.listQuery]
  have whole : '&' ∉ "class=".toList ++ (Percent.encodeForm type).toList := by
    intro member
    rcases List.mem_append.1 member with name | value
    · revert name
      decide
    · rcases Percent.mem_encodeForm value with mark | plain
      · revert mark
        decide
      · revert plain
        decide
  have value := Percent.decodeForm_encodeForm type
  rw [parts, Percent.formPairs, List.splitOn_append_cons_self_of_not_mem (by decide),
    List.splitOn_append_cons_self_of_not_mem whole,
    List.splitOn_append_cons_self_of_not_mem (by decide), List.splitOn_eq_singleton (by decide)]
  simp [listPairs, value]
  decide

end Brokerage.Remote
