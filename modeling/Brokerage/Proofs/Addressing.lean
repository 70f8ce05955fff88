import Brokerage.Proofs.Url

/-! # Where the requests for a resource go

Behind the URL of a collection stands the id of a resource, percent-encoded. The encoding leaves
dots alone, and the client resolves them in a path, also these: the ids `.` and `..` do not have a
place of their own. All others do (`Remote.resources_addressed`).
-/

namespace Brokerage.Remote

namespace Url

variable {text front authority path : List Char} {u : Url}

/-! ## What stands before a path -/

/-- A path is empty or begins with a slash. -/
def Rooted (path : List Char) : Prop := path = [] ∨ ∃ rest, path = '/' :: rest

theorem clean_visible (visible : ∀ c ∈ text, 0x20 < c.toNat ∧ c ≠ '\\') : clean text = text := by
  have kept : ∀ more : List Char, (∀ c ∈ more, 0x20 < c.toNat) →
      more.dropWhile (·.toNat ≤ 0x20) = more := by
    intro more seen
    apply List.dropWhile_eq_self_iff.2
    intro some
    simpa using seen _ (List.getElem_mem some)
  have seen : ∀ c ∈ text, 0x20 < c.toNat := fun c member => (visible c member).1
  have back : ∀ c ∈ text.reverse, 0x20 < c.toNat :=
    fun c member => seen c (List.mem_reverse.1 member)
  rw [clean, filter_visible seen, kept _ seen, kept _ back, List.reverse_reverse,
    forward_eq_self fun c member => (visible c member).2]

/-- The text of a URL up to its path: scheme, slashes and authority. -/
structure Front (front authority : List Char) : Prop where
  parts : ∃ before slashes, front = before ++ ':' :: (slashes ++ authority) ∧ ':' ∉ before ∧
    ∀ c ∈ slashes, c = '/'
  named : authority ≠ []
  inner : ∀ c ∈ authority, isEnd c = false

theorem afterScheme_colon {before : List Char} (first : ':' ∉ before) (after : List Char) :
    afterScheme (before ++ ':' :: after) = after.dropWhile (· = '/') := by
  have none : before.dropWhile (· != ':') = [] :=
    List.dropWhile_eq_nil_iff.2 fun c member => bne_iff_ne.2 fun same => first (same ▸ member)
  rw [afterScheme, dropWhile_append_cons rfl, none]
  rfl

namespace Front

theorem unslashed (h : Front front authority) : ∀ c ∈ authority, c ≠ '/' := by
  rintro _ member rfl
  cases h.inner _ member

theorem scheme (h : Front front authority) (path : List Char) :
    schemeOf (front ++ path) = schemeOf front := by
  obtain ⟨before, slashes, rfl, -⟩ := h.parts
  exact schemeOf_append (by simp) path

theorem trimmed (h : Front front authority) : front.rdropWhile (· = '/') = front := by
  obtain ⟨before, slashes, rfl, -⟩ := h.parts
  rw [← List.cons_append, ← List.append_assoc]
  exact rdropWhile_append_kept (by simpa using h.unslashed) h.named

theorem afterScheme (h : Front front authority) (path : List Char) :
    afterScheme (front ++ path) = authority ++ path := by
  obtain ⟨before, slashes, rfl, first, all⟩ := h.parts
  obtain ⟨c, rest, cons⟩ := List.exists_cons_of_ne_nil h.named
  have stays := h.unslashed c (by rw [cons]; exact List.mem_cons_self)
  have skipped : slashes.dropWhile (· = '/') = [] := by simpa using all
  simp only [List.append_assoc, List.cons_append]
  rw [afterScheme_colon first, List.dropWhile_append, skipped, cons]
  simp [stays]

theorem takeWhile (h : Front front authority) (rooted : Rooted path) :
    (authority ++ path).takeWhile (fun c => !isEnd c) = authority := by
  rw [List.takeWhile_append_of_pos (by simpa using h.inner)]
  rcases rooted with rfl | ⟨rest, rfl⟩
  · simp
  · simp [isEnd]

theorem writtenPath (h : Front front authority) (rooted : Rooted path) :
    writtenPath (front ++ path) = path := by
  rw [Url.writtenPath, h.afterScheme, List.dropWhile_append_of_pos (by simpa using h.inner)]
  rcases rooted with rfl | ⟨rest, rfl⟩
  · simp
  · simp [isEnd]

theorem ofClean? [Hosts] (h : Front front authority) (rooted : Rooted path)
    (unmarked : ∀ c ∈ front ++ path, c ≠ '?' ∧ c ≠ '#') : ofClean? (front ++ path) =
      if schemeOf front != "http" && schemeOf front != "https" then none
      else (Hosts.read? (schemeOf front) authority).map fun authority =>
        ⟨schemeOf front, authority, resolve [] (pathSegments path), none⟩ := by
  rw [ofClean?_unmarked unmarked, h.scheme, h.writtenPath rooted, h.afterScheme, h.takeWhile rooted]

end Front

theorem rooted_writtenPath (unmarked : ∀ c ∈ text, c ≠ '?' ∧ c ≠ '#') :
    Rooted (writtenPath text) := by
  have first := List.head?_dropWhile_not (fun c => !isEnd c) (afterScheme text)
  have inside : ∀ c ∈ writtenPath text, c ≠ '?' ∧ c ≠ '#' := by
    intro c member
    exact unmarked c (mem_afterScheme c ((List.dropWhile_suffix _).subset member))
  rw [writtenPath] at inside ⊢
  cases parts : (afterScheme text).dropWhile fun c => !isEnd c with
  | nil => exact .inl rfl
  | cons c rest =>
      rw [parts] at first inside
      have marks := inside c List.mem_cons_self
      have ends : isEnd c = true := by simpa using first
      simp only [isEnd, Bool.or_eq_true, decide_eq_true_eq, marks.1, marks.2, or_false] at ends
      exact .inr ⟨rest, by rw [ends]⟩

theorem exists_front (named : (afterScheme text).takeWhile (fun c => !isEnd c) ≠ []) :
    ∃ front authority, Front front authority ∧ text = front ++ writtenPath text := by
  have colon : ':' ∈ text := by
    by_contra missing
    have none : text.dropWhile (· != ':') = [] :=
      List.dropWhile_eq_nil_iff.2 fun c member => bne_iff_ne.2 fun same => missing (same ▸ member)
    rw [afterScheme, none] at named
    exact named rfl
  obtain ⟨before, after, parts, first⟩ := List.eq_append_cons_of_mem colon
  refine ⟨_, _, ⟨⟨before, after.takeWhile (· = '/'), rfl, first, ?_⟩, named, ?_⟩, ?_⟩
  · intro c member
    simpa using List.mem_takeWhile_imp member
  · intro c member
    simpa using List.mem_takeWhile_imp member
  · have host : afterScheme text = after.dropWhile (· = '/') := by
      rw [parts, afterScheme_colon first]
    have rest : (afterScheme text).takeWhile (fun c => !isEnd c) ++ writtenPath text =
        afterScheme text := List.takeWhile_append_dropWhile
    have slashes : after.takeWhile (· = '/') ++ afterScheme text = after := by
      rw [host, List.takeWhile_append_dropWhile]
    rw [List.append_assoc, List.cons_append, List.append_assoc, rest, slashes]
    exact parts

/-- Behind the authority of a URL any path can follow. -/
theorem ofClean?_split [Hosts] (unmarked : ∀ c ∈ text, c ≠ '?' ∧ c ≠ '#')
    (read : ofClean? text = some u) : ∃ front authority, Front front authority ∧
      text = front ++ writtenPath text ∧
      ∀ path, Rooted path → (∀ c ∈ path, c ≠ '?' ∧ c ≠ '#') →
        ofClean? (front ++ path) = some { u with segments := resolve [] (pathSegments path) } := by
  have named : (afterScheme text).takeWhile (fun c => !isEnd c) ≠ [] := by
    intro none
    simp [ofClean?_unmarked unmarked, none, Hosts.read?_nil] at read
  obtain ⟨front, authority, h, whole⟩ := exists_front named
  refine ⟨front, authority, h, whole, ?_⟩
  intro path rooted plain
  have marks : ∀ c ∈ front ++ path, c ≠ '?' ∧ c ≠ '#' := by
    intro c member
    rcases List.mem_append.1 member with inside | behind
    · exact unmarked c (by rw [whole]; exact List.mem_append_left _ inside)
    · exact plain c behind
  rw [whole, h.ofClean? (rooted_writtenPath unmarked) (by rwa [← whole])] at read
  rw [h.ofClean? rooted marks]
  split at read
  · cases read
  · rename_i other
    obtain ⟨kept, host, rfl⟩ := Option.map_eq_some_iff.1 read
    rw [if_neg other, host, Option.map_some]

/-! ## Paths and their segments -/

/-- Segments as a path writes them, each behind a slash. -/
def slashed (segments : List String) : List Char := segments.flatMap fun s => '/' :: s.toList

@[simp]
theorem slashed_nil : slashed [] = [] := rfl

@[simp]
theorem slashed_cons (segment : String) (rest : List String) :
    slashed (segment :: rest) = '/' :: (segment.toList ++ slashed rest) := rfl

@[simp]
theorem slashed_append (front back : List String) :
    slashed (front ++ back) = slashed front ++ slashed back := List.flatMap_append

theorem path_toList (u : Url) : u.path.toList = slashed u.segments := by
  simp [Url.path, slashed, String.toList_join, List.flatMap_map]

theorem flatMap_slash {pieces : List (List Char)} (some : pieces ≠ []) :
    pieces.flatMap (fun s => '/' :: s) = '/' :: ['/'].intercalate pieces := by
  induction pieces with
  | nil => exact absurd rfl some
  | cons piece rest ih =>
      cases rest with
      | nil => simp
      | cons next rest =>
          rw [List.flatMap_cons, ih (List.cons_ne_nil _ _), List.intercalate_cons_cons]
          simp

theorem slashed_pathSegments (rest : List Char) :
    slashed (pathSegments ('/' :: rest)) = Percent.encodeWith isPathChar ('/' :: rest) := by
  have joined : (rest.splitOn '/').flatMap (fun s => '/' :: s) = '/' :: rest := by
    rw [flatMap_slash (List.splitOn_ne_nil _ _), List.intercalate_splitOn]
  have piece : ∀ s : List Char, '/' :: (String.ofList (Percent.encodeWith isPathChar s)).toList =
      Percent.encodeWith isPathChar ('/' :: s) := by
    intro s
    rw [String.toList_ofList]
    rfl
  rw [slashed, pathSegments, List.flatMap_map]
  simp only [piece, List.drop_succ_cons, List.drop_zero]
  conv_rhs => rw [← joined]
  simp only [Percent.encodeWith, List.flatMap_assoc]

theorem slashed_segmentsOf (rooted : Rooted path) :
    slashed (segmentsOf path) = Percent.encodeWith isPathChar path := by
  rcases rooted with rfl | ⟨rest, rfl⟩
  · rfl
  · exact slashed_pathSegments rest

theorem encodeWith_singleton_ne_nil (c : Char) : Percent.encodeWith isPathChar [c] ≠ [] := by
  obtain ⟨b, more, bytes, -⟩ := Utf8.front_encodeChar c []
  rw [Percent.encodeWith, List.flatMap_singleton, bytes]
  split <;> simp [Percent.encodeByte]

theorem encodeWith_trimmed (path : List Char) :
    (Percent.encodeWith isPathChar path).rdropWhile (· = '/') =
      Percent.encodeWith isPathChar (path.rdropWhile (· = '/')) := by
  induction path using List.reverseRecOn with
  | nil => rfl
  | append_singleton path c ih =>
      have whole : Percent.encodeWith isPathChar (path ++ [c]) =
          Percent.encodeWith isPathChar path ++ Percent.encodeWith isPathChar [c] :=
        List.flatMap_append
      rw [List.rdropWhile_concat]
      by_cases slash : c = '/'
      · subst slash
        rw [if_pos (by decide), ← ih, whole]
        exact List.rdropWhile_concat_pos _ _ _ (by decide)
      · rw [if_neg (by simpa using slash)]
        have last : ∀ d ∈ Percent.encodeWith isPathChar [c], d ≠ '/' := by
          rintro d member rfl
          rcases Percent.mem_encodeWith member with ⟨same, -⟩ | other
          · exact slash (List.mem_singleton.1 same).symm
          · revert other
            decide
        rw [whole]
        exact rdropWhile_append_kept (by simpa using last) (encodeWith_singleton_ne_nil c)

/-- A segment that is not a dot or two, in any spelling. -/
def Undotted (segment : String) : Prop := isDot segment = false ∧ isDoubleDot segment = false

theorem resolve_undotted {init : List String} (undotted : ∀ s ∈ init, Undotted s)
    (done : List String) (last : String) :
    resolve done (init ++ [last]) = resolve (init.reverse ++ done) [last] := by
  induction init generalizing done with
  | nil => rfl
  | cons segment rest ih =>
      obtain ⟨next, others, parts⟩ : ∃ next others, rest ++ [last] = next :: others :=
        List.exists_cons_of_ne_nil (by simp)
      have step := ih (fun s member => undotted s (List.mem_cons_of_mem _ member)) (segment :: done)
      obtain ⟨dot, dots⟩ := undotted segment List.mem_cons_self
      rw [parts] at step
      have taken : resolve done (segment :: next :: others) =
          resolve (segment :: done) (next :: others) := by
        rw [resolve] <;> simp [dot, dots]
      rw [List.cons_append, parts, taken, step]
      simp

section

variable {init : List String} (undotted : ∀ s ∈ init, Undotted s) {last : String}

include undotted

theorem resolve_segment (own : Undotted last) :
    resolve [] (init ++ [last]) = init ++ [last] := by
  rw [resolve_undotted undotted]
  simp [resolve, own.1, own.2]

theorem resolve_dot (dot : isDot last = true ∧ isDoubleDot last = false) :
    resolve [] (init ++ [last]) = init ++ [""] := by
  rw [resolve_undotted undotted]
  simp [resolve, dot.1, dot.2]

theorem resolve_doubleDot (dots : isDoubleDot last = true) :
    resolve [] (init ++ [last]) = init.dropLast ++ [""] := by
  rw [resolve_undotted undotted]
  simp [resolve, dots]

end

theorem resolve_eq_self {segments : List String} (undotted : ∀ s ∈ segments, Undotted s)
    (some : segments ≠ []) : resolve [] segments = segments := by
  obtain ⟨init, last, rfl⟩ := (List.eq_nil_or_concat' segments).resolve_left some
  exact resolve_segment (fun s member => undotted s (List.mem_append_left _ member))
    (undotted last (List.mem_append_right _ List.mem_cons_self))

/-! ## Slashes at the end -/

theorem Rooted.trimmed (rooted : Rooted path) : Rooted (path.rdropWhile (· = '/')) := by
  obtain ⟨rest, whole⟩ := List.rdropWhile_prefix (· = '/') path
  cases parts : path.rdropWhile (· = '/') with
  | nil => exact .inl rfl
  | cons c more =>
      rw [parts, List.cons_append] at whole
      rcases rooted with rfl | ⟨_, rfl⟩
      · cases whole
      · obtain ⟨rfl, -⟩ := List.cons.inj whole
        exact .inr ⟨more, rfl⟩

theorem Rooted.append {rest : List Char} (rooted : Rooted path) (more : Rooted rest) :
    Rooted (path ++ rest) := by
  rcases rooted with rfl | ⟨inner, rfl⟩
  · exact more
  · exact .inr ⟨inner ++ rest, rfl⟩

theorem segmentsOf_append (path rest : List Char) :
    segmentsOf (path ++ '/' :: rest) = segmentsOf path ++ pathSegments ('/' :: rest) := by
  rw [← pathSegments_append]
  cases path <;> rfl

theorem pathSegments_resources (path : List Char) {segment : String}
    (plain : ∀ c ∈ segment.toList, isSegmentChar c) :
    pathSegments (path ++ "/resources".toList ++ '/' :: segment.toList) =
      (segmentsOf path ++ ["resources"]) ++ [segment] := by
  have collection : pathSegments "/resources".toList = ["resources"] := by decide +kernel
  have inner : segmentsOf (path ++ "/resources".toList) = segmentsOf path ++ ["resources"] :=
    (segmentsOf_append path _).trans (congrArg _ collection)
  rw [pathSegments_append, inner, pathSegments_segment plain, String.ofList_toList]

theorem slashed_pathSegments_trimmed (rooted : Rooted path) :
    (slashed (pathSegments path)).rdropWhile (· = '/') =
      Percent.encodeWith isPathChar (path.rdropWhile (· = '/')) := by
  rcases rooted with rfl | ⟨rest, rfl⟩
  · rfl
  · rw [slashed_pathSegments, encodeWith_trimmed]

theorem segmentsOf_trimmed (rooted : Rooted path) :
    ∀ s ∈ segmentsOf (path.rdropWhile (· = '/')), s ∈ pathSegments path := by
  intro s member
  have whole := List.rdropWhile_append_rtakeWhile (p := (· = '/')) (l := path)
  cases slashes : path.rtakeWhile (· = '/') with
  | nil =>
      rw [slashes, List.append_nil] at whole
      rw [whole] at member
      rcases rooted with rfl | ⟨rest, rfl⟩
      · cases member
      · exact member
  | cons c more =>
      have slash : c = '/' := by
        have last : c ∈ path.rtakeWhile (· = '/') := by
          rw [slashes]
          exact List.mem_cons_self
        simpa using List.mem_rtakeWhile_imp last
      rw [slashes, slash] at whole
      rw [← whole, pathSegments_append]
      exact List.mem_append_left _ member

end Url

/-! ## Below a base -/

/-- The text of a URL that has neither a query nor a fragment, and no dots to resolve. -/
structure IsBase [Url.Hosts] (base : String) (u : Url) : Prop where
  read : Url.ofText? base = some u
  plain : ∀ c ∈ base.toList, 0x20 < c.toNat ∧ c ≠ '\\' ∧ c ≠ '?' ∧ c ≠ '#'
  undotted : ∀ s ∈ Url.pathSegments (Url.writtenPath base.toList), Url.Undotted s

/-- The path of a URL, but for the slashes at its end. -/
def Url.root (u : Url) : String := Client.trimSlashes u.path

section

variable [Url.Hosts] {base : String} {u : Url}

/-- Where a segment stands behind the URL of the collection. -/
theorem IsBase.place (h : IsBase base u) : ∃ init : List String,
    Url.slashed init = u.root.toList ∧ (∀ s ∈ init, Url.Undotted s) ∧
    ∀ segment : String, (∀ c ∈ segment.toList, Url.isSegmentChar c) →
      Url.ofText? (Client.trimSlashes base ++ "/resources/" ++ segment) =
        some { u with segments := Url.resolve [] ((init ++ ["resources"]) ++ [segment]) } := by
  have visible : ∀ c ∈ base.toList, 0x20 < c.toNat ∧ c ≠ '\\' :=
    fun c member => ⟨(h.plain c member).1, (h.plain c member).2.1⟩
  have unmarked : ∀ c ∈ base.toList, c ≠ '?' ∧ c ≠ '#' := fun c member => (h.plain c member).2.2
  have read := h.read
  rw [Url.ofText?_eq, Url.clean_visible visible] at read
  obtain ⟨front, authority, start, whole, longer⟩ := Url.ofClean?_split unmarked read
  have rooted := Url.rooted_writtenPath unmarked
  have undotted := h.undotted
  generalize Url.writtenPath base.toList = path at whole rooted undotted
  have trimmed : (Client.trimSlashes base).toList = front ++ path.rdropWhile (· = '/') := by
    refine String.toList_ofList.trans ?_
    change base.toList.rdropWhile (· = '/') = _
    rw [whole, Url.rdropWhile_append start.trimmed]
  refine ⟨Url.segmentsOf (path.rdropWhile (· = '/')), ?_, ?_, ?_⟩
  · have own : u.segments = Url.pathSegments path := by
      have again := longer path rooted fun c member =>
        unmarked c (by rw [whole]; exact List.mem_append_right _ member)
      rw [← whole, read] at again
      have segments := congrArg Url.segments (Option.some.inj again)
      rwa [Url.resolve_eq_self undotted (by simp [Url.pathSegments])] at segments
    rw [Url.slashed_segmentsOf rooted.trimmed, ← Url.slashed_pathSegments_trimmed rooted, ← own,
      ← Url.path_toList]
    exact String.toList_ofList.symm
  · exact fun s member => undotted s (Url.segmentsOf_trimmed rooted s member)
  · intro segment plain
    have parts : (Client.trimSlashes base ++ "/resources/" ++ segment).toList =
        front ++ (path.rdropWhile (· = '/') ++ "/resources".toList ++ '/' :: segment.toList) := by
      simp [trimmed]
    have named : ∀ c ∈ "/resources".toList, 0x20 < c.toNat ∧ c ≠ '\\' ∧ c ≠ '?' ∧ c ≠ '#' := by
      simp
    have plainly : ∀ c ∈ front ++
        (path.rdropWhile (· = '/') ++ "/resources".toList ++ '/' :: segment.toList),
          0x20 < c.toNat ∧ c ≠ '\\' ∧ c ≠ '?' ∧ c ≠ '#' := by
      intro c member
      simp only [List.append_assoc, List.mem_append] at member
      rcases member with inside | inside | name | last
      · exact h.plain c (by rw [whole]; exact List.mem_append_left _ inside)
      · have kept := (List.rdropWhile_prefix (· = '/') path).subset inside
        exact h.plain c (by rw [whole]; exact List.mem_append_right _ kept)
      · exact named c name
      · have marks := Url.unmarked_segment plain c last
        exact ⟨Url.visible_segment plain c last, marks.2.2, marks.1, marks.2.1⟩
    have follows : Url.Rooted
        (path.rdropWhile (· = '/') ++ "/resources".toList ++ '/' :: segment.toList) :=
      (rooted.trimmed.append (.inr ⟨_, rfl⟩)).append (.inr ⟨_, rfl⟩)
    rw [Url.ofText?_eq, parts,
      Url.clean_visible fun c member => ⟨(plainly c member).1, (plainly c member).2.1⟩,
      longer _ follows fun c member => (plainly c (List.mem_append_right _ member)).2.2,
      Url.pathSegments_resources _ plain]

end

/-! ## The place of a resource -/

/-- Behind the collection of a base stands one segment, and it names the resource. -/
def Addresses (u : Url) (id path : String) : Prop :=
  ∃ segment, path = u.root ++ "/resources/" ++ segment ∧ '/' ∉ segment.toList ∧
    Percent.decode? segment.toList = some id

/-- What stands behind the collection for an id; a dot is resolved there. -/
def lastSegment (id : String) : String := if id = "." then "" else Percent.encode id

theorem lastSegment_injective {id other : String} (same : lastSegment id = lastSegment other) :
    id = other ∨ (id ∈ ["", "."] ∧ other ∈ ["", "."]) := by
  have empty : ∀ {id}, "" = Percent.encode id → id = "" := by
    intro id h
    have back := Percent.decode?_encode id
    rw [← h] at back
    exact (Option.some.inj back).symm
  unfold lastSegment at same
  split at same <;> split at same <;> rename_i first second
  · exact .inl (first.trans second.symm)
  · exact .inr (by simp [first, empty same])
  · exact .inr (by simp [second, empty same.symm])
  · have back := Percent.decode?_encode id
    rw [same, Percent.decode?_encode] at back
    exact .inl (Option.some.inj back).symm

theorem Addresses.of_lastSegment {u : Url} {id path : String}
    (placed : path = u.root ++ "/resources/" ++ lastSegment id) :
    Addresses u id path ↔ id ≠ "." := by
  constructor
  · rintro ⟨segment, again, -, named⟩ rfl
    rw [placed] at again
    have same := String.append_right_inj _ |>.1 again
    rw [← same] at named
    revert named
    decide +kernel
  · intro other
    refine ⟨_, placed, ?_, ?_⟩
    · rw [lastSegment, if_neg other]
      intro slash
      simpa using (Url.isSegmentChar_plain (Url.encode_plain id _ slash)).2.1
    · rw [lastSegment, if_neg other]
      exact Percent.decode?_encode id

/-- Where the requests for resources go. -/
structure Addressing (u : Url) (place : String → Url) : Prop where
  /-- Scheme, authority and query are those of the base. -/
  server : ∀ id, ∃ segments, place id = { u with segments }
  own : ∀ id, Addresses u id (place id).path ↔ id ∉ [".", ".."]
  apart : ∀ id other, (place id).path = (place other).path →
    id = other ∨ (id ∈ ["", "."] ∧ other ∈ ["", "."])
  here : (place ".").path = (place "").path
  above : (place "..").path = u.root ++ "/"

theorem Addressing.of_paths {u : Url} {place : String → Url}
    (server : ∀ id, ∃ segments, place id = { u with segments })
    (inside : ∀ id, id ≠ ".." → (place id).path = u.root ++ "/resources/" ++ lastSegment id)
    (above : (place "..").path = u.root ++ "/") : Addressing u place := by
  have short : ∀ segment, u.root ++ "/resources/" ++ segment ≠ u.root ++ "/" := by
    intro segment same
    rw [String.append_assoc, String.append_right_inj] at same
    simpa using congrArg String.toList same
  refine ⟨server, ?_, ?_, ?_, above⟩
  · intro id
    by_cases dots : id = ".."
    · subst dots
      refine iff_of_false ?_ (by simp)
      rintro ⟨segment, same, -⟩
      exact short segment (same.symm.trans above)
    · rw [Addresses.of_lastSegment (inside id dots)]
      simp [dots]
  · intro id other same
    by_cases dots : id = ".." <;> by_cases others : other = ".."
    · exact .inl (dots.trans others.symm)
    · subst dots
      rw [above, inside other others] at same
      exact absurd same.symm (short _)
    · subst others
      rw [above, inside id dots] at same
      exact absurd same (short _)
    · rw [inside id dots, inside other others] at same
      exact lastSegment_injective (String.append_right_inj _ |>.1 same)
  · rw [inside "." (by decide), inside "" (by decide)]
    rfl

/-- The requests for a resource go to a place of its own, unless its id is a dot or two: these are
resolved, to the collection and to what is above it. -/
theorem resources_addressed [Url.Hosts] {base : String} {u : Url} (h : IsBase base u)
    (timeout : Duration) : ∃ place : String → Url, (∀ id allocated,
      (Request.mark id allocated).url? (Client.ofBaseUrl base timeout) = some (place id)) ∧
      Addressing u place := by
  obtain ⟨init, root, undotted, placed⟩ := h.place
  have collection : ∀ s ∈ init ++ ["resources"], Url.Undotted s := by
    intro s member
    rcases List.mem_append.1 member with inside | last
    · exact undotted s inside
    · rw [List.mem_singleton.1 last]
      exact ⟨by decide +kernel, by decide +kernel⟩
  refine ⟨fun id => { u with
      segments := Url.resolve [] ((init ++ ["resources"]) ++ [Percent.encode id]) }, ?_, ?_⟩
  · intro id allocated
    change Url.ofText? (Client.trimSlashes base ++ "/resources/" ++ Percent.encode id) = _
    rw [placed _ (Url.encode_plain id)]
  apply Addressing.of_paths
  · exact fun id => ⟨_, rfl⟩
  · intro id dots
    have last : Url.resolve [] ((init ++ ["resources"]) ++ [Percent.encode id]) =
        (init ++ ["resources"]) ++ [lastSegment id] := by
      by_cases dot : id = "."
      · subst dot
        exact Url.resolve_dot collection (by decide +kernel)
      · rw [lastSegment, if_neg dot]
        have own : Url.Undotted (Percent.encode id) := Url.encode_noDots (by simp [dot, dots])
        exact Url.resolve_segment collection own
    rw [← String.toList_inj, Url.path_toList, last]
    simp [root]
  · have dropped : Url.resolve [] ((init ++ ["resources"]) ++ [Percent.encode ".."]) =
        init ++ [""] := by
      rw [Url.resolve_doubleDot collection (by decide +kernel), List.dropLast_concat]
    rw [← String.toList_inj, Url.path_toList, dropped]
    simp [root]

theorem local_resources_addressed :
    let u : Url := ⟨"http", "localhost:8080", ["v1", ""], none⟩
    IsBase "http://localhost:8080/v1/" u ∧ ∃ place : String → Url,
      (∀ id allocated, (Request.mark id allocated).url?
        (Client.ofBaseUrl "http://localhost:8080/v1/" (.ofSeconds 30)) = some (place id)) ∧
      Addressing u place := by
  intro u
  have h : IsBase "http://localhost:8080/v1/" u := by
    refine ⟨by decide +kernel, by simp, ?_⟩
    unfold Url.Undotted
    decide +kernel
  exact ⟨h, resources_addressed h _⟩

/-- Two dots lead out of the collection, and one dot goes where no id at all goes. -/
theorem dots_not_addressed :
    let client := Client.ofBaseUrl "http://localhost:8080/v1/" (.ofSeconds 30)
    let path := fun id => ((Request.mark id false).url? client).map (·.path)
    path ".." = some "/v1/" ∧ path "." = path "" ∧ path "" = some "/v1/resources/" := by
  decide +kernel

end Brokerage.Remote
