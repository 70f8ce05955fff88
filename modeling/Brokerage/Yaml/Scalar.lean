import Brokerage.Json.Draft
import Brokerage.Yaml.Cursor

/-! # Scalars of a YAML text

Plain, quoted and block scalars. Lines are folded: one line break between two lines of words
becomes a space, each further one stays.
-/

namespace Brokerage.Yaml

/-- The blanks after a word: those before the first line break, that break, and the breaks after
it; `folded` is set once there was a break. -/
structure Gap where
  blanks : List Char
  first : List Char
  others : List Char
  folded : Bool

namespace Gap

/-- No blanks. -/
def none : Gap := ⟨[], [], [], false⟩

/-- What the blanks stand for between two words. -/
def text (g : Gap) : List Char :=
  if g.folded then
    if g.first = ['\n'] then (if g.others = [] then [' '] else g.others)
    else g.first ++ g.others
  else g.blanks

/-- Pass blanks and line breaks. Before the indentation given, a tab must not begin a line. -/
def scan (indent : Nat) : Nat → Gap → Cursor → Option (Gap × Cursor)
  | 0, g, c => some (g, c)
  | fuel + 1, g, c =>
    match c.rest with
    | [] => some (g, c)
    | b :: _ =>
      if isSpace b then
        if g.folded && c.column < indent && b = '\t' then Option.none
        else if g.folded then scan indent fuel g (c.skip 1)
        else scan indent fuel { g with blanks := g.blanks ++ [b] } (c.skip 1)
      else if isBreak b then
        if g.folded then scan indent fuel { g with others := g.others ++ c.lineEnd } c.skipLine
        else scan indent fuel { g with first := c.lineEnd, folded := true } c.skipLine
      else some (g, c)

end Gap

/-! ## Plain scalars -/

/-- Whether a character closes or separates something in brackets. -/
def isFlowMark (c : Char) : Bool := ",[]\x7b\x7d".toList.contains c

/-- Where a word of a plain scalar ends; none if a colon stands where none may. -/
def scanWord (inFlow : Bool) : List Char → Option (List Char)
  | [] => some []
  | c :: rest =>
    if isSpace c || isBreak c then some []
    else if inFlow && c = ':' && rest.head?.any (fun d => isFlowMark d || d = '?') then none
    else if c = ':' && endsWord rest then some []
    else if inFlow && isFlowMark c then some []
    else (scanWord inFlow rest).map (c :: ·)

/-- The words of a plain scalar, the cursor after it, and whether it ran over a line break. The
gap is what stands before the next word. -/
def scanPlain (inFlow : Bool) (indent : Nat) :
    Nat → List Char → Gap → Cursor → Option (List Char × Cursor × Bool)
  | 0, _, _, _ => none
  | fuel + 1, text, gap, c =>
    if c.atMarker || c.rest.head? = some '#' then some (text, c, gap.folded)
    else do
      let word ← scanWord inFlow c.rest
      let (text, gap) := if word = [] then (text, gap) else (text ++ gap.text ++ word, Gap.none)
      let c := c.skip word.length
      match c.rest with
      | b :: _ =>
        if isSpace b || isBreak b then
          let (gap, c) ← gap.scan indent (c.rest.length + 1) c
          if !inFlow && c.column < indent then some (text, c, gap.folded)
          else scanPlain inFlow indent fuel text gap c
        else some (text, c, gap.folded)
      | [] => some (text, c, gap.folded)

/-! ## Quoted scalars -/

/-- The character that one letter after a backslash stands for. -/
def escape? (c : Char) : Option Char :=
  if c = '0' then some '\x00'
  else if c = 'a' then some '\x07'
  else if c = 'b' then some '\x08'
  else if c = 't' || c = '\t' then some '\t'
  else if c = 'n' then some '\n'
  else if c = 'v' then some '\x0b'
  else if c = 'f' then some '\x0c'
  else if c = 'r' then some '\r'
  else if c = 'e' then some '\x1b'
  else if c = ' ' || c = '"' || c = '/' || c = '\\' then some c
  else if c = 'N' then some '\u0085'
  else if c = '_' then some '\u00a0'
  else if c = 'L' then some '\u2028'
  else if c = 'P' then some '\u2029'
  else none

/-- How many hexadecimal digits a letter after a backslash announces. -/
def escapeWidth (c : Char) : Nat :=
  if c = 'x' then 2 else if c = 'u' then 4 else if c = 'U' then 8 else 0

/-- The character of a number that is written in so many hexadecimal digits. -/
def scanCode (width : Nat) (input : List Char) : Option Char := do
  let digits ← (input.take width).mapM hexValue?
  let code := digits.foldl (fun n d => 16 * n + d) 0
  if digits.length = width && code.isValidChar then return Char.ofNat code else none

/-- How a stretch of a quoted scalar ends. -/
inductive Stretch where
  | closed
  | blank
  /-- At an escaped line break. -/
  | escapedBreak

/-- The characters of a quoted scalar up to the next blank or its end. -/
def scanStretch (single : Bool) : Nat → Cursor → Option (List Char × Stretch × Cursor)
  | 0, _ => none
  | fuel + 1, c =>
    match c.rest with
    | [] => some ([], .blank, c)
    | b :: rest =>
      if isSpace b || isBreak b then some ([], .blank, c)
      else if single && b = '\'' && rest.head? = some '\'' then do
        let (text, stop, c) ← scanStretch single fuel (c.skip 2)
        return ('\'' :: text, stop, c)
      else if b = (if single then '\'' else '"') then some ([], .closed, c.skip 1)
      else if !single && b = '\\' then
        match rest with
        | [] => none
        | e :: after =>
          if isBreak e then some ([], .escapedBreak, (c.skip 1).skipLine)
          else
            match escape? e, escapeWidth e with
            | some char, _ => do
              let (text, stop, c) ← scanStretch single fuel (c.skip 2)
              return (char :: text, stop, c)
            | none, 0 => none
            | none, width => do
              let char ← scanCode width after
              let (text, stop, c) ← scanStretch single fuel (c.skip (2 + width))
              return (char :: text, stop, c)
      else do
        let (text, stop, c) ← scanStretch single fuel (c.skip 1)
        return (b :: text, stop, c)

/-- The text of a quoted scalar after its opening quote, and the cursor after the closing one. -/
def scanQuoted (single : Bool) : Nat → Cursor → Option (List Char × Cursor)
  | 0, _ => none
  | fuel + 1, c =>
    if c.atMarker || c.rest = [] then none
    else do
      let (text, stop, c) ← scanStretch single (c.rest.length + 1) c
      match stop with
      | .closed => return (text, c)
      | .blank =>
        let (gap, c) ← Gap.none.scan 0 (c.rest.length + 1) c
        let (more, c) ← scanQuoted single fuel c
        return (text ++ gap.text ++ more, c)
      | .escapedBreak =>
        let (gap, c) ← Gap.scan 0 (c.rest.length + 1) { Gap.none with folded := true } c
        let (more, c) ← scanQuoted single fuel c
        return (text ++ gap.text ++ more, c)

/-! ## Block scalars -/

/-- What becomes of the line breaks at the end. -/
inductive Chomping where
  | strip
  | clip
  | keep
  deriving DecidableEq

/-- Pass indentation and empty lines: the breaks, the widest indentation, and the cursor. Without
an indentation given, all spaces count as such. -/
def scanBreaks (indent : Nat) : Nat → Nat → Cursor → Option (List Char × Nat × Cursor)
  | 0, _, _ => none
  | fuel + 1, widest, c =>
    let spaces := (c.rest.takeWhile (· = ' ')).length
    let c := c.skip (if indent = 0 then spaces else min spaces (indent - c.column))
    let widest := max widest c.column
    match c.rest with
    | b :: _ =>
      if (indent = 0 || c.column < indent) && b = '\t' then none
      else if isBreak b then do
        let (breaks, widest, after) ← scanBreaks indent fuel widest c.skipLine
        return (c.lineEnd ++ breaks, widest, after)
      else some ([], widest, c)
    | [] => some ([], widest, c)

/-- The lines of a block scalar. The line break before a line and the empty lines after it are
held back until another line follows. -/
def scanLines (literal : Bool) (chomping : Chomping) (indent : Nat) :
    Nat → Bool → List Char → List Char → Cursor → Option (List Char × Cursor)
  | 0, _, _, _, _ => none
  | fuel + 1, afterBlank, lead, breaks, c =>
    if c.column = indent && c.rest != [] then do
      let startsBlank := c.rest.head?.any isSpace
      let joint :=
        if !literal && lead = ['\n'] && !afterBlank && !startsBlank then
          (if breaks = [] then [' '] else [])
        else lead
      let line := c.rest.takeWhile fun b => !isBreak b
      let c := c.skip line.length
      let (more, _, after) ← scanBreaks indent (c.rest.length + 1) 0 c.skipLine
      let (text, after) ← scanLines literal chomping indent fuel startsBlank c.lineEnd more after
      return (joint ++ breaks ++ line ++ text, after)
    else
      let tail :=
        match chomping with
        | .strip => []
        | .clip => lead
        | .keep => lead ++ breaks
      some (tail, c)

/-- The indicators after the mark of a block scalar, in any order; a width is one to nine. -/
def scanIndicators (input : List Char) : Option (Chomping × Nat × Nat) :=
  let chomping? (c : Char) : Option Chomping :=
    if c = '+' then some .keep else if c = '-' then some .strip else none
  let width? (c : Char) : Option Nat := (digitValue? c).filter (· != 0)
  match input with
  | a :: b :: _ =>
    match chomping? a, width? a with
    | some chomping, _ =>
      match width? b with
      | some width => some (chomping, width, 2)
      | none => if b = '0' then none else some (chomping, 0, 1)
    | _, some width =>
      match chomping? b with
      | some chomping => some (chomping, width, 2)
      | none => some (.clip, width, 1)
    | none, none => if a = '0' then none else some (.clip, 0, 0)
  | [a] =>
    match chomping? a, width? a with
    | some chomping, _ => some (chomping, 0, 1)
    | _, some width => some (.clip, width, 1)
    | none, none => if a = '0' then none else some (.clip, 0, 0)
  | [] => some (.clip, 0, 0)

/-- The text of a block scalar after its mark, and the cursor after it. The parent's indentation
is given as the column one past it. -/
def scanBlock (literal : Bool) (inner : Nat) (c : Cursor) : Option (List Char × Cursor) := do
  let (chomping, width, count) ← scanIndicators c.rest
  let c := (c.skip count).skipWhile isSpace
  let c := if c.rest.head? = some '#' then c.skipWhile (fun b => !isBreak b) else c
  if !endsLine c.rest then none
  let c := c.skipLine
  let given := if width = 0 then 0 else if inner = 0 then width else inner - 1 + width
  let (breaks, widest, c) ← scanBreaks given (c.rest.length + 1) 0 c
  let indent := if given = 0 then max (max widest inner) 1 else given
  scanLines literal chomping indent (c.rest.length + 1) false [] breaks c

end Brokerage.Yaml
