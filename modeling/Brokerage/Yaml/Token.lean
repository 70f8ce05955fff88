import Brokerage.Yaml.Scalar

/-! # Tokens of a YAML text

A text is cut into tokens from left to right. Indentation becomes tokens of its own; a key that
has no mark is recognised by the colon behind it, so the token that announces it is put in
afterwards.
-/

namespace Brokerage.Yaml

/-- How a scalar was written. -/
inductive Style where
  | plain
  | quoted
  | block
  deriving DecidableEq, Repr, Inhabited

inductive Token where
  | directive
  | documentStart
  | documentEnd
  | blockSequenceStart
  | blockMappingStart
  | blockEnd
  | flowSequenceStart
  | flowSequenceEnd
  | flowMappingStart
  | flowMappingEnd
  | blockEntry
  | flowEntry
  | key
  | value
  | alias (name : String)
  | anchor (name : String)
  | tag (name : String)
  | scalar (text : String) (style : Style)
  deriving DecidableEq, Repr, Inhabited

namespace Token

/-- A place where a key without a mark may have begun. -/
structure KeyStart where
  /-- How many tokens stand before it. -/
  position : Nat
  index : Nat
  line : Nat
  column : Nat
  /-- Nothing but a key can begin here. -/
  required : Bool
  deriving Repr

/-- How far a text was cut. -/
structure Progress where
  cursor : Cursor
  /-- The tokens so far, oldest first. -/
  tokens : Array Token
  /-- The column of the innermost block, `-1` outside of blocks. -/
  indent : Int
  /-- The columns of the blocks around it, innermost first. -/
  outer : List Int
  keyAllowed : Bool
  /-- The possible key of each level of brackets, innermost first. -/
  keys : List (Option KeyStart)

namespace Progress

def start (text : List Char) : Progress := ⟨.ofText text, #[], -1, [], true, [none]⟩

def flowLevel (p : Progress) : Nat := p.keys.length - 1

def inFlow (p : Progress) : Bool := 0 < p.flowLevel

def emit (p : Progress) (token : Token) : Progress := { p with tokens := p.tokens.push token }

/-- Put a token before those from a position on. -/
def emitAt (p : Progress) (position : Nat) (token : Token) : Progress :=
  { p with tokens := p.tokens.insertIdxIfInBounds position token }

def skip (p : Progress) (count : Nat) : Progress := { p with cursor := p.cursor.skip count }

/-- Forget the possible key of the innermost level. A required key must not be forgotten. -/
def dropKey (p : Progress) : Option Progress :=
  match p.keys with
  | some start :: rest => if start.required then none else some { p with keys := none :: rest }
  | _ => some p

/-- Forget possible keys that are out of reach: a key stands on one line and has at most 1024
characters. -/
def dropStaleKeys (p : Progress) : Option Progress := do
  let keys ← p.keys.mapM fun
    | none => some none
    | some start =>
      if start.line < p.cursor.line || start.index + 1024 < p.cursor.index then
        (if start.required then none else some none)
      else some (some start)
  return { p with keys }

/-- Remember that a key may begin here. -/
def saveKey (p : Progress) : Option Progress :=
  if !p.keyAllowed then some p
  else do
    let p ← p.dropKey
    let required := !p.inFlow && p.indent = p.cursor.column
    let key : KeyStart :=
      ⟨p.tokens.size, p.cursor.index, p.cursor.line, p.cursor.column, required⟩
    return { p with keys := some key :: p.keys.drop 1 }

/-- Open a block at a column, unless one is open there. -/
def openBlock (p : Progress) (column : Nat) (token : Token) (position : Option Nat) : Progress :=
  if p.inFlow || column ≤ p.indent then p
  else
    let p := { p with indent := column, outer := p.indent :: p.outer }
    match position with
    | some position => p.emitAt position token
    | none => p.emit token

/-- Close the blocks beyond a column. -/
def closeBlocks (column : Int) : Nat → Progress → Progress
  | 0, p => p
  | fuel + 1, p =>
    if p.inFlow || p.indent ≤ column then p
    else
      closeBlocks column fuel
        { p.emit .blockEnd with indent := p.outer.headD (-1), outer := p.outer.tail }

/-- Close the blocks beyond a column, however many there are. -/
def unroll (p : Progress) (column : Int) : Progress := closeBlocks column (p.outer.length + 1) p

/-- Pass blanks, comments and line breaks. A tab is no blank where a key may begin. -/
def skipBlanks : Nat → Progress → Progress
  | 0, p => p
  | fuel + 1, p =>
    let tabs := p.inFlow || !p.keyAllowed
    let c := p.cursor.skipWhile fun b => b = ' ' || tabs && b = '\t'
    let c := if c.rest.head? = some '#' then c.skipWhile (fun b => !isBreak b) else c
    match c.rest with
    | b :: _ =>
      if isBreak b then
        skipBlanks fuel { p with cursor := c.skipLine, keyAllowed := p.keyAllowed || !p.inFlow }
      else { p with cursor := c }
    | [] => { p with cursor := c }

/-- Whether a directive is one of those that a text may begin with. -/
def isDirective (line : List Char) : Bool :=
  let words := ((String.ofList line).splitOn " ").filter (· != "")
  match words with
  | "%YAML" :: version :: rest =>
    (version = "1.1" || version = "1.2") && (rest.head?.all fun w => w.startsWith "#")
  | ["%TAG", handle, _] => handle.startsWith "!"
  | _ => false

/-- A marker or directive closes every block. -/
def endBlocks (p : Progress) : Option Progress := do
  let p ← (p.unroll (-1)).dropKey
  return { p with keyAllowed := false }

/-- An opening bracket may begin a key and opens a level of its own. -/
def openFlow (p : Progress) (token : Token) : Option Progress := do
  let p ← p.saveKey
  return ({ p with keys := none :: p.keys, keyAllowed := true }.emit token).skip 1

def closeFlow (p : Progress) (token : Token) : Option Progress := do
  let p ← p.dropKey
  let keys := if p.inFlow then p.keys.tail else p.keys
  return ({ p with keys, keyAllowed := false }.emit token).skip 1

def flowEntry (p : Progress) : Option Progress := do
  let p ← p.dropKey
  return ({ p with keyAllowed := true }.emit .flowEntry).skip 1

/-- Open a block of the given kind for an indicator that stands here. -/
def enterBlock (p : Progress) (token : Token) : Option Progress :=
  if p.inFlow then some p
  else if p.keyAllowed then some (p.openBlock p.cursor.column token none)
  else none

def blockEntry (p : Progress) : Option Progress := do
  let p ← (← p.enterBlock .blockSequenceStart).dropKey
  return ({ p with keyAllowed := true }.emit .blockEntry).skip 1

def markedKey (p : Progress) : Option Progress := do
  let p ← (← p.enterBlock .blockMappingStart).dropKey
  return ({ p with keyAllowed := !p.inFlow }.emit .key).skip 1

/-- A colon: what stands before it is a key, if a key may have begun there. -/
def value (p : Progress) : Option Progress := do
  match p.keys with
  | some start :: rest =>
    let p := { p.emitAt start.position .key with keys := none :: rest, keyAllowed := false }
    let p := p.openBlock start.column .blockMappingStart (some start.position)
    return (p.emit .value).skip 1
  | _ =>
    let p ← p.enterBlock .blockMappingStart
    return ({ p with keyAllowed := !p.inFlow }.emit .value).skip 1

/-- Whether a character may stand in the name of an anchor. -/
def isNameChar (c : Char) : Bool := c.isAlphanum || c = '_' || c = '-'

/-- An alias or an anchor. -/
def name (p : Progress) (token : String → Token) : Option Progress := do
  let p ← p.saveKey
  let name := (p.cursor.rest.drop 1).takeWhile isNameChar
  let p := { p with keyAllowed := false }.skip (1 + name.length)
  let ends :=
    match p.cursor.rest with
    | c :: _ => endsWord p.cursor.rest || "?:,]\x7d%@`".toList.contains c
    | [] => true
  if name = [] || !ends then none
  return p.emit (token (String.ofList name))

/-- A tag, with its shorthand for the standard types spelled out. -/
def tag (p : Progress) : Option Progress := do
  let p ← p.saveKey
  let written := p.cursor.rest.takeWhile fun c =>
    !isSpace c && !isBreak c && !(p.inFlow && isFlowMark c)
  let name ←
    match written with
    | '!' :: '<' :: uri =>
      if uri.getLast? = some '>' then some uri.dropLast else none
    | '!' :: '!' :: suffix => some ("tag:yaml.org,2002:".toList ++ suffix)
    | written => if (written.drop 1).contains '!' then none else some written
  let p := { p with keyAllowed := false }.skip written.length
  return p.emit (.tag (String.ofList name))

def quoted (p : Progress) (single : Bool) : Option Progress := do
  let p ← p.saveKey
  let c := p.cursor.skip 1
  let (text, c) ← scanQuoted single (c.rest.length + 1) c
  return { p with cursor := c, keyAllowed := false }.emit (.scalar (String.ofList text) .quoted)

def block (p : Progress) (literal : Bool) : Option Progress := do
  let p ← p.dropKey
  let (text, c) ← scanBlock literal (p.indent + 1).toNat (p.cursor.skip 1)
  return { p with cursor := c, keyAllowed := true }.emit (.scalar (String.ofList text) .block)

def plain (p : Progress) : Option Progress := do
  let p ← p.saveKey
  let indent := (p.indent + 1).toNat
  let (text, c, overBreak) ←
    scanPlain p.inFlow indent (p.cursor.rest.length + 1) [] Gap.none p.cursor
  return { p with cursor := c, keyAllowed := overBreak }.emit
    (.scalar (String.ofList text) .plain)

/-- Whether a plain scalar may begin with these characters. -/
def beginsPlain (inFlow : Bool) : List Char → Bool
  | [] => false
  | c :: rest =>
    if isSpace c || isBreak c then false
    else if c = '-' then rest.head?.any fun d => !isSpace d
    else if c = '?' || c = ':' then !inFlow && !endsWord rest
    else !",[]\x7b\x7d#&*!|>'\"%@`".toList.contains c

/-- Cut off the next token. -/
def step (p : Progress) : Option Progress := do
  let p := p.unroll p.cursor.column
  match p.cursor.rest with
  | [] => none
  | c :: rest =>
    if p.cursor.column = 0 && c = '%' then
      let p ← p.endBlocks
      let line := p.cursor.rest.takeWhile fun b => !isBreak b
      if !isDirective line then none
      return (p.skip line.length).emit .directive
    else if p.cursor.atMarker then
      let p ← p.endBlocks
      return (p.emit (if c = '-' then .documentStart else .documentEnd)).skip 3
    else if c = '[' then p.openFlow .flowSequenceStart
    else if c = '{' then p.openFlow .flowMappingStart
    else if c = ']' then p.closeFlow .flowSequenceEnd
    else if c = '}' then p.closeFlow .flowMappingEnd
    else if c = ',' then p.flowEntry
    else if c = '-' && endsWord rest then p.blockEntry
    else if c = '?' && (p.inFlow || endsWord rest) then p.markedKey
    else if c = ':' && (p.inFlow || endsWord rest) then p.value
    else if c = '*' then p.name .alias
    else if c = '&' then p.name .anchor
    else if c = '!' then p.tag
    else if c = '|' && !p.inFlow then p.block true
    else if c = '>' && !p.inFlow then p.block false
    else if c = '\'' then p.quoted true
    else if c = '"' then p.quoted false
    else if beginsPlain p.inFlow p.cursor.rest then p.plain
    else none

/-- Cut a text to its end. Every token takes at least one character. -/
def finish : Nat → Progress → Option Progress
  | 0, _ => none
  | fuel + 1, p => do
    let p ← (skipBlanks (p.cursor.rest.length + 1) p).dropStaleKeys
    if p.cursor.rest = [] then
      let p := { p with cursor := { p.cursor with line := p.cursor.line + 1, column := 0 } }
      (p.unroll (-1)).dropKey
    else finish fuel (← p.step)

end Progress

/-- The tokens of a text; none if it cannot be cut. -/
def ofText? (text : String) : Option (List Token) :=
  let text :=
    match text.toList with
    | '\uFEFF' :: rest => rest
    | text => text
  if text.all isPrintable then
    (Progress.finish (text.length + 1) (.start text)).map (·.tokens.toList)
  else none

end Token
end Brokerage.Yaml
