import RequestAuth.Yaml.Tag

/-! Splitting a YAML document into tokens. Indentation becomes tokens that open and close blocks. That a
text is a key shows only at the colon after it, so the place of a possible key is remembered. -/

namespace RequestAuth.Yaml

inductive Kind where
  | streamStart
  | streamEnd
  | version (major minor : Nat)
  | tagHandle (handle expansion : String)
  | documentStart
  | documentEnd
  | blockSequenceStart
  | blockMappingStart
  | blockEnd
  | flowSequenceStart
  | flowSequenceEnd
  | flowMappingStart
  | flowMappingEnd
  | blockEntry
  | flowEntry
  | key
  | value
  | alias (name : String)
  | anchor (name : String)
  | tag (handle suffix : String)
  | scalar (text : String) (style : Style)
  deriving DecidableEq

structure Token where
  kind : Kind
  start : Mark
  stop : Mark

/-- Where a key may have started. A required one must turn out to be a key. -/
structure PossibleKey where
  required : Bool
  number : Nat
  mark : Mark

structure Scanner where
  cursor : Cursor
  queue : List Token
  taken : Nat
  started : Bool
  finished : Bool
  indent : Int
  indents : List Int
  keyAllowed : Bool
  keys : List (Option PossibleKey)

namespace Scanner

abbrev Step (α : Type) := StateT Scanner (Except Fault) α

def ofText (cs : List Char) : Scanner :=
  ⟨⟨cs, .start⟩, [], 0, false, false, -1, [], false, []⟩

def inFlow (s : Scanner) : Bool := 1 < s.keys.length

def here (s : Scanner) : Mark := s.cursor.mark

def failAt (problem : String) (m : Mark) (context : Option (String × Mark)) : Step α :=
  throw ⟨problem, m, context⟩

def lift (x : Except Fault α) : Step α := StateT.lift x

def emit (t : Token) : Step Unit := modify fun s => { s with queue := s.queue ++ [t] }

def insertAt (number : Nat) (t : Token) : Step Unit := modify fun s =>
  let n := number - s.taken
  { s with queue := s.queue.take n ++ t :: s.queue.drop n }

def sign (kind : Kind) (n : Nat) : Step Unit := do
  let s ← get
  let c := s.cursor.advance n
  set { s with cursor := c }
  emit ⟨kind, s.here, c.mark⟩

def allowKey (b : Bool) : Step Unit := modify fun s => { s with keyAllowed := b }

def missingColon (k : PossibleKey) : Step α := do
  failAt "could not find expected ':'" (← get).here (some ("while scanning a simple key", k.mark))

def setKey (k : Option PossibleKey) : Step Unit := modify fun s => { s with keys := k :: s.keys.tail }

/-- A key ends on its line and within 1024 characters. -/
def isStale (now : Mark) (k : PossibleKey) : Bool := k.mark.line < now.line || k.mark.index + 1024 < now.index

def dropStale : List (Option PossibleKey) → Step (List (Option PossibleKey))
  | [] => return []
  | none :: r => return none :: (← dropStale r)
  | some k :: r => do
    if isStale (← get).here k then
      if k.required then missingColon k
      return none :: (← dropStale r)
    else return some k :: (← dropStale r)

def forgetStale : Step Unit := do
  let keys ← dropStale (← get).keys.reverse
  modify fun s => { s with keys := keys.reverse }

def forgetKey : Step Unit := do
  match (← get).keys.head? with
  | some (some k) => do
    if k.required then missingColon k
    setKey none
  | _ => return ()

def rememberKey : Step Unit := do
  let s ← get
  if s.keyAllowed then
    forgetKey
    setKey (some ⟨!s.inFlow && s.indent == s.here.column, s.taken + s.queue.length, s.here⟩)

def openBlock (m : Mark) (number : Option Nat) (kind : Kind) : Step Unit := do
  let s ← get
  if !s.inFlow && s.indent < m.column then
    set { s with indents := s.indent :: s.indents, indent := m.column }
    match number with
    | some n => insertAt n ⟨kind, m, m⟩
    | none => emit ⟨kind, m, m⟩

def closeBlocks (column : Int) : Nat → Step Unit
  | 0 => return ()
  | fuel + 1 => do
    let s ← get
    if !s.inFlow && column < s.indent then
      emit ⟨.blockEnd, s.here, s.here⟩
      modify fun s => { s with indent := s.indents.head?.getD (-1), indents := s.indents.tail }
      closeBlocks column fuel

def closeAll (column : Int) : Step Unit := do closeBlocks column ((← get).indents.length + 1)

def toNextToken : Nat → Step Unit
  | 0 => return ()
  | fuel + 1 => do
    let s ← get
    let c := s.cursor
    let c := if c.mark.column == 0 && c.startsWith (Char.ofNat 0xfeff) then c.advance 1 else c
    let (_, c) := c.span fun x => x == ' ' || ((s.inFlow || !s.keyAllowed) && x == '\t')
    let c := if c.startsWith '#' then (c.span fun x => !isBreak x).2 else c
    if c.isBefore isBreak then
      set { s with cursor := c.lineEnd.2, keyAllowed := s.keyAllowed || !s.inFlow }
      toNextToken fuel
    else set { s with cursor := c }

def streamStart : Step Unit := do
  modify fun s => { s with started := true, keyAllowed := true, keys := [none] }
  emit ⟨.streamStart, .start, .start⟩

def streamEnd : Step Unit := do
  modify fun s =>
    if s.here.column = 0 then s
    else { s with cursor.mark := { s.here with line := s.here.line + 1, column := 0 } }
  closeAll (-1)
  forgetKey
  allowKey false
  modify fun s => { s with finished := true }
  sign .streamEnd 0

def directiveValue (start : Mark) (name : List Char) (c : Cursor) : Except Fault (Kind × Cursor) :=
  if name = ['Y', 'A', 'M', 'L'] then do
    let (major, minor, c) ← version start c
    return (.version major minor, c)
  else if name = ['T', 'A', 'G'] then do
    let (handle, expansion, c) ← tagHandle start c
    return (.tagHandle handle expansion, c)
  else c.fail "found unknown directive name" (directiveContext start)

def directive : Step Unit := do
  closeAll (-1)
  forgetKey
  allowKey false
  let s ← get
  let (name, c) ← lift (directiveName s.here (s.cursor.advance 1))
  let (kind, c) ← lift (directiveValue s.here name c)
  let r ← lift (c.lineRest (directiveContext s.here))
  set { s with cursor := r }
  emit ⟨kind, s.here, c.mark⟩

def documentMarker (kind : Kind) : Step Unit := do
  closeAll (-1)
  forgetKey
  allowKey false
  sign kind 3

def openFlow (kind : Kind) : Step Unit := do
  rememberKey
  modify fun s => { s with keys := none :: s.keys }
  allowKey true
  sign kind 1

def closeFlow (kind : Kind) : Step Unit := do
  forgetKey
  modify fun s => if s.inFlow then { s with keys := s.keys.tail } else s
  allowKey false
  sign kind 1

def flowEntry : Step Unit := do
  forgetKey
  allowKey true
  sign .flowEntry 1

def openEntry (kind : Kind) (problem : String) : Step Unit := do
  let s ← get
  if !s.inFlow then
    if !s.keyAllowed then failAt problem s.here none
    openBlock s.here none kind

def blockEntry : Step Unit := do
  openEntry .blockSequenceStart "block sequence entries are not allowed in this context"
  forgetKey
  allowKey true
  sign .blockEntry 1

def key : Step Unit := do
  openEntry .blockMappingStart "mapping keys are not allowed in this context"
  forgetKey
  allowKey !(← get).inFlow
  sign .key 1

def value : Step Unit := do
  match (← get).keys.head? with
  | some (some k) => do
    insertAt k.number ⟨.key, k.mark, k.mark⟩
    openBlock k.mark (some k.number) .blockMappingStart
    setKey none
    allowKey false
  | _ => do
    openEntry .blockMappingStart "mapping values are not allowed in this context"
    allowKey !(← get).inFlow
  sign .value 1

def name (kind : String → Kind) (context : String) : Step Unit := do
  rememberKey
  allowKey false
  let s ← get
  let (cs, c) := (s.cursor.advance 1).span isWordChar
  let ended := atBlank c.rest || c.isBefore fun x => ['?', ':', ',', ']', '\x7d', '%', '@', '\x60'].contains x
  if cs = [] || !ended then
    lift (c.fail "did not find expected alphabetic or numeric character" (some (context, s.here)))
  set { s with cursor := c }
  emit ⟨kind (String.ofList cs), s.here, c.mark⟩

def tag : Step Unit := do
  rememberKey
  allowKey false
  let s ← get
  let (handle, suffix, c) ← lift (tagParts s.here s.cursor)
  if !(atBlank c.rest || (s.inFlow && c.startsWith ',')) then
    lift (c.fail "did not find expected whitespace or line break" (some ("while scanning a tag", s.here)))
  set { s with cursor := c }
  emit ⟨.tag handle suffix, s.here, c.mark⟩

def blockScalar (literal : Bool) : Step Unit := do
  forgetKey
  allowKey true
  let s ← get
  let (cs, stop, c) ← lift (block literal s.indent s.cursor)
  set { s with cursor := c }
  emit ⟨.scalar (String.ofList cs) (if literal then .literal else .folded), s.here, stop⟩

def quotedScalar (double : Bool) : Step Unit := do
  rememberKey
  allowKey false
  let s ← get
  let (cs, c) ← lift (quotedText double s.cursor)
  set { s with cursor := c }
  emit ⟨.scalar (String.ofList cs) (if double then .doubleQuoted else .singleQuoted), s.here, c.mark⟩

def plainScalar : Step Unit := do
  rememberKey
  allowKey false
  let s ← get
  let (p, c) ← lift (plain s.inFlow (s.indent + 1) s.cursor)
  set { s with cursor := c, keyAllowed := p.lineEnded }
  emit ⟨.scalar (String.ofList p.text) .plain, s.here, p.stop⟩

def isIndicator (x : Char) : Bool :=
  ['-', '?', ':', ',', '[', ']', '\x7b', '\x7d', '#', '&', '*', '!', '|', '>', '\'', '"', '%', '@',
    '\x60'].contains x

def startsPlain (inFlow : Bool) (x : Char) (r : List Char) : Bool :=
  !(isBlankChar x || isBreak x || isIndicator x) ||
    (x == '-' && !r.head?.any isBlankChar) ||
    (!inFlow && (x == '?' || x == ':') && !atBlank r)

def nextToken : Step Unit := do
  if !(← get).started then streamStart
  else
    toNextToken ((← get).cursor.rest.length + 1)
    forgetStale
    closeAll (← get).here.column
    let s ← get
    let c := s.cursor
    match c.rest with
    | [] => streamEnd
    | x :: r =>
      if c.mark.column == 0 && x == '%' then directive
      else if c.isMarker '-' then documentMarker .documentStart
      else if c.isMarker '.' then documentMarker .documentEnd
      else if x == '[' then openFlow .flowSequenceStart
      else if x == '\x7b' then openFlow .flowMappingStart
      else if x == ']' then closeFlow .flowSequenceEnd
      else if x == '\x7d' then closeFlow .flowMappingEnd
      else if x == ',' then flowEntry
      else if x == '-' && atBlank r then blockEntry
      else if x == '?' && (s.inFlow || atBlank r) then key
      else if x == ':' && (s.inFlow || atBlank r) then value
      else if x == '*' then name .alias "while scanning an alias"
      else if x == '&' then name .anchor "while scanning an anchor"
      else if x == '!' then tag
      else if x == '|' && !s.inFlow then blockScalar true
      else if x == '>' && !s.inFlow then blockScalar false
      else if x == '\'' then quotedScalar false
      else if x == '"' then quotedScalar true
      else if startsPlain s.inFlow x r then plainScalar
      else
        failAt "found character that cannot start any token" c.mark
          (some ("while scanning for the next token", c.mark))

/-- Whether the next token is certain: it is there and cannot turn out to follow a key. -/
def isReady (s : Scanner) : Bool :=
  !s.queue.isEmpty && !s.keys.any fun k => k.any fun k => k.number == s.taken

def fill : Nat → Step Unit
  | 0 => return ()
  | fuel + 1 => do
    if !(← get).queue.isEmpty then forgetStale
    let s ← get
    if !(s.isReady || s.finished) then
      nextToken
      fill fuel

def peek : Step Token := do
  let s ← get
  fill (s.cursor.rest.length + 3)
  let s ← get
  return s.queue.head?.getD ⟨.streamEnd, s.here, s.here⟩

def drop : Step Unit := modify fun s => { s with queue := s.queue.tail, taken := s.taken + 1 }

end Scanner
end RequestAuth.Yaml
