import RequestAuth.Yaml.Scan

/-! From tokens to the events of a document: its texts, and where lists and maps start and end. -/

namespace RequestAuth.Yaml

structure Properties where
  anchor : Option String
  tag : Option String
  deriving DecidableEq

inductive Event where
  | documentStart
  | documentEnd
  | streamEnd
  | alias (name : String)
  | scalar (text : String) (style : Style) (properties : Properties)
  | listStart (properties : Properties)
  | listEnd
  | mapStart (properties : Properties)
  | mapEnd
  deriving DecidableEq

inductive State where
  | streamStart
  | documentStart (implicit : Bool)
  | documentContent
  | documentEnd
  | blockNode
  | blockList (first : Bool)
  | plainList
  | blockKey (first : Bool)
  | blockValue
  | flowList (first : Bool)
  | flowPairKey
  | flowPairValue
  | flowPairEnd
  | flowKey (first : Bool)
  | flowValue (empty : Bool)
  | done
  deriving DecidableEq

structure Parser where
  scanner : Scanner
  state : State
  states : List State
  marks : List Mark
  handles : List (String × String)

namespace Parser

abbrev Step (α : Type) := StateT Parser (Except Fault) α

def scan (x : Scanner.Step α) : Step α := do
  let p ← get
  let (a, s) ← StateT.lift (x p.scanner)
  set { p with scanner := s }
  return a

def peek : Step Token := scan Scanner.peek

def drop : Step Unit := scan Scanner.drop

def next : Step Token := do
  drop
  peek

def goTo (s : State) : Step Unit := modify fun p => { p with state := s }

def push (s : State) : Step Unit := modify fun p => { p with states := s :: p.states }

def pop : Step Unit := modify fun p => { p with state := p.states.head?.getD .done, states := p.states.tail }

def openMark (m : Mark) : Step Unit := modify fun p => { p with marks := m :: p.marks }

def closeMark : Step Unit := modify fun p => { p with marks := p.marks.tail }

def fail (problem : String) (t : Token) (context : Option (String × Mark)) : Step α :=
  throw ⟨problem, t.start, context⟩

def failInside (problem context : String) (t : Token) : Step α := do
  fail problem t (some (context, (← get).marks.head?.getD t.start))

def bare : Properties := ⟨none, none⟩

def emptyAt (m : Mark) : Step (Event × Mark) := return (.scalar "" .plain bare, m)

def commonHandles : List (String × String) := [("!", "!"), ("!!", "tag:yaml.org,2002:")]

def resolveTag (start : Mark) (t : Token) (handle suffix : String) : Step (Option String) := do
  if handle = "" then return some suffix
  match ((← get).handles ++ commonHandles).lookup handle with
  | some expansion => return some (expansion ++ suffix)
  | none => fail "found undefined tag handle" t (some ("while parsing a node", start))

def properties : Step (Properties × Mark × Token) := do
  let t ← peek
  match t.kind with
  | .anchor a => do
    let u ← next
    match u.kind with
    | .tag h s => do
      let v ← next
      return (⟨some a, ← resolveTag t.start u h s⟩, t.start, v)
    | _ => return (⟨some a, none⟩, t.start, u)
  | .tag h s => do
    let u ← next
    match u.kind with
    | .anchor a => do
      let v ← next
      return (⟨some a, ← resolveTag t.start t h s⟩, t.start, v)
    | _ => return (⟨none, ← resolveTag t.start t h s⟩, t.start, u)
  | _ => return (bare, t.start, t)

/-- A list may stand in a block without being indented. -/
def node (inBlock plainListAllowed : Bool) : Step (Event × Mark) := do
  let t ← peek
  match t.kind with
  | .alias n => do
    pop
    drop
    return (.alias n, t.start)
  | _ => do
    let (a, start, t) ← properties
    match t.kind with
    | .scalar text style => do
      pop
      drop
      let a := if a.tag = some "!" then { a with tag := none } else a
      return (.scalar text style a, start)
    | .flowSequenceStart => do goTo (.flowList true); return (.listStart a, start)
    | .flowMappingStart => do goTo (.flowKey true); return (.mapStart a, start)
    | k =>
      if plainListAllowed && k = .blockEntry then goTo .plainList; return (.listStart a, start)
      else if inBlock && k = .blockSequenceStart then goTo (.blockList true); return (.listStart a, start)
      else if inBlock && k = .blockMappingStart then goTo (.blockKey true); return (.mapStart a, start)
      else if a.anchor.isSome || a.tag.isSome then pop; return (.scalar "" .plain a, start)
      else
        fail "did not find expected node content" t
          (some (if inBlock then "while parsing a block node" else "while parsing a flow node", start))

def nodeThen (s : State) (inBlock plainListAllowed : Bool) : Step (Event × Mark) := do
  push s
  node inBlock plainListAllowed

def emptyThen (s : State) (m : Mark) : Step (Event × Mark) := do
  goTo s
  emptyAt m

def endWith (e : Event) (t : Token) : Step (Event × Mark) := do
  pop
  closeMark
  drop
  return (e, t.start)

def enter (first : Bool) : Step Unit := do
  if first then
    openMark (← peek).start
    drop

def skipDocumentEnds : Nat → Step Token
  | 0 => peek
  | fuel + 1 => do
    let t ← peek
    if t.kind = .documentEnd then
      drop
      skipDocumentEnds fuel
    else return t

/-- At most one version, and each handle once. -/
def directives : Nat → Bool → Step Token
  | 0, _ => peek
  | fuel + 1, versioned => do
    let t ← peek
    match t.kind with
    | .version major minor => do
      if versioned then fail "found duplicate %YAML directive" t none
      if major ≠ 1 || (minor ≠ 1 && minor ≠ 2) then fail "found incompatible YAML document" t none
      drop
      directives fuel true
    | .tagHandle handle expansion => do
      if ((← get).handles.lookup handle).isSome then fail "found duplicate %TAG directive" t none
      modify fun p => { p with handles := (handle, expansion) :: p.handles }
      drop
      directives fuel versioned
    | _ => return t

def isDirective : Kind → Bool
  | .version _ _ | .tagHandle _ _ => true
  | _ => false

/-- Only the first document may start without a mark. -/
def documentStart (implicit : Bool) : Step (Event × Mark) := do
  let fuel := (← get).scanner.cursor.rest.length + 1
  let t ← if implicit then peek else skipDocumentEnds fuel
  match t.kind with
  | .streamEnd => do
    goTo .done
    return (.streamEnd, t.start)
  | k =>
    if implicit && !isDirective k && k != .documentStart then do
      push .documentEnd
      goTo .blockNode
      return (.documentStart, t.start)
    else do
      let u ← directives fuel false
      if u.kind ≠ .documentStart then fail "did not find expected <document start>" u none
      push .documentEnd
      goTo .documentContent
      drop
      return (.documentStart, t.start)

def documentContent : Step (Event × Mark) := do
  let t ← peek
  if isDirective t.kind || [Kind.documentStart, .documentEnd, .streamEnd].contains t.kind then
    pop
    emptyAt t.start
  else node true false

def documentEnd : Step (Event × Mark) := do
  let t ← peek
  if t.kind = .documentEnd then drop
  modify fun p => { p with handles := [] }
  goTo (.documentStart false)
  return (.documentEnd, t.start)

def blockList (first : Bool) : Step (Event × Mark) := do
  enter first
  let t ← peek
  match t.kind with
  | .blockEntry => do
    let u ← next
    if u.kind = .blockEntry || u.kind = .blockEnd then emptyThen (.blockList false) t.stop
    else nodeThen (.blockList false) true false
  | .blockEnd => endWith .listEnd t
  | _ => failInside "did not find expected '-' indicator" "while parsing a block collection" t

def plainList : Step (Event × Mark) := do
  let t ← peek
  match t.kind with
  | .blockEntry => do
    let u ← next
    if [Kind.blockEntry, .key, .value, .blockEnd].contains u.kind then emptyThen .plainList t.stop
    else nodeThen .plainList true false
  | _ => do
    pop
    return (.listEnd, t.start)

def blockPart (t : Token) (after : State) : Step (Event × Mark) := do
  let u ← next
  if [Kind.key, .value, .blockEnd].contains u.kind then emptyThen after t.stop
  else nodeThen after true true

def blockKey (first : Bool) : Step (Event × Mark) := do
  enter first
  let t ← peek
  match t.kind with
  | .key => blockPart t .blockValue
  | .blockEnd => endWith .mapEnd t
  | _ => failInside "did not find expected key" "while parsing a block mapping" t

def blockValue : Step (Event × Mark) := do
  let t ← peek
  match t.kind with
  | .value => blockPart t (.blockKey false)
  | _ => emptyThen (.blockKey false) t.start

def flowList (first : Bool) : Step (Event × Mark) := do
  enter first
  let t ← peek
  if t.kind = .flowSequenceEnd then endWith .listEnd t
  else
    let t ← if first then pure t
      else if t.kind = .flowEntry then next
      else failInside "did not find expected ',' or ']'" "while parsing a flow sequence" t
    match t.kind with
    | .key => do
      goTo .flowPairKey
      drop
      return (.mapStart bare, t.start)
    | .flowSequenceEnd => endWith .listEnd t
    | _ => nodeThen (.flowList false) false false

def flowPairKey : Step (Event × Mark) := do
  let t ← peek
  if [Kind.value, .flowEntry, .flowSequenceEnd].contains t.kind then
    drop
    emptyThen .flowPairValue t.stop
  else nodeThen .flowPairValue false false

def flowPairValue : Step (Event × Mark) := do
  let t ← peek
  if t.kind = .value then
    let u ← next
    if [Kind.flowEntry, .flowSequenceEnd].contains u.kind then emptyThen .flowPairEnd u.start
    else nodeThen .flowPairEnd false false
  else emptyThen .flowPairEnd t.start

def flowPairEnd : Step (Event × Mark) := do
  let t ← peek
  goTo (.flowList false)
  return (.mapEnd, t.start)

def flowKey (first : Bool) : Step (Event × Mark) := do
  enter first
  let t ← peek
  if t.kind = .flowMappingEnd then endWith .mapEnd t
  else
    let t ← if first then pure t
      else if t.kind = .flowEntry then next
      else failInside "did not find expected ',' or '\x7d'" "while parsing a flow mapping" t
    match t.kind with
    | .key => do
      let u ← next
      if [Kind.value, .flowEntry, .flowMappingEnd].contains u.kind then
        emptyThen (.flowValue false) u.start
      else nodeThen (.flowValue false) false false
    | .flowMappingEnd => endWith .mapEnd t
    | _ => nodeThen (.flowValue true) false false

def flowValue (empty : Bool) : Step (Event × Mark) := do
  let t ← peek
  if !empty && t.kind = .value then
    let u ← next
    if [Kind.flowEntry, .flowMappingEnd].contains u.kind then emptyThen (.flowKey false) u.start
    else nodeThen (.flowKey false) false false
  else emptyThen (.flowKey false) t.start

def event : Step (Event × Mark) := do
  match (← get).state with
  | .streamStart => do
    let _ ← peek
    drop
    goTo (.documentStart true)
    documentStart true
  | .documentStart implicit => documentStart implicit
  | .documentContent => documentContent
  | .documentEnd => documentEnd
  | .blockNode => node true false
  | .blockList first => blockList first
  | .plainList => plainList
  | .blockKey first => blockKey first
  | .blockValue => blockValue
  | .flowList first => flowList first
  | .flowPairKey => flowPairKey
  | .flowPairValue => flowPairValue
  | .flowPairEnd => flowPairEnd
  | .flowKey first => flowKey first
  | .flowValue empty => flowValue empty
  | .done => return (.streamEnd, (← get).scanner.here)

/-- The events up to the first problem. -/
def events : Nat → Parser → List (Event × Mark) × Option Fault
  | 0, _ => ([], none)
  | fuel + 1, p =>
    match event p with
    | .error f => ([], some f)
    | .ok ((.streamEnd, m), _) => ([(.streamEnd, m)], none)
    | .ok (e, p) =>
      let (es, f) := events fuel p
      (e :: es, f)

end Parser

def forbiddenAt? : Nat → List Char → Option Nat
  | _, [] => none
  | n, c :: r => if isAllowed c then forbiddenAt? (n + c.utf8Size) r else some n

def events (text : String) : List (Event × Mark) × Option Fault :=
  match forbiddenAt? 0 text.toList with
  | some n => ([], some ⟨"control characters are not allowed", ⟨n, 0, 0⟩, none⟩)
  | none =>
    Parser.events (8 * text.length + 16) ⟨Scanner.ofText text.toList, .streamStart, [], [], []⟩

end RequestAuth.Yaml
