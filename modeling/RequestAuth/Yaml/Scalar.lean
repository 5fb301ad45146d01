import RequestAuth.Yaml.Cursor

/-! Texts in YAML: plain, quoted, and blocks of lines. -/

namespace RequestAuth.Yaml

inductive Style where
  | plain
  | singleQuoted
  | doubleQuoted
  | literal
  | folded
  deriving DecidableEq

/-- Blanks and line ends between words. After the first line end, blanks do not count. -/
structure Gap where
  blanks : List Char
  first : Option (List Char)
  more : List Char

namespace Gap

def empty : Gap := ⟨[], none, []⟩

def addBlanks (g : Gap) (cs : List Char) : Gap :=
  if g.first.isSome then g else { g with blanks := g.blanks ++ cs }

def addLineEnd (g : Gap) (cs : List Char) : Gap :=
  if g.first.isSome then { g with more := g.more ++ cs } else ⟨[], some cs, []⟩

def text (g : Gap) : List Char :=
  match g.first with
  | none => g.blanks
  | some ['\n'] => if g.more = [] then [' '] else g.more
  | some cs => cs ++ g.more

end Gap

def gapFrom (onTab : Cursor → Except Fault Unit) : Nat → Gap → Cursor → Except Fault (Gap × Cursor)
  | 0, g, c => .ok (g, c)
  | fuel + 1, g, c =>
    match c.head? with
    | some x =>
      if isBlankChar x then do
        if g.first.isSome && isTab x then onTab c
        gapFrom onTab fuel (g.addBlanks [x]) (c.advance 1)
      else if isBreak x then
        let (cs, r) := c.lineEnd
        gapFrom onTab fuel (g.addLineEnd cs) r
      else .ok (g, c)
    | none => .ok (g, c)

def plainWord (inFlow : Bool) : List Char → List Char × Bool
  | [] => ([], false)
  | x :: r =>
    if isBlankChar x || isBreak x then ([], false)
    else if inFlow && x == ':' && r.head?.any fun y => [',', '?', '[', ']', '\x7b', '\x7d'].contains y then
      ([], true)
    else if x == ':' && atBlank r then ([], false)
    else if inFlow && [',', '[', ']', '\x7b', '\x7d'].contains x then ([], false)
    else
      let (cs, bad) := plainWord inFlow r
      (x :: cs, bad)

structure Plain where
  text : List Char
  stop : Mark
  lineEnded : Bool

def plainContext (start : Mark) : Option (String × Mark) := some ("while scanning a plain scalar", start)

/-- Words and the gaps between them. A line that is indented less than `indent` ends the text. -/
def plainFrom (inFlow : Bool) (indent : Int) (start : Mark) :
    Nat → Plain → Gap → Cursor → Except Fault (Plain × Cursor)
  | 0, p, _, c => .ok (p, c)
  | fuel + 1, p, g, c => do
    if c.atDocumentMarker || c.startsWith '#' then return (p, c)
    let (cs, bad) := plainWord inFlow c.rest
    let r := c.advance cs.length
    if bad then r.fail "found unexpected ':'" (plainContext start)
    let p := if cs = [] then p else ⟨p.text ++ g.text ++ cs, r.mark, false⟩
    if !r.isBefore (fun x => isBlankChar x || isBreak x) then return (p, r)
    let onTab (c : Cursor) : Except Fault Unit :=
      if (c.mark.column : Int) < indent then
        c.fail "found a tab character that violates indentation" (plainContext start)
      else .ok ()
    let (g, r) ← gapFrom onTab r.rest.length .empty r
    let p := { p with lineEnded := g.first.isSome }
    if !inFlow && (r.mark.column : Int) < indent then return (p, r)
    plainFrom inFlow indent start fuel p g r

def plain (inFlow : Bool) (indent : Int) (c : Cursor) : Except Fault (Plain × Cursor) :=
  plainFrom inFlow indent c.mark (c.rest.length + 1) ⟨[], c.mark, false⟩ .empty c

def hexDigit? (x : Char) : Option Nat :=
  let n := x.toNat
  if 48 ≤ n ∧ n ≤ 57 then some (n - 48)
  else if 97 ≤ n ∧ n ≤ 102 then some (n - 87)
  else if 65 ≤ n ∧ n ≤ 70 then some (n - 55)
  else none

def simpleEscape? (x : Char) : Option Char :=
  (([('0', 0), ('a', 7), ('b', 8), ('t', 9), ('\t', 9), ('n', 10), ('v', 11), ('f', 12), ('r', 13),
    ('e', 27), (' ', 32), ('"', 34), ('/', 47), ('\\', 92), ('N', 0x85), ('_', 0xa0), ('L', 0x2028),
    ('P', 0x2029)] : List (Char × Nat)).lookup x).map Char.ofNat

def escapeLength? (x : Char) : Option Nat :=
  ([('x', 2), ('u', 4), ('U', 8)] : List (Char × Nat)).lookup x

def codePoint (start : Mark) (length : Nat) (c : Cursor) : Except Fault (Char × Cursor) :=
  let context := some ("while parsing a quoted scalar", start)
  match (c.rest.take length).mapM hexDigit? with
  | some ds =>
    let n := ds.foldl (fun n d => 16 * n + d) 0
    if ds.length < length then c.fail "did not find expected hexdecimal number" context
    else if n.isValidChar then .ok (Char.ofNat n, c.advance length)
    else c.fail "found invalid Unicode character escape code" context
  | none => c.fail "did not find expected hexdecimal number" context

def escape (start : Mark) (c : Cursor) : Except Fault (Char × Cursor) :=
  let unknown := c.fail "found unknown escape character" (some ("while parsing a quoted scalar", start))
  match (c.rest.drop 1).head? with
  | none => unknown
  | some x =>
    match simpleEscape? x, escapeLength? x with
    | some y, _ => .ok (y, c.advance 2)
    | none, some n => codePoint start n (c.advance 2)
    | none, none => unknown

def quotedWord (double : Bool) (start : Mark) :
    Nat → List Char → Cursor → Except Fault (List Char × Bool × Cursor)
  | 0, cs, c => .ok (cs, false, c)
  | fuel + 1, cs, c =>
    match c.rest with
    | [] => .ok (cs, false, c)
    | x :: r =>
      if isBlankChar x || isBreak x then .ok (cs, false, c)
      else if !double && x == '\'' && r.head? == some '\'' then
        quotedWord double start fuel (cs ++ ['\'']) (c.advance 2)
      else if x == (if double then '"' else '\'') then .ok (cs, false, c)
      else if double && x == '\\' then
        if r.head?.any isBreak then .ok (cs, true, (c.advance 1).lineEnd.2)
        else do
          let (y, c) ← escape start c
          quotedWord double start fuel (cs ++ [y]) c
      else quotedWord double start fuel (cs ++ [x]) (c.advance 1)

def quotedFrom (double : Bool) (start : Mark) :
    Nat → List Char → Cursor → Except Fault (List Char × Cursor)
  | 0, cs, c => .ok (cs, c)
  | fuel + 1, cs, c => do
    let context := some ("while scanning a quoted scalar", start)
    if c.atDocumentMarker then c.fail "found unexpected document indicator" context
    if c.atEnd then c.fail "found unexpected end of stream" context
    let (cs, joined, c) ← quotedWord double start (c.rest.length + 1) cs c
    if c.startsWith (if double then '"' else '\'') then return (cs, c.advance 1)
    let g : Gap := if joined then ⟨[], some [], []⟩ else .empty
    let (g, c) ← gapFrom (fun _ => .ok ()) c.rest.length g c
    quotedFrom double start fuel (cs ++ g.text) c

def quotedText (double : Bool) (c : Cursor) : Except Fault (List Char × Cursor) :=
  quotedFrom double c.mark (c.rest.length + 1) [] (c.advance 1)

inductive Chomping where
  | clip
  | strip
  | keep
  deriving DecidableEq

def blockContext (start : Mark) : Option (String × Mark) := some ("while scanning a block scalar", start)

def chomping (c : Cursor) : Option Chomping × Cursor :=
  if c.startsWith '+' then (some .keep, c.advance 1)
  else if c.startsWith '-' then (some .strip, c.advance 1)
  else (none, c)

def indentation (start : Mark) (c : Cursor) : Except Fault (Nat × Cursor) :=
  match c.head? with
  | some x =>
    if x == '0' then c.fail "found an indentation indicator equal to 0" (blockContext start)
    else if x.isDigit then .ok (x.toNat - 48, c.advance 1)
    else .ok (0, c)
  | none => .ok (0, c)

def blockHeader (start : Mark) (c : Cursor) : Except Fault (Chomping × Nat × Cursor) := do
  match chomping c with
  | (some k, r) =>
    let (n, r) ← indentation start r
    return (k, n, r)
  | (none, _) =>
    let (n, r) ← indentation start c
    if n = 0 then return (.clip, 0, r)
    let (k, r) := chomping r
    return (k.getD .clip, n, r)

def blockBreaks (start : Mark) (indent : Nat) :
    Nat → Nat → List Char → Mark → Cursor → Except Fault (Nat × List Char × Mark × Cursor)
  | 0, widest, breaks, stop, c => .ok (widest, breaks, stop, c)
  | fuel + 1, widest, breaks, stop, c => do
    let room := if indent = 0 then c.rest.length else indent - c.mark.column
    let r := c.advance ((c.rest.take room).takeWhile fun x => x == ' ').length
    let widest := max widest r.mark.column
    if (indent = 0 || r.mark.column < indent) && r.isBefore isTab then
      r.fail "found a tab character where an indentation space is expected" (blockContext start)
    if !r.isBefore isBreak then return (widest, breaks, stop, r)
    let (cs, r) := r.lineEnd
    blockBreaks start indent fuel widest (breaks ++ cs) r.mark r

structure Block where
  text : List Char
  lineEnd : List Char
  breaks : List Char
  indented : Bool
  stop : Mark

/-- The lines at an indentation. Folded lines are joined by a blank unless one of them is indented. -/
def blockLines (literal : Bool) (start : Mark) (indent : Nat) :
    Nat → Block → Cursor → Except Fault (Block × Cursor)
  | 0, b, c => .ok (b, c)
  | fuel + 1, b, c => do
    if c.mark.column ≠ indent || c.atEnd then return (b, c)
    let blank := c.isBefore isBlankChar
    let joint :=
      if !literal && b.lineEnd == ['\n'] && !b.indented && !blank then
        (if b.breaks = [] then [' '] else [])
      else b.lineEnd
    let (cs, r) := c.span fun x => !isBreak x
    let (e, r) := r.lineEnd
    let (_, breaks, stop, r) ← blockBreaks start indent (r.rest.length + 1) 0 [] r.mark r
    blockLines literal start indent fuel ⟨b.text ++ joint ++ b.breaks ++ cs, e, breaks, blank, stop⟩ r

def block (literal : Bool) (outer : Int) (c : Cursor) : Except Fault (List Char × Mark × Cursor) := do
  let start := c.mark
  let (k, n, r) ← blockHeader start (c.advance 1)
  let r ← r.lineRest (blockContext start)
  let given := if n = 0 then 0 else if 0 ≤ outer then outer.toNat + n else n
  let (widest, breaks, stop, r) ← blockBreaks start given (r.rest.length + 1) 0 [] r.mark r
  let indent := if given = 0 then max (max widest (outer + 1).toNat) 1 else given
  let (b, r) ← blockLines literal start indent (r.rest.length + 1) ⟨[], [], breaks, false, stop⟩ r
  let tail := match k with
    | .strip => []
    | .clip => b.lineEnd
    | .keep => b.lineEnd ++ b.breaks
  return (b.text ++ tail, b.stop, r)

end RequestAuth.Yaml
