/-! Places in a YAML document, and moving through its characters. -/

namespace RequestAuth.Yaml

structure Mark where
  index : Nat
  line : Nat
  column : Nat
  deriving DecidableEq

namespace Mark

def start : Mark := ⟨0, 0, 0⟩

def isFirst (m : Mark) : Bool := m.line == 0 && m.column == 0

def text (m : Mark) : String :=
  if m.isFirst then s!"position {m.index}" else s!"line {m.line + 1} column {m.column + 1}"

end Mark

structure Fault where
  problem : String
  mark : Mark
  context : Option (String × Mark)
  deriving DecidableEq

namespace Fault

def place (m : Mark) : String :=
  if !m.isFirst then " at " ++ m.text
  else if m.index ≠ 0 then s!" at position {m.index}"
  else ""

/-- The place of the context is left out where it is the place of the problem. -/
def message (f : Fault) : String :=
  f.problem ++ place f.mark ++
    match f.context with
    | none => ""
    | some (context, m) =>
      ", " ++ context ++
        if !m.isFirst && (m.line != f.mark.line || m.column != f.mark.column) then " at " ++ m.text
        else ""

end Fault

def isTab (c : Char) : Bool := c == '\t'

def isBlankChar (c : Char) : Bool := c == ' ' || c == '\t'

def isBreak (c : Char) : Bool :=
  c == '\r' || c == '\n' || c.toNat == 0x85 || c.toNat == 0x2028 || c.toNat == 0x2029

def atBlank : List Char → Bool
  | [] => true
  | c :: _ => isBlankChar c || isBreak c

def isWordChar (c : Char) : Bool := c.isAlphanum || c == '-' || c == '_'

def isAllowed (c : Char) : Bool :=
  let n := c.toNat
  n == 9 || n == 10 || n == 13 || (0x20 ≤ n && n ≤ 0x7e) || n == 0x85 || (0xa0 ≤ n && n ≤ 0xfffd) ||
    0x10000 ≤ n

structure Cursor where
  rest : List Char
  mark : Mark

namespace Cursor

def advance (c : Cursor) (n : Nat) : Cursor where
  rest := c.rest.drop n
  mark := { c.mark with index := c.mark.index + n, column := c.mark.column + n }

def head? (c : Cursor) : Option Char := c.rest.head?

def startsWith (c : Cursor) (x : Char) : Bool := c.rest.head? == some x

def atEnd (c : Cursor) : Bool := c.rest.isEmpty

def isBefore (c : Cursor) (p : Char → Bool) : Bool := c.rest.head?.any p

def span (c : Cursor) (p : Char → Bool) : List Char × Cursor :=
  let cs := c.rest.takeWhile p
  (cs, c.advance cs.length)

def newLine (c : Cursor) (n : Nat) : Cursor where
  rest := c.rest.drop n
  mark := ⟨c.mark.index + n, c.mark.line + 1, 0⟩

/-- The line end at the front, if there is one. All but the separators of Unicode read as a line feed. -/
def lineEnd (c : Cursor) : List Char × Cursor :=
  match c.rest with
  | '\r' :: '\n' :: _ => (['\n'], c.newLine 2)
  | x :: _ =>
    if x.toNat == 0x2028 || x.toNat == 0x2029 then ([x], c.newLine 1)
    else if isBreak x then (['\n'], c.newLine 1)
    else ([], c)
  | [] => ([], c)

def isMarker (c : Cursor) (x : Char) : Bool :=
  c.mark.column == 0 && [x, x, x].isPrefixOf c.rest && atBlank (c.rest.drop 3)

def atDocumentMarker (c : Cursor) : Bool := c.isMarker '-' || c.isMarker '.'

def fail (c : Cursor) (problem : String) (context : Option (String × Mark)) : Except Fault α :=
  .error ⟨problem, c.mark, context⟩

def lineRest (c : Cursor) (context : Option (String × Mark)) : Except Fault Cursor :=
  let (_, r) := c.span isBlankChar
  let r := if r.startsWith '#' then (r.span fun x => !isBreak x).2 else r
  if r.atEnd || r.isBefore isBreak then .ok r.lineEnd.2
  else r.fail "did not find expected comment or line break" context

end Cursor
end RequestAuth.Yaml
