import RequestAuth.Base64

/-! Textual armour around octets: a labelled first line, base64 in full lines of 64 symbols and a
shorter last one, and a labelled end line with nothing after it. -/

namespace RequestAuth.Pem

def lf : UInt8 := 10
def cr : UInt8 := 13

def dashes : Bytes := Bytes.ofText "-----"

def beginLine (label : Bytes) : Bytes := Bytes.ofText "-----BEGIN " ++ label ++ dashes
def endLine (label : Bytes) : Bytes := Bytes.ofText "-----END " ++ label ++ dashes

def stripLeft (front : Bytes) (s : Bytes) : Option Bytes :=
  if front.isPrefixOf s then some (s.drop front.length) else none

def stripRight (back : Bytes) (s : Bytes) : Option Bytes :=
  if back.isSuffixOf s then some (s.take (s.length - back.length)) else none

/-- A line ends with LF, CR LF or CR. -/
def dropEol : Bytes → Option Bytes
  | 13 :: 10 :: r => some r
  | 13 :: r => some r
  | 10 :: r => some r
  | _ => none

def trimEol (s : Bytes) : Option Bytes :=
  match s.reverse with
  | 10 :: 13 :: r => some r.reverse
  | 10 :: r => some r.reverse
  | 13 :: r => some r.reverse
  | _ => none

/-- The text from the first `-----BEGIN ` at the start of the text or after a LF. Text before it
must not hold a NUL. -/
def dropPreamble (s : Bytes) : Option Bytes :=
  let start := Bytes.ofText "-----BEGIN "
  let rec search : Bytes → Option Bytes
    | [] => none
    | c :: r =>
      if c = 0 then none
      else if c = lf ∧ start.isPrefixOf r then some r
      else search r
  if start.isPrefixOf s then some s else search s

/-- The symbols of all lines: 64 in each but the last, which may be followed by a line end. -/
def joinLines : Nat → Bytes → Option Bytes
  | 0, _ => none
  | fuel + 1, s =>
    if s.length ≤ 64 then some ((trimEol s).getD s)
    else do
      let r ← dropEol (s.drop 64)
      return s.take 64 ++ (← joinLines fuel r)

def decode? (label : Bytes) (s : Bytes) : Option Bytes := do
  let s ← dropPreamble s
  let s ← stripLeft (beginLine label) s
  let s ← dropEol s
  let s ← stripRight (endLine label) ((trimEol s).getD s)
  let s ← trimEol s
  let symbols ← joinLines (s.length + 1) s
  (Base64.decode .standard symbols).toOption

end RequestAuth.Pem
