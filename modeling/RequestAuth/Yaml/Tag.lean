import RequestAuth.Bytes
import RequestAuth.Yaml.Scalar

/-! The types that a YAML document gives to its nodes, and the lines before it that say which YAML it is
and which handles its types have. -/

namespace RequestAuth.Yaml

def isUriChar (x : Char) : Bool :=
  isWordChar x || [';', '/', '?', ':', '@', '&', '=', '+', '$', '.', '!', '~', '*', '\'', '(', ')', '%', ',',
    '[', ']'].contains x

def isTagChar (x : Char) : Bool := isUriChar x && x != ',' && x != '[' && x != ']'

def sequenceLength? (octet : Nat) : Option Nat :=
  if octet < 128 then some 1
  else if octet / 32 = 6 then some 2
  else if octet / 16 = 14 then some 3
  else if octet / 8 = 30 then some 4
  else none

def escapedOctet (context : Option (String × Mark)) (c : Cursor) : Except Fault (Nat × Cursor) :=
  match c.rest.take 3 with
  | ['%', h, l] =>
    match hexDigit? h, hexDigit? l with
    | some h, some l => .ok (16 * h + l, c.advance 3)
    | _, _ => c.fail "did not find URI escaped octet" context
  | _ => c.fail "did not find URI escaped octet" context

def escapedOctets (context : Option (String × Mark)) : Nat → Cursor → Except Fault (Bytes × Cursor)
  | 0, c => .ok ([], c)
  | n + 1, c => do
    let (b, r) ← escapedOctet context c
    if b / 64 ≠ 2 then c.fail "found an incorrect trailing UTF-8 octet" context
    let (bs, r) ← escapedOctets context n r
    return (UInt8.ofNat b :: bs, r)

def escapedChar (context : Option (String × Mark)) (c : Cursor) : Except Fault (List Char × Cursor) := do
  let (b, r) ← escapedOctet context c
  match sequenceLength? b with
  | none => c.fail "found an incorrect leading UTF-8 octet" context
  | some n =>
    let (bs, r) ← escapedOctets context (n - 1) r
    match Bytes.toText? (UInt8.ofNat b :: bs) with
    | some s => return (s.toList, r)
    | none => return ([Char.ofNat 0xfffd], r)

def uriFrom (p : Char → Bool) (context : Option (String × Mark)) :
    Nat → List Char → Cursor → Except Fault (List Char × Cursor)
  | 0, cs, c => .ok (cs, c)
  | fuel + 1, cs, c =>
    match c.head? with
    | some x =>
      if !p x then .ok (cs, c)
      else if x == '%' then do
        let (ys, r) ← escapedChar context c
        uriFrom p context fuel (cs ++ ys) r
      else uriFrom p context fuel (cs ++ [x]) (c.advance 1)
    | none => .ok (cs, c)

def uri (p : Char → Bool) (context : Option (String × Mark)) (c : Cursor) : Except Fault (String × Cursor) := do
  let (cs, c) ← uriFrom p context c.rest.length [] c
  return (String.ofList cs, c)

def someUri (p : Char → Bool) (context : Option (String × Mark)) (c : Cursor) :
    Except Fault (String × Cursor) := do
  let (s, c) ← uri p context c
  if s = "" then c.fail "did not find expected tag URI" context
  return (s, c)

/-- The handle and the suffix of a tag: verbatim, with a handle between marks, or local. -/
def tagParts (start : Mark) (c : Cursor) : Except Fault (String × String × Cursor) := do
  let context := some ("while parsing a tag", start)
  if (c.rest.drop 1).head? == some '<' then
    let (s, r) ← someUri isUriChar context (c.advance 2)
    if !r.startsWith '>' then r.fail "did not find the expected '>'" (some ("while scanning a tag", start))
    return ("", s, r.advance 1)
  else
    let (word, r) := (c.advance 1).span isWordChar
    if r.startsWith '!' then
      let (s, r) ← someUri isTagChar context (r.advance 1)
      return ("!" ++ String.ofList word ++ "!", s, r)
    else
      let (s, r) ← uri isTagChar context (c.advance 1)
      return if s = "" then ("", "!", r) else ("!", s, r)

def directiveContext (start : Mark) : Option (String × Mark) := some ("while scanning a directive", start)

def directiveName (start : Mark) (c : Cursor) : Except Fault (List Char × Cursor) := do
  let (name, r) := c.span isWordChar
  if name = [] then r.fail "could not find expected directive name" (directiveContext start)
  if !atBlank r.rest then r.fail "found unexpected non-alphabetical character" (directiveContext start)
  return (name, r)

def versionContext (start : Mark) : Option (String × Mark) := some ("while scanning a %YAML directive", start)

def versionNumber (start : Mark) (c : Cursor) : Except Fault (Nat × Cursor) := do
  let (ds, r) := c.span Char.isDigit
  if ds = [] then c.fail "did not find expected version number" (versionContext start)
  if 9 < ds.length then (c.advance 9).fail "found extremely long version number" (versionContext start)
  return (ds.foldl (fun n d => 10 * n + (d.toNat - 48)) 0, r)

def version (start : Mark) (c : Cursor) : Except Fault (Nat × Nat × Cursor) := do
  let (_, c) := c.span isBlankChar
  let (major, c) ← versionNumber start c
  if !c.startsWith '.' then c.fail "did not find expected digit or '.' character" (versionContext start)
  let (minor, c) ← versionNumber start (c.advance 1)
  return (major, minor, c)

def declaredHandle (start : Mark) (c : Cursor) : Except Fault (String × Cursor) := do
  let problem := "did not find expected '!'"
  if !c.startsWith '!' then c.fail problem (some ("while scanning a tag directive", start))
  let (word, r) := (c.advance 1).span isWordChar
  if r.startsWith '!' then return ("!" ++ String.ofList word ++ "!", r.advance 1)
  if word ≠ [] then r.fail problem (some ("while parsing a tag directive", start))
  return ("!", r)

def tagHandle (start : Mark) (c : Cursor) : Except Fault (String × String × Cursor) := do
  let context := some ("while scanning a %TAG directive", start)
  let (_, c) := c.span isBlankChar
  let (handle, c) ← declaredHandle start c
  if !c.isBefore isBlankChar then c.fail "did not find expected whitespace" context
  let (_, c) := c.span isBlankChar
  let (expansion, c) ← someUri isUriChar (some ("while parsing a %TAG directive", start)) c
  if !atBlank c.rest then c.fail "did not find expected whitespace or line break" context
  return (handle, expansion, c)

end RequestAuth.Yaml
