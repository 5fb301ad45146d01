import RequestAuth.Bytes
import RequestAuth.Json.Basic
import RequestAuth.Record

/-! Reading JSON from octets. A reader takes a value from the front and gives back the rest; where it
stops, it says why and how many octets were left, which fixes the line and column. -/

namespace RequestAuth.Json.Read

inductive Cause where
  | endInValue
  | endInList
  | endInObject
  | endInText
  | expectedColon
  | expectedCommaOrBracket
  | expectedCommaOrBrace
  | expectedWord
  | expectedValue
  | invalidEscape
  | invalidNumber
  | numberOutOfRange
  | invalidCodePoint
  | controlCharacter
  | keyMustBeText
  | loneSurrogate
  | unexpectedEndOfEscape
  | trailingComma
  | trailingCharacters
  | nestedTooDeeply
  | mismatch (m : Mismatch)
  deriving DecidableEq

def wording : Wording := ⟨"null", Binary64.chars⟩

def Cause.message : Cause → String
  | endInValue => "EOF while parsing a value"
  | endInList => "EOF while parsing a list"
  | endInObject => "EOF while parsing an object"
  | endInText => "EOF while parsing a string"
  | expectedColon => "expected `:`"
  | expectedCommaOrBracket => "expected `,` or `]`"
  | expectedCommaOrBrace => "expected `,` or `\x7d`"
  | expectedWord => "expected ident"
  | expectedValue => "expected value"
  | invalidEscape => "invalid escape"
  | invalidNumber => "invalid number"
  | numberOutOfRange => "number out of range"
  | invalidCodePoint => "invalid unicode code point"
  | controlCharacter =>
    "control character (\\u0000-\\u001F) found while parsing a string"
  | keyMustBeText => "key must be a string"
  | loneSurrogate => "lone leading surrogate in hex escape"
  | unexpectedEndOfEscape => "unexpected end of hex escape"
  | trailingComma => "trailing comma"
  | trailingCharacters => "trailing characters"
  | nestedTooDeeply => "recursion limit exceeded"
  | mismatch m => m.message wording

/-- A cause, and the number of octets beyond the place that it is reported at. -/
structure Stop where
  cause : Cause
  left : Nat
  deriving DecidableEq

abbrev Reader (α : Type) := Bytes → Except Stop (α × Bytes)

def stopAt (c : Cause) (s : Bytes) : Except Stop α := .error ⟨c, s.length⟩

def stopPast (c : Cause) (s : Bytes) : Except Stop α := .error ⟨c, s.length - 1⟩

def isSpace (c : UInt8) : Bool := c == 32 || c == 10 || c == 9 || c == 13

def skipSpace (s : Bytes) : Bytes := s.dropWhile isSpace

def isDigit (c : UInt8) : Bool := 48 ≤ c && c ≤ 57

def digit (c : UInt8) : Nat := c.toNat - 48

def word : Bytes → Bytes → Except Stop Bytes
  | [], s => .ok s
  | _ :: _, [] => stopAt .endInValue []
  | x :: w, c :: r => if c = x then word w r else stopAt .expectedWord r

def nullRest : Bytes := [117, 108, 108]
def trueRest : Bytes := [114, 117, 101]
def falseRest : Bytes := [97, 108, 115, 101]

def hexDigit? (c : UInt8) : Option Nat :=
  let n := c.toNat
  if 48 ≤ n ∧ n ≤ 57 then some (n - 48)
  else if 97 ≤ n ∧ n ≤ 102 then some (n - 87)
  else if 65 ≤ n ∧ n ≤ 70 then some (n - 55)
  else none

def codeUnit : Reader Nat
  | a :: b :: c :: d :: r =>
    match hexDigit? a, hexDigit? b, hexDigit? c, hexDigit? d with
    | some a, some b, some c, some d => .ok (((a * 16 + b) * 16 + c) * 16 + d, r)
    | _, _, _, _ => stopAt .invalidEscape r
  | _ => stopAt .endInText []

def isLead (n : Nat) : Bool := 0xd800 ≤ n && n < 0xdc00
def isTrail (n : Nat) : Bool := 0xdc00 ≤ n && n < 0xe000

def utf8 (n : Nat) : Bytes := Bytes.ofText (String.singleton (Char.ofNat n))

def trailUnit (lead : Nat) (s : Bytes) : Except Stop (Bytes × Bytes) :=
  match s with
  | [] => stopAt .endInText []
  | 92 :: r =>
    match r with
    | [] => stopAt .endInText []
    | 117 :: r => do
      let (n, r) ← codeUnit r
      if isTrail n then .ok (utf8 (0x10000 + (lead - 0xd800) * 0x400 + (n - 0xdc00)), r)
      else stopAt .loneSurrogate r
    | _ :: r => stopAt .unexpectedEndOfEscape r
  | _ :: r => stopAt .unexpectedEndOfEscape r

def escaped : Bytes → Except Stop (Bytes × Bytes)
  | [] => stopAt .endInText []
  | 34 :: r => .ok ([34], r)
  | 92 :: r => .ok ([92], r)
  | 47 :: r => .ok ([47], r)
  | 98 :: r => .ok ([8], r)
  | 102 :: r => .ok ([12], r)
  | 110 :: r => .ok ([10], r)
  | 114 :: r => .ok ([13], r)
  | 116 :: r => .ok ([9], r)
  | 117 :: r => do
    let (n, r) ← codeUnit r
    if isTrail n then stopAt .loneSurrogate r
    else if isLead n then trailUnit n r
    else .ok (utf8 n, r)
  | _ :: r => stopAt .invalidEscape r

def textOctets : Nat → Reader Bytes
  | 0, _ => stopAt .endInText []
  | _ + 1, [] => stopAt .endInText []
  | fuel + 1, c :: r =>
    if c = 34 then .ok ([], r)
    else if c = 92 then do
      let (b, r) ← escaped r
      let (bs, r) ← textOctets fuel r
      return (b ++ bs, r)
    else if c < 32 then stopAt .controlCharacter r
    else do
      let (bs, r) ← textOctets fuel r
      return (c :: bs, r)

def charLength? (s : Bytes) : Option Nat :=
  [1, 2, 3, 4].find? fun n => n ≤ s.length && (Bytes.toText? (s.take n)).isSome

def afterChars : Nat → Bytes → Bytes
  | 0, s => s
  | fuel + 1, s =>
    match charLength? s with
    | some n => afterChars fuel (s.drop n)
    | none => s

/-- A text after its opening quote. Escapes are characters as they are written, so that the octets
that are no text are found without decoding them. -/
def text : Reader String := fun s => do
  let (b, r) ← textOctets (s.length + 1) s
  match Bytes.toText? b with
  | some t => .ok (t, r)
  | none => stopPast .invalidCodePoint (afterChars s.length s)

/-- Whole numbers up to this one are kept exactly. -/
def maxCount : Nat := Nat.pow 2 64 - 1

/-- A whole number of at most 64 bits. Below zero there is room for 63 bits, and zero itself is a
float. -/
def whole (positive : Bool) (n : Nat) : JsonNumber :=
  if positive then .integer n
  else if 0 < n ∧ n ≤ Nat.pow 2 63 then .integer (-(n : Int))
  else .float { (Binary64.ofRatio? n 1).getD .zero with negative := true }

/-- Divides by a power of ten, at most 308 at a time. Three such steps leave nothing. -/
def divPow10 : Nat → Binary64 → Nat → Binary64
  | 0, _, _ => .zero
  | fuel + 1, x, e =>
    if e ≤ 308 then ((Binary64.pow10? e).bind x.div?).getD .zero
    else divPow10 fuel (((Binary64.pow10? 308).bind x.div?).getD .zero) (e - 308)

def scaled? (digits : Nat) (exponent : Int) : Option Binary64 := do
  let x ← Binary64.ofRatio? digits 1
  if digits = 0 then return x
  match exponent with
  | .ofNat e => if e ≤ 308 then (Binary64.pow10? e).bind x.mul? else none
  | .negSucc e => return divPow10 4 x (e + 1)

def float (positive : Bool) (digits : Nat) (exponent : Int) (s : Bytes) :
    Except Stop (JsonNumber × Bytes) :=
  match scaled? digits exponent with
  | some x => .ok (.float { x with negative := !positive }, s)
  | none => stopAt .numberOutOfRange s

def maxExponent : Nat := Nat.pow 2 31 - 1

/-- The digits of an exponent. One that is too large makes the number zero or too large. -/
def exponentDigits (positive : Bool) (digits : Nat) (start : Int) (up : Bool) :
    Nat → Bytes → Except Stop (JsonNumber × Bytes)
  | e, s =>
    match s with
    | c :: r =>
      if isDigit c then
        let e' := e * 10 + digit c
        if maxExponent < e' then
          if digits ≠ 0 ∧ up then stopAt .numberOutOfRange r
          else .ok (.float { Binary64.zero with negative := !positive }, r.dropWhile isDigit)
        else exponentDigits positive digits start up e' r
      else float positive digits (if up then start + e else start - e) s
    | [] => float positive digits (if up then start + e else start - e) s

def exponent (positive : Bool) (digits : Nat) (start : Int) (s : Bytes) :
    Except Stop (JsonNumber × Bytes) :=
  let (up, s) := match s with
    | 43 :: r => (true, r)
    | 45 :: r => (false, r)
    | s => (true, s)
  match s with
  | [] => stopAt .endInValue []
  | c :: r =>
    if isDigit c then exponentDigits positive digits start up (digit c) r
    else stopAt .invalidNumber r

def isExponentMark (c : UInt8) : Bool := c == 101 || c == 69

def afterFraction (positive : Bool) (digits : Nat) (start : Int) (s : Bytes) :
    Except Stop (JsonNumber × Bytes) :=
  match s with
  | c :: r => if isExponentMark c then exponent positive digits start r else float positive digits start s
  | [] => float positive digits start s

def fractionDigits (positive : Bool) (start : Int) : Bool → Nat → Nat → Bytes →
    Except Stop (JsonNumber × Bytes)
  | seen, places, digits, s =>
    match s with
    | c :: r =>
      if isDigit c then
        let digits' := digits * 10 + digit c
        if maxCount < digits' then
          afterFraction positive digits (start - places) (r.dropWhile isDigit)
        else fractionDigits positive start true (places + 1) digits' r
      else if seen then afterFraction positive digits (start - places) s
      else stopPast .invalidNumber s
    | [] => if seen then afterFraction positive digits (start - places) s else stopPast .endInValue s

/-- Further digits of a number that has outgrown 64 bits count as powers of ten. -/
def longDigits (positive : Bool) (digits : Nat) : Nat → Bytes → Except Stop (JsonNumber × Bytes)
  | e, s =>
    match s with
    | c :: r =>
      if isDigit c then longDigits positive digits (e + 1) r
      else if c = 46 then fractionDigits positive e false 0 digits r
      else if isExponentMark c then exponent positive digits e r
      else float positive digits e s
    | [] => float positive digits e s

def afterDigits (positive : Bool) (digits : Nat) (s : Bytes) : Except Stop (JsonNumber × Bytes) :=
  match s with
  | c :: r =>
    if c = 46 then fractionDigits positive 0 false 0 digits r
    else if isExponentMark c then exponent positive digits 0 r
    else .ok (whole positive digits, s)
  | [] => .ok (whole positive digits, s)

def wholeDigits (positive : Bool) : Nat → Bytes → Except Stop (JsonNumber × Bytes)
  | digits, s =>
    match s with
    | c :: r =>
      if isDigit c then
        let digits' := digits * 10 + digit c
        if maxCount < digits' then longDigits positive digits 1 r
        else wholeDigits positive digits' r
      else afterDigits positive digits s
    | [] => afterDigits positive digits s

def number (positive : Bool) : Reader JsonNumber
  | [] => stopAt .endInValue []
  | c :: r =>
    if c = 48 then
      match r with
      | d :: _ => if isDigit d then stopPast .invalidNumber r else afterDigits positive 0 r
      | [] => afterDigits positive 0 r
    else if isDigit c then wholeDigits positive (digit c) r
    else stopAt .invalidNumber r

def nextItem (first : Bool) (s : Bytes) : Except Stop (Bool × Bytes) :=
  match skipSpace s with
  | [] => stopPast .endInList []
  | c :: r =>
    if c = 93 then .ok (false, c :: r)
    else if first then .ok (true, c :: r)
    else if c = 44 then
      match skipSpace r with
      | [] => stopPast .endInValue []
      | d :: r => if d = 93 then stopPast .trailingComma (d :: r) else .ok (true, d :: r)
    else stopPast .expectedCommaOrBracket (c :: r)

def nextName (first : Bool) (s : Bytes) : Except Stop (Option String × Bytes) :=
  match skipSpace s with
  | [] => stopPast .endInObject []
  | c :: r =>
    if c = 125 then .ok (none, c :: r)
    else if first then
      if c = 34 then do
        let (n, r) ← text r
        return (some n, r)
      else stopPast .keyMustBeText (c :: r)
    else if c = 44 then
      match skipSpace r with
      | [] => stopPast .endInValue []
      | d :: r =>
        if d = 34 then do
          let (n, r) ← text r
          return (some n, r)
        else if d = 125 then stopPast .trailingComma (d :: r)
        else stopPast .keyMustBeText (d :: r)
    else stopPast .expectedCommaOrBrace (c :: r)

def colon (s : Bytes) : Except Stop Bytes :=
  match skipSpace s with
  | [] => stopPast .endInObject []
  | c :: r => if c = 58 then .ok r else stopPast .expectedColon (c :: r)

def items (item : Reader α) : Nat → Bool → Reader (List α)
  | 0, _, s => stopAt .endInList s
  | fuel + 1, first, s => do
    match ← nextItem first s with
    | (false, r) => return ([], r.tail)
    | (true, r) =>
      let (x, r) ← item r
      let (xs, r) ← items item fuel false r
      return (x :: xs, r)

/-- All members up to the closing brace; of two with one name the later stays. -/
def members (value : Reader Json) : Nat → Bool → Members → Reader Members
  | 0, _, _, s => stopAt .endInObject s
  | fuel + 1, first, ms, s => do
    match ← nextName first s with
    | (none, r) => return (ms, r.tail)
    | (some n, r) =>
      let r ← colon r
      let (v, r) ← value r
      members value fuel false (ms.insert n v) r

/-- A value whose lists and objects read their contents with `inner`, if any are allowed. -/
def valueOver (inner : Option (Reader Json)) : Reader Json := fun s =>
  match skipSpace s with
  | [] => stopPast .endInValue []
  | c :: r =>
    if c = 110 then do return (.null, ← word nullRest r)
    else if c = 116 then do return (.bool true, ← word trueRest r)
    else if c = 102 then do return (.bool false, ← word falseRest r)
    else if c = 45 then do
      let (n, r) ← number false r
      return (.number n, r)
    else if isDigit c then do
      let (n, r) ← number true (c :: r)
      return (.number n, r)
    else if c = 34 then do
      let (t, r) ← text r
      return (.text t, r)
    else if c = 91 then
      match inner with
      | none => stopPast .nestedTooDeeply (c :: r)
      | some inner => do
        let (xs, r) ← items inner (r.length + 1) true r
        return (.list xs, r)
    else if c = 123 then
      match inner with
      | none => stopPast .nestedTooDeeply (c :: r)
      | some inner => do
        let (ms, r) ← members inner (r.length + 1) true [] r
        return (.object ms, r)
    else stopPast .expectedValue (c :: r)

def value : Nat → Reader Json
  | 0 => valueOver none
  | depth + 1 => valueOver (some (value depth))

def maxDepth : Nat := 127

/-- Where and why a document cannot be read. Columns count octets. -/
structure Fault where
  cause : Cause
  line : Nat
  column : Nat
  deriving DecidableEq

def Fault.message (f : Fault) : String := s!"{f.cause.message} at line {f.line} column {f.column}"

/-- The line and column after so many octets. -/
def position (s : Bytes) : Nat × Nat :=
  (s.count 10 + 1, (s.reverse.takeWhile (· != 10)).length)

def Stop.fault (s : Bytes) (e : Stop) : Fault :=
  let (line, column) := position (s.take (s.length - e.left))
  ⟨e.cause, line, column⟩

def toEnd (read : Reader α) (s : Bytes) : Except Stop α := do
  let (a, r) ← read s
  match skipSpace r with
  | [] => return a
  | c :: r => stopPast .trailingCharacters (c :: r)

def document (read : Nat → Reader α) (s : Bytes) : Except Fault α :=
  (toEnd (read maxDepth) s).mapError (Stop.fault s)

def parse (s : Bytes) : Except Fault Json := document value s

end RequestAuth.Json.Read
