import RequestAuth.Json.Reader

/-! Passing over a value whose contents do not matter. It must be well formed, but numbers may be of
any size, escapes need not pair up, and nesting has no limit. -/

namespace RequestAuth.Json.Read

def wordRest? (c : UInt8) : Option Bytes :=
  if c = 110 then some nullRest
  else if c = 116 then some trueRest
  else if c = 102 then some falseRest
  else none

def skipText : Nat → Bytes → Except Stop Bytes
  | 0, s => stopAt .endInText s
  | _ + 1, [] => stopAt .endInText []
  | fuel + 1, c :: r =>
    if c = 34 then .ok r
    else if c = 92 then
      match r with
      | [] => stopAt .endInText []
      | d :: r =>
        if d = 117 then do
          let (_, r) ← codeUnit r
          skipText fuel r
        else if [34, 92, 47, 98, 102, 110, 114, 116].contains d then skipText fuel r
        else stopAt .invalidEscape r
    else if c < 32 then stopAt .controlCharacter (c :: r)
    else skipText fuel r

def skipExponent (s : Bytes) : Except Stop Bytes :=
  let s := match s with
    | 43 :: r => r
    | 45 :: r => r
    | s => s
  match s with
  | [] => stopAt .invalidNumber []
  | c :: r => if isDigit c then .ok (r.dropWhile isDigit) else stopAt .invalidNumber r

def skipAfterFraction (s : Bytes) : Except Stop Bytes :=
  match s with
  | c :: r => if isExponentMark c then skipExponent r else .ok (c :: r)
  | [] => .ok []

def skipFraction (s : Bytes) : Except Stop Bytes :=
  match s with
  | [] => stopPast .invalidNumber []
  | c :: r =>
    if isDigit c then skipAfterFraction (r.dropWhile isDigit) else stopPast .invalidNumber (c :: r)

def skipAfterDigits (s : Bytes) : Except Stop Bytes :=
  match s with
  | c :: r =>
    if c = 46 then skipFraction r
    else if isExponentMark c then skipExponent r
    else .ok (c :: r)
  | [] => .ok []

def skipNumber (s : Bytes) : Except Stop Bytes :=
  match s with
  | [] => stopAt .invalidNumber []
  | c :: r =>
    if c = 48 then
      match r with
      | d :: _ => if isDigit d then stopPast .invalidNumber r else skipAfterDigits r
      | [] => .ok []
    else if isDigit c then skipAfterDigits (r.dropWhile isDigit)
    else stopAt .invalidNumber r

inductive Nest where
  | list
  | object

def Nest.closing : Nest → UInt8
  | list => 93
  | object => 125

def Nest.ended : Nest → Cause
  | list => .endInList
  | object => .endInObject

def Nest.unseparated : Nest → Cause
  | list => .expectedCommaOrBracket
  | object => .expectedCommaOrBrace

mutual

def skipValue : Nat → List Nest → Bytes → Except Stop Bytes
  | 0, _, s => stopAt .endInValue s
  | fuel + 1, around, s =>
    match skipSpace s with
    | [] => stopPast .endInValue []
    | c :: r =>
      if c = 91 then skipInside fuel false .list around r
      else if c = 123 then skipInside fuel false .object around r
      else do
        let r ← match wordRest? c with
          | some w => word w r
          | none =>
            if c = 45 then skipNumber r
            else if isDigit c then skipNumber (c :: r)
            else if c = 34 then skipText (r.length + 1) r
            else stopPast .expectedValue (c :: r)
        match around with
        | [] => return r
        | n :: around => skipInside fuel true n around r

/-- From between two values, the first of which is there if `separated`. -/
def skipInside : Nat → Bool → Nest → List Nest → Bytes → Except Stop Bytes
  | 0, _, n, _, s => stopAt n.ended s
  | fuel + 1, separated, n, around, s =>
    match skipSpace s with
    | [] => stopPast n.ended []
    | c :: r =>
      if separated && c == 44 then skipMember fuel n around r
      else if c = n.closing then
        match around with
        | [] => .ok r
        | m :: around => skipInside fuel true m around r
      else if separated then stopPast n.unseparated (c :: r)
      else skipMember fuel n around (c :: r)

def skipMember : Nat → Nest → List Nest → Bytes → Except Stop Bytes
  | 0, n, _, s => stopAt n.ended s
  | fuel + 1, .list, around, s => skipValue fuel (.list :: around) s
  | fuel + 1, .object, around, s =>
    match skipSpace s with
    | [] => stopPast .endInObject []
    | c :: r =>
      if c = 34 then do
        let r ← skipText (r.length + 1) r
        let r ← colon r
        skipValue fuel (.object :: around) r
      else stopPast .keyMustBeText (c :: r)

end

def skip (s : Bytes) : Except Stop Bytes := skipValue (3 * s.length + 3) [] s

end RequestAuth.Json.Read
