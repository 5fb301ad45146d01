import RequestAuth.Text.Normal
import RequestAuth.Text.Visible
import RequestAuth.Url.IdnaTable
import RequestAuth.Url.Punycode

/-! Names of hosts in ASCII. Labels with other characters are encoded, and those that are encoded already are
checked as if they were not. -/

namespace RequestAuth.Idna

def isAscii (cs : List Char) : Bool := cs.all fun c => c.toNat < 0x80

def isIgnored (c : Char) : Bool :=
  let n := c.toNat
  n == 0xad || n == 0x34f || n == 0x115f || n == 0x1160 || n == 0x17b4 || n == 0x17b5 ||
    (0x180b ≤ n && n ≤ 0x180f) || n == 0x200b || (0x2060 ≤ n && n ≤ 0x2064) || (0x206a ≤ n && n ≤ 0x206f) ||
    n == 0x3164 || (0xfe00 ≤ n && n ≤ 0xfe0f) || n == 0xfeff || n == 0xffa0 || (0x1bca0 ≤ n && n ≤ 0x1bca3) ||
    (0x1d173 ≤ n && n ≤ 0x1d17a) || (0xe0100 ≤ n && n ≤ 0xe01ef)

def mapChar (c : Char) : List Char :=
  if c.toNat < 0x80 then [c.toLower]
  else if isIgnored c then []
  else match mapping.find? fun r => r.contains c.toNat with
    | some r => (r.at c.toNat).map Char.ofNat
    | none => [c]

def mapped (cs : List Char) : List Char :=
  if isAscii cs then cs.map Char.toLower else Normal.form (cs.flatMap mapChar)

def isUsable (c : Char) : Bool := mapChar c == [c] && evenlyBounded c.toNat usableBounds

def isMark (c : Char) : Bool := 0x80 ≤ c.toNat && !evenlyBounded c.toNat markBounds

def joining (c : Char) : Joining := (Table.valueAt joinings c.toNat).getD .none

def joinsAcross (before after : List Char) : Bool :=
  let last := ((before.map joining).dropWhile (· == .transparent)).head?
  let first := ((after.map joining).dropWhile (· == .transparent)).head?
  (last == some .dual || last == some .left) && (first == some .dual || first == some .right)

/-- Joiners, and what keeps letters apart, stand after the sign that a vowel is missing. What keeps letters apart
can also stand where they would join. -/
def joinersFit (before : List Char) : List Char → Bool
  | [] => true
  | c :: r =>
    ((c.toNat != 0x200c && c.toNat != 0x200d) || (before.head?.map Normal.markClass) == some 9 ||
      (c.toNat == 0x200c && joinsAcross before r)) && joinersFit (c :: before) r

def direction (c : Char) : Direction :=
  if c.toNat < 0x80 then (if c.isDigit then .digit else if c.isAlpha then .left else .neutral)
  else (Table.valueAt directions c.toNat).getD .left

def runsRight (c : Char) : Bool :=
  0x80 ≤ c.toNat && (direction c == .right || direction c == .rightDigit)

/-- In a name with letters from the right each label runs one way, and ends in a letter or digit of that way. -/
def isDirected (cs : List Char) : Bool :=
  let ds := cs.map direction
  let last := (ds.reverse.dropWhile (· == .mark)).head?
  match ds.head? with
  | none => true
  | some .right =>
    !ds.contains .left && !(ds.contains .digit && ds.contains .rightDigit) &&
      (last == some .right || last == some .digit || last == some .rightDigit)
  | some .left =>
    !ds.contains .right && !ds.contains .rightDigit && (last == some .left || last == some .digit)
  | _ => false

def acePrefix : List Char := ['x', 'n', '-', '-']

def isLabel (cs : List Char) : Bool :=
  cs.all isUsable && !(cs.head?.map isMark).getD false && joinersFit [] cs

/-- What an encoded label stands for, if it is the encoding of a label that has to be encoded. -/
def decodedLabel? (cs : List Char) : Option (List Char) := do
  let d ← Punycode.decode? (cs.drop 4)
  if !isAscii d && isLabel d && mapped d = d && !acePrefix.isPrefixOf d && Punycode.encode d = cs.drop 4 then
    return d
  else none

def label? (cs : List Char) : Option (List Char) :=
  if acePrefix.isPrefixOf cs then decodedLabel? cs
  else if isAscii cs || isLabel cs then some cs
  else none

def encoded (cs : List Char) : List Char :=
  if isAscii cs then cs else acePrefix ++ Punycode.encode cs

def toAscii? (cs : List Char) : Option (List Char) := do
  let labels ← ((mapped cs).splitOn '.').mapM label?
  if labels.any (·.any runsRight) && !labels.all isDirected then none
  else return ['.'].intercalate (labels.map encoded)

end RequestAuth.Idna
