import RequestAuth.Number.Shortest

/-! JSON values and their compact text. Members of an object are kept in the order of their names,
by code points. -/

namespace RequestAuth

inductive JsonNumber where
  | integer (n : Int)
  | float (x : Binary64)
  deriving DecidableEq

inductive Json where
  | null
  | bool (b : Bool)
  | number (n : JsonNumber)
  | text (s : String)
  | list (items : List Json)
  | object (members : List (String × Json))

/-- Members in strictly increasing order of names. -/
abbrev Members := List (String × Json)

namespace Members

/-- A name that is already there gets the new value. -/
def insert (name : String) (value : Json) : Members → Members
  | [] => [(name, value)]
  | (n, v) :: r =>
    if name < n then (name, value) :: (n, v) :: r
    else if name = n then (n, value) :: r
    else (n, v) :: insert name value r

def find? (name : String) (ms : Members) : Option Json := ms.lookup name

end Members

namespace JsonNumber

def intChars : Int → List Char
  | .ofNat n => Nat.toDigits 10 n
  | .negSucc n => '-' :: Nat.toDigits 10 (n + 1)

def chars : JsonNumber → List Char
  | integer n => intChars n
  | float x => x.chars

end JsonNumber

namespace Json

def escape (c : Char) : List Char :=
  if c = '"' then ['\\', '"']
  else if c = '\\' then ['\\', '\\']
  else if c = Char.ofNat 8 then ['\\', 'b']
  else if c = Char.ofNat 12 then ['\\', 'f']
  else if c = '\n' then ['\\', 'n']
  else if c = '\r' then ['\\', 'r']
  else if c = '\t' then ['\\', 't']
  else if c.toNat < 0x20 then
    ['\\', 'u', '0', '0', Nat.digitChar (c.toNat / 16), Nat.digitChar (c.toNat % 16)]
  else [c]

def textChars (s : String) : List Char := '"' :: s.toList.flatMap escape ++ ['"']

mutual

def chars : Json → List Char
  | null => ['n', 'u', 'l', 'l']
  | bool true => ['t', 'r', 'u', 'e']
  | bool false => ['f', 'a', 'l', 's', 'e']
  | number n => n.chars
  | text s => textChars s
  | list items => '[' :: itemChars items ++ [']']
  | object members => '\x7b' :: memberChars members ++ ['\x7d']

def itemChars : List Json → List Char
  | [] => []
  | [v] => chars v
  | v :: r => chars v ++ ',' :: itemChars r

def memberChars : List (String × Json) → List Char
  | [] => []
  | [(n, v)] => textChars n ++ ':' :: chars v
  | (n, v) :: r => textChars n ++ ':' :: chars v ++ ',' :: memberChars r

end

def instant (t : Int64) : Json := number (.integer t.toInt)

def render (v : Json) : String := String.ofList v.chars

end Json
end RequestAuth
