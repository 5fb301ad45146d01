import RequestAuth.Text.Visible

/-! Texts between double quotes, with everything that would not show written by its code point. -/

namespace RequestAuth.Quoted

def hex (n : Nat) : List Char := Nat.toDigits 16 n

def char (c : Char) : List Char :=
  if c = Char.ofNat 0 then ['\\', '0']
  else if c = '\t' then ['\\', 't']
  else if c = '\r' then ['\\', 'r']
  else if c = '\n' then ['\\', 'n']
  else if c = '"' then ['\\', '"']
  else if c = '\\' then ['\\', '\\']
  else if isVisible c then [c]
  else ['\\', 'u', '\x7b'] ++ hex c.toNat ++ ['\x7d']

def chars (s : String) : List Char := '"' :: s.toList.flatMap char ++ ['"']

end RequestAuth.Quoted

namespace RequestAuth

def quoted (s : String) : String := String.ofList (Quoted.chars s)

end RequestAuth
