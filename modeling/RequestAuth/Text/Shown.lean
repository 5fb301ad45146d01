import RequestAuth.Json.Basic
import RequestAuth.Text.Quoted

/-! The layout of values for a person to read: everything on one line, or one item a line with four
blanks for each level. -/

namespace RequestAuth

inductive Bracket where
  | tuple
  | list
  | map
  | record

/-- A word stands for itself; a group has a heading before its bracket, and its items may be labelled. -/
inductive Shown where
  | word (s : String)
  | group (heading : String) (b : Bracket) (items : List (String × Shown))

namespace Bracket

def opening : Bracket → List Char
  | tuple => ['(']
  | list => ['[']
  | map => ['\x7b']
  | record => [' ', '\x7b']

def closing : Bracket → List Char
  | tuple => [')']
  | list => [']']
  | map | record => ['\x7d']

def gap : Bracket → List Char
  | record => [' ']
  | _ => []

end Bracket

namespace Shown

mutual

def lineChars : Shown → List Char
  | word s => s.toList
  | group h b [] => h.toList ++ b.opening ++ b.closing
  | group h b (i :: is) =>
    h.toList ++ b.opening ++ b.gap ++ lineItems (i :: is) ++ b.gap ++ b.closing

def lineItems : List (String × Shown) → List Char
  | [] => []
  | [(l, v)] => l.toList ++ lineChars v
  | (l, v) :: r => l.toList ++ lineChars v ++ [',', ' '] ++ lineItems r

end

def indent (level : Nat) : List Char := List.replicate (4 * level) ' '

mutual

def blockChars (level : Nat) : Shown → List Char
  | word s => s.toList
  | group h b [] => h.toList ++ b.opening ++ b.closing
  | group h b (i :: is) =>
    h.toList ++ b.opening ++ ['\n'] ++ blockItems (level + 1) (i :: is) ++ indent level ++ b.closing

def blockItems (level : Nat) : List (String × Shown) → List Char
  | [] => []
  | (l, v) :: r =>
    indent level ++ l.toList ++ blockChars level v ++ [',', '\n'] ++ blockItems level r

end

def render (pretty : Bool) (v : Shown) : String :=
  String.ofList (if pretty then v.blockChars 0 else v.lineChars)

def text (s : String) : Shown := word (quoted s)

def int (n : Int) : Shown := word (String.ofList (JsonNumber.intChars n))

def nat (n : Nat) : Shown := int n

def bool (b : Bool) : Shown := word (if b then "true" else "false")

def list (xs : List Shown) : Shown := group "" .list (xs.map fun x => ("", x))

def tuple (heading : String) (xs : List Shown) : Shown := group heading .tuple (xs.map fun x => ("", x))

def record (heading : String) (members : List (String × Shown)) : Shown :=
  group heading .record (members.map fun (n, v) => (n ++ ": ", v))

def option (show? : α → Shown) : Option α → Shown
  | none => word "None"
  | some a => tuple "Some" [show? a]

def secret : Shown := text "<redacted>"

def optionalSecret (s : Option String) : Shown := option (fun _ => secret) s

mutual

def json : Json → Shown
  | .null => word "Null"
  | .bool b => word (if b then "Bool(true)" else "Bool(false)")
  | .number n => word ("Number(" ++ String.ofList n.chars ++ ")")
  | .text s => word ("String(" ++ quoted s ++ ")")
  | .list items => group "Array " .list (jsonItems items)
  | .object members => group "Object " .map (jsonMembers members)

def jsonItems : List Json → List (String × Shown)
  | [] => []
  | v :: r => ("", json v) :: jsonItems r

def jsonMembers : List (String × Json) → List (String × Shown)
  | [] => []
  | (n, v) :: r => (quoted n ++ ": ", json v) :: jsonMembers r

end

def members (ms : Members) : Shown := group "" .map (jsonMembers ms)

end Shown
end RequestAuth
