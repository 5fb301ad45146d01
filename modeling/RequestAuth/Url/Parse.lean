import RequestAuth.Url.Host

/-! Reading URLs. Blanks and controls at the ends and tabs and line ends anywhere are dropped; schemes
of the web have a host and a path of segments, in which dot segments are resolved. -/

namespace RequestAuth.Url

inductive Family where
  | file
  | special
  | other
  deriving DecidableEq

def family (scheme : String) : Family :=
  if scheme = "file" then .file
  else if ["http", "https", "ws", "wss", "ftp"].contains scheme then .special
  else .other

def defaultPort (scheme : String) : Option Nat :=
  if scheme = "http" ∨ scheme = "ws" then some 80
  else if scheme = "https" ∨ scheme = "wss" then some 443
  else if scheme = "ftp" then some 21
  else none

def isEdge (c : Char) : Bool := c.toNat ≤ 0x20

def cleaned (cs : List Char) : List Char :=
  (((cs.dropWhile isEdge).reverse.dropWhile isEdge).reverse).filter fun c =>
    c != '\t' && c != '\n' && c != '\r'

def isSchemeChar (c : Char) : Bool := c.isAlphanum || c == '+' || c == '-' || c == '.'

def readScheme? (cs : List Char) : Option (String × List Char) :=
  let name := cs.takeWhile isSchemeChar
  match name, cs.drop name.length with
  | c :: r, ':' :: rest =>
    if c.isAlpha then some (String.ofList ((c :: r).map Char.toLower), rest) else none
  | _, _ => none

/-- A backslash counts as a slash where the scheme has rules of its own. -/
def isSlash (f : Family) (c : Char) : Bool := c == '/' || (c == '\\' && f != .other)

def isAuthorityEnd (f : Family) (c : Char) : Bool := isSlash f c || c == '?' || c == '#'

def userInfoText (cs : List Char) : String :=
  let name := cs.takeWhile (· != ':')
  let word := (cs.drop (name.length + 1))
  let name := Percent.encode Percent.inUserInfo name
  let word := Percent.encode Percent.inUserInfo word
  if word = [] then (if name = [] then "" else String.ofList (name ++ ['@']))
  else String.ofList (name ++ ':' :: word ++ ['@'])

def splitUser (cs : List Char) : Option (List Char) × List Char :=
  let after := (cs.reverse.takeWhile (· != '@')).reverse
  if after.length = cs.length then (none, cs)
  else (some (cs.take (cs.length - after.length - 1)), after)

def splitHost : Bool → List Char → List Char × List Char
  | _, [] => ([], [])
  | inside, c :: r =>
    if c = ':' ∧ ¬ inside then ([], c :: r)
    else
      let inside := if c = '[' then true else if c = ']' then false else inside
      let (h, rest) := splitHost inside r
      (c :: h, rest)

def portNumber? (ds : List Char) : Option Nat :=
  let n := ds.foldl (fun n c => n * 10 + (c.toNat - 48)) 0
  if n ≤ 65535 then some n else none

def readPort (scheme : String) : List Char → Except UrlFault (Option Nat × List Char)
  | [] => .ok (none, [])
  | _ :: cs =>
    let ds := cs.takeWhile Char.isDigit
    let rest := cs.drop ds.length
    match portNumber? ds with
    | none => .error .invalidPort
    | some n =>
      if !(rest.isEmpty || rest.head? == some '\\') then .error .invalidPort
      else .ok (if ds = [] || defaultPort scheme = some n then none else some n, rest)

def readHost (f : Family) (cs : List Char) : Except UrlFault String :=
  match f with
  | .other => Host.opaqueText cs
  | _ => if cs = [] then .error .emptyHost else Host.special cs

/-- The authority in `cs`, which holds none of the signs that end it; `ended` if one follows. -/
def readAuthority (scheme : String) (f : Family) (cs : List Char) (ended : Bool) :
    Except UrlFault (Authority × List Char) := do
  let (user, rest) := splitUser cs
  if user = some [] ∧ rest = [] ∧ ended then throw .emptyHost
  let (hostChars, portChars) := splitHost false rest
  let host ← readHost f hostChars
  if host = "" ∧ portChars ≠ [] then throw .emptyHost
  let info := match user with
    | some u => userInfoText u
    | none => ""
  if host = "" ∧ info ≠ "" then throw .emptyHost
  let (port, rest) ← readPort scheme portChars
  return (⟨info, host, port⟩, rest)

def isDot (s : List Char) : Bool :=
  let s := s.map Char.toLower
  s == ['.'] || s == ['%', '2', 'e']

def isDoubleDot (s : List Char) : Bool :=
  let s := s.map Char.toLower
  [['.', '.'], ['.', '%', '2', 'e'], ['%', '2', 'e', '.'], ['%', '2', 'e', '%', '2', 'e']].contains s

def isDrive : List Char → Bool
  | [c, d] => c.isAlpha && (d == ':' || d == '|')
  | _ => false

def segments (f : Family) : List Char → List (List Char)
  | [] => [[]]
  | c :: r =>
    if isSlash f c then [] :: segments f r
    else match segments f r with
      | s :: ss => (c :: s) :: ss
      | [] => [[c]]

/-- Drops the last segment, but not the name of a disk that stands first. -/
def shorten (f : Family) (done : List (List Char)) : List (List Char) :=
  match f, done with
  | .file, [d] => if isDrive d then [d] else []
  | _, done => done.dropLast

def resolve (f : Family) : List (List Char) → List (List Char) → List (List Char)
  | done, [] => done
  | done, s :: ss =>
    if isDoubleDot s then
      let done := shorten f done
      if ss = [] then done ++ [[]] else resolve f done ss
    else if isDot s then
      if ss = [] then done ++ [[]] else resolve f done ss
    else
      let s := match f, done, s with
        | .file, [], [c, d] => if isDrive [c, d] then [c, ':'] else [c, d]
        | _, _, s => s
      resolve f (done ++ [s]) ss

/-- A file's path does not start with empty segments unless they are all there is. -/
def trimEmpty (f : Family) : List (List Char) → List (List Char)
  | [] :: s :: ss => if f = .file then trimEmpty f (s :: ss) else [] :: s :: ss
  | ss => ss

def pathText (f : Family) (cs : List Char) : String :=
  let parts := trimEmpty f (resolve f [] ((segments f cs).map fun s => Percent.encode Percent.inPath s))
  String.ofList (parts.flatMap fun s => '/' :: s)

def pathAfterAuthority (f : Family) (cs : List Char) : String :=
  match cs with
  | [] => if f = .other then "" else "/"
  | c :: r => if isSlash f c then pathText f r else pathText f (c :: r)

def splitTail (cs : List Char) : List Char × Option (List Char) × Option (List Char) :=
  let main := cs.takeWhile (· != '#')
  let fragment := match cs.drop main.length with
    | _ :: r => some r
    | [] => none
  let path := main.takeWhile (· != '?')
  let query := match main.drop path.length with
    | _ :: r => some r
    | [] => none
  (path, query, fragment)

def withTail (scheme : String) (f : Family) (a : Option Authority) (path : String)
    (query fragment : Option (List Char)) : Url :=
  let inQuery := if f = .other then Percent.inQuery else Percent.inSpecialQuery
  ⟨scheme, a, path, query.map fun q => String.ofList (Percent.encode inQuery q),
    fragment.map fun r => String.ofList (Percent.encode Percent.inFragment r)⟩

def dropSlashes (f : Family) (cs : List Char) : List Char := cs.dropWhile (isSlash f)

def authorityAndPath (scheme : String) (f : Family) (cs : List Char) (ended : Bool) :
    Except UrlFault (Authority × String) := do
  let auth := cs.takeWhile fun c => !isAuthorityEnd f c
  let rest := cs.drop auth.length
  let (a, more) ← readAuthority scheme f auth (ended || rest != [])
  return (a, pathAfterAuthority f (more ++ rest))

/-- The host of a file is dropped where it is this computer or where a disk follows. -/
def fileParts (cs : List Char) : Except UrlFault (Authority × String) := do
  let nowhere : Authority := ⟨"", "", none⟩
  match cs with
  | a :: b :: r =>
    if isSlash .file a && isSlash .file b then
      let host := r.takeWhile fun c => !isAuthorityEnd .file c
      let rest := r.drop host.length
      if isDrive host then return (nowhere, pathText .file r)
      let name ← if host = [] then pure "" else Host.special host
      let name := if name = "localhost" then "" else name
      let path := pathAfterAuthority .file rest
      let startsWithDrive := match (segments .file (rest.drop 1)).head? with
        | some s => isDrive s
        | none => false
      return (⟨"", if startsWithDrive then "" else name, none⟩, path)
    else if isSlash .file a then return (nowhere, pathText .file (b :: r))
    else return (nowhere, pathText .file cs)
  | [a] => if isSlash .file a then return (nowhere, "/") else return (nowhere, pathText .file cs)
  | [] => return (nowhere, "/")

def parse (text : String) : Except UrlFault Url :=
  match readScheme? (cleaned text.toList) with
  | none => .error .noScheme
  | some (scheme, rest) => do
    let f := family scheme
    let (main, query, fragment) := splitTail rest
    let ended := query.isSome || fragment.isSome
    match f, main with
    | .file, main =>
      let (a, path) ← fileParts main
      return withTail scheme f (some a) path query fragment
    | .special, main =>
      let (a, path) ← authorityAndPath scheme f (dropSlashes f main) ended
      return withTail scheme f (some a) path query fragment
    | .other, '/' :: '/' :: r =>
      let (a, path) ← authorityAndPath scheme f r ended
      return withTail scheme f (some a) path query fragment
    | .other, '/' :: r => return withTail scheme f none (pathText f r) query fragment
    | .other, r =>
      return withTail scheme f none (String.ofList (Percent.encode Percent.isControl r)) query fragment

end RequestAuth.Url
