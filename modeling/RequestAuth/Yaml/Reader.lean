import RequestAuth.Number.Shortest
import RequestAuth.Yaml.Core

/-! Reading a record from the only document of a text. A value of the wrong type is reported with the
name of its member and its place; what comes after it does not matter then. -/

namespace RequestAuth.Yaml.Read

inductive Problem where
  | yaml (fault : Fault)
  | unknownAnchor (mark : Mark)
  | endOfStream
  | severalDocuments
  | mismatch (m : Mismatch) (member : Option String) (mark : Mark)
  deriving DecidableEq

def wording : Wording := ⟨"unit value", Binary64.positionalChars⟩

def Problem.message : Problem → String
  | yaml f => f.message
  | unknownAnchor m => "unknown anchor" ++ (if m.isFirst then "" else " at " ++ m.text)
  | endOfStream => "EOF while parsing a value"
  | severalDocuments => "deserializing from YAML containing more than one document is not supported"
  | mismatch m member mark =>
    (match member with
      | some n => n ++ ": "
      | none => "") ++ m.message wording ++ (if mark.isFirst then "" else " at " ++ mark.text)

inductive Node where
  | scalar (text : String) (style : Style) (tag : Option String)
  | list
  | map
  deriving DecidableEq

inductive Entry where
  | node (n : Node)
  | alias (number : Nat)
  | listEnd
  | mapEnd
  deriving DecidableEq

/-- The entries of a document up to its end, and why they end if it is not that. -/
structure Document where
  entries : List (Entry × Mark)
  targets : List (Nat × Node × Mark)
  stopped : Option Problem

structure Draft where
  names : List (String × Nat)
  document : Document

namespace Draft

def empty (stopped : Option Problem) : Draft := ⟨[], [], [], stopped⟩

def add (d : Draft) (e : Entry) (m : Mark) : Draft :=
  { d with document.entries := (e, m) :: d.document.entries }

/-- An anchor is numbered by how many names there are. -/
def anchor (d : Draft) (name : String) (n : Node) (m : Mark) : Draft where
  names := (name, d.names.length) :: d.names.filter fun x => x.1 != name
  document := { d.document with targets := (d.names.length, n, m) :: d.document.targets }

def addNode (d : Draft) (n : Node) (p : Properties) (m : Mark) : Draft :=
  match p.anchor with
  | some a => (d.anchor a n m).add (.node n) m
  | none => d.add (.node n) m

def finish (d : Draft) (stopped : Option Problem) : Document :=
  { d.document with entries := d.document.entries.reverse, stopped := stopped }

end Draft

/-- The first document, and the events after it. Without any document it is an empty text. -/
def firstDocument (stopped : Option Problem) : List (Event × Mark) → Draft → Document × List (Event × Mark)
  | [], d => (d.finish stopped, [])
  | (e, m) :: r, d =>
    match e with
    | .documentStart => firstDocument stopped r d
    | .documentEnd => (d.finish none, r)
    | .streamEnd => ((d.add (.node (.scalar "" .plain none)) m).finish none, (e, m) :: r)
    | .alias n =>
      match d.names.lookup n with
      | some k => firstDocument stopped r (d.add (.alias k) m)
      | none => (d.finish (some (.unknownAnchor m)), r)
    | .listEnd => firstDocument stopped r (d.add .listEnd m)
    | .mapEnd => firstDocument stopped r (d.add .mapEnd m)
    | .scalar s style p => firstDocument stopped r (d.addNode (.scalar s style p.tag) p m)
    | .listStart p => firstDocument stopped r (d.addNode .list p m)
    | .mapStart p => firstDocument stopped r (d.addNode .map p m)

def coreTag (name : String) : String := "tag:yaml.org,2002:" ++ name

/-- What a text is where its type is not known beforehand. -/
def meaning (text : String) (style : Style) (tag : Option String) : Except Mismatch Found :=
  match tag with
  | none => .ok (if style = .plain then plainMeaning text else .text text)
  | some t =>
    if t = coreTag "bool" then
      match truth? text with
      | some b => .ok (.bool b)
      | none => .error (.value (.text text) "a boolean")
    else if t = coreTag "int" then
      match integer? text.toList with
      | some n => .ok n
      | none => .error (.value (.text text) "an integer")
    else if t = coreTag "float" then
      match float? text with
      | some x => .ok x
      | none => .error (.value (.text text) "a float")
    else if t = coreTag "null" then
      if isNull text then .ok .null else .error (.value (.text text) "null")
    else if t.startsWith "!" && style = .plain then .ok (plainMeaning text)
    else .ok (.text text)

def wrongType (expected : String) : Node → Mismatch
  | .list => .type .list expected
  | .map => .type .map expected
  | .scalar text style tag =>
    match meaning text style tag with
    | .ok found => .type found expected
    | .error m => m

structure Refusal where
  mismatch : Mismatch
  ofRecord : Bool
  deriving DecidableEq

def Refusal.problem (name : String) (start m : Mark) (r : Refusal) : Problem :=
  if r.ofRecord then .mismatch r.mismatch none start else .mismatch r.mismatch (some name) m

def refuse (m : Mismatch) : Except Refusal α := .error ⟨m, false⟩

def string : Node → Except Refusal String
  | .scalar text _ _ => .ok text
  | n => refuse (wrongType "a string" n)

def unquoted? (tag : String) : Node → Option String
  | .scalar text .plain _ => some text
  | .scalar text .literal (some t) => if t = coreTag tag then some text else none
  | _ => none

def boolean (n : Node) : Except Refusal Bool :=
  match (unquoted? "bool" n).bind truth? with
  | some b => .ok b
  | none => refuse (wrongType "a boolean" n)

def count (n : Node) : Except Refusal UInt64 :=
  match (unquoted? "int" n).bind fun s => unsigned? s.toList with
  | some k => if k < Nat.pow 2 64 then .ok (UInt64.ofNat k) else refuse (wrongType "u64" n)
  | none => refuse (wrongType "u64" n)

/-- An unquoted null, or nothing at all, is no value. A text that is wrongly tagged as null is refused
before the value is looked at. -/
def isAbsent : Node → Except Refusal Bool
  | .scalar text .plain none => .ok (text = "" || isNull text)
  | .scalar text .plain (some t) =>
    if t ≠ coreTag "null" then .ok false
    else if isNull text then .ok true
    else .error ⟨.value (.text text) "null", true⟩
  | _ => .ok false

def optional (read : Node → Except Refusal α) (n : Node) : Except Refusal (Option α) := do
  if ← isAbsent n then return none
  else return some (← read n)

abbrev Step (α : Type) := StateT (List (Entry × Mark)) (Except Problem) α

namespace Document

def ended (doc : Document) : Problem := doc.stopped.getD .endOfStream

def take (doc : Document) : Step (Entry × Mark) := do
  match ← get with
  | [] => throw doc.ended
  | e :: r =>
    set r
    return e

/-- Passes over a node, inside as many others as have been opened. -/
def skipNode (doc : Document) : Nat → Nat → Step Unit
  | 0, _ => throw doc.ended
  | fuel + 1, level => do
    let level := match (← doc.take).1 with
      | .node .list | .node .map => level + 1
      | .listEnd | .mapEnd => level - 1
      | _ => level
    if level ≠ 0 then doc.skipNode fuel level

def nodeAt (doc : Document) (e : Entry) (m : Mark) : Except Problem (Node × Mark) :=
  match e with
  | .node n => .ok (n, m)
  | .alias k =>
    match doc.targets.lookup k with
    | some t => .ok t
    | none => .error doc.ended
  | _ => .error doc.ended

def memberName (e : Entry) (name : String) : String :=
  match e with
  | .alias _ => "?"
  | _ => name

def value (doc : Document) {F : Shape} (read : (s : F.Slot) → Node → Except Refusal (F.Value s)) (start : Mark)
    (name : String) (slot : F.Slot) : Step (F.Value slot) := do
  let (e, m) ← doc.take
  let (n, m) ← doc.nodeAt e m
  (read slot n).mapError (Refusal.problem name start m)

/-- The members up to the end of the map. Others are passed over. -/
def members (doc : Document) {F : Shape} (read : (s : F.Slot) → Node → Except Refusal (F.Value s))
    (start : Mark) : Nat → F.Draft → Step F.Draft
  | 0, _ => throw doc.ended
  | fuel + 1, d => do
    match ← doc.take with
    | (.mapEnd, _) => return d
    | (e, m) => do
      match ← doc.nodeAt e m with
      | (.scalar name _ _, _) =>
        match F.slot? name with
        | some slot => do
          if (d slot).isSome then throw (.mismatch (.duplicate (F.name slot)) none start)
          let v ← doc.value read start (memberName e name) slot
          doc.members read start fuel (d.set slot v)
        | none => do
          doc.skipNode ((← get).length + 1) 0
          doc.members read start fuel d
      | (key, m) => throw (.mismatch (wrongType "field identifier" key) none m)

def draft (doc : Document) {F : Shape} (read : (s : F.Slot) → Node → Except Refusal (F.Value s)) :
    Step (F.Draft × Mark) := do
  let (e, m) ← doc.take
  match ← doc.nodeAt e m with
  | (.map, m) => return (← doc.members read m ((← get).length + 1) (Shape.Draft.empty F), m)
  | (.scalar "" .plain _, m) => return (Shape.Draft.empty F, m)
  | (n, m) => throw (.mismatch (wrongType F.expected n) none m)

def record (doc : Document) (F : Shape) (read : (s : F.Slot) → Node → Except Refusal (F.Value s)) :
    Except Problem F.Filled := do
  let ((d, start), _) ← doc.draft read doc.entries
  let f ← d.fill.mapError fun slot => .mismatch (.missing (F.name slot)) none start
  match doc.stopped with
  | some p => throw p
  | none => return f

end Document

def record (F : Shape) (read : (s : F.Slot) → Node → Except Refusal (F.Value s)) (text : String) :
    Except Problem F.Filled := do
  let (es, fault) := events text
  let stopped := fault.map Problem.yaml
  let (doc, rest) := firstDocument stopped es (.empty stopped)
  let f ← doc.record F read
  match rest with
  | [(.streamEnd, _)] => return f
  | _ => throw .severalDocuments

end RequestAuth.Yaml.Read
