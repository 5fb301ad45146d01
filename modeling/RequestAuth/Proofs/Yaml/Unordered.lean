import RequestAuth.Proofs.Ensures
import RequestAuth.Proofs.Record
import RequestAuth.Yaml.Reader

/-! A record is read from the members of the map that a document is, each by its name: what they are tells what
is read, not where they stand. Aliases count as what they stand for, and members without a slot are passed over
with all that is inside of them. -/

namespace RequestAuth.Yaml.Read
variable {doc : Document} {e : Entry} {m start : Mark} {n : Node} {es r v : List (Entry × Mark)}

def Entry.opens : Entry → Bool
  | .node .list | .node .map => true
  | _ => false

def Entry.closes : Entry → Bool
  | .listEnd | .mapEnd => true
  | _ => false

inductive Nodes : List (Entry × Mark) → Prop
  | nil : Nodes []
  | leaf {e : Entry} {m : Mark} {es : List (Entry × Mark)} (opens : e.opens = false) (closes : e.closes = false)
      (rest : Nodes es) : Nodes ((e, m) :: es)
  | block {e e' : Entry} {m m' : Mark} {inside es : List (Entry × Mark)} (opens : e.opens) (nodes : Nodes inside)
      (closes : e'.closes) (rest : Nodes es) : Nodes ((e, m) :: (inside ++ (e', m') :: es))

theorem Entry.opens_of_closes (h : e.closes) : e.opens = false := by
  cases e with
  | listEnd | mapEnd => rfl
  | _ => cases h

namespace Document

inductive IsValue (doc : Document) : Node → List (Entry × Mark) → Prop
  | leaf {e : Entry} {m m' : Mark} {n : Node} (opens : e.opens = false) (node : doc.nodeAt e m = .ok (n, m')) :
      IsValue doc n [(e, m)]
  | block {n : Node} {e' : Entry} {m m' : Mark} {inside : List (Entry × Mark)} (opens : (Entry.node n).opens)
      (nodes : Nodes inside) (closes : e'.closes) : IsValue doc n ((.node n, m) :: (inside ++ [(e', m')]))

/-- Names and values of members up to the end of their map. -/
inductive IsMembers (doc : Document) : List (String × Node) → List (Entry × Mark) → Prop
  | nil {m : Mark} {r : List (Entry × Mark)} : IsMembers doc [] ((.mapEnd, m) :: r)
  | cons {key : Entry} {m m' : Mark} {name : String} {style : Style} {tag : Option String} {n : Node}
      {ms : List (String × Node)} {v es : List (Entry × Mark)}
      (named : doc.nodeAt key m = .ok (.scalar name style tag, m')) (value : doc.IsValue n v)
      (rest : doc.IsMembers ms es) : IsMembers doc ((name, n) :: ms) ((key, m) :: (v ++ es))

structure IsMap (doc : Document) (ms : List (String × Node)) : Prop where
  complete : doc.stopped = none
  entries : ∃ m es, doc.entries = (.node .map, m) :: es ∧ doc.IsMembers ms es

theorem closes_of_nodeAt {p : Node × Mark} (h : doc.nodeAt e m = .ok p) : e.closes = false := by
  cases e with
  | listEnd | mapEnd => cases h
  | _ => rfl

theorem take_cons (p : Entry × Mark) : doc.take (p :: r) = .ok (p, r) := rfl

section skip
variable {fuel level : Nat}

theorem skip_cons : doc.skipNode (fuel + 1) level ((e, m) :: r) =
    let level := if e.opens then level + 1 else if e.closes then level - 1 else level
    if level ≠ 0 then doc.skipNode fuel level r else .ok ((), r) := by
  cases e with
  | node n => cases n <;> cases level <;> rfl
  | listEnd | mapEnd => cases level with
    | zero => rfl
    | succ level => cases level <;> rfl
  | _ => cases level <;> rfl

theorem skip_leaf (opens : e.opens = false) (closes : e.closes = false) :
    doc.skipNode (fuel + 1) (level + 1) ((e, m) :: r) = doc.skipNode fuel (level + 1) r := by
  simp [skip_cons, opens, closes]

theorem skip_open (opens : e.opens) :
    doc.skipNode (fuel + 1) level ((e, m) :: r) = doc.skipNode fuel (level + 1) r := by
  simp [skip_cons, opens]

theorem skip_close (closes : e.closes) :
    doc.skipNode (fuel + 1) (level + 2) ((e, m) :: r) = doc.skipNode fuel (level + 1) r := by
  simp [skip_cons, closes, Entry.opens_of_closes closes]

theorem skip_nodes (h : Nodes es) : ∀ fuel level r,
    doc.skipNode (fuel + es.length) (level + 1) (es ++ r) = doc.skipNode fuel (level + 1) r := by
  induction h with
  | nil =>
    intro fuel level r
    rfl
  | @leaf e m es opens closes _ ih =>
    intro fuel level r
    rw [List.length_cons, ← Nat.add_assoc, List.cons_append, skip_leaf opens closes]
    exact ih fuel level r
  | @block e e' m m' inside es opens _ closes _ ih ih' =>
    intro fuel level r
    have room : fuel + ((e, m) :: (inside ++ (e', m') :: es)).length =
        fuel + es.length + 1 + inside.length + 1 := by
      simp only [List.length_cons, List.length_append]
      omega
    rw [room, List.cons_append, skip_open opens, List.append_assoc, ih, List.cons_append, skip_close closes, ih']

theorem skip_value (h : doc.IsValue n v) (r : List (Entry × Mark)) :
    doc.skipNode (fuel + v.length) 0 (v ++ r) = .ok ((), r) := by
  cases h with
  | leaf opens node =>
    simp [skip_cons, opens, closes_of_nodeAt node]
  | @block _ e' m m' inside opens nodes closes =>
    have room : fuel + ((Entry.node n, m) :: (inside ++ [(e', m')])).length = fuel + 1 + inside.length + 1 := by
      simp only [List.length_cons, List.length_append, List.length_nil]
      omega
    rw [room, List.cons_append, skip_open opens, List.append_assoc, skip_nodes nodes]
    simp [skip_cons, closes, Entry.opens_of_closes closes]

end skip

section members
variable {F : Shape} (read : (s : F.Slot) → Node → Except Refusal (F.Value s))

def keptMembers : F.View (String × Node) where
  name p := some p.1
  value s p := (read s p.2).toOption

def ReadsScalars : Prop := ∀ s n, (Entry.node n).opens → (read s n).toOption = none

variable {read}

theorem value_cons (name : String) (s : F.Slot) :
    (doc.value read start name s ((e, m) :: r)).toOption =
      ((doc.nodeAt e m).toOption.bind fun p => (read s p.1).toOption).map fun x => (x, r) := by
  have step : doc.value read start name s ((e, m) :: r) = doc.nodeAt e m >>= fun p =>
      (read s p.1).mapError (Refusal.problem name start p.2) >>= fun x => .ok (x, r) := by
    rw [value]
    change (doc.nodeAt e m >>= fun p => Except.ok (p, r)) >>= _ = _
    rw [bind_assoc]
    rfl
  rw [step, toOption_bind]
  cases (doc.nodeAt e m).toOption with
  | none => rfl
  | some p =>
    rw [Option.bind_some, toOption_bind, toOption_mapError, Option.bind_some]
    cases (read s p.1).toOption <;> rfl

/-- A value is read from its first entry. Where there is more of it, it is none of the record. -/
theorem value_kept (scalars : ReadsScalars read) (h : doc.IsValue n v) (name : String) (s : F.Slot)
    (r : List (Entry × Mark)) :
    (doc.value read start name s (v ++ r)).toOption = (read s n).toOption.map fun x => (x, r) := by
  cases h with
  | leaf opens node =>
    rw [List.singleton_append, value_cons, node]
    rfl
  | block opens nodes closes =>
    rw [List.cons_append, value_cons, scalars s n opens]
    change Option.map _ (read s n).toOption = none
    rw [scalars s n opens]
    rfl

section step
variable {fuel : Nat} {d : F.Draft} {key : Entry} {m' : Mark} {name : String} {style : Style} {tag : Option String}

theorem members_other (named : doc.nodeAt key m = .ok (.scalar name style tag, m')) (other : F.slot? name = none) :
    doc.members read start (fuel + 1) d ((key, m) :: r) =
      doc.skipNode (r.length + 1) 0 r >>= fun p => doc.members read start fuel d p.2 := by
  have closes : key.closes = false := closes_of_nodeAt named
  rw [members]
  cases key with
  | mapEnd | listEnd => cases closes
  | _ =>
    simp only [bind, StateT.bind, take_cons, Except.bind, liftM, monadLift, MonadLift.monadLift, StateT.lift, pure,
      Except.pure, named, other]
    rfl

theorem members_slot (named : doc.nodeAt key m = .ok (.scalar name style tag, m')) {s : F.Slot}
    (slot : F.slot? name = some s) : doc.members read start (fuel + 1) d ((key, m) :: r) =
      if (d s).isSome then .error (.mismatch (.duplicate (F.name s)) none start)
      else doc.value read start (memberName key name) s r >>= fun p =>
        doc.members read start fuel (d.set s p.1) p.2 := by
  have closes : key.closes = false := closes_of_nodeAt named
  rw [members]
  cases key with
  | mapEnd | listEnd => cases closes
  | _ =>
    simp only [bind, StateT.bind, take_cons, Except.bind, liftM, monadLift, MonadLift.monadLift, StateT.lift, pure,
      Except.pure, named, slot]
    split <;> rfl

end step

theorem members_kept (scalars : ReadsScalars read) {ms : List (String × Node)} (h : doc.IsMembers ms es) :
    ∀ fuel d, es.length < fuel →
      (doc.members read start fuel d es).toOption.map Prod.fst = ms.foldlM (keptMembers read).take d := by
  induction h with
  | nil =>
    intro fuel d room
    obtain ⟨fuel, rfl⟩ := Nat.exists_eq_add_one.mpr (Nat.zero_lt_of_lt room)
    rfl
  | @cons key m m' name style tag n ms v es named value _ ih =>
    intro fuel d room
    obtain ⟨fuel, rfl⟩ := Nat.exists_eq_add_one.mpr (Nat.zero_lt_of_lt room)
    rw [List.length_cons, List.length_append] at room
    have rest (d : F.Draft) := ih fuel d (by omega)
    have name' : (keptMembers read).name (name, n) = some name := rfl
    rw [List.foldlM_cons]
    cases slot : F.slot? name with
    | none =>
      have passed : doc.skipNode ((v ++ es).length + 1) 0 (v ++ es) = .ok ((), es) := by
        rw [List.length_append, Nat.add_comm v.length, Nat.add_right_comm]
        exact skip_value value es
      rw [members_other named slot, passed, Shape.View.take_other name' slot]
      exact rest d
    | some s =>
      rw [members_slot named slot, Shape.View.take_slot name' slot]
      split
      · rfl
      · have kept : (keptMembers read).value s (name, n) = (read s n).toOption := rfl
        rw [toOption_bind, value_kept scalars value, kept]
        cases (read s n).toOption with
        | none => rfl
        | some x => exact rest (d.set s x)

theorem record_kept (scalars : ReadsScalars read) {ms : List (String × Node)} (h : doc.IsMap ms) :
    (doc.record F read).toOption = (keptMembers read).filled ms := by
  obtain ⟨m, es, entries, members⟩ := h.entries
  have kept : (doc.members read m (es.length + 1) (Shape.Draft.empty F) es).toOption.map Prod.fst = _ :=
    members_kept scalars members (es.length + 1) (Shape.Draft.empty F) (Nat.lt_succ_self _)
  have draft : doc.draft read doc.entries = doc.members read m (es.length + 1) (Shape.Draft.empty F) es >>=
      fun p => .ok ((p.1, m), p.2) := by
    rw [entries]
    rfl
  have step : doc.record F read = doc.draft read doc.entries >>= fun p =>
      p.1.1.fill.mapError (fun s => .mismatch (.missing (F.name s)) none p.1.2) >>= Except.ok := by
    rw [record, h.complete]
    rfl
  rw [step, draft, Shape.View.filled, ← kept, toOption_bind, toOption_bind]
  cases (doc.members read m (es.length + 1) (Shape.Draft.empty F) es).toOption with
  | none => rfl
  | some p =>
    change Except.toOption (p.1.fill.mapError _ >>= Except.ok) = p.1.fill.toOption
    rw [toOption_bind, toOption_mapError]
    cases p.1.fill.toOption <;> rfl

end members
end Document

/-- A text whose only document is a map of these members. -/
structure IsMap (text : String) (ms : List (String × Node)) : Prop where
  complete : (events text).2 = none
  only : ∃ m, (firstDocument none (events text).1 (.empty none)).2 = [(.streamEnd, m)]
  map : (firstDocument none (events text).1 (.empty none)).1.IsMap ms

section text
variable {F : Shape} {read : (s : F.Slot) → Node → Except Refusal (F.Value s)} {text : String}

theorem record_kept (scalars : Document.ReadsScalars read) {ms : List (String × Node)} (h : IsMap text ms) :
    (record F read text).toOption = (Document.keptMembers read).filled ms := by
  obtain ⟨m, only⟩ := h.only
  have step : record F read text = (firstDocument none (events text).1 (.empty none)).1.record F read := by
    have all : events text = ((events text).1, none) := Prod.ext rfl h.complete
    rw [record, all]
    dsimp only [Option.map_none]
    rw [only]
    cases (firstDocument none (events text).1 (.empty none)).1.record F read <;> rfl
  rw [step, Document.record_kept scalars h.map]

end text

end RequestAuth.Yaml.Read
