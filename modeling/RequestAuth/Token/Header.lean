import RequestAuth.Algorithm

/-! The protected header of a token. -/

namespace RequestAuth

structure TokenHeader where
  algorithm : Algorithm
  mediaType : String
  keyId : Option String
  nonce : Option String
  deriving DecidableEq

namespace TokenHeader

def jwt : String := "JWT"

def new (a : Algorithm) : TokenHeader := ⟨a, jwt, none, none⟩

def toJson (h : TokenHeader) : Json :=
  .object ([("alg", h.algorithm.toJson), ("typ", .text h.mediaType)] ++
    (h.keyId.map fun k => ("kid", .text k)).toList ++
    (h.nonce.map fun n => ("nonce", .text n)).toList)

def shown (h : TokenHeader) : Shown :=
  .record "Header"
    [("alg", h.algorithm.shown), ("typ", .text h.mediaType), ("kid", .option .text h.keyId),
      ("nonce", .option .text h.nonce)]

inductive Slot where
  | alg
  | typ
  | kid
  | nonce
  deriving DecidableEq

@[reducible] def shape : Shape where
  Slot := Slot
  decEq := inferInstance
  title := "Header"
  slots := [.alg, .typ, .kid, .nonce]
  mem_slots := by intro s; cases s <;> simp
  names
    | .alg => ("alg", [])
    | .typ => ("typ", [])
    | .kid => ("kid", [])
    | .nonce => ("nonce", [])
  Value
    | .alg => Algorithm
    | .typ => String
    | .kid | .nonce => Option String
  absent
    | .alg | .typ => none
    | .kid | .nonce => some none
  omitted
    | .alg | .typ => none
    | .kid | .nonce => some none

def readSlot : (s : Slot) → Nat → Json.Read.Reader (shape.Value s)
  | .alg, depth => Algorithm.read depth
  | .typ, _ => Json.Read.string
  | .kid, _ => Json.Read.optional Json.Read.string
  | .nonce, _ => Json.Read.optional Json.Read.string

def ofFilled (f : shape.Filled) : TokenHeader := ⟨f .alg, f .typ, f .kid, f .nonce⟩

def read (depth : Nat) : Json.Read.Reader TokenHeader := fun s => do
  let (f, r) ← Json.Read.record shape readSlot depth s
  return (ofFilled f, r)

end TokenHeader
end RequestAuth
