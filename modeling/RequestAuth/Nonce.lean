import RequestAuth.Bytes
import RequestAuth.Text.Shown

/-! Values that make every token different, and where they come from. -/

namespace RequestAuth

structure Nonce where
  bytes : Vector UInt8 16
  deriving DecidableEq

namespace Nonce

def length : Nat := 16

def toList (n : Nonce) : Bytes := n.bytes.toList

theorem length_toList (n : Nonce) : n.toList.length = length := by
  simp [toList, length]

def ofBytes? (b : Bytes) : Option Nonce :=
  if h : b.length = 16 then some ⟨⟨b.toArray, by simp [h]⟩⟩ else none

theorem ofBytes?_toList (n : Nonce) : ofBytes? n.toList = some n := by
  obtain ⟨⟨b, hb⟩⟩ := n
  simp [ofBytes?, toList, hb]

/-- The 32 digits of the written form. -/
def hex (n : Nonce) : String := Bytes.toHex n.toList

def zero : Nonce := ⟨Vector.replicate 16 0⟩

def shown (n : Nonce) : Shown := .tuple "Nonce" [.list (n.toList.map fun b => .nat b.toNat)]

end Nonce

/-- What the next draws give: always the same, always a failure, or the entries of a list in turn. -/
inductive NonceSource where
  | constant (n : Nonce)
  | broken (reason : String)
  | listed (entries : List (Except String Nonce))

namespace NonceSource

def exhausted : String := "nonce list exhausted"

def take : NonceSource → Except String Nonce × NonceSource
  | constant n => (.ok n, constant n)
  | broken reason => (.error reason, broken reason)
  | listed [] => (.error exhausted, listed [])
  | listed (e :: r) => (e, listed r)

end NonceSource
end RequestAuth
