/-! Arithmetic modulo a positive number, on representatives below it. -/

namespace RequestAuth.Modular

def sub (m a b : Nat) : Nat := (a + (m - b % m)) % m

def pow (m b : Nat) : Nat → Nat → Nat
  | 0, _ => 1 % m
  | bits + 1, e =>
    let h := pow m b bits (e / 2)
    let s := h * h % m
    if e % 2 = 1 then s * b % m else s

/-- The inverse modulo a prime below `2 ^ 256`. -/
def inv (q a : Nat) : Nat := pow q a 256 (q - 2)

end RequestAuth.Modular
