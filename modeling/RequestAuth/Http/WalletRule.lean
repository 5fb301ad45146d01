/-! Which requests need a wallet proof. -/

namespace RequestAuth

def containsList (part : List Char) : List Char → Bool
  | [] => part.isEmpty
  | c :: r => part.isPrefixOf (c :: r) || containsList part r

def accountsPart : List Char := ['/', 'a', 'c', 'c', 'o', 'u', 'n', 't', 's']

/-- Requests that change accounts need a wallet proof. The method counts as it is written. -/
def requiresWalletProof (method path : String) : Bool :=
  containsList accountsPart path.toList && (method == "POST" || method == "DELETE")

end RequestAuth
