import RequestAuth.Options
import RequestAuth.Proofs.Ensures
import RequestAuth.Proofs.Environment
import RequestAuth.Proofs.Json.Number
import RequestAuth.Proofs.Url.Idna

/-! Options that can be used are loaded from variables that set them. -/

namespace RequestAuth

namespace Environment

theorem lowerChars_digit {c : Char} (h : c.isDigit) : lowerChars c = [c] := by
  obtain ⟨low, high⟩ := Json.Read.digit_range h
  have small : c.toNat < 0x80 := by omega
  have plain : c ≠ Char.ofNat 0x130 := by
    rintro rfl
    exact absurd small (by decide)
  have capital : ¬(c.val ≥ 'A'.val ∧ c.val ≤ 'Z'.val) := by
    intro letter
    have letter : 65 ≤ c.toNat := UInt32.le_iff_toNat_le.mp letter.1
    omega
  have same : c.toLower = c := dif_neg capital
  rw [lowerChars, if_neg plain, lowerChar, if_pos small, same]

theorem lowerCase_digits {ds : List Char} (digits : ∀ c ∈ ds, c.isDigit) :
    lowerCase (String.ofList ds) = String.ofList ds := by
  have same : ds.flatMap lowerChars = ds := by
    induction ds with
    | nil => rfl
    | cons c ds ih =>
      rw [List.flatMap_cons, lowerChars_digit (digits c (by simp)),
        ih fun d hd => digits d (List.mem_cons_of_mem c hd)]
      rfl
  rw [lowerCase, String.toList_ofList, same]

theorem countText?_decimal {ds : List Char} (any : ds ≠ []) (digits : ∀ c ∈ ds, c.isDigit)
    (small : decimal ds < Nat.pow 2 64) :
    countText? (String.ofList ds) = some (UInt64.ofNat (decimal ds)) := by
  cases ds with
  | nil => exact absurd rfl any
  | cons c r =>
    have unsigned : c ≠ '+' := by
      rintro rfl
      exact absurd (digits '+' List.mem_cons_self) (by decide)
    have all : (c :: r).all Char.isDigit = true := List.all_eq_true.mpr digits
    simp [countText?, unsigned, all, small]

theorem digits_notMem_words {ds : List Char} (digits : ∀ c ∈ ds, c.isDigit) {ws : List String}
    (letters : (ws.all fun w => !w.toList.all Char.isDigit) = true) : String.ofList ds ∉ ws := by
  intro word
  have other := List.all_eq_true.mp letters _ word
  rw [String.toList_ofList, List.all_eq_true.mpr digits] at other
  cases other

theorem count_decimal (name : String) {ds : List Char} (any : ds ≠ []) (digits : ∀ c ∈ ds, c.isDigit)
    (small : decimal ds < Nat.pow 2 64) :
    count name (.text (String.ofList ds)) = .ok (UInt64.ofNat (decimal ds)) := by
  have yes : String.ofList ds ∉ ["true", "on", "yes"] := digits_notMem_words digits (by decide)
  have no : String.ofList ds ∉ ["false", "off", "no"] := digits_notMem_words digits (by decide)
  simp only [count, lowerCase_digits digits, List.contains_iff_mem, yes, no,
    countText?_decimal any digits small]
  rfl

theorem count_digits (name : String) (n : UInt64) :
    count name (.text (String.ofList (Nat.toDigits 10 n.toNat))) = .ok n := by
  have digits : ∀ c ∈ Nat.toDigits 10 n.toNat, c.isDigit := fun c hc => Json.Read.isDigit_toDigits hc
  have value : decimal (Nat.toDigits 10 n.toNat) = n.toNat :=
    Nat.ofDigitChars_toDigits (by decide) (by decide)
  have small : decimal (Nat.toDigits 10 n.toNat) < Nat.pow 2 64 := lt_of_eq_of_lt value n.toNat_lt
  rw [count_decimal name Nat.toDigits_ne_nil digits small, value, UInt64.ofNat_toNat]

theorem flag_toString (name : String) (b : Bool) : flag name (.text (toString b)) = .ok b := by
  cases b <;> rfl

end Environment

namespace ClientOptions

def variableName : Slot → String
  | .keyId => "CDP_API_KEY_ID"
  | .keySecret => "CDP_API_KEY_SECRET"
  | .walletSecret => "CDP_WALLET_SECRET"
  | .basePath => "CDP_BASE_PATH"
  | .expiresIn => "CDP_EXPIRES_IN"
  | .source => "CDP_SOURCE"
  | .sourceVersion => "CDP_SOURCE_VERSION"
  | .debugging => "CDP_DEBUGGING"

def text? (o : ClientOptions) : Slot → Option String
  | .keyId => some o.keyId
  | .keySecret => some o.keySecret
  | .walletSecret => o.walletSecret
  | .basePath => some o.basePath
  | .expiresIn => o.expiresIn.map fun n => String.ofList (Nat.toDigits 10 n.toNat)
  | .source => o.source
  | .sourceVersion => o.sourceVersion
  | .debugging => some (toString o.debugging)

def toEnvironment (o : ClientOptions) : Environment.Variables :=
  Environment.written shape variableName o.text?

def filled (o : ClientOptions) : shape.Filled
  | .keyId => o.keyId
  | .keySecret => o.keySecret
  | .walletSecret => o.walletSecret
  | .basePath => o.basePath
  | .expiresIn => o.expiresIn
  | .source => o.source
  | .sourceVersion => o.sourceVersion
  | .debugging => o.debugging

theorem assignment?_variableName (s : Slot) (t : String) :
    Environment.assignment? (variableName s, t) = some (shape.name s, .text t) := by
  have name : Environment.localName? (variableName s) = some (shape.name s).toList := by
    cases s <;> decide
  rw [Environment.assignment?, name]
  cases s <;> rfl

theorem readSetting_text {o : ClientOptions} {s : Slot} {t : String} (h : o.text? s = some t)
    (name : String) : readSetting s name (.text t) = .ok (o.filled s) := by
  cases s with
  | keyId | keySecret | basePath =>
    cases h
    rfl
  | walletSecret | source | sourceVersion =>
    simp only [text?] at h
    simp only [readSetting, filled, h]
    rfl
  | expiresIn =>
    obtain ⟨n, given, rfl⟩ := Option.map_eq_some_iff.mp h
    simp only [readSetting, filled, given, Environment.count_digits]
    rfl
  | debugging =>
    cases h
    exact Environment.flag_toString name o.debugging

theorem absent_text {o : ClientOptions} {s : Slot} (h : o.text? s = none) :
    shape.absent s = some (o.filled s) := by
  cases s with
  | keyId | keySecret | basePath | debugging => cases h
  | walletSecret | source | sourceVersion =>
    simp only [text?] at h
    simp [shape, filled, h]
  | expiresIn => simp [shape, filled, Option.map_eq_none_iff.mp h]

theorem ofEnvironment_toEnvironment {o : ClientOptions} (valid : o.validate = .ok ()) :
    ofEnvironment o.toEnvironment = .ok o := by
  have named : ∀ s, shape.slot? (shape.name s) = some s := by
    intro s
    cases s <;> decide
  have read : Environment.record shape readSetting o.toEnvironment = .ok o.filled :=
    Environment.record_written named (by decide) assignment?_variableName o.filled
      (fun s t h => readSetting_text h _) fun s h => absent_text h
  have whole : ofFilled o.filled = o := rfl
  rw [ofEnvironment, read]
  dsimp only
  rw [whole, valid]
  rfl

def defaultHost : String := "api.cdp.coinbase.com"

def defaultPath : String := "/platform"

theorem special_defaultHost : Host.special defaultHost.toList = .ok defaultHost := by
  have decoded : Percent.decode (Bytes.ofText (String.ofList defaultHost.toList)) =
      Bytes.ofText defaultHost := by decide
  have lower : defaultHost.toList.map Char.toLower = defaultHost.toList := by decide
  have labels : ∀ l ∈ (defaultHost.toList.map Char.toLower).splitOn '.', ¬ Idna.acePrefix.isPrefixOf l := by
    decide
  have name := Idna.toAscii?_ascii (by decide : Idna.isAscii defaultHost.toList) labels
  have plain : (defaultHost.toList.all fun c => !(c.toNat ≤ 0x20 || c.toNat == 0x7f ||
      "%#/:<>?@[\\]^|".toList.contains c)) = true := by decide
  have free : defaultHost.toList.any Host.isForbidden = false := by
    rw [List.any_eq_false]
    intro c hc
    have usable := List.all_eq_true.mp plain c hc
    rw [List.contains_eq_mem, Bool.not_eq_true'] at usable
    rw [Host.isForbidden, String.contains_char_eq, Bool.not_eq_true]
    exact usable
  have read : Host.domain? (Bytes.ofText defaultHost) = some defaultHost.toList := by
    -- The check of the encoding does not reduce, but the bytes are those of a text.
    rw [Host.domain?, Bytes.toText?_ofText]
    simp only [Option.bind_eq_bind, Option.bind_some, name, lower, free]
    rfl
  have bracket : defaultHost.toList.head? ≠ some '[' := by decide
  have domain : Host.endsInNumber defaultHost.toList = false := by decide
  rw [Host.special, if_neg bracket, decoded, read]
  change (if Host.endsInNumber defaultHost.toList then _ else _) = _
  rw [domain]
  exact congrArg Except.ok String.ofList_toList

theorem parse_defaultBasePath : Url.parse defaultBasePath =
    .ok ⟨"https", some ⟨"", defaultHost, none⟩, defaultPath, none, none⟩ := by
  let rest := (defaultHost ++ defaultPath).toList
  have scheme : Url.readScheme? (Url.cleaned defaultBasePath.toList) = some ("https", '/' :: '/' :: rest) := by
    decide
  have user : Url.splitUser defaultHost.toList = (none, defaultHost.toList) := by decide
  have host : Url.splitHost false defaultHost.toList = (defaultHost.toList, []) := by decide
  have authority : Url.readAuthority "https" .special defaultHost.toList true =
      .ok (⟨"", defaultHost, none⟩, []) := by
    simp only [Url.readAuthority, user, host, Url.readHost, special_defaultHost]
    rfl
  have front : (rest.takeWhile fun c => !Url.isAuthorityEnd .special c) = defaultHost.toList := by decide
  have back : rest.drop defaultHost.toList.length = defaultPath.toList := by decide
  have ended : (false || defaultPath.toList != []) = true := by decide
  have path : Url.pathAfterAuthority .special ([] ++ defaultPath.toList) = defaultPath := by decide
  have parts : Url.authorityAndPath "https" .special rest false =
      .ok (⟨"", defaultHost, none⟩, defaultPath) := by
    simp only [Url.authorityAndPath, front, back, ended, authority, bind, Except.bind, path]
    rfl
  have tail : Url.splitTail ('/' :: '/' :: rest) = ('/' :: '/' :: rest, none, none) := by decide
  have slashes : Url.dropSlashes .special ('/' :: '/' :: rest) = rest := by decide
  have family : Url.family "https" = .special := by decide
  rw [Url.parse, scheme]
  simp only [tail, family, slashes, Option.isSome_none, Bool.or_self, parts, bind, Except.bind]
  rfl

theorem validate_default {o : ClientOptions} (keyId : o.keyId ≠ "") (keySecret : o.keySecret ≠ "")
    (base : o.basePath = defaultBasePath) : o.validate = .ok () := by
  rw [validate, if_neg keyId, if_neg keySecret, baseUrl, base, parse_defaultBasePath]
  rfl

end ClientOptions
end RequestAuth
