import RequestAuth.Proofs.Command.Answer
import RequestAuth.Proofs.Http.Bound

/-! How long a bearer token lasts, on every way to get one. Times have a sign and lifetimes have none; their sum
is exact up to the last second of 64 bits, which no calendar reaches. -/

namespace RequestAuth
open Json.Read
variable {now : Int64} {s s' : SignerState} {requested : Option UInt64}

/-- The seconds that are asked for. To ask for zero is to ask for nothing. -/
def lifetimeSeconds : Option UInt64 → Nat
  | none => 120
  | some n => if n = 0 then 120 else n.toNat

theorem lifetimeSeconds_pos (requested : Option UInt64) : 0 < lifetimeSeconds requested := by
  cases requested with
  | none => decide
  | some n =>
    by_cases zero : n = 0
    · simp [lifetimeSeconds, zero]
    · have some_seconds : n.toNat ≠ 0 := fun e => zero (UInt64.toNat_inj.mp e)
      simp only [lifetimeSeconds, if_neg zero]
      omega

theorem lifetimeSeconds_getD (requested : Option UInt64) :
    lifetimeSeconds (some (requested.getD 0)) = lifetimeSeconds requested := by
  cases requested with
  | none => rfl
  | some n => rfl

/-- The claims are valid at once, for as long as is asked for. -/
structure BearerClaims.Lasts (c : BearerClaims) (now : Int64) (requested : Option UInt64) : Prop where
  notBefore : c.notBefore = now
  issuedAt : c.issuedAt = now
  expires : c.expires.toInt = min (now.toInt + lifetimeSeconds requested) (2 ^ 63 - 1)

namespace BearerClaims
variable {c d : BearerClaims}

theorem lasts_new (subject : String) (audience : List String) (uri : Option RequestUri) (n : UInt64)
    (now : Int64) : (new subject audience uri n now).Lasts now (some n) := by
  refine ⟨rfl, rfl, ?_⟩
  have seconds : (lifetimeSeconds (some n) : Int) = if n = 0 then 120 else n.toNat := by
    simp [lifetimeSeconds]
  rw [seconds, ← Int64.toInt_maxValue]
  exact toInt_expiry now n

namespace Lasts

theorem of_getD (h : c.Lasts now (some (requested.getD 0))) : c.Lasts now requested := by
  obtain ⟨notBefore, issuedAt, expires⟩ := h
  rw [lifetimeSeconds_getD] at expires
  exact ⟨notBefore, issuedAt, expires⟩

/-- The last second of all cannot be outlived. -/
theorem outlives (h : c.Lasts now requested) (early : now < Int64.maxValue) : c.issuedAt < c.expires := by
  have some_seconds := lifetimeSeconds_pos requested
  rw [Int64.lt_iff_toInt_lt, Int64.toInt_maxValue] at early
  rw [Int64.lt_iff_toInt_lt, h.issuedAt, h.expires]
  omega

theorem mono {longer : Option UInt64} (h : c.Lasts now requested) (h' : d.Lasts now longer)
    (le : lifetimeSeconds requested ≤ lifetimeSeconds longer) : c.expires ≤ d.expires := by
  rw [Int64.le_iff_toInt_le, h.expires, h'.expires]
  omega

end Lasts
end BearerClaims

namespace Token

def bearerClaims? (t : String) : Option BearerClaims := do
  let p ← parts? t
  (document BearerClaims.read p.payload).toOption

def Lasts (t : String) (now : Int64) (requested : Option UInt64) : Prop :=
  ∃ c, bearerClaims? t = some c ∧ c.Lasts now requested

theorem Lasts.of_getD {t : String} (h : Lasts t now (some (requested.getD 0))) : Lasts t now requested := by
  obtain ⟨c, read, lasts⟩ := h
  exact ⟨c, read, lasts.of_getD⟩

end Token

theorem BearerRequest.token_lasts {r : BearerRequest} {t : String} (made : r.token now s = .ok t s') :
    Token.Lasts t now (some r.expiresIn) := by
  obtain ⟨-, -, uri, n, key, -, -, -, encoded, -⟩ := token_eq_ok.mp made
  have read := Token.document_bearer (r.claims uri now)
  refine ⟨r.claims uri now, ?_, BearerClaims.lasts_new _ _ _ _ _⟩
  rw [Token.bearerClaims?, Token.parts?_encode encoded]
  simp [read, Except.toOption]

theorem HeadersRequest.headers_lasts {r : HeadersRequest} {now : Times} {set : HeaderSet}
    (made : r.headers now s = .ok set s') :
    ∃ t, set.authorization = "Bearer " ++ t ∧ Token.Lasts t now.bearer r.expiresIn := by
  obtain ⟨token, _, _, bearer, -, rfl⟩ := headers_eq_ok.mp made
  exact ⟨token, rfl, (BearerRequest.token_lasts bearer).of_getD⟩

theorem StreamRequest.headers_lasts {r : StreamRequest} {set : HeaderSet}
    (made : r.headers now s = .ok set s') :
    ∃ t, set.authorization = "Bearer " ++ t ∧ Token.Lasts t now r.expiresIn := by
  obtain ⟨token, bearer, rfl⟩ := headers_eq_ok.mp made
  exact ⟨token, rfl, (BearerRequest.token_lasts bearer).of_getD⟩

theorem Request.authenticate_lasts {o : ClientOptions} {now : Times} {r r' : Request}
    (done : r.authenticate o now s = .ok r' s') :
    ∃ t, r'.headers.values "authorization" = ["Bearer " ++ t] ∧ Token.Lasts t now.bearer o.expiresIn := by
  obtain ⟨body, set, _, made, inserted, -⟩ := authenticate_tokens done
  obtain ⟨t, authorization, lasts⟩ := HeadersRequest.headers_lasts made
  rw [authorization] at inserted
  exact ⟨t, inserted, lasts⟩

namespace Command
variable {w : World} {args : List String} {name : CommandName} {before after : OptionValues}

theorem outcome_headers_lasts (parsed : Arguments.parse args = some (.run .headers before after))
    (done : (outcome w args).exit = 0) : ∃ o t rest, Loads w before after o ∧
      (outcome w args).stdout = "Authorization: Bearer " ++ t ++ "\n" ++ rest ∧
      Token.Lasts t w.now.bearer o.expiresIn := by
  have line := Arguments.parse_eq_run.mp parsed
  obtain ⟨text, ran, out⟩ := outcome_exit parsed done
  obtain ⟨-, answer⟩ := (run_eq_ok line).mp ran
  rw [out]
  cases answer with
  | @headers o c ms set _ loaded _ _ made =>
    obtain ⟨t, authorization, lasts⟩ := HeadersRequest.headers_lasts made
    refine ⟨o, t, String.join (set.pairs.tail.map fun p => p.1 ++ ": " ++ p.2 ++ "\n"), loaded, ?_, lasts⟩
    have pairs : set.pairs = ("Authorization", set.authorization) :: set.pairs.tail := rfl
    have scheme : "Authorization: Bearer " = "Authorization" ++ ": " ++ "Bearer " := rfl
    rw [pairs, authorization, List.map_cons, String.join_cons, List.tail_cons, scheme]
    simp only [String.append_assoc]

theorem outcome_jwt_lasts (parsed : Arguments.parse args = some (.run .jwt before after))
    (done : (outcome w args).exit = 0) : ∃ o t, Loads w before after o ∧
      (outcome w args).stdout = t ++ "\n" ∧
      (∀ text, (.expiresIn, text) ∈ after →
        ∃ n, Environment.countText? text = some n ∧ Token.Lasts t w.now.bearer (some n)) ∧
      ((∀ text, (.expiresIn, text) ∉ after) → Token.Lasts t w.now.bearer o.expiresIn) := by
  have line := Arguments.parse_eq_run.mp parsed
  obtain ⟨text, ran, out⟩ := outcome_exit parsed done
  obtain ⟨-, answer⟩ := (run_eq_ok line).mp ran
  rw [out]
  cases answer with
  | @jwt o c n token _ loaded _ lifetime made =>
    have lasts := BearerRequest.token_lasts made
    have asked {m : UInt64} (h : LifetimeOf after o m) : n = m :=
      ((lifetimeOf_iff line.afterOnce).mp lifetime).trans ((lifetimeOf_iff line.afterOnce).mp h).symm
    refine ⟨o, token, loaded, rfl, ?_, ?_⟩
    · intro text given
      have number : (Environment.countText? text).isSome := line.afterOnce.accepted _ given
      obtain ⟨m, count⟩ := Option.isSome_iff_exists.mp number
      cases asked (.given given count)
      exact ⟨n, count, lasts⟩
    · intro omitted
      cases configured : o.expiresIn with
      | none =>
        cases asked (.default omitted configured)
        have asked_none : Token.Lasts token w.now.bearer (some ((none : Option UInt64).getD 0)) := lasts
        exact asked_none.of_getD
      | some m =>
        cases asked (.configured omitted configured)
        exact lasts

end Command

/-- A token ends when it says, or with the last second that there is: a longer lifetime never ends earlier. What
is asked for is 120 seconds where nothing or zero is asked for. A call that makes a token asks by itself, an
authenticated request and the headers command by the options, and the token command by what it is given or else
by the options. -/
theorem tokens_last :
    (∀ (subject : String) (audience : List String) (uri : Option RequestUri) (n : UInt64) (now : Int64),
      (BearerClaims.new subject audience uri n now).Lasts now (some n) ∧
      (now < Int64.maxValue → (BearerClaims.new subject audience uri n now).issuedAt <
        (BearerClaims.new subject audience uri n now).expires) ∧
      ∀ m, lifetimeSeconds (some n) ≤ lifetimeSeconds (some m) →
        (BearerClaims.new subject audience uri n now).expires ≤
          (BearerClaims.new subject audience uri m now).expires) ∧
    (∀ (r : BearerRequest) (now : Int64) (s s' : SignerState) (t : String),
      r.token now s = .ok t s' → Token.Lasts t now (some r.expiresIn)) ∧
    (∀ (r : HeadersRequest) (now : Times) (s s' : SignerState) (set : HeaderSet),
      r.headers now s = .ok set s' →
        ∃ t, set.authorization = "Bearer " ++ t ∧ Token.Lasts t now.bearer r.expiresIn) ∧
    (∀ (r : StreamRequest) (now : Int64) (s s' : SignerState) (set : HeaderSet),
      r.headers now s = .ok set s' →
        ∃ t, set.authorization = "Bearer " ++ t ∧ Token.Lasts t now r.expiresIn) ∧
    (∀ (o : ClientOptions) (r r' : Request) (now : Times) (s s' : SignerState),
      r.authenticate o now s = .ok r' s' →
        ∃ t, r'.headers.values "authorization" = ["Bearer " ++ t] ∧ Token.Lasts t now.bearer o.expiresIn) ∧
    ∀ (w : World) (args : List String) (name : CommandName) (before after : OptionValues),
      Arguments.parse args = some (.run name before after) → (Command.outcome w args).exit = 0 →
        (name = .headers → ∃ o t rest, Command.Loads w before after o ∧
          (Command.outcome w args).stdout = "Authorization: Bearer " ++ t ++ "\n" ++ rest ∧
          Token.Lasts t w.now.bearer o.expiresIn) ∧
        (name = .jwt → ∃ o t, Command.Loads w before after o ∧
          (Command.outcome w args).stdout = t ++ "\n" ∧
          (∀ text, (.expiresIn, text) ∈ after →
            ∃ n, Environment.countText? text = some n ∧ Token.Lasts t w.now.bearer (some n)) ∧
          ((∀ text, (.expiresIn, text) ∉ after) → Token.Lasts t w.now.bearer o.expiresIn)) := by
  refine ⟨?_, ?_, ?_, ?_, ?_, ?_⟩
  · intro subject audience uri n now
    have lasts := BearerClaims.lasts_new subject audience uri n now
    exact ⟨lasts, lasts.outlives, fun m => lasts.mono (BearerClaims.lasts_new subject audience uri m now)⟩
  · intro r now s s' t
    exact BearerRequest.token_lasts
  · intro r now s s' set
    exact HeadersRequest.headers_lasts
  · intro r now s s' set
    exact StreamRequest.headers_lasts
  · intro o r r' now s s'
    exact Request.authenticate_lasts
  · intro w args name before after parsed done
    refine ⟨?_, ?_⟩
    · rintro rfl
      exact Command.outcome_headers_lasts parsed done
    · rintro rfl
      exact Command.outcome_jwt_lasts parsed done

namespace Command

def hourOptions : ClientOptions := { Request.sampleOptions with expiresIn := some 3600 }

def hourWorld : World := { sampleWorld with environment := hourOptions.toEnvironment }

def zeroOptions : OptionValues := [(.expiresIn, "0")]

def zeroArguments : List String := ["jwt", "--expires-in=0"]

theorem parse_zeroArguments : Arguments.parse zeroArguments = some (.run .jwt [] zeroOptions) :=
  Arguments.parse_writes (c := .jwt) .nil (Arguments.writes_attach zeroOptions) nofun (by decide) ⟨nofun, .nil⟩
    ⟨by decide, by decide⟩ nofun

theorem outcome_hourWorld : (outcome hourWorld zeroArguments).exit = 0 := by
  have line := Arguments.parse_eq_run.mp parse_zeroArguments
  have keyId : Request.sampleOptions.keyId ≠ "" := by decide
  have keySecret : Request.sampleOptions.keySecret ≠ "" := by decide
  have valid : hourOptions.validate = .ok () := ClientOptions.validate_default keyId keySecret rfl
  have loaded : Loads hourWorld [] zeroOptions hourOptions := by
    refine .environment ?_ (ClientOptions.ofEnvironment_toEnvironment valid)
    intro path named
    cases (fileOf_iff line.beforeOnce line.afterOnce).mp named
  have coordinates : CoordinatesOf zeroOptions ⟨"", "", ""⟩ := by
    refine ⟨⟨"", .omitted ?_, asciiUpper_eq_empty.mpr rfl |>.symm⟩, .omitted ?_, .omitted ?_⟩
    all_goals simp [zeroOptions]
  have lifetime : LifetimeOf zeroOptions hourOptions 0 := .given List.mem_cons_self rfl
  obtain ⟨token, s', made⟩ := BearerRequest.sample_made
  have answer : Answers hourWorld [] zeroOptions .jwt (token ++ "\n") :=
    .jwt loaded coordinates lifetime made
  rw [outcome_of_run parse_zeroArguments ((run_eq_ok line).mpr ⟨rfl, answer⟩)]

end Command

/-- A lifetime of zero that is given with the command prevails over the hour of the options. A time before 1970
makes no difference, and the longest lifetime ends with the last second. -/
theorem tokens_last_sample :
    (BearerClaims.new "k" [] none 0 (-100)).expires.toInt = 20 ∧
    (BearerClaims.new "k" [] none 0 (-100)).issuedAt < (BearerClaims.new "k" [] none 0 (-100)).expires ∧
    (BearerClaims.new "k" [] none 18446744073709551615 (-100)).expires.toInt = 2 ^ 63 - 1 ∧
    (Command.outcome Command.hourWorld Command.zeroArguments).exit = 0 ∧
    ∃ t c, (Command.outcome Command.hourWorld Command.zeroArguments).stdout = t ++ "\n" ∧
      Token.bearerClaims? t = some c ∧ c.expires.toInt = 1700000120 := by
  obtain ⟨claims, -, -, -, -, commands⟩ := tokens_last
  obtain ⟨short, later, -⟩ := claims "k" [] none 0 (-100)
  obtain ⟨long, -⟩ := claims "k" [] none 18446744073709551615 (-100)
  have done := Command.outcome_hourWorld
  obtain ⟨-, token⟩ := commands _ _ _ _ _ Command.parse_zeroArguments done
  obtain ⟨o, t, -, out, given, -⟩ := token rfl
  obtain ⟨n, count, c, read, lasts⟩ := given "0" List.mem_cons_self
  have zero : Environment.countText? "0" = some 0 := rfl
  cases zero.symm.trans count
  exact ⟨short.expires, later (by decide), long.expires, done, t, c, out, read, lasts.expires⟩

end RequestAuth
