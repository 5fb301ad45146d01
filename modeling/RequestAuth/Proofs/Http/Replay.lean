import RequestAuth.Proofs.Http.Fields
import RequestAuth.Proofs.Token.Mark
import RequestAuth.Proofs.Token.Refusal

/-! Tokens that are made with one list of nonces, by any calls in any order: each has an entry of the list
for itself, whatever fails in between. -/

namespace RequestAuth
open Signing Token

inductive Issued where
  | bearer (token : String)
  | wallet (token : String)
  deriving DecidableEq

namespace Issued

/-- The written nonce of a token that has exactly one, in the header of a bearer token and in the payload of
a wallet proof. -/
def nonce? : Issued → Option String
  | bearer t => do
    let h ← header? t
    let m ← mark? t
    if m.tokenId = none then h.nonce else none
  | wallet t => do
    let h ← header? t
    let m ← mark? t
    if h.nonce = none then m.tokenId else none

def ofField? (p : String × String) : Option Issued :=
  if asciiLower p.1 = "authorization" then
    some (.bearer (String.ofList (p.2.toList.drop "Bearer ".length)))
  else if asciiLower p.1 = "x-wallet-auth" then some (.wallet p.2)
  else none

/-- The tokens in header fields. -/
def ofFields (fs : HeaderFields) : List Issued := fs.filterMap ofField?

end Issued

inductive Job where
  | bearer (r : BearerRequest)
  | wallet (r : WalletRequest)
  | headers (r : HeadersRequest)
  | stream (r : StreamRequest)
  | authenticate (o : ClientOptions) (r : Request)

/-- The tokens that a call gives out. Authenticating a request gives out those that it inserts. -/
def Job.issue (now : Times) : Job → Signing (List Issued)
  | bearer r => do return [.bearer (← r.token now.bearer)]
  | wallet r => do return [.wallet (← r.token now.wallet)]
  | headers r => do return Issued.ofFields (← r.headers now).pairs
  | stream r => do return Issued.ofFields (← r.headers now.bearer).pairs
  | authenticate o r => fun s =>
    match Request.edit o now ⟨r, s⟩ with
    | .ok fields q => .ok (Issued.ofFields fields) q.signer
    | .error e q => .error e q.signer

def issueAll : List (Times × Job) → SignerState → List Issued × SignerState
  | [], s => ([], s)
  | (now, job) :: jobs, s =>
    match job.issue now s with
    | .ok tokens t => (tokens ++ (issueAll jobs t).1, (issueAll jobs t).2)
    | .error _ t => issueAll jobs t

abbrev Entry := Except String Nonce

/-- Giving out tokens takes entries from the front of a list: one for each token, whose nonce it has then,
and perhaps some for no token. -/
inductive Spends : List Entry → List Issued → List Entry → Prop where
  | done (l : List Entry) : Spends l [] l
  | lost {l l' : List Entry} {ts : List Issued} (e : Entry) (rest : Spends l ts l') : Spends (e :: l) ts l'
  | used {l l' : List Entry} {ts : List Issued} {n : Nonce} {t : Issued} (has : t.nonce? = some n.hex)
    (rest : Spends l ts l') : Spends (.ok n :: l) (t :: ts) l'

namespace Spends
variable {l m l' : List Entry} {ts us : List Issued}

theorem trans (first : Spends l ts m) (second : Spends m us l') : Spends l (ts ++ us) l' := by
  induction first with
  | done l => exact second
  | lost e _ ih => exact (ih second).lost e
  | used has _ ih => exact (ih second).used has

/-- Tokens that are not given out in the end have cost their nonces. -/
theorem forget (h : Spends l ts l') : Spends l [] l' := by
  induction h with
  | done l => exact done l
  | lost e _ ih => exact ih.lost e
  | used _ _ ih => exact ih.lost _

theorem taken (h : Spends l ts l') (entries : List Entry) (k : Nat) (rest : entries.drop k = l) :
    ∃ taken : List (Nat × Nonce), (taken.map Prod.fst).Pairwise (· < ·) ∧
      (∀ p ∈ taken, k ≤ p.1 ∧ entries[p.1]? = some (.ok p.2)) ∧
      ts.map Issued.nonce? = taken.map fun p => some p.2.hex := by
  induction h generalizing k with
  | done l => exact ⟨[], List.Pairwise.nil, by simp, rfl⟩
  | lost e _ ih =>
    obtain ⟨taken, places, values, texts⟩ := ih (k + 1) (by rw [← List.tail_drop, rest, List.tail_cons])
    refine ⟨taken, places, ?_, texts⟩
    intro p hp
    obtain ⟨after, value⟩ := values p hp
    exact ⟨by omega, value⟩
  | @used l l' ts n t has _ ih =>
    obtain ⟨taken, places, values, texts⟩ := ih (k + 1) (by rw [← List.tail_drop, rest, List.tail_cons])
    have here : entries[k]? = some (.ok n) := by
      rw [← Nat.add_zero k, ← List.getElem?_drop, rest]
      rfl
    refine ⟨(k, n) :: taken, ?_, ?_, by simp [has, texts]⟩
    · rw [List.map_cons, List.pairwise_cons]
      refine ⟨?_, places⟩
      intro i hi
      obtain ⟨p, hp, rfl⟩ := List.mem_map.mp hi
      exact (values p hp).1
    · intro p hp
      obtain rfl | later := List.mem_cons.mp hp
      · exact ⟨Nat.le_refl k, here⟩
      · obtain ⟨after, value⟩ := values p later
        exact ⟨by omega, value⟩

theorem sublist (h : Spends l ts l') :
    (ts.map Issued.nonce?).Sublist ((l.filterMap Except.toOption).map fun n => some n.hex) := by
  induction h with
  | done l => exact List.nil_sublist _
  | lost e _ ih =>
    cases e with
    | error reason => exact ih
    | ok n => exact ih.cons _
  | used has _ ih => 
    simp only [List.map_cons, has, List.filterMap_cons, Except.toOption]
    exact ih.cons_cons _

end Spends

theorem Nonce.hex_inj {n m : Nonce} (h : n.hex = m.hex) : n = m := by
  have octets := n.ofHex?_hex
  rw [h, m.ofHex?_hex] at octets
  have same := congrArg Nonce.ofBytes? (Option.some.inj octets)
  rw [ofBytes?_toList, ofBytes?_toList] at same
  exact (Option.some.inj same).symm

theorem Spends.nodup {l l' : List Entry} {ts : List Issued} (h : Spends l ts l')
    (distinct : (l.filterMap Except.toOption).Nodup) : (ts.map Issued.nonce?).Nodup := by
  refine h.sublist.nodup (List.Pairwise.map _ ?_ distinct)
  intro n m other e
  exact other (Nonce.hex_inj (Option.some.inj e))

section token
variable {now : Int64} {s s' : SignerState} {l : List Entry} {t : String} {e : AuthError}

theorem NonceSource.take_listed {n : Nonce} {next : NonceSource} (h : (listed l).take = (.ok n, next)) :
    ∃ l', l = .ok n :: l' ∧ next = .listed l' := by
  cases l with
  | nil => cases h
  | cons e l' =>
    cases h
    exact ⟨l', rfl, rfl⟩

theorem BearerRequest.token_issued {r : BearerRequest} (made : r.token now s = .ok t s') :
    ∃ n, s.nonces.take = (.ok n, s'.nonces) ∧ (Issued.bearer t).nonce? = some n.hex := by
  obtain ⟨uri, n, key, -, take, head, mark⟩ := token_mark made
  exact ⟨n, take, by simp [Issued.nonce?, head, mark, header]⟩

theorem WalletRequest.token_issued {r : WalletRequest} (made : r.token now s = .ok t s') :
    ∃ n, s.nonces.take = (.ok n, s'.nonces) ∧ (Issued.wallet t).nonce? = some n.hex := by
  obtain ⟨n, take, head, mark⟩ := token_mark made
  exact ⟨n, take, by simp [Issued.nonce?, head, mark, TokenHeader.new]⟩

inductive Reason where
  | request
  | nonce
  | apiSecret
  | walletSecret
  | fields
  | other
  deriving DecidableEq

def AuthError.reason : AuthError → Reason
  | missing .keyId | missing .keySecret | malformedCoordinates | body _ => .request
  | missing .walletSecret | missing .configuredWalletSecret => .walletSecret
  | nonce _ => .nonce
  | key (.keypair _) | key .unrecognized => .apiSecret
  | key (.walletText _) | key .walletStructure | key .notEc | key .notP256 => .walletSecret
  | headerValue => .fields
  | document _ | algorithmMismatch .. | options _ => .other

theorem BearerRequest.token_refused {r : BearerRequest} (h : r.token now s = .error e s') :
    e.reason = .request ∧ s'.nonces = s.nonces ∨
    e.reason = .nonce ∧ (∃ reason, s.nonces.take = (.error reason, s'.nonces)) ∨
    e.reason = .apiSecret ∧ ∃ n, s.nonces.take = (.ok n, s'.nonces) := by
  obtain ⟨refused, kept⟩ | ⟨reason, rfl, take⟩ | ⟨f, n, rfl, read, take⟩ := token_error h
  · refine Or.inl ⟨?_, kept⟩
    obtain rfl | rfl | rfl := refused?_eq_some refused <;> rfl
  · exact Or.inr (Or.inl ⟨rfl, reason, take⟩)
  · refine Or.inr (Or.inr ⟨?_, n, take⟩)
    obtain ⟨g, rfl⟩ | rfl := SigningKey.ofApiSecret_error read <;> rfl

theorem WalletRequest.token_refused {r : WalletRequest} (h : r.token now s = .error e s') :
    e.reason = .walletSecret ∧ s'.nonces = s.nonces ∨
    e.reason = .nonce ∧ ∃ reason, s.nonces.take = (.error reason, s'.nonces) := by
  obtain ⟨refused, kept⟩ | ⟨reason, rfl, take⟩ := token_error h
  · refine Or.inl ⟨?_, kept⟩
    obtain rfl | ⟨f, rfl, read⟩ := refused?_eq_some refused
    · rfl
    · obtain ⟨g, rfl⟩ | rfl | rfl | rfl := SigningKey.ofWalletSecret_error read <;> rfl
  · exact Or.inr ⟨rfl, reason, take⟩

end token

/-- A call that succeeds takes one nonce for each of its tokens, and nothing else. -/
def Paid (l : List Entry) (ts : List Issued) (l' : List Entry) : Prop :=
  ∃ ns : List Nonce, l = ns.map .ok ++ l' ∧ ts.map Issued.nonce? = ns.map fun n => some n.hex

theorem Paid.spends {l l' : List Entry} {ts : List Issued} (h : Paid l ts l') : Spends l ts l' := by
  obtain ⟨ns, rfl, has⟩ := h
  induction ns generalizing ts with
  | nil =>
    obtain rfl : ts = [] := by simpa using has
    exact Spends.done l'
  | cons n ns ih =>
    cases ts with
    | nil => simp at has
    | cons t ts =>
      obtain ⟨first, rest⟩ := List.cons.inj has
      exact (ih rest).used first

/-- What a call has taken that fails. In front of a wallet proof, unless it is made alone, there is a bearer
token that has got its nonce already. -/
structure Lost (alone : Bool) (e : AuthError) (l l' : List Entry) : Prop where
  spends : Spends l [] l'
  request : e.reason = .request → l' = l
  apiSecret : e.reason = .apiSecret → ∃ n, l = .ok n :: l'
  walletSecret : e.reason = .walletSecret → if alone then l' = l else ∃ n, l = .ok n :: l'

section call
variable {now : Times} {s s' : SignerState} {l : List Entry} {e : AuthError}

theorem NonceSource.take_listed_error {reason : String} {next : NonceSource}
    (h : (listed l).take = (.error reason, next)) : ∃ l', next = .listed l' ∧ Spends l [] l' := by
  cases l with
  | nil =>
    cases h
    exact ⟨[], rfl, Spends.done []⟩
  | cons e l' =>
    cases h
    exact ⟨l', rfl, (Spends.done l').lost _⟩

theorem lost_bearer {r : BearerRequest} {now : Int64} (listed : s.nonces = .listed l)
    (h : r.token now s = .error e s') : ∃ l', s'.nonces = .listed l' ∧ Lost false e l l' := by
  obtain ⟨reason, kept⟩ | ⟨reason, _, take⟩ | ⟨reason, n, take⟩ := BearerRequest.token_refused h
  · exact ⟨l, kept.trans listed, Spends.done l, fun _ => rfl, by simp [reason], by simp [reason]⟩
  · rw [listed] at take
    obtain ⟨l', left, spends⟩ := NonceSource.take_listed_error take
    exact ⟨l', left, spends, by simp [reason], by simp [reason], by simp [reason]⟩
  · rw [listed] at take
    obtain ⟨l', rfl, left⟩ := NonceSource.take_listed take
    exact ⟨l', left, (Spends.done l').lost _, by simp [reason], fun _ => ⟨n, rfl⟩, by simp [reason]⟩

theorem lost_wallet {r : WalletRequest} {now : Int64} (listed : s.nonces = .listed l)
    (h : r.token now s = .error e s') : ∃ l', s'.nonces = .listed l' ∧ Lost true e l l' := by
  obtain ⟨reason, kept⟩ | ⟨reason, _, take⟩ := WalletRequest.token_refused h
  · exact ⟨l, kept.trans listed, Spends.done l, by simp [reason], by simp [reason], fun _ => rfl⟩
  · rw [listed] at take
    obtain ⟨l', left, spends⟩ := NonceSource.take_listed_error take
    exact ⟨l', left, spends, by simp [reason], by simp [reason], by simp [reason]⟩

theorem Issued.ofFields_pairs (set : HeaderSet) : ofFields set.pairs =
    .bearer (String.ofList (set.authorization.toList.drop "Bearer ".length)) ::
      set.walletAuth.toList.map .wallet := by
  have authorization : asciiLower "Authorization" = "authorization" := asciiLower_eq rfl
  have contentType : asciiLower "Content-Type" = "content-type" := asciiLower_eq rfl
  have walletAuth : asciiLower HeaderSet.walletAuthName = "x-wallet-auth" := asciiLower_eq rfl
  have correlation : asciiLower HeaderSet.correlationContextName = "correlation-context" :=
    asciiLower_eq rfl
  cases w : set.walletAuth <;>
    simp [ofFields, ofField?, HeaderSet.pairs, w, authorization, contentType, walletAuth, correlation]

theorem Issued.ofFields_inserted (set : HeaderSet) : ofFields set.inserted = ofFields set.pairs := by
  have authorization : asciiLower "authorization" = "authorization" := asciiLower_eq rfl
  have contentType : asciiLower "content-type" = "content-type" := asciiLower_eq rfl
  have walletAuth : asciiLower "x-wallet-auth" = "x-wallet-auth" := asciiLower_eq rfl
  have correlation : asciiLower "correlation-context" = "correlation-context" := asciiLower_eq rfl
  rw [ofFields_pairs]
  cases w : set.walletAuth <;>
    simp [ofFields, ofField?, HeaderSet.inserted, w, authorization, contentType, walletAuth, correlation]

theorem drop_bearer (t : String) :
    String.ofList (("Bearer " ++ t).toList.drop "Bearer ".length) = t := by
  rw [String.toList_append, ← String.length_toList, List.drop_left, String.ofList_toList]

theorem paid_headers {r : HeadersRequest} {set : HeaderSet} (listed : s.nonces = .listed l)
    (made : r.headers now s = .ok set s') : ∃ l', s'.nonces = .listed l' ∧
      Paid l (Issued.ofFields set.pairs) l' := by
  obtain ⟨token, proof, t, bearer, wallet, rfl⟩ := HeadersRequest.headers_eq_ok.mp made
  obtain ⟨n, take, first⟩ := BearerRequest.token_issued bearer
  rw [listed] at take
  obtain ⟨m, rfl, left⟩ := NonceSource.take_listed take
  rw [Issued.ofFields_pairs]
  simp only [HeadersRequest.headerSet, drop_bearer]
  have wallet := HeadersRequest.walletToken_eq_ok.mp wallet
  split at wallet
  · obtain ⟨w, p, -, proved, rfl⟩ := wallet
    obtain ⟨k, take, second⟩ := WalletRequest.token_issued proved
    rw [left] at take
    obtain ⟨l', rfl, rest⟩ := NonceSource.take_listed take
    exact ⟨l', rest, [n, k], rfl, by simp [first, second]⟩
  · obtain ⟨rfl, rfl⟩ := wallet
    exact ⟨m, left, [n], rfl, by simp [first]⟩

theorem HeadersRequest.walletToken_refused {r : HeadersRequest} (h : r.walletToken now s = .error e s') :
    e.reason = .walletSecret ∧ s'.nonces = s.nonces ∨
    e.reason = .nonce ∧ ∃ reason, s.nonces.take = (.error reason, s'.nonces) := by
  unfold walletToken at h
  split at h
  · obtain asked | ⟨w, t, asked, h⟩ := bind_eq_error.mp h
    · refine Or.inl ?_
      unfold wallet at asked
      split at asked
      · cases asked
        exact ⟨rfl, rfl⟩
      · split at asked
        · cases asked
          exact ⟨rfl, rfl⟩
        · cases asked
    · obtain ⟨-, rfl⟩ := lift_eq_ok.mp asked
      obtain refused | ⟨_, _, _, h⟩ := bind_eq_error.mp h
      · exact WalletRequest.token_refused refused
      · exact absurd h pure_ne_error
  · exact absurd h pure_ne_error

theorem lost_headers {r : HeadersRequest} (listed : s.nonces = .listed l)
    (h : r.headers now s = .error e s') : ∃ l', s'.nonces = .listed l' ∧ Lost false e l l' := by
  obtain refused | ⟨token, t, bearer, h⟩ := bind_eq_error.mp h
  · exact lost_bearer listed refused
  obtain ⟨n, take, -⟩ := BearerRequest.token_issued bearer
  rw [listed] at take
  obtain ⟨m, rfl, left⟩ := NonceSource.take_listed take
  obtain refused | ⟨_, _, _, h⟩ := bind_eq_error.mp h
  · obtain ⟨reason, kept⟩ | ⟨reason, _, take⟩ := HeadersRequest.walletToken_refused refused
    · exact ⟨m, kept.trans left, (Spends.done m).lost _, by simp [reason], by simp [reason],
        fun _ => ⟨n, rfl⟩⟩
    · rw [left] at take
      obtain ⟨l', rest, spends⟩ := NonceSource.take_listed_error take
      exact ⟨l', rest, spends.lost _, by simp [reason], by simp [reason], by simp [reason]⟩
  · exact absurd h pure_ne_error

theorem paid_stream {r : StreamRequest} {now : Int64} {set : HeaderSet} (listed : s.nonces = .listed l)
    (made : r.headers now s = .ok set s') : ∃ l', s'.nonces = .listed l' ∧
      Paid l (Issued.ofFields set.pairs) l' := by
  obtain ⟨token, bearer, rfl⟩ := StreamRequest.headers_eq_ok.mp made
  obtain ⟨n, take, first⟩ := BearerRequest.token_issued bearer
  rw [listed] at take
  obtain ⟨m, rfl, left⟩ := NonceSource.take_listed take
  rw [Issued.ofFields_pairs]
  simp only [drop_bearer]
  exact ⟨m, left, [n], rfl, by simp [first]⟩

theorem lost_stream {r : StreamRequest} {now : Int64} (listed : s.nonces = .listed l)
    (h : r.headers now s = .error e s') : ∃ l', s'.nonces = .listed l' ∧ Lost false e l l' := by
  obtain refused | ⟨_, _, _, h⟩ := bind_eq_error.mp h
  · exact lost_bearer listed refused
  · exact absurd h pure_ne_error

end call

namespace Job
variable {job : Job} {now : Times} {s s' : SignerState} {l : List Entry}

def isAlone : Job → Bool
  | wallet _ => true
  | _ => false

theorem issue_paid {ts : List Issued} (listed : s.nonces = .listed l)
    (h : job.issue now s = .ok ts s') : ∃ l', s'.nonces = .listed l' ∧ Paid l ts l' ∧
      ((∃ t, ts = [t]) ∨ ∃ b w, ts = [.bearer b, .wallet w]) := by
  have pair (set : HeaderSet) : (∃ t, Issued.ofFields set.pairs = [t]) ∨
      ∃ b w, Issued.ofFields set.pairs = [.bearer b, .wallet w] := by
    rw [Issued.ofFields_pairs]
    cases set.walletAuth with
    | none => exact Or.inl ⟨_, rfl⟩
    | some w => exact Or.inr ⟨_, w, rfl⟩
  cases job with
  | bearer r =>
    obtain ⟨t, _, made, done⟩ := bind_eq_ok.mp h
    obtain ⟨rfl, rfl⟩ := pure_eq_ok.mp done
    obtain ⟨n, take, has⟩ := BearerRequest.token_issued made
    rw [listed] at take
    obtain ⟨l', rfl, left⟩ := NonceSource.take_listed take
    exact ⟨l', left, ⟨[n], rfl, by simp [has]⟩, Or.inl ⟨_, rfl⟩⟩
  | wallet r =>
    obtain ⟨t, _, made, done⟩ := bind_eq_ok.mp h
    obtain ⟨rfl, rfl⟩ := pure_eq_ok.mp done
    obtain ⟨n, take, has⟩ := WalletRequest.token_issued made
    rw [listed] at take
    obtain ⟨l', rfl, left⟩ := NonceSource.take_listed take
    exact ⟨l', left, ⟨[n], rfl, by simp [has]⟩, Or.inl ⟨_, rfl⟩⟩
  | headers r =>
    obtain ⟨set, _, made, done⟩ := bind_eq_ok.mp h
    obtain ⟨rfl, rfl⟩ := pure_eq_ok.mp done
    obtain ⟨l', left, paid⟩ := paid_headers listed made
    exact ⟨l', left, paid, pair set⟩
  | stream r =>
    obtain ⟨set, _, made, done⟩ := bind_eq_ok.mp h
    obtain ⟨rfl, rfl⟩ := pure_eq_ok.mp done
    obtain ⟨l', left, paid⟩ := paid_stream listed made
    exact ⟨l', left, paid, pair set⟩
  | authenticate o r =>
    unfold issue at h
    cases edited : Request.edit o now ⟨r, s⟩ with
    | error e q => simp [edited] at h
    | ok fields q =>
      simp only [edited] at h
      cases h
      obtain ⟨body, set, t, -, made, valid, signer, -⟩ := Request.edit_eq_ok.mp edited
      obtain ⟨l', left, paid⟩ := paid_headers listed made
      rw [HeaderSet.fields_inserted valid, Issued.ofFields_inserted]
      exact ⟨l', by rw [signer]; exact left, paid, pair set⟩

theorem issue_lost {e : AuthError} (listed : s.nonces = .listed l)
    (h : job.issue now s = .error e s') : ∃ l', s'.nonces = .listed l' ∧ Lost job.isAlone e l l' := by
  cases job with
  | bearer r =>
    obtain refused | ⟨_, _, _, h⟩ := bind_eq_error.mp h
    · exact lost_bearer listed refused
    · exact absurd h pure_ne_error
  | wallet r =>
    obtain refused | ⟨_, _, _, h⟩ := bind_eq_error.mp h
    · exact lost_wallet listed refused
    · exact absurd h pure_ne_error
  | headers r =>
    obtain refused | ⟨_, _, _, h⟩ := bind_eq_error.mp h
    · exact lost_headers listed refused
    · exact absurd h pure_ne_error
  | stream r =>
    obtain refused | ⟨_, _, _, h⟩ := bind_eq_error.mp h
    · exact lost_stream listed refused
    · exact absurd h pure_ne_error
  | authenticate o r =>
    unfold issue at h
    cases edited : Request.edit o now ⟨r, s⟩ with
    | ok fields q => simp [edited] at h
    | error f q =>
      simp only [edited] at h
      cases h
      obtain ⟨-, refused | ⟨body, -, refused | ⟨set, made, invalid⟩⟩⟩ := Request.edit_error edited
      · obtain ⟨kept, f, -, rfl⟩ := Request.boundBody_error refused
        exact ⟨l, kept.trans listed, Spends.done l, fun _ => rfl, nofun, nofun⟩
      · exact lost_headers listed refused
      · obtain rfl := HeaderSet.fields_eq_error invalid
        obtain ⟨l', left, paid⟩ := paid_headers listed made
        exact ⟨l', left, paid.spends.forget, nofun, nofun, nofun⟩

end Job

theorem issueAll_spends (jobs : List (Times × Job)) {s : SignerState} {l : List Entry}
    (listed : s.nonces = .listed l) : ∃ l', (issueAll jobs s).2.nonces = .listed l' ∧
      Spends l (issueAll jobs s).1 l' := by
  induction jobs generalizing s l with
  | nil => exact ⟨l, listed, Spends.done l⟩
  | cons p jobs ih =>
    obtain ⟨now, job⟩ := p
    rw [issueAll]
    cases h : job.issue now s with
    | ok ts t =>
      obtain ⟨m, left, paid, -⟩ := Job.issue_paid listed h
      obtain ⟨l', rest, spends⟩ := ih left
      exact ⟨l', rest, paid.spends.trans spends⟩
    | error e t =>
      obtain ⟨m, left, lost⟩ := Job.issue_lost listed h
      obtain ⟨l', rest, spends⟩ := ih left
      exact ⟨l', rest, lost.spends.trans spends⟩

/-- The tokens of a run have the nonces of ever later entries of the list, each that of one entry, and what
a call has cost can be told from its tokens or from its error. -/
theorem issueAll_nonces (entries : List Entry) (events : List Event) (jobs : List (Times × Job)) :
    (∃ taken : List (Nat × Nonce), (taken.map Prod.fst).Pairwise (· < ·) ∧
      (∀ p ∈ taken, entries[p.1]? = some (.ok p.2)) ∧
      (issueAll jobs ⟨.listed entries, events⟩).1.map Issued.nonce? =
        taken.map fun p => some p.2.hex) ∧
    ((entries.filterMap Except.toOption).Nodup →
      ((issueAll jobs ⟨.listed entries, events⟩).1.map Issued.nonce?).Nodup) ∧
    (∀ (job : Job) now l s ts s', s.nonces = .listed l → job.issue now s = .ok ts s' →
      ∃ (ns : List Nonce) (l' : List Entry), l = ns.map .ok ++ l' ∧ s'.nonces = .listed l' ∧
        (ts.map Issued.nonce? = ns.map fun n => some n.hex) ∧
        ((∃ t, ts = [t]) ∨ ∃ b w, ts = [.bearer b, .wallet w])) ∧
    ∀ (job : Job) now l s e s', s.nonces = .listed l → job.issue now s = .error e s' →
      ∃ l', s'.nonces = .listed l' ∧
        (e.reason = .request → l' = l) ∧
        (e.reason = .apiSecret → ∃ n, l = .ok n :: l') ∧
        (e.reason = .walletSecret → if job.isAlone then l' = l else ∃ n, l = .ok n :: l') := by
  obtain ⟨l', -, spends⟩ := issueAll_spends jobs (s := ⟨.listed entries, events⟩) rfl
  refine ⟨?_, spends.nodup, ?_, ?_⟩
  · obtain ⟨taken, places, values, texts⟩ := spends.taken entries 0 rfl
    exact ⟨taken, places, fun p hp => (values p hp).2, texts⟩
  · intro job now l s ts s' listed h
    obtain ⟨l', left, ⟨ns, all, has⟩, order⟩ := Job.issue_paid listed h
    exact ⟨ns, l', all, left, has, order⟩
  · intro job now l s e s' listed h
    obtain ⟨l', left, lost⟩ := Job.issue_lost listed h
    exact ⟨l', left, lost.request, lost.apiSecret, lost.walletSecret⟩

/-- A secret that is no key costs the middle one of three nonces, and the others are told apart. -/
theorem issueAll_nonces_sample : ∃ b w s',
    issueAll [(1700000000, .bearer .sample), (1700000000, .bearer { BearerRequest.sample with keySecret := "-" }),
        (1700000001, .bearer { BearerRequest.sample with keyId := "" }), (1700000002, .wallet .sample)]
      ⟨.listed [.ok .zero, .ok ⟨.replicate 16 1⟩, .ok ⟨.replicate 16 2⟩], []⟩ =
        ([.bearer b, .wallet w], s') ∧
    ([Issued.bearer b, Issued.wallet w].map Issued.nonce?).Nodup := by
  let n : Nonce := ⟨.replicate 16 1⟩
  let m : Nonce := ⟨.replicate 16 2⟩
  let keyless : BearerRequest := { BearerRequest.sample with keySecret := "-" }
  let nameless : BearerRequest := { BearerRequest.sample with keyId := "" }
  obtain ⟨b, s₁, left₁, first⟩ : ∃ b s₁, s₁.nonces = .listed [.ok n, .ok m] ∧
      BearerRequest.sample.token 1700000000 ⟨.listed [.ok .zero, .ok n, .ok m], []⟩ = .ok b s₁ :=
    ⟨_, ⟨_, _⟩, rfl, BearerRequest.token_eq_ok.mpr ⟨by decide, by decide, none, .zero, _, rfl, rfl,
      BearerRequest.sample_key, encode_eq_ok.mpr ⟨rfl, rfl⟩, rfl⟩⟩
  obtain ⟨e, s₂, left₂, second⟩ : ∃ e s₂, s₂.nonces = .listed [.ok m] ∧
      keyless.token 1700000000 s₁ = .error e s₂ := by
    have cost : (final (keyless.token 1700000000 s₁)).nonces = _ := BearerRequest.nonces_token
    cases h : keyless.token 1700000000 s₁ with
    | ok t s₂ =>
      obtain ⟨-, -, _, _, key, -, -, read, -⟩ := BearerRequest.token_eq_ok.mp h
      have none : SigningKey.ofApiSecret "-" = .error .unrecognized := rfl
      cases none.symm.trans read
    | error e s₂ =>
      have accepted : keyless.refused? = none := by decide
      rw [h, accepted, left₁] at cost
      exact ⟨e, s₂, cost, rfl⟩
  have third : nameless.token 1700000001 s₂ = .error (.missing .keyId) s₂ := rfl
  obtain ⟨w, s₄, fourth⟩ : ∃ w s₄, WalletRequest.sample.token 1700000002 s₂ = .ok w s₄ :=
    ⟨_, ⟨.listed [], _⟩, WalletRequest.token_eq_ok.mpr ⟨by decide, _, m, WalletRequest.sample_key,
      by rw [left₂]; rfl, encode_eq_ok.mpr ⟨rfl, rfl⟩, rfl⟩⟩
  have run : issueAll [(1700000000, .bearer .sample), (1700000000, .bearer keyless),
      (1700000001, .bearer nameless), (1700000002, .wallet .sample)]
      ⟨.listed [.ok .zero, .ok n, .ok m], []⟩ = ([.bearer b, .wallet w], s₄) := by
    have first : Job.issue 1700000000 (.bearer .sample) _ = .ok [.bearer b] s₁ :=
      bind_eq_ok.mpr ⟨b, s₁, first, rfl⟩
    have second : Job.issue 1700000000 (.bearer keyless) s₁ = .error e s₂ :=
      bind_eq_error.mpr (Or.inl second)
    have third : Job.issue 1700000001 (.bearer nameless) s₂ = .error (.missing .keyId) s₂ :=
      bind_eq_error.mpr (Or.inl third)
    have fourth : Job.issue 1700000002 (.wallet .sample) s₂ = .ok [.wallet w] s₄ :=
      bind_eq_ok.mpr ⟨w, s₄, fourth, rfl⟩
    simp only [issueAll, first, second, third, fourth]
    rfl
  refine ⟨b, w, s₄, run, ?_⟩
  obtain ⟨-, distinct, -⟩ := issueAll_nonces [.ok .zero, .ok n, .ok m] []
    [(1700000000, .bearer .sample), (1700000000, .bearer keyless), (1700000001, .bearer nameless),
      (1700000002, .wallet .sample)]
  rw [run] at distinct
  exact distinct (by decide)

end RequestAuth
