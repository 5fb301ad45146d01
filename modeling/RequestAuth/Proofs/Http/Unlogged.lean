import RequestAuth.Http.Headers

/-! What has been logged has no part in what is made, so that two signers with the same nonces left make
the same headers or fail alike. -/

namespace RequestAuth

namespace Signing
variable {α β : Type}

def given : EStateM.Result AuthError SignerState α → Except AuthError α × NonceSource
  | .ok a s => (.ok a, s.nonces)
  | .error e s => (.error e, s.nonces)

def Unlogged (x : Signing α) : Prop := ∀ s t, s.nonces = t.nonces → given (x s) = given (x t)

namespace Unlogged

theorem pure (a : α) : Unlogged (Pure.pure a : Signing α) := fun _ _ same => congrArg (Prod.mk _) same

theorem throw (e : AuthError) : Unlogged (MonadExcept.throw e : Signing α) :=
  fun _ _ same => congrArg (Prod.mk _) same

theorem bind {x : Signing α} {f : α → Signing β} (first : Unlogged x) (later : ∀ a, Unlogged (f a)) :
    Unlogged (x >>= f) := by
  intro s t same
  have here := first s t same
  change given (EStateM.bind x f s) = given (EStateM.bind x f t)
  unfold EStateM.bind
  revert here
  -- The two runs leave `x` in the same way, so that the mixed cases are empty.
  cases x s with
  | ok a s' =>
    cases x t with
    | ok b t' =>
      intro here
      obtain ⟨value, left⟩ := Prod.mk.inj here
      cases value
      exact later a s' t' left
    | error e t' =>
      intro here
      cases (Prod.mk.inj here).1
  | error e s' =>
    cases x t with
    | ok b t' =>
      intro here
      cases (Prod.mk.inj here).1
    | error f t' =>
      intro here
      obtain ⟨reason, left⟩ := Prod.mk.inj here
      cases reason
      exact congrArg (Prod.mk _) left

theorem lift (x : Except AuthError α) : Unlogged (Signing.lift x) := by
  cases x with
  | ok a => exact pure a
  | error e => exact throw e

theorem drawNonce : Unlogged drawNonce := by
  intro s t same
  unfold Signing.drawNonce
  rw [same]
  split <;> rfl

theorem log (e : Event) : Unlogged (log e) := fun _ _ same => congrArg (Prod.mk _) same

theorem guard {c : Prop} [Decidable c] (e : AuthError) (f : α → Signing β) {x : Signing β}
    (h : Unlogged x) : Unlogged (if c then (MonadExcept.throw e : Signing α) >>= f else x) := by
  split
  · exact throw e
  · exact h

end Unlogged
end Signing

open Signing

theorem BearerRequest.unlogged_token (r : BearerRequest) (now : Int64) : Unlogged (r.token now) := by
  apply Unlogged.guard
  apply Unlogged.guard
  refine .bind (.lift _) fun uri => .bind .drawNonce fun n => .bind (.lift _) fun key => ?_
  exact .bind (.lift _) fun text => .bind (.log _) fun _ => .pure text

theorem WalletRequest.unlogged_token (r : WalletRequest) (now : Int64) : Unlogged (r.token now) := by
  apply Unlogged.guard
  refine .bind (.lift _) fun key => .bind .drawNonce fun n => ?_
  exact .bind (.lift _) fun text => .bind (.log _) fun _ => .pure text

namespace HeadersRequest
variable {r : HeadersRequest} {now : Times}

theorem unlogged_walletToken : Unlogged (r.walletToken now) := by
  unfold walletToken
  split
  · exact .bind (.lift _) fun w => .bind (w.unlogged_token now.wallet) fun t => .pure (some t)
  · exact .pure none

theorem unlogged_headers : Unlogged (r.headers now) :=
  .bind (r.bearer.unlogged_token now.bearer) fun _ => .bind unlogged_walletToken fun _ => .pure _

end HeadersRequest
end RequestAuth
