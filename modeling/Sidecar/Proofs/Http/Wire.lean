import Sidecar.Http.Wire

/-!
# What goes over a wire

A wire only gains messages.  The first that sending a request adds is the request itself, and those
that follow it are called for by redirects.

The main results are `follow_eq_iff`, which says what comes of a request by the reply to it, and
`startsWith_send`.
-/

namespace Sidecar.Http

variable {α : Type}

/-- An action that sends nothing, or `request` before anything else. -/
def StartsWith (request : Request) (action : StateM Wire α) : Prop :=
  ∀ w, (action w).2.sent = w.sent ∨ ∃ more, (action w).2.sent = more ++ request :: w.sent

/-- An action that does nothing to the wire. -/
def IsSilent (action : StateM Wire α) : Prop := ∀ w, (action w).2 = w

theorem startsWith_pure (request : Request) (a : α) :
    StartsWith request (pure a : StateM Wire α) := fun _ => .inl rfl

/-- What is only thought about after an action does not change what it sends. -/
theorem StartsWith.bind {β : Type} {request : Request} {action : StateM Wire α}
    {next : α → StateM Wire β} (h : StartsWith request action)
    (hnext : ∀ a, IsSilent (next a)) : StartsWith request (action >>= next) := by
  intro w
  have hafter : ((action >>= next) w).2 = (action w).2 := hnext (action w).1 (action w).2
  rw [hafter]
  exact h w

/-- Only a message that finds no connection is not handed over. -/
theorem sent_of_exchange {request : Request} {w after : Wire} {reply : Reply}
    (h : Wire.exchange request w = (reply, after)) :
    after.sent = if reply = .unreachable then w.sent else request :: w.sent := by
  cases h
  rfl

/-- Nothing is moved to a header if there is no user information. -/
theorem withCredentials_eq_self {request : Request} (hname : request.url.username = "")
    (hpassword : request.url.password = none) : request.withCredentials = request := by
  have hempty : unescaped? "" = some "" := by decide
  rw [Request.withCredentials, hname, hpassword, hempty]
  rfl

/-! ## One exchange and what follows it -/

/-- What is wrong if a message gets no response; `url` is the one that was asked for first. -/
def Reply.fault? (url : String) : Reply → Option Fault
  | .response _ => none
  | .closed => some (.disconnected url)
  | .silent => some (.timedOut url)
  | .unreachable => some (.unreachable url)

/-- What is wrong with a redirect that leads to no message. -/
def Redirect.fault? (origin : Url) : Redirect → Option Fault
  | .request _ => none
  | .secure => some (.unencrypted origin.text)
  | .foreign url => some (.foreignScheme url)

section Follow

variable [Redirection] {origin : Url} {limit : Nat} {request : Request} {reply : Reply}
variable {w mid : Wire} {outcome : Except Fault Delivery × Wire}

/-- What comes of a request with at most `limit` redirects once it has its reply; `mid` is the wire
behind that. -/
inductive Follows (origin : Url) (request : Request) (mid : Wire) :
    (limit : Nat) → Reply → Except Fault Delivery × Wire → Prop
  | failed {limit : Nat} {reply : Reply} {fault : Fault}
      (h : reply.fault? origin.text = some fault) :
      Follows origin request mid limit reply (.error fault, mid)
  | delivered {limit : Nat} {response : Response} (h : request.redirected? response = none) :
      Follows origin request mid limit (.response response)
        (.ok ⟨response, request.url.withoutFragment⟩, mid)
  | tooMany {response : Response} {redirect : Redirect}
      (h : request.redirected? response = some redirect) :
      Follows origin request mid 0 (.response response)
        (.error (.tooManyRedirects request.url.withoutFragment.text), mid)
  | away {limit : Nat} {response : Response} {redirect : Redirect} {fault : Fault}
      (h : request.redirected? response = some redirect)
      (hfault : redirect.fault? origin = some fault) :
      Follows origin request mid (limit + 1) (.response response) (.error fault, mid)
  | moved {limit : Nat} {response : Response} {next : Request}
      {outcome : Except Fault Delivery × Wire}
      (h : request.redirected? response = some (.request next))
      (hrest : follow origin limit next mid = outcome) :
      Follows origin request mid (limit + 1) (.response response) outcome

/-- All that is done for a request is said by its reply. -/
theorem follow_eq_iff (hexchange : Wire.exchange request w = (reply, mid)) :
    follow origin limit request w = outcome ↔ Follows origin request mid limit reply outcome := by
  rw [follow]
  simp only [bind, StateT.bind, hexchange]
  constructor
  · rintro rfl
    cases reply with
    | closed | silent | unreachable => exact .failed rfl
    | response response =>
      dsimp only
      cases hnext : request.redirected? response with
      | none => exact .delivered hnext
      | some redirect =>
        cases limit with
        | zero => exact .tooMany hnext
        | succ limit =>
          cases redirect with
          | secure | foreign => exact .away hnext rfl
          | request next => exact .moved hnext rfl
  · intro h
    cases h with
    | failed hfault =>
      cases reply with
      | response => cases hfault
      | closed | silent | unreachable =>
        cases hfault
        rfl
    | delivered hnext | tooMany hnext =>
      simp only [hnext]
      rfl
    | @away limit response redirect fault hnext hfault =>
      simp only [hnext]
      cases redirect with
      | request => cases hfault
      | secure | foreign =>
        cases hfault
        rfl
    | moved hnext hrest =>
      simp only [hnext]
      exact hrest

/-- What holds of the wire behind an exchange, and behind a redirect if it holds for the message that
this calls for, holds of the wire behind all redirects. -/
theorem follow_induction {motive : Request → Wire → Wire → Prop}
    (exchange : ∀ {request w reply mid}, Wire.exchange request w = (reply, mid) →
      motive request w mid)
    (moved : ∀ {request w response mid next after},
      Wire.exchange request w = (.response response, mid) →
      request.redirected? response = some (.request next) → motive next mid after →
      motive request w after)
    (origin : Url) (limit : Nat) (request : Request) (w : Wire) :
    motive request w (follow origin limit request w).2 := by
  induction limit generalizing request w with
  | zero =>
    rcases hexchange : Wire.exchange request w with ⟨reply, mid⟩
    have h := (follow_eq_iff hexchange).1 (Eq.refl (follow origin 0 request w))
    generalize follow origin 0 request w = outcome at h ⊢
    cases h with
    | failed | delivered | tooMany => exact exchange hexchange
  | succ limit ih =>
    rcases hexchange : Wire.exchange request w with ⟨reply, mid⟩
    have h := (follow_eq_iff hexchange).1 (Eq.refl (follow origin (limit + 1) request w))
    generalize follow origin (limit + 1) request w = outcome at h ⊢
    cases h with
    | failed | delivered | away => exact exchange hexchange
    | @moved _ _ next _ hnext hrest => exact moved hexchange hnext (hrest ▸ ih next mid)

/-- Without a connection nothing is sent, and otherwise the request itself before all that redirects
call for. -/
theorem sent_of_follow (origin : Url) (limit : Nat) (request : Request) (w : Wire) :
    w.next.1 = .unreachable ∧ (follow origin limit request w).2.sent = w.sent ∨
      ∃ more, (follow origin limit request w).2.sent = more ++ request :: w.sent := by
  refine follow_induction
    (motive := fun request w after =>
      w.next.1 = .unreachable ∧ after.sent = w.sent ∨
        ∃ more, after.sent = more ++ request :: w.sent)
    (fun {request w reply mid} hexchange => ?_)
    (fun {request w response mid next after} hexchange _ hsent => ?_) origin limit request w
  · cases hexchange
    by_cases hreply : w.next.1 = .unreachable
    · exact .inl ⟨hreply, if_pos hreply⟩
    · exact .inr ⟨[], if_neg hreply⟩
  · have hmid : mid.sent = request :: w.sent := sent_of_exchange hexchange
    rw [hmid] at hsent
    obtain ⟨-, hsent⟩ | ⟨more, hsent⟩ := hsent
    · exact .inr ⟨[], hsent⟩
    · exact .inr ⟨more ++ [next], by rw [hsent, List.append_assoc]; rfl⟩

/-- The first message is the request itself; redirects only call for more. -/
theorem startsWith_follow (origin : Url) (limit : Nat) (request : Request) :
    StartsWith request (follow origin limit request) :=
  fun w => (sent_of_follow origin limit request w).imp_left And.right

/-- Nothing is sent, or the request with its credentials first. -/
theorem startsWith_send (request : Request) :
    StartsWith request.withCredentials (send request) := by
  unfold send
  dsimp only
  split
  · exact startsWith_pure _ _
  · split
    · exact startsWith_pure _ _
    · exact startsWith_follow _ redirectLimit _

end Follow

end Sidecar.Http
