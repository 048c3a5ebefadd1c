import Sidecar.Http.State
import Sidecar.Proofs.Action
import Sidecar.Proofs.Http.Wire

/-!
# What asking comes to

A question is one request, and what follows its response goes over no wire.

The main results are `ask_of_response`, on a success that comes at once, and `asks_of_snd`, which
makes an action one that asks.
-/

namespace Sidecar.Http

variable {request : Request} {w after : Wire}

/-! ## The next reply -/

/-- The answer to the next request. -/
def Wire.reply (w : Wire) : Reply := w.next.1

theorem isFinal_of_isSuccess {response : Response} (h : response.isSuccess) : response.isFinal := by
  simp only [Response.isSuccess, Response.isFinal, Bool.and_eq_true, Bool.or_eq_true,
    decide_eq_true_eq] at h ⊢
  omega

/-- A final response is what the next request gets. -/
theorem next_of_response {response : Response} {rest : List Reply}
    (hreplies : w.replies = .response response :: rest) (hfinal : response.isFinal) :
    w.next = (.response response, rest) := by
  have hreply : (Reply.response response).isFinal := hfinal
  simp only [Wire.next, hreplies, List.dropWhile_cons, hreply, Bool.not_true, Bool.false_eq_true,
    if_false]

/-- A message that meets a final response is sent and takes it. -/
theorem exchange_of_response {response : Response} {rest : List Reply}
    (hreplies : w.replies = .response response :: rest) (hfinal : response.isFinal) :
    Wire.exchange request w =
      (.response response, { w with replies := rest, sent := request :: w.sent }) := by
  unfold Wire.exchange
  rw [next_of_response hreplies hfinal]
  rfl

/-- No reply that a request gets announces another one. -/
theorem isFinal_next (w : Wire) : w.next.1.isFinal := by
  rw [Wire.next]
  split
  case h_1 =>
    dsimp only
    split
    case isTrue hfinal => exact hfinal
    case isFalse => rfl
  case h_2 reply replies hdrop =>
    have hhead := List.head_dropWhile_not (fun r : Reply => !r.isFinal)
      (l := w.replies) (by rw [hdrop]; exact List.cons_ne_nil _ _)
    simp only [hdrop, List.head_cons] at hhead
    simpa using hhead

section Redirection

variable [Redirection]

theorem ask_snd (request : Request) (w : Wire) : (ask request w).2 = (send request w).2 := by
  unfold ask
  refine Action.bind_snd fun result w => ?_
  cases result with
  | error fault => rfl
  | ok d =>
    dsimp only
    split
    · rfl
    · rfl

/-! ## What is sent for certain -/

/-- A request that can be written down is sent as soon as there is a connection. -/
theorem sent_of_send (hheader : (request.withCredentials.ifMatch.getD []).all isHeaderByte)
    (htarget : isTarget request.withCredentials.url) (h : w.reply ≠ .unreachable) :
    ∃ more, (send request w).2.sent = more ++ request.withCredentials :: w.sent := by
  unfold send
  rw [hheader, htarget]
  exact (sent_of_follow _ redirectLimit _ w).resolve_left fun hnone => h hnone.1

/-! ## Responses that are taken -/

/-- A final response that is no redirect is the end. -/
theorem follow_of_response {response : Response} {rest : List Reply}
    (hreplies : w.replies = .response response :: rest) (hfinal : response.isFinal)
    (hredirect : request.redirected? response = none) (origin : Url) (limit : Nat) :
    follow origin limit request w =
      (.ok ⟨response, request.url.withoutFragment⟩,
        { w with replies := rest, sent := request :: w.sent }) :=
  (follow_eq_iff (exchange_of_response hreplies hfinal)).2 (.delivered hredirect)

/-- A success that is no redirect is the answer. -/
theorem ask_of_response {response : Response} {rest : List Reply}
    (hreplies : w.replies = .response response :: rest)
    (hheader : (request.withCredentials.ifMatch.getD []).all isHeaderByte)
    (htarget : isTarget request.withCredentials.url)
    (hredirect : request.withCredentials.redirected? response = none)
    (hsuccess : response.isSuccess) :
    ask request w =
      (.ok ⟨response, request.withCredentials.url.withoutFragment⟩,
        { w with replies := rest, sent := request.withCredentials :: w.sent }) := by
  have hsend : send request w =
      (.ok ⟨response, request.withCredentials.url.withoutFragment⟩,
        { w with replies := rest, sent := request.withCredentials :: w.sent }) := by
    unfold send
    rw [hheader, htarget]
    exact follow_of_response hreplies (isFinal_of_isSuccess hsuccess) hredirect _ redirectLimit
  have hlift : (liftM (send request) : Action Wire (Except Fault Delivery)) w =
      (.ok (send request w).1, (send request w).2) := rfl
  rw [hsend] at hlift
  unfold ask
  rw [Action.bind_of_ok hlift]
  dsimp only
  rw [if_pos hsuccess]
  rfl

end Redirection

/-! ## What redirects leave of a request -/

/-- A message that continues a request has its condition, and its body or none. -/
def Continues (r request : Request) : Prop :=
  r.ifMatch = request.ifMatch ∧ (r.body = request.body ∨ r.body = none)

theorem continues_self (request : Request) : Continues request request := ⟨rfl, .inl rfl⟩

/-- A message that continues one that continues the request continues the request. -/
theorem Continues.trans {r next : Request} (h : Continues r next) (hnext : Continues next request) :
    Continues r request := by
  obtain ⟨hifMatch, hbody⟩ := h
  obtain ⟨hnextIfMatch, hnextBody⟩ := hnext
  refine ⟨hifMatch.trans hnextIfMatch, ?_⟩
  rcases hbody with hbody | hbody
  · exact hnextBody.imp hbody.trans hbody.trans
  · exact .inr hbody

/-- Credentials are moved to another header, and nothing else is changed but the URL. -/
theorem withCredentials_fields (request : Request) :
    request.withCredentials.method = request.method ∧
      request.withCredentials.ifMatch = request.ifMatch ∧
      request.withCredentials.body = request.body := by
  unfold Request.withCredentials
  split
  · exact ⟨rfl, rfl, rfl⟩
  · exact ⟨rfl, rfl, rfl⟩
  · exact ⟨rfl, rfl, rfl⟩

theorem continues_withCredentials (request : Request) :
    Continues request.withCredentials request :=
  ⟨(withCredentials_fields request).2.1, .inl (withCredentials_fields request).2.2⟩

/-- A redirect of this status turns a request with the method into a GET. -/
def Response.Turns (r : Response) (method : Method) : Prop :=
  r.status = 303 ∨ (r.status = 301 ∨ r.status = 302) ∧ method = .post

instance (r : Response) (method : Method) : Decidable (r.Turns method) :=
  inferInstanceAs (Decidable (_ ∨ _))

section Redirected

variable [Redirection]

/-- A redirect to a message calls for the request again or for a GET. -/
theorem redirected?_eq_some {next : Request} {response : Response}
    (h : request.redirected? response = some (.request next)) :
    ∃ url, next =
      (if response.Turns request.method then request.asGet else request).movedTo url := by
  have hmoved {repeated : Request}
      (h : (do
        let location ← (response.header? "location").bind Text.Utf8.decode?
        let target ← Redirection.target? request.url location
        return Redirect.to target repeated) = some (.request next)) :
      ∃ url, next = repeated.movedTo url := by
    obtain ⟨location, -, h⟩ := Option.bind_eq_some_iff.1 h
    obtain ⟨target, -, h⟩ := Option.bind_eq_some_iff.1 h
    cases target with
    | url url =>
      cases h
      exact ⟨url, rfl⟩
    | secure | foreign => cases h
  unfold Request.redirected? at h
  dsimp only at h
  split at h
  case isTrue hother =>
    rw [if_pos (.inl hother)]
    exact hmoved h
  case isFalse hother =>
    split at h
    case isTrue hmoves =>
      split at h
      case isTrue hpost =>
        rw [if_pos (.inr ⟨hmoves, hpost⟩)]
        exact hmoved h
      case isFalse hpost =>
        have hkept : ¬response.Turns request.method :=
          not_or.2 ⟨hother, fun hturns => hpost hturns.2⟩
        rw [if_neg hkept]
        exact hmoved h
    case isFalse hmoves =>
      have hkept : ¬response.Turns request.method :=
        not_or.2 ⟨hother, fun hturns => hmoves hturns.1⟩
      rw [if_neg hkept]
      split at h
      case isTrue => exact hmoved h
      case isFalse => cases h

theorem continues_of_redirected {next : Request} {response : Response}
    (h : request.redirected? response = some (.request next)) : Continues next request := by
  obtain ⟨url, rfl⟩ := redirected?_eq_some h
  split
  · exact ⟨rfl, .inr rfl⟩
  · exact ⟨rfl, .inl rfl⟩

end Redirected

/-! ## Messages for one request -/

/-- All messages that the action adds continue the request. -/
def SendsFor {α : Type} (request : Request) (action : StateM Wire α) : Prop :=
  ∀ w, ∃ more, (action w).2.sent = more ++ w.sent ∧ ∀ r ∈ more, Continues r request

theorem sendsFor_pure {α : Type} (request : Request) (a : α) :
    SendsFor request (pure a : StateM Wire α) := fun _ => ⟨[], rfl, List.forall_mem_nil _⟩

/-- What is sent for a message is sent for the request that it continues. -/
theorem SendsFor.of_continues {α : Type} {next : Request} {action : StateM Wire α}
    (h : SendsFor next action) (hnext : Continues next request) : SendsFor request action := by
  intro w
  obtain ⟨more, hmore, hall⟩ := h w
  exact ⟨more, hmore, fun r hr => (hall r hr).trans hnext⟩

section Sends

variable [Redirection]

/-- All redirects together send nothing but what continues the request. -/
theorem sendsFor_follow (origin : Url) (limit : Nat) (request : Request) :
    SendsFor request (follow origin limit request) := by
  have hself (request : Request) : ∀ r ∈ [request], Continues r request :=
    List.forall_mem_singleton.2 (continues_self request)
  refine follow_induction
    (motive := fun request w after =>
      ∃ more, after.sent = more ++ w.sent ∧ ∀ r ∈ more, Continues r request)
    (fun {request w reply mid} hexchange => ?_)
    (fun {request w response mid next after} hexchange hnext hsends => ?_) origin limit request
  · have hsent := sent_of_exchange hexchange
    split at hsent
    · exact ⟨[], hsent, List.forall_mem_nil _⟩
    · exact ⟨[request], hsent, hself request⟩
  · obtain ⟨more, hmore, hall⟩ := hsends
    have hsent : mid.sent = request :: w.sent := sent_of_exchange hexchange
    have hcontinues : ∀ r ∈ more, Continues r request :=
      fun r hr => (hall r hr).trans (continues_of_redirected hnext)
    refine ⟨more ++ [request], ?_, List.forall_mem_append.2 ⟨hcontinues, hself request⟩⟩
    rw [hmore, hsent, List.append_assoc]
    rfl

theorem sendsFor_send (request : Request) : SendsFor request (send request) := by
  unfold send
  dsimp only
  split
  · exact sendsFor_pure _ _
  · split
    · exact sendsFor_pure _ _
    · exact (sendsFor_follow _ _ _).of_continues (continues_withCredentials request)

/-! ## Actions that ask -/

/-- All that an action does to a wire is to send a request.  As soon as there is a connection that
is the first message, and every message that goes out continues it. -/
structure Asks {α : Type} (request : Request) (action : Action Wire α) : Prop where
  snd (w : Wire) : (action w).2 = (send request w).2
  first (w : Wire) (htarget : isTarget request.withCredentials.url) (h : w.reply ≠ .unreachable) :
    ∃ r more, (action w).2.sent = more ++ r :: w.sent ∧ r.method = request.method ∧
      r.ifMatch = request.ifMatch ∧ r.body = request.body
  sendsFor (w : Wire) :
    ∃ more, (action w).2.sent = more ++ w.sent ∧ ∀ r ∈ more, Continues r request

theorem asks_of_snd {α : Type} {action : Action Wire α}
    (h : ∀ w, (action w).2 = (send request w).2)
    (hheader : (request.ifMatch.getD []).all isHeaderByte) : Asks request action where
  snd := h
  first w htarget hreply := by
    have hfields := withCredentials_fields request
    obtain ⟨more, hmore⟩ := sent_of_send (by rw [hfields.2.1]; exact hheader) htarget hreply
    exact ⟨_, more, (congrArg Wire.sent (h w)).trans hmore, hfields⟩
  sendsFor w := by
    rw [h]
    exact sendsFor_send request w

end Sends

end Sidecar.Http
