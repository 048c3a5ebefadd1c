import Sidecar.Proofs.Http.Redirect

/-!
# How requests end

A request ends in the response at the end of its redirects, or in an exchange that brings none, or
in a redirect that cannot be followed.  A response that is no success is a fault with its status and
its text, and the other ends are faults of the transport.

The main results are `send_eq_ok_iff_answered` and `answered_or_unanswered`: every request that can
be sent ends in one of these ways.
-/

namespace Sidecar.Http

variable {β : Type} {request : Request} {w after : Wire} {d : Delivery} {fault : Fault}

/-! ## Ends -/

section Ends

variable [Redirection]

/-- The request is sent, and `d` is the response to the last of the messages that its redirects call
for. -/
def Answered (request : Request) (w : Wire) (d : Delivery) (after : Wire) : Prop :=
  request.IsSendable ∧ ∃ log, Exchanged w log after ∧ Redirects request.withCredentials log d ∧
    log.length ≤ redirectLimit + 1

/-- Like `Redirects` with at most `limit` redirects, but the last message gets no response, or a
redirect that leads to no message, or one redirect more than that. -/
inductive Breaks (origin : Url) : (limit : Nat) → Request → Log → Fault → Prop
  | last {limit : Nat} {request : Request} {reply : Reply} {fault : Fault}
      (h : reply.fault? origin.text = some fault) :
      Breaks origin limit request [(request, reply)] fault
  | tooMany {request : Request} {response : Response} {redirect : Redirect}
      (h : request.redirected? response = some redirect) :
      Breaks origin 0 request [(request, .response response)]
        (.tooManyRedirects request.url.withoutFragment.text)
  | away {limit : Nat} {request : Request} {response : Response} {redirect : Redirect}
      {fault : Fault} (h : request.redirected? response = some redirect)
      (hfault : redirect.fault? origin = some fault) :
      Breaks origin (limit + 1) request [(request, .response response)] fault
  | next {limit : Nat} {request next : Request} {response : Response} {log : Log} {fault : Fault}
      (h : request.redirected? response = some (.request next))
      (tail : Breaks origin limit next log fault) :
      Breaks origin (limit + 1) request ((request, .response response) :: log) fault

/-- The request is sent, and its redirects do not lead to a response that is none of them. -/
def Unanswered (request : Request) (w : Wire) (fault : Fault) (after : Wire) : Prop :=
  request.IsSendable ∧ ∃ log, Exchanged w log after ∧
    Breaks request.withCredentials.url redirectLimit request.withCredentials log fault

/-- Sending brings a response exactly if the request is answered with it. -/
theorem send_eq_ok_iff_answered :
    send request w = (.ok d, after) ↔ Answered request w d after := by
  rw [send_eq_ok_iff, follow_eq_ok_iff, Answered]

/-- A response that is no redirect is the end. -/
theorem answered_of_reply {response : Response} {rest : List Reply}
    (hreplies : w.replies = .response response :: rest) (hfinal : response.isFinal)
    (hsendable : request.IsSendable)
    (hnone : request.withCredentials.redirected? response = none) :
    Answered request w ⟨response, request.withCredentials.url.withoutFragment⟩
      { w with replies := rest, sent := request.withCredentials :: w.sent } := by
  rw [← send_eq_ok_iff_answered, send_eq_ok_iff]
  exact ⟨hsendable, follow_of_response hreplies hfinal hnone _ redirectLimit⟩

theorem Redirects.mem_log {log : Log} (h : Redirects request log d) :
    ∃ r, (r, Reply.response d.response) ∈ log := by
  induction h with
  | last => exact ⟨_, List.mem_cons_self⟩
  | next _ _ ih =>
    obtain ⟨r, hr⟩ := ih
    exact ⟨r, List.mem_cons_of_mem _ hr⟩

/-- No other response is announced by the one at the end. -/
theorem Answered.isFinal (h : Answered request w d after) : d.response.isFinal := by
  obtain ⟨-, log, hlog, hredirects, -⟩ := h
  obtain ⟨r, hr⟩ := hredirects.mem_log
  exact (hlog.mem_replies _ hr).1

theorem Breaks.mem_log_of_timedOut {origin : Url} {limit : Nat} {log : Log} {url : String}
    (h : Breaks origin limit request log (.timedOut url)) :
    ∃ r, (r, Reply.silent) ∈ log := by
  generalize hfault : Fault.timedOut url = fault at h
  induction h with
  | @last limit request reply fault h =>
    subst hfault
    cases reply with
    | silent => exact ⟨_, List.mem_cons_self⟩
    | response | closed | unreachable => cases h
  | tooMany => cases hfault
  | @away limit request response redirect fault _ h =>
    subst hfault
    cases redirect with
    | request | secure | foreign => cases h
  | next _ _ ih =>
    obtain ⟨r, hr⟩ := ih hfault
    exact ⟨r, List.mem_cons_of_mem _ hr⟩

/-- What can come over a wire under a time limit: without one a response is waited for, and no reply
is late. -/
def Wire.Within (limit : Option Duration) (w : Wire) : Prop :=
  limit = none → .silent ∉ w.otherwise :: w.replies

/-- Nothing is reported as late unless the endpoint has a time limit. -/
theorem Unanswered.isSome_of_timedOut {limit : Option Duration} {url : String}
    (h : Unanswered request w (.timedOut url) after) (hw : w.Within limit) : limit.isSome := by
  obtain ⟨-, log, hlog, hbreaks⟩ := h
  obtain ⟨r, hr⟩ := hbreaks.mem_log_of_timedOut
  have hsilent : .silent ∈ w.otherwise :: w.replies :=
    (List.mem_cons.1 (hlog.mem_replies _ hr).2).resolve_left nofun
  cases limit with
  | none => exact absurd hsilent (hw rfl)
  | some _ => rfl

/-! ## Every end is one of these -/

theorem follow_of_breaks {origin : Url} {limit : Nat} {log : Log}
    (h : Breaks origin limit request log fault) (hlog : Exchanged w log after) :
    follow origin limit request w = (.error fault, after) := by
  induction h generalizing w with
  | last hfault =>
    cases hlog with
    | cons head tail =>
      cases tail
      exact (follow_eq_iff head).2 (.failed hfault)
  | tooMany hnext =>
    cases hlog with
    | cons head tail =>
      cases tail
      exact (follow_eq_iff head).2 (.tooMany hnext)
  | away hnext hfault =>
    cases hlog with
    | cons head tail =>
      cases tail
      exact (follow_eq_iff head).2 (.away hnext hfault)
  | next hnext _ ih =>
    cases hlog with
    | cons head tail => exact (follow_eq_iff head).2 (.moved hnext (ih tail))

theorem send_of_isSendable (h : request.IsSendable) (w : Wire) :
    send request w =
      follow request.withCredentials.url redirectLimit request.withCredentials w := by
  unfold send
  rw [h.1, h.2]
  rfl

/-- A request without an answer fails for what kept that away. -/
theorem send_of_unanswered (h : Unanswered request w fault after) :
    send request w = (.error fault, after) := by
  obtain ⟨hsendable, log, hlog, hbreaks⟩ := h
  rw [send_of_isSendable hsendable]
  exact follow_of_breaks hbreaks hlog

theorem breaks_of_follow {origin : Url} {limit : Nat}
    (h : follow origin limit request w = (.error fault, after)) :
    ∃ log, Exchanged w log after ∧ Breaks origin limit request log fault := by
  induction limit generalizing request w with
  | zero =>
    rcases hexchange : Wire.exchange request w with ⟨reply, mid⟩
    cases (follow_eq_iff hexchange).1 h with
    | failed hfault => exact ⟨_, .cons hexchange (.nil _), .last hfault⟩
    | tooMany hnext => exact ⟨_, .cons hexchange (.nil _), .tooMany hnext⟩
  | succ limit ih =>
    rcases hexchange : Wire.exchange request w with ⟨reply, mid⟩
    cases (follow_eq_iff hexchange).1 h with
    | failed hfault => exact ⟨_, .cons hexchange (.nil _), .last hfault⟩
    | away hnext hfault => exact ⟨_, .cons hexchange (.nil _), .away hnext hfault⟩
    | moved hnext hrest =>
      obtain ⟨log, hlog, hbreaks⟩ := ih hrest
      exact ⟨_, .cons hexchange hlog, .next hnext hbreaks⟩

/-- A request that can be sent comes to an end. -/
theorem answered_or_unanswered (h : request.IsSendable) (w : Wire) :
    (∃ d after, Answered request w d after) ∨ ∃ fault after, Unanswered request w fault after := by
  rcases hsend : send request w with ⟨result, after⟩
  cases result with
  | ok d => exact .inl ⟨d, after, send_eq_ok_iff_answered.1 hsend⟩
  | error fault =>
    rw [send_of_isSendable h] at hsend
    exact .inr ⟨fault, after, h, breaks_of_follow hsend⟩

end Ends

/-! ## Judging responses -/

namespace Response

/-- The statuses from 200 to 299. -/
def Succeeds (r : Response) : Prop := 200 ≤ r.status ∧ r.status ≤ 299

/-- The body as text, which is empty if the body is cut short. -/
def message (r : Response) : String :=
  match r.content? with
  | some body => Text.Utf8.decodeLossy body
  | none => ""

/-- What a response that is no success is reported as. -/
def refusal (r : Response) : Error := .remoteFault r.status r.message

variable {r : Response}

theorem isSuccess_iff : r.isSuccess ↔ r.Succeeds := by
  rw [isSuccess, Bool.and_eq_true, decide_eq_true_iff, decide_eq_true_iff, Succeeds,
    Nat.lt_succ_iff]

/-- The body of a success that may have one. -/
theorem content?_of_succeeds (h : r.Succeeds) (hstatus : r.status ≠ 204) :
    r.content? = if r.missing = 0 then some r.body else none := by
  have hbody : r.isBodiless = false := by
    simp only [isBodiless, Bool.or_eq_false_iff, beq_eq_false_iff_ne]
    exact ⟨⟨fun h101 => absurd h.1 (by omega), hstatus⟩, fun h304 => absurd h.2 (by omega)⟩
  rw [content?, hbody]
  rfl

end Response

section Judging

variable [Redirection]

/-- What is made of the end of a request. -/
def judged : Except Fault Delivery → Except Error Delivery
  | .error fault => .error (.transport fault)
  | .ok d => if d.response.isSuccess then .ok d else .error d.response.refusal

/-- What comes of a question is judged by the end of its request. -/
theorem ask_eq (request : Request) (w : Wire) :
    ask request w = (judged (send request w).1, (send request w).2) := by
  have hlift : (liftM (send request) : Action Wire (Except Fault Delivery)) w =
      (.ok (send request w).1, (send request w).2) := rfl
  unfold ask
  rw [Action.bind_of_ok hlift]
  cases (send request w).1 with
  | error fault => rfl
  | ok d =>
    have hmessage : Text.Utf8.decodeLossy (d.response.content?.getD []) = d.response.message := by
      rw [Response.message]
      cases d.response.content? with
      | none => rfl
      | some body => rfl
    dsimp only
    rw [judged, hmessage]
    split
    · rfl
    · rfl

theorem ask_of_answered (h : Answered request w d after) (hsuccess : d.response.Succeeds) :
    ask request w = (.ok d, after) := by
  rw [ask_eq, send_eq_ok_iff_answered.2 h, judged, if_pos (Response.isSuccess_iff.2 hsuccess)]

/-- A response that is no success is a fault of the remote side. -/
theorem ask_of_refused (h : Answered request w d after) (hrefused : ¬d.response.Succeeds) :
    ask request w = (.error d.response.refusal, after) := by
  rw [ask_eq, send_eq_ok_iff_answered.2 h, judged, if_neg (mt Response.isSuccess_iff.1 hrefused)]

theorem ask_of_unanswered (h : Unanswered request w fault after) :
    ask request w = (.error (.transport fault), after) := by
  rw [ask_eq, send_of_unanswered h]
  rfl

/-- Nothing but a success answers a question. -/
theorem answered_of_ask (h : ask request w = (.ok d, after)) :
    Answered request w d after ∧ d.response.Succeeds := by
  obtain ⟨hsend, hsuccess⟩ := ask_eq_ok_iff.1 h
  exact ⟨send_eq_ok_iff_answered.1 hsend, Response.isSuccess_iff.1 hsuccess⟩

/-- A status comes with a response that is no success. -/
theorem answered_of_remoteFault {status : Nat} {message : String}
    (h : ask request w = (.error (.remoteFault status message), after)) :
    ∃ d, Answered request w d after ∧ d.response.status = status := by
  rcases hsend : send request w with ⟨result, after'⟩
  rw [ask_eq, hsend] at h
  cases result with
  | error fault => cases h
  | ok d =>
    rw [judged] at h
    split at h
    · cases h
    · cases h
      exact ⟨d, send_eq_ok_iff_answered.1 hsend, rfl⟩

/-! ## Failing -/

/-- An action with this request fails where the request does not end in a success: with the status
and the text of the response, or with what kept the response away.  A soft one has another answer to
the statuses by which an etag is refused. -/
structure FailsWith (request : Request) (soft : Bool) (action : Action Wire β) : Prop where
  refused {w after : Wire} {d : Delivery} (h : Answered request w d after)
    (hrefused : ¬d.response.Succeeds)
    (hsoft : soft → d.response.status ≠ 409 ∧ d.response.status ≠ 412) :
    action w = (.error d.response.refusal, after)
  unanswered {w after : Wire} {fault : Fault} (h : Unanswered request w fault after) :
    action w = (.error (.transport fault), after)

/-- What begins with a question fails as the question does. -/
theorem failsWith_ask_bind (request : Request) (next : Delivery → Action Wire β) :
    FailsWith request false (ask request >>= next) where
  refused h hrefused _ := Action.bind_of_error (ask_of_refused h hrefused)
  unanswered h := Action.bind_of_error (ask_of_unanswered h)

end Judging

end Sidecar.Http
