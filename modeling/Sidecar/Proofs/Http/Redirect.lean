import Sidecar.Proofs.Http.Ask

/-!
# Chains of redirects

Messages are handed over one after the other, each after the one before it was answered.  A request
that gets a response is the first of a chain, in which every reply but the last calls for the next
message.

The main results are `ask_eq_ok_iff_exists`, which says what a question is answered by, and
`Redirects.accepted_iff`.
-/

namespace Sidecar.Http

variable {request next : Request} {response : Response} {w mid after : Wire} {d : Delivery}

/-- Messages with their replies, oldest first. -/
abbrev Log := List (Request × Reply)

/-- Handing over the messages of a log takes the one wire to the other. -/
inductive Exchanged : Wire → Log → Wire → Prop
  | nil (w : Wire) : Exchanged w [] w
  | cons {w mid after : Wire} {request : Request} {reply : Reply} {log : Log}
      (head : Wire.exchange request w = (reply, mid)) (tail : Exchanged mid log after) :
      Exchanged w ((request, reply) :: log) after

/-- The log begins with the request, every other message is what the reply before it calls for, and
the last reply is what is delivered. -/
inductive Redirects [Redirection] : Request → Log → Delivery → Prop
  | last {request : Request} {response : Response} (h : request.redirected? response = none) :
      Redirects request [(request, .response response)] ⟨response, request.url.withoutFragment⟩
  | next {request next : Request} {response : Response} {log : Log} {d : Delivery}
      (h : request.redirected? response = some (.request next)) (tail : Redirects next log d) :
      Redirects request ((request, .response response) :: log) d

theorem mem_of_next (w : Wire) :
    w.next.1 ∈ .closed :: w.otherwise :: w.replies ∧ w.next.2 ⊆ w.replies := by
  rw [Wire.next]
  split
  case h_1 =>
    refine ⟨?_, List.nil_subset _⟩
    dsimp only
    split
    · exact List.mem_cons_of_mem _ List.mem_cons_self
    · exact List.mem_cons_self
  case h_2 reply replies hdrop =>
    have hsublist : (reply :: replies).Sublist w.replies := hdrop ▸ List.dropWhile_sublist _
    refine ⟨?_, fun r hr => hsublist.subset (List.mem_cons_of_mem _ hr)⟩
    exact List.mem_cons_of_mem _ (List.mem_cons_of_mem _ (hsublist.subset List.mem_cons_self))

/-- The replies are final ones of the wire, or there were no more. -/
theorem Exchanged.mem_replies {log : Log} (h : Exchanged w log after) :
    ∀ e ∈ log, e.2.isFinal ∧ e.2 ∈ .closed :: w.otherwise :: w.replies := by
  induction h with
  | nil => exact List.forall_mem_nil _
  | @cons w mid after request reply log head _ ih =>
    obtain ⟨hmem, hsubset⟩ := mem_of_next w
    cases head
    refine List.forall_mem_cons.2 ⟨⟨isFinal_next w, hmem⟩, fun e he => ?_⟩
    obtain ⟨hfinal, hrest⟩ := ih e he
    refine ⟨hfinal, List.cons_subset_cons _ (List.cons_subset_cons _ hsubset) hrest⟩

/-! ## Following -/

section Following

variable [Redirection]

/-- The response that is delivered is at the end of a chain that is short enough. -/
theorem follow_eq_ok_iff {origin : Url} {limit : Nat} :
    follow origin limit request w = (.ok d, after) ↔
      ∃ log, Exchanged w log after ∧ Redirects request log d ∧ log.length ≤ limit + 1 := by
  constructor
  · intro h
    induction limit generalizing request w with
    | zero =>
      rcases hexchange : Wire.exchange request w with ⟨reply, mid⟩
      cases (follow_eq_iff hexchange).1 h with
      | delivered hnone => exact ⟨_, .cons hexchange (.nil _), .last hnone, Nat.le_refl _⟩
    | succ limit ih =>
      rcases hexchange : Wire.exchange request w with ⟨reply, mid⟩
      cases (follow_eq_iff hexchange).1 h with
      | delivered hnone => exact ⟨_, .cons hexchange (.nil _), .last hnone, Nat.le_add_left _ _⟩
      | moved hnext hrest =>
        obtain ⟨log, hlog, hredirects, hlength⟩ := ih hrest
        exact ⟨_, .cons hexchange hlog, .next hnext hredirects, Nat.succ_le_succ hlength⟩
  · rintro ⟨log, hlog, hredirects, hlength⟩
    induction hredirects generalizing w limit with
    | last hnone =>
      cases hlog with
      | cons head tail =>
        cases tail
        exact (follow_eq_iff head).2 (.delivered hnone)
    | next hnext hredirects ih =>
      cases hlog with
      | cons head tail =>
        cases limit with
        | zero =>
          -- there is a message behind the first one
          cases hredirects <;> simp at hlength
        | succ limit =>
          have hrest := ih tail (Nat.le_of_succ_le_succ hlength)
          exact (follow_eq_iff head).2 (.moved hnext hrest)

end Following

/-- A request line and headers can be written for the request. -/
def Request.IsSendable (r : Request) : Prop :=
  (r.withCredentials.ifMatch.getD []).all isHeaderByte ∧ isTarget r.withCredentials.url

section Sending

variable [Redirection]

/-- Nothing is sent unless it can be written down. -/
theorem send_eq_ok_iff :
    send request w = (.ok d, after) ↔
      request.IsSendable ∧
        follow request.withCredentials.url redirectLimit request.withCredentials w =
          (.ok d, after) := by
  unfold send Request.IsSendable
  split
  case isTrue hheader => exact iff_of_false nofun fun h => by simp [h.1.1] at hheader
  case isFalse hheader =>
    split
    case isTrue htarget => exact iff_of_false nofun fun h => by simp [h.1.2] at htarget
    case isFalse htarget =>
      exact (and_iff_right ⟨by simpa using hheader, by simpa using htarget⟩).symm

theorem ask_eq_ok_iff :
    ask request w = (.ok d, after) ↔ send request w = (.ok d, after) ∧ d.response.isSuccess := by
  rcases hsend : send request w with ⟨result, mid⟩
  have hlift : (liftM (send request) : Action Wire (Except Fault Delivery)) w =
      (.ok (send request w).1, (send request w).2) := rfl
  rw [hsend] at hlift
  unfold ask
  rw [Action.bind_of_ok hlift]
  cases result with
  | error fault => exact iff_of_false nofun nofun
  | ok delivered =>
    dsimp only
    split
    case isTrue hsuccess =>
      constructor
      · rintro ⟨⟩
        exact ⟨rfl, hsuccess⟩
      · rintro ⟨⟨⟩, -⟩
        rfl
    case isFalse hfault =>
      refine iff_of_false nofun ?_
      rintro ⟨⟨⟩, hsuccess⟩
      exact hfault hsuccess

/-- A question is answered by the success at the end of a chain. -/
theorem ask_eq_ok_iff_exists :
    ask request w = (.ok d, after) ↔
      request.IsSendable ∧ d.response.isSuccess ∧
        ∃ log, Exchanged w log after ∧ Redirects request.withCredentials log d ∧
          log.length ≤ redirectLimit + 1 := by
  rw [ask_eq_ok_iff, send_eq_ok_iff, follow_eq_ok_iff, and_assoc, and_comm (b := _ = true)]

end Sending

/-! ## What is accepted -/

theorem not_turns_of_isSuccess (h : response.isSuccess) (method : Method) :
    ¬response.Turns method := by
  simp only [Response.isSuccess, Bool.and_eq_true, decide_eq_true_eq] at h
  unfold Response.Turns
  omega

/-- A success calls for nothing more. -/
theorem redirected?_of_isSuccess [Redirection] (request : Request) (h : response.isSuccess) :
    request.redirected? response = none := by
  simp only [Response.isSuccess, Bool.and_eq_true, decide_eq_true_eq] at h
  unfold Request.redirected?
  rw [if_neg (by omega), if_neg (by omega), if_neg (by omega)]
  rfl

/-- A message with the method, the condition and the body of the request was answered by a
success. -/
def Accepted (request : Request) (log : Log) : Prop :=
  ∃ r response, (r, Reply.response response) ∈ log ∧ response.isSuccess ∧
    r.method = request.method ∧ r.ifMatch = request.ifMatch ∧ r.body = request.body

/-- There is a redirect that turns a request with the method into a GET. -/
def Turned (method : Method) (log : Log) : Prop :=
  ∃ r response, (r, Reply.response response) ∈ log ∧ response.Turns method

theorem accepted_congr {other : Request} {log : Log} (hmethod : request.method = other.method)
    (hifMatch : request.ifMatch = other.ifMatch) (hbody : request.body = other.body) :
    Accepted request log ↔ Accepted other log := by
  unfold Accepted
  rw [hmethod, hifMatch, hbody]

/-- What holds of some response of a log holds of the first one or of one behind it. -/
theorem exists_response_cons_iff {holds : Request → Response → Prop} {r : Request} {log : Log} :
    (∃ s answer, (s, Reply.response answer) ∈ (r, Reply.response response) :: log ∧
        holds s answer) ↔
      holds r response ∨ ∃ s answer, (s, Reply.response answer) ∈ log ∧ holds s answer := by
  constructor
  · rintro ⟨s, answer, hmem, hholds⟩
    rcases List.mem_cons.1 hmem with heq | hmem
    · cases heq
      exact .inl hholds
    · exact .inr ⟨s, answer, hmem, hholds⟩
  · rintro (hholds | ⟨s, answer, hmem, hholds⟩)
    · exact ⟨r, response, List.mem_cons_self, hholds⟩
    · exact ⟨s, answer, List.mem_cons_of_mem _ hmem, hholds⟩

/-- By a response that is no success nothing is accepted. -/
theorem accepted_cons_iff {r : Request} {log : Log} (h : ¬response.isSuccess) :
    Accepted request ((r, .response response) :: log) ↔ Accepted request log :=
  exists_response_cons_iff.trans (or_iff_right fun hfirst => h hfirst.1)

theorem turned_cons_iff {r : Request} {log : Log} {method : Method} :
    Turned method ((r, .response response) :: log) ↔
      response.Turns method ∨ Turned method log :=
  exists_response_cons_iff

namespace Redirects

variable [Redirection] {log : Log}

/-- A GET stays one. -/
theorem method_eq_get (h : Redirects request log d) (hget : request.method = .get) :
    ∀ e ∈ log, e.1.method = .get := by
  induction h with
  | last => exact List.forall_mem_singleton.2 hget
  | next hnext _ ih =>
    refine List.forall_mem_cons.2 ⟨hget, ih ?_⟩
    obtain ⟨url, rfl⟩ := redirected?_eq_some hnext
    split
    · rfl
    · exact hget

/-- A request at the end of whose redirects there is a success was accepted if and only if it was
not turned into a GET on the way. -/
theorem accepted_iff (h : Redirects request log d) (hsuccess : d.response.isSuccess)
    (hmethod : request.method ≠ .get) :
    Accepted request log ↔ ¬Turned request.method log := by
  induction h with
  | @last request response _ =>
    refine iff_of_true ⟨request, response, List.mem_cons_self, hsuccess, rfl, rfl, rfl⟩ ?_
    rintro ⟨s, answer, hmem, hturns⟩
    cases List.mem_singleton.1 hmem
    exact not_turns_of_isSuccess hsuccess _ hturns
  | @next request next response log d hnext htail ih =>
    have hfault : ¬response.isSuccess := fun h => by
      rw [redirected?_of_isSuccess request h] at hnext
      cases hnext
    rw [accepted_cons_iff hfault, turned_cons_iff]
    obtain ⟨url, rfl⟩ := redirected?_eq_some hnext
    by_cases hturns : response.Turns request.method
    · -- from here on there are only messages of another method
      rw [if_pos hturns] at htail
      refine iff_of_false ?_ (not_not_intro (.inl hturns))
      rintro ⟨s, answer, hmem, -, hsame, -⟩
      exact hmethod (hsame.symm.trans (htail.method_eq_get rfl _ hmem))
    · rw [if_neg hturns] at ih
      rw [or_iff_right hturns]
      exact ih hsuccess hmethod

end Redirects

end Sidecar.Http
