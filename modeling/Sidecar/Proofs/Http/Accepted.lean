import Sidecar.Proofs.Http.Redirect
import Sidecar.Proofs.Http.Save
import Sidecar.Proofs.State.Client

/-!
# Writes that are reported as done

A write is one request, and it is reported as done if there is a success at the end of the redirects
that the request meets.  That success is an answer to the write itself only as long as none of them
turned it into a GET.

The main result is `write_done_iff`.
-/

namespace Sidecar.Http

open State

variable {base : Url} {w after : Wire}

section Redirection

variable [Redirection]

/-! ## Drafts -/

/-- The action succeeds exactly if there is a request, and that is answered by a success. -/
def Submits (action : Action Wire Unit) (draft : Except Error Request) : Prop :=
  ∀ w after, action w = (.ok (), after) ↔
    ∃ message d, draft = .ok message ∧ ask message w = (.ok d, after)

theorem submits_ask (message : Request) : Submits (do let _ ← ask message) (.ok message) := by
  intro w after
  constructor
  · intro h
    obtain ⟨d, mid, hask, hrest⟩ := Action.exists_of_bind_eq_ok h
    cases hrest
    exact ⟨message, d, rfl, hask⟩
  · rintro ⟨_, d, ⟨⟩, hask⟩
    rw [Action.bind_of_ok hask]
    rfl

/-- What is checked before is checked before there is a request. -/
theorem Submits.check {α : Type} (check : Except Error α) {action : α → Action Wire Unit}
    {draft : α → Except Error Request} (h : ∀ a, Submits (action a) (draft a)) :
    Submits (liftM check >>= action) (check >>= draft) := by
  intro w after
  cases check with
  | error e =>
    rw [Action.bind_lift_of_error rfl]
    exact iff_of_false nofun (by rintro ⟨_, _, h, -⟩; cases h)
  | ok a =>
    rw [Action.bind_lift_of_ok rfl]
    exact h a w after

def saveDraft (base : Url) (request : SaveRequest) : Except Error Request := do
  let body ← saveBody request.items
  return saveMessage base request.store body

def valueDraft (base : Url) (store key : String) (value : Option Json) (etag : Option String)
    (options : Option StateOptions) (metadata : Option Metadata) : Except Error Request := do
  requireAddress store key
  saveDraft base ⟨store, [⟨key, value.map encodeValue, etag, metadata, options⟩]⟩

def itemsDraft (base : Url) (store : String) (items : List Item) : Except Error Request := do
  requireName "store" store
  items.forM fun item => requireName "key" item.key
  saveDraft base ⟨store, items⟩

def removalDraft (base : Url) (store key : String) (etag : Option String)
    (options : Option StateOptions) : Except Error Request := do
  requireAddress store key
  return deleteMessage base ⟨store, key, etag, options⟩

/-- A save is a question as soon as its items can be written down. -/
theorem submits_saveState (request : SaveRequest) :
    Submits (saveState base request) (saveDraft base request) :=
  Submits.check _ fun body => submits_ask (saveMessage base request.store body)

theorem submits_deleteState (request : DeleteRequest) :
    Submits (deleteState base request) (.ok (deleteMessage base request)) :=
  submits_ask (deleteMessage base request)

/-- A value is saved if store and key are there and it can be written down. -/
theorem submits_write (store key : String) (value : Option Json) (etag : Option String)
    (options : Option StateOptions) (metadata : Option Metadata) :
    Submits ((transport base).write store key value etag options metadata)
      (valueDraft base store key value etag options metadata) := by
  rw [Transport.write_eq_bind]
  exact Submits.check _ fun _ => submits_saveState _

theorem submits_remove (store key : String) (etag : Option String)
    (options : Option StateOptions) :
    Submits ((transport base).remove store key etag options)
      (removalDraft base store key etag options) :=
  Submits.check _ fun _ => submits_deleteState _

theorem submits_saveItems (store : String) (items : List Item) :
    Submits ((transport base).saveItems store items) (itemsDraft base store items) := by
  unfold Transport.saveItems itemsDraft
  rw [Action.forM_lift]
  exact Submits.check _ fun _ => Submits.check _ fun _ => submits_saveState _

/-! ## Writes -/

/-- The operations that write, each with what it returns when it is done and with its request. -/
inductive Writes (base : Url) :
    {β : Type} → Action Wire β → β → Except Error Request → Prop
  | saveState (request) : Writes base (saveState base request) () (saveDraft base request)
  | deleteState (request) :
      Writes base (deleteState base request) () (.ok (deleteMessage base request))
  | saveValue (store key value options metadata) :
      Writes base ((transport base).saveValue store key value options metadata) ()
        (valueDraft base store key value none options metadata)
  | trySaveValue (store key value etag options metadata) :
      Writes base ((transport base).trySaveValue store key value etag options metadata) true
        (valueDraft base store key value etag options metadata)
  | saveItems (store items) :
      Writes base ((transport base).saveItems store items) () (itemsDraft base store items)
  | saveEntry (entry options) :
      Writes base ((transport base).saveEntry entry options) ()
        (valueDraft base entry.store entry.key entry.value entry.etag options none)
  | trySaveEntry (entry options) :
      Writes base ((transport base).trySaveEntry entry options) true
        (valueDraft base entry.store entry.key entry.value entry.etag options none)
  | deleteValue (store key options) :
      Writes base ((transport base).deleteValue store key options) ()
        (removalDraft base store key none options)
  | tryDeleteValue (store key etag options) :
      Writes base ((transport base).tryDeleteValue store key etag options) true
        (removalDraft base store key etag options)
  | deleteEntry {α : Type} (entry : Entry α) (options) :
      Writes base ((transport base).deleteEntry entry options) ()
        (removalDraft base entry.store entry.key entry.etag options)
  | tryDeleteEntry {α : Type} (entry : Entry α) (options) :
      Writes base ((transport base).tryDeleteEntry entry options) true
        (removalDraft base entry.store entry.key entry.etag options)

namespace Writes

variable {β : Type} {action : Action Wire β} {done : β} {draft : Except Error Request}

theorem eq_ok_iff (h : Writes base action done draft) (w after : Wire) :
    action w = (.ok done, after) ↔
      ∃ message d, draft = .ok message ∧ ask message w = (.ok d, after) := by
  cases h with
  | saveState request => exact submits_saveState request w after
  | deleteState request => exact submits_deleteState request w after
  | saveValue | saveEntry => exact submits_write _ _ _ _ _ _ w after
  | saveItems store items => exact submits_saveItems store items w after
  | deleteValue | deleteEntry => exact submits_remove _ _ _ _ w after
  | trySaveValue | trySaveEntry =>
    exact (soften_eq_ok_true_iff _ _ _).trans (submits_write _ _ _ _ _ _ w after)
  | tryDeleteValue | tryDeleteEntry =>
    exact (soften_eq_ok_true_iff _ _ _).trans (submits_remove _ _ _ _ w after)

/-- The request is a POST of items or a DELETE. -/
theorem message_cases (h : Writes base action done draft) {message : Request}
    (hdraft : draft = .ok message) :
    (∃ store items body, saveBody items = .ok body ∧ message = saveMessage base store body) ∨
      ∃ request, message = deleteMessage base request := by
  have hsave {request : SaveRequest} (h : saveDraft base request = .ok message) :
      ∃ store items body, saveBody items = .ok body ∧ message = saveMessage base store body := by
    obtain ⟨body, hbody, hmessage⟩ := Result.exists_of_bind_eq_ok h
    exact ⟨_, _, body, hbody, (Except.ok.inj hmessage).symm⟩
  have hvalue {store key value etag options metadata}
      (h : valueDraft base store key value etag options metadata = .ok message) :
      ∃ store items body, saveBody items = .ok body ∧ message = saveMessage base store body := by
    obtain ⟨-, -, h⟩ := Result.exists_of_bind_eq_ok h
    exact hsave h
  have hremoval {store key etag options}
      (h : removalDraft base store key etag options = .ok message) :
      ∃ request, message = deleteMessage base request := by
    obtain ⟨-, -, h⟩ := Result.exists_of_bind_eq_ok h
    exact ⟨_, (Except.ok.inj h).symm⟩
  cases h with
  | saveState => exact .inl (hsave hdraft)
  | deleteState => exact .inr ⟨_, (Except.ok.inj hdraft).symm⟩
  | saveValue | trySaveValue | saveEntry | trySaveEntry => exact .inl (hvalue hdraft)
  | saveItems =>
    obtain ⟨-, -, hdraft⟩ := Result.exists_of_bind_eq_ok hdraft
    obtain ⟨-, -, hdraft⟩ := Result.exists_of_bind_eq_ok hdraft
    exact .inl (hsave hdraft)
  | deleteValue | tryDeleteValue | deleteEntry | tryDeleteEntry => exact .inr (hremoval hdraft)

theorem method_ne_get (h : Writes base action done draft) {message : Request}
    (hdraft : draft = .ok message) : message.method ≠ .get := by
  rcases h.message_cases hdraft with ⟨_, _, _, -, rfl⟩ | ⟨_, rfl⟩
  · exact nofun
  · exact nofun

end Writes

/-- A write is reported as done exactly if there is a success at the end of the redirects that its
request meets.  The write was then accepted, by a success in answer to its method, condition and
body, if and only if none of these redirects turned it into a GET. -/
theorem write_done_iff {β : Type} {action : Action Wire β} {done : β}
    {draft : Except Error Request} (h : Writes base action done draft) :
    (∀ w after, action w = (.ok done, after) →
      ∃ message log d, draft = .ok message ∧ Exchanged w log after ∧
        Redirects message.withCredentials log d ∧ d.response.isSuccess ∧
        (Accepted message log ↔ ¬Turned message.method log)) ∧
    ∀ w after message log d, draft = .ok message → message.IsSendable → Exchanged w log after →
      Redirects message.withCredentials log d → log.length ≤ redirectLimit + 1 →
      d.response.isSuccess → action w = (.ok done, after) := by
  constructor
  case left =>
    intro w after hdone
    obtain ⟨message, d, hdraft, hask⟩ := (h.eq_ok_iff w after).1 hdone
    obtain ⟨-, hsuccess, log, hlog, hredirects, -⟩ := ask_eq_ok_iff_exists.1 hask
    refine ⟨message, log, d, hdraft, hlog, hredirects, hsuccess, ?_⟩
    obtain ⟨hmethod, hifMatch, hbody⟩ := withCredentials_fields message
    rw [← accepted_congr hmethod hifMatch hbody, ← hmethod]
    exact hredirects.accepted_iff hsuccess (hmethod ▸ h.method_ne_get hdraft)
  case right =>
    intro w after message log d hdraft hsendable hlog hredirects hlength hsuccess
    exact (h.eq_ok_iff w after).2 ⟨message, d, hdraft,
      ask_eq_ok_iff_exists.2 ⟨hsendable, hsuccess, log, hlog, hredirects, hlength⟩⟩

end Redirection

section Redirected

/-- A redirect to another path. -/
def moved (status : Nat) : Response := { status, headers := [("Location", [47, 109])] }

/-- A redirect and then an empty success, with the messages that they are answers to. -/
def wireWithRedirect (status : Nat) (sent : List Request) : Wire :=
  { replies := [.response (moved status), .response { status := 204 }].drop sent.length
    otherwise := .unreachable
    sent }

/-- A write that is redirected once is done once the success is there. -/
theorem done_of_redirect (status : Nat) {β : Type} {action : Action Wire β} {done : β}
    {draft : Except Error Request} (h : Writes usual action done draft) {message next : Request}
    (hdraft : draft = .ok message) (hsendable : message.IsSendable)
    (hfinal : (moved status).isFinal)
    (hnext : message.withCredentials.redirected? (moved status) = some (.request next)) :
    action (wireWithRedirect status []) =
      (.ok done, wireWithRedirect status [next, message.withCredentials]) := by
  have hlog : Exchanged (wireWithRedirect status [])
      [(message.withCredentials, .response (moved status)), (next, .response { status := 204 })]
      (wireWithRedirect status [next, message.withCredentials]) :=
    .cons (exchange_of_response rfl hfinal) (.cons rfl (.nil _))
  have hask := ask_eq_ok_iff_exists.2
    ⟨hsendable, rfl, _, hlog, .next hnext (.last rfl), by simp [redirectLimit]⟩
  exact (h.eq_ok_iff _ _).2 ⟨message, _, hdraft, hask⟩

/-- Where no connection is to be had nothing is sent. -/
theorem sent_of_unreachable {log : Log} (hreplies : w.replies = [])
    (hotherwise : w.otherwise = .unreachable) (h : Exchanged w log after) :
    after.sent = w.sent ∧ ∀ e ∈ log, e.2 = .unreachable := by
  induction h with
  | nil => exact ⟨rfl, List.forall_mem_nil _⟩
  | cons head _ ih =>
    unfold Wire.exchange Wire.next at head
    rw [hreplies, hotherwise] at head
    cases head
    obtain ⟨hsent, hall⟩ := ih rfl rfl
    exact ⟨hsent, List.forall_mem_cons.2 ⟨rfl, hall⟩⟩

/-- Of two messages the first is answered by the redirect, and only the second may be accepted. -/
theorem accepted_of_redirect {status : Nat} {message first second : Request} {log : Log}
    (hfinal : (moved status).isFinal) (hfault : ¬(moved status).isSuccess)
    (h : Exchanged (wireWithRedirect status []) log (wireWithRedirect status [second, first]))
    (haccepted : Accepted message log) : second.method = message.method := by
  obtain ⟨r, response, hmem, hsuccess, hmethod, -⟩ := haccepted
  cases h with
  | cons head tail =>
    rw [exchange_of_response rfl hfinal] at head
    cases head
    cases tail with
    | cons head tail =>
      cases head
      obtain ⟨hsent, hall⟩ := sent_of_unreachable rfl rfl tail
      obtain ⟨rfl, -⟩ := List.cons.inj hsent
      rcases List.mem_cons.1 hmem with heq | hmem
      · cases heq
        exact absurd hsuccess hfault
      · rcases List.mem_cons.1 hmem with heq | hmem
        · cases heq
          exact hmethod
        · cases hall _ hmem

/-- A conditional delete that is redirected is repeated, condition and all; so it is accepted. -/
theorem write_done_iff_repeated :
    ∃ after log,
      (transport usual).tryDeleteValue "s" "k" (some "7") none (wireWithRedirect 307 []) =
        (.ok true, after) ∧
      Exchanged (wireWithRedirect 307 []) log after ∧
      Accepted (deleteMessage usual ⟨"s", "k", some "7", none⟩) log := by
  have hwrites : Writes usual _ true _ := .tryDeleteValue "s" "k" (some "7") none
  have hdelete := done_of_redirect 307 hwrites rfl ⟨rfl, rfl⟩ rfl rfl
  obtain ⟨hdone, -⟩ := write_done_iff hwrites
  obtain ⟨message, log, d, hdraft, hlog, -, -, haccepted⟩ := hdone _ _ hdelete
  cases hdraft
  refine ⟨_, log, hdelete, hlog, haccepted.2 ?_⟩
  rintro ⟨r, response, hmem, hturns⟩
  have hreply : Reply.response response ∈
      [.closed, .unreachable, .response (moved 307), .response { status := 204 }] :=
    (hlog.mem_replies _ hmem).2
  simp only [List.mem_cons, reduceCtorEq, Reply.response.injEq, List.not_mem_nil, or_false,
    false_or] at hreply
  rcases hreply with rfl | rfl
  · exact absurd hturns (by decide)
  · exact absurd hturns (by decide)

/-- A save and a conditional delete that are turned into GETs are reported as done when these are
answered, and have not been accepted. -/
theorem write_done_see_other :
    (∃ after,
      (transport usual).saveValue "s" "k" (some (.whole 1)) none none (wireWithRedirect 303 []) =
        (.ok (), after) ∧
      ∀ log, Exchanged (wireWithRedirect 303 []) log after →
        ∀ store body, ¬Accepted (saveMessage usual store body) log) ∧
    ∃ after,
      (transport usual).tryDeleteValue "s" "k" (some "7") none (wireWithRedirect 303 []) =
        (.ok true, after) ∧
      ∀ log, Exchanged (wireWithRedirect 303 []) log after →
        ¬Accepted (deleteMessage usual ⟨"s", "k", some "7", none⟩) log := by
  have hsave := done_of_redirect 303 (.saveValue "s" "k" (some (.whole 1)) none none)
    rfl ⟨rfl, rfl⟩ rfl rfl
  have hdelete := done_of_redirect 303 (.tryDeleteValue "s" "k" (some "7") none)
    rfl ⟨rfl, rfl⟩ rfl rfl
  refine ⟨⟨_, hsave, fun log hlog store body haccepted => ?_⟩, _, hdelete,
    fun log hlog haccepted => ?_⟩
  · cases accepted_of_redirect rfl (by decide) hlog haccepted
  · cases accepted_of_redirect rfl (by decide) hlog haccepted

end Redirected

end Sidecar.Http
