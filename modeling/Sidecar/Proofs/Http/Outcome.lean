import Sidecar.Http.Secret
import Sidecar.Proofs.Http.Accepted
import Sidecar.Proofs.Http.Answer
import Sidecar.Proofs.Http.Etag
import Sidecar.Proofs.State.Answers

/-!
# What operations over HTTP come to

An operation is one request, and it comes to whatever the end of that request decides: the status
first, then for a read whether there is content, whether it is all there, and whether it can be
decoded.

The main result is `outcome_of_answer`.
-/

namespace Sidecar.Http

open State

variable {β : Type} {base : Url} {message : Request} {w after : Wire} {d : Delivery}

/-! ## Requests -/

/-- The request of a call, or what is wrong with its items. -/
def draft (base : Url) : Call → Except Error Request
  | .get request => .ok (getMessage base request)
  | .save request => saveDraft base request
  | .delete request => .ok (deleteMessage base request)

/-- Items fail to be written down only where one of them is no document. -/
theorem exists_fault_of_saveBody {items : List Item} {e : Error} (h : saveBody items = .error e) :
    ∃ fault, e = .serialization fault := by
  have hitems : items.mapM itemJson = .error e := by
    rw [saveBody] at h
    cases hmap : items.mapM itemJson with
    | ok objects =>
      rw [hmap] at h
      cases h
    | error e' =>
      rw [hmap] at h
      cases h
      rfl
  clear h
  induction items with
  | nil => cases hitems
  | cons item rest ih =>
    rw [List.mapM_cons] at hitems
    cases hitem : itemJson item with
    | error e' =>
      rw [hitem] at hitems
      cases hitems
      exact exists_fault_of_itemJson hitem
    | ok object =>
      rw [hitem] at hitems
      cases hrest : rest.mapM itemJson with
      | error e' =>
        rw [hrest] at hitems
        cases hitems
        exact ih hrest
      | ok objects =>
        rw [hrest] at hitems
        cases hitems

/-- The request of an instruction, or what is wrong with its names or items. -/
def requestOf (base : Url) (i : Instruction β) : Except Error Request :=
  match emptyName? i.call.store i.call.keys with
  | some name => .error (.emptyArgument name)
  | none => draft base i.call

/-- An instruction has a request if no name is empty and its call can be written down. -/
theorem requestOf_eq_ok_iff {i : Instruction β} :
    requestOf base i = .ok message ↔
      emptyName? i.call.store i.call.keys = none ∧ draft base i.call = .ok message := by
  rw [requestOf]
  cases emptyName? i.call.store i.call.keys with
  | none => simp
  | some name => simp

/-! ## Responses -/

/-- What a read makes of a response. -/
structure Received (d : Delivery) (result : Except Error GetResponse) : Prop where
  refused (h : ¬d.response.Succeeds) : result = .error d.response.refusal
  absent (h : d.response.status = 204) : result = .ok ⟨none, none⟩
  empty (h : d.response.Succeeds) (hstatus : d.response.status ≠ 204)
    (hwhole : d.response.missing = 0) (hbody : d.response.body = []) :
    result = .ok ⟨none, d.response.etag?⟩
  data (h : d.response.Succeeds) (hstatus : d.response.status ≠ 204)
    (hwhole : d.response.missing = 0) (hbody : d.response.body ≠ []) :
    result = .ok ⟨some d.response.body, d.response.etag?⟩
  cutShort (h : d.response.Succeeds) (hstatus : d.response.status ≠ 204)
    (hmissing : d.response.missing ≠ 0) :
    result = .error (.transport (.truncatedBody d.url.text))

theorem succeeds_of_noContent {r : Response} (h : r.status = 204) : r.Succeeds := by
  rw [Response.Succeeds, h]
  decide

theorem content_of_succeeds (h : d.response.Succeeds) (hstatus : d.response.status ≠ 204) :
    d.content = if d.response.missing = 0 then .ok d.response.body
      else .error (.transport (.truncatedBody d.url.text)) := by
  rw [Delivery.content, Response.content?_of_succeeds h hstatus]
  by_cases hwhole : d.response.missing = 0
  · rw [if_pos hwhole, if_pos hwhole]
  · rw [if_neg hwhole, if_neg hwhole]

/-- The etag is the header, if all of that is text. -/
theorem encode_etag? (r : Response) :
    r.etag?.map Text.Utf8.encode = (r.header? "etag").filter fun b => b.all isTextByte := by
  cases hheader : r.header? "etag" with
  | none =>
    rw [Response.etag?, hheader]
    rfl
  | some b =>
    rw [map_encode_etag? hheader, Option.filter]

theorem isStaleEtag_refusal {r : Response} :
    r.refusal.isStaleEtag ↔ r.status = 409 ∨ r.status = 412 :=
  isStaleEtag_remoteFault _ _

/-- No content, nothing in the body, or the literal `null`. -/
def Response.HasNoValue (r : Response) : Prop :=
  r.status = 204 ∨ r.Succeeds ∧ r.missing = 0 ∧ (r.body = [] ∨ Json.NullText r.body)

section Calls

variable [Redirection]

/-! ## Calls -/

theorem getState_of_noContent {request : GetRequest}
    (h : Answered (getMessage base request) w d after) (hstatus : d.response.status = 204) :
    getState base request w = (.ok ⟨none, none⟩, after) := by
  have hcontent : d.response.status = noContent := hstatus
  unfold getState
  rw [Action.bind_of_ok (ask_of_answered h (succeeds_of_noContent hstatus)), if_pos hcontent]
  rfl

theorem getState_of_content {request : GetRequest}
    (h : Answered (getMessage base request) w d after) (hsuccess : d.response.Succeeds)
    (hstatus : d.response.status ≠ 204) :
    getState base request w =
      (d.content.map fun body =>
        ⟨if body.isEmpty then none else some body, d.response.etag?⟩, after) := by
  have hcontent : d.response.status ≠ noContent := hstatus
  unfold getState
  rw [Action.bind_of_ok (ask_of_answered h hsuccess), if_neg hcontent]
  cases d.content with
  | ok body => rfl
  | error e => rfl

theorem received_getState {request : GetRequest}
    (h : Answered (getMessage base request) w d after) :
    Received d (getState base request w).1 where
  refused hrefused :=
    congrArg Prod.fst ((failsWith_ask_bind _ _).refused h hrefused nofun)
  absent hstatus := congrArg Prod.fst (getState_of_noContent h hstatus)
  empty hsuccess hstatus hwhole hbody := by
    rw [getState_of_content h hsuccess hstatus, content_of_succeeds hsuccess hstatus,
      if_pos hwhole, hbody]
    rfl
  data hsuccess hstatus hwhole hbody := by
    rw [getState_of_content h hsuccess hstatus, content_of_succeeds hsuccess hstatus,
      if_pos hwhole, Except.map, if_neg (by simpa using hbody)]
  cutShort hsuccess hstatus hmissing := by
    rw [getState_of_content h hsuccess hstatus, content_of_succeeds hsuccess hstatus,
      if_neg hmissing]
    rfl

/-- A call that can be written down begins with a question.  A write wants to know nothing else. -/
theorem exists_make_eq {c : Call} (h : draft base c = .ok message) :
    ∃ next : Delivery → Action Wire c.Answer, (transport base).make c = ask message >>= next ∧
      ((∀ request, c ≠ .get request) → ∀ d w, ∃ answer, next d w = (.ok answer, w)) := by
  cases c with
  | get request =>
    cases h
    exact ⟨_, rfl, fun hc => absurd rfl (hc request)⟩
  | save request =>
    obtain ⟨body, hbody, hmessage⟩ := Result.exists_of_bind_eq_ok h
    cases hmessage
    exact ⟨fun _ => pure (), funext fun w => Action.bind_lift_of_ok hbody, fun _ _ _ => ⟨(), rfl⟩⟩
  | delete request =>
    cases h
    exact ⟨fun _ => pure (), rfl, fun _ _ _ => ⟨(), rfl⟩⟩

theorem failsWith_make {c : Call} (h : draft base c = .ok message) :
    FailsWith message false ((transport base).make c) := by
  obtain ⟨next, hmake, -⟩ := exists_make_eq h
  rw [hmake]
  exact failsWith_ask_bind message next

/-- A write needs nothing but a success, whatever comes with it. -/
theorem make_of_succeeds {c : Call} (hc : ∀ request, c ≠ .get request)
    (h : draft base c = .ok message) (hanswered : Answered message w d after)
    (hsuccess : d.response.Succeeds) :
    ∃ answer, (transport base).make c w = (.ok answer, after) := by
  obtain ⟨next, hmake, hnext⟩ := exists_make_eq h
  obtain ⟨answer, hanswer⟩ := hnext hc d after
  rw [hmake, Action.bind_of_ok (ask_of_answered hanswered hsuccess)]
  exact ⟨answer, hanswer⟩

/-! ### Items that cannot be written down -/

/-- Without a request nothing is sent, and no etag is refused. -/
theorem make_of_draft_error {c : Call} {e : Error} (h : draft base c = .error e) (w : Wire) :
    (transport base).make c w = (.error e, w) ∧ e.isStaleEtag = false := by
  cases c with
  | get | delete => cases h
  | save request =>
    have hbody : saveBody request.items = .error e := by
      cases hbody : saveBody request.items with
      | error e' =>
        rw [draft, saveDraft, hbody] at h
        cases h
        rfl
      | ok body =>
        rw [draft, saveDraft, hbody] at h
        cases h
    obtain ⟨fault, rfl⟩ := exists_fault_of_saveBody hbody
    exact ⟨saveState_of_error hbody w, rfl⟩

/-! ## What refuses an etag -/

/-- A call fails for a refused etag if and only if its request ends in one of the two statuses. -/
theorem isStaleEtag_make_iff {c : Call} (hc : ∀ request, c ≠ .get request) (w : Wire) :
    (∃ e, ((transport base).make c w).1 = .error e ∧ e.isStaleEtag) ↔
      ∃ message d after, draft base c = .ok message ∧ Answered message w d after ∧
        (d.response.status = 409 ∨ d.response.status = 412) := by
  constructor
  · rintro ⟨e, he, hstale⟩
    cases hdraft : draft base c with
    | error e' =>
      obtain ⟨hmake, hfresh⟩ := make_of_draft_error hdraft w
      rw [hmake] at he
      cases he
      rw [hfresh] at hstale
      cases hstale
    | ok message =>
      obtain ⟨next, hmake, hnext⟩ := exists_make_eq hdraft
      rw [hmake] at he
      rcases hask : ask message w with ⟨result, after⟩
      cases result with
      | ok d =>
        obtain ⟨answer, hanswer⟩ := hnext hc d after
        rw [Action.bind_of_ok hask, hanswer] at he
        cases he
      | error e' =>
        rw [Action.bind_of_error hask] at he
        cases he
        cases e with
        | remoteFault status text =>
          obtain ⟨d, hanswered, hstatus⟩ := answered_of_remoteFault hask
          rw [isStaleEtag_remoteFault, ← hstatus] at hstale
          exact ⟨message, d, after, rfl, hanswered, hstale⟩
        | emptyArgument | serialization | transport | invalidEndpoint | unknownToken => cases hstale
  · rintro ⟨message, d, after, hdraft, hanswered, hstatus⟩
    have hrefused : ¬d.response.Succeeds := fun h => absurd h.2 (by omega)
    refine ⟨d.response.refusal, ?_, isStaleEtag_refusal.2 hstatus⟩
    rw [(failsWith_make hdraft).refused hanswered hrefused nofun]

/-! ## Data without a value -/

theorem hasNoValue_getState_iff {request : GetRequest} :
    (∃ response, (getState base request w).1 = .ok response ∧ HasNoValue response.data) ↔
      ∃ d after, Answered (getMessage base request) w d after ∧ d.response.HasNoValue := by
  constructor
  · rintro ⟨response, hread, hdata⟩
    rcases hget : getState base request w with ⟨result, after⟩
    rw [hget] at hread
    cases hread
    obtain ⟨d, mid, hask, -⟩ := Action.exists_of_bind_eq_ok hget
    obtain ⟨hanswered, hsuccess⟩ := answered_of_ask hask
    refine ⟨d, mid, hanswered, ?_⟩
    by_cases hstatus : d.response.status = 204
    · exact .inl hstatus
    · rw [getState_of_content hanswered hsuccess hstatus,
        content_of_succeeds hsuccess hstatus] at hget
      by_cases hwhole : d.response.missing = 0
      · rw [if_pos hwhole] at hget
        cases hget
        refine .inr ⟨hsuccess, hwhole, ?_⟩
        by_cases hbody : d.response.body = []
        · exact .inl hbody
        · exact hdata _ (if_neg (by simpa using hbody))
      · rw [if_neg hwhole] at hget
        cases hget
  · rintro ⟨d, after, hanswered, hstatus | ⟨hsuccess, hwhole, hbody⟩⟩
    · exact ⟨_, (received_getState hanswered).absent hstatus, nofun⟩
    · by_cases hstatus : d.response.status = 204
      · exact ⟨_, (received_getState hanswered).absent hstatus, nofun⟩
      · by_cases hempty : d.response.body = []
        · exact ⟨_, (received_getState hanswered).empty hsuccess hstatus hwhole hempty, nofun⟩
        · refine ⟨_, (received_getState hanswered).data hsuccess hstatus hwhole hempty, ?_⟩
          rintro _ ⟨⟩
          exact hbody

/-! ## Instructions -/

section Instructions

variable {i : Instruction β}

/-- What an instruction makes of a response that is no success. -/
theorem perform_of_refused (h : requestOf base i = .ok message)
    (hanswered : Answered message w d after) (hrefused : ¬d.response.Succeeds) :
    i.perform (transport base) w = (i.outcome (.error d.response.refusal), after) := by
  obtain ⟨hname, hdraft⟩ := requestOf_eq_ok_iff.1 h
  rw [Instruction.perform_of_names hname, (failsWith_make hdraft).refused hanswered hrefused nofun]

/-- An instruction fails as its request does, but soft ones have an answer to refused etags. -/
theorem failsWith_perform (h : requestOf base i = .ok message) :
    FailsWith message i.isSoft (i.perform (transport base)) := by
  obtain ⟨hname, hdraft⟩ := requestOf_eq_ok_iff.1 h
  have hmake := failsWith_make hdraft
  constructor
  case refused =>
    intro w after d hanswered hrefused hsoft
    rw [perform_of_refused h hanswered hrefused]
    refine congrArg (·, after) (Instruction.outcome_error fun h => ?_)
    rw [Bool.eq_false_iff, ne_eq, isStaleEtag_refusal, not_or]
    exact hsoft h
  case unanswered =>
    intro w after fault hunanswered
    rw [Instruction.perform_of_names hname, hmake.unanswered hunanswered]
    exact congrArg (·, after) (Instruction.outcome_error fun _ => rfl)

theorem isDone_of_succeeds (hc : ∀ request, i.call ≠ .get request)
    (h : requestOf base i = .ok message) (hanswered : Answered message w d after)
    (hsuccess : d.response.Succeeds) :
    ∃ b, i.perform (transport base) w = (.ok b, after) ∧ i.isDone b := by
  obtain ⟨hname, hdraft⟩ := requestOf_eq_ok_iff.1 h
  obtain ⟨answer, hmake⟩ := make_of_succeeds hc hdraft hanswered hsuccess
  obtain ⟨b, houtcome, hdone⟩ := Instruction.isDone_outcome hc answer
  refine ⟨b, ?_, hdone⟩
  rw [Instruction.perform_of_names hname, hmake, houtcome]

/-- A write is declined exactly if it is soft and its request ends in one of two statuses. -/
theorem isDeclined_iff :
    (∃ b, (i.perform (transport base) w).1 = .ok b ∧ i.isDeclined b) ↔
      i.isSoft ∧ ∃ message d after, requestOf base i = .ok message ∧ Answered message w d after ∧
        (d.response.status = 409 ∨ d.response.status = 412) := by
  simp only [requestOf_eq_ok_iff]
  cases hname : emptyName? i.call.store i.call.keys with
  | some name =>
    rw [Instruction.perform_of_emptyName? hname]
    refine iff_of_false nofun ?_
    rintro ⟨-, _, _, _, ⟨hnone, -⟩, -⟩
    cases hnone
  | none =>
    rw [Instruction.perform_of_names hname, Instruction.isDeclined_outcome_iff]
    simp only [true_and]
    exact and_congr_right fun hsoft =>
      isStaleEtag_make_iff (Instruction.call_ne_get_of_isSoft hsoft) w

/-- A read is without a value exactly if its request ends in a response without one. -/
theorem isVoid_iff {request : GetRequest} (h : i.call = .get request) :
    (∃ b, (i.perform (transport base) w).1 = .ok b ∧ i.isVoid b) ↔
      ∃ message d after, requestOf base i = .ok message ∧ Answered message w d after ∧
        d.response.HasNoValue := by
  have hdraft : draft base i.call = .ok (getMessage base request) := by
    rw [h]
    rfl
  rw [Instruction.isVoid_perform_iff h]
  simp only [requestOf_eq_ok_iff, hdraft]
  constructor
  · rintro ⟨hname, hdata⟩
    obtain ⟨d, after, hanswered, hvoid⟩ := hasNoValue_getState_iff.1 hdata
    exact ⟨_, d, after, ⟨hname, rfl⟩, hanswered, hvoid⟩
  · rintro ⟨_, d, after, ⟨hname, ⟨⟩⟩, hanswered, hvoid⟩
    exact ⟨hname, hasNoValue_getState_iff.2 ⟨d, after, hanswered, hvoid⟩⟩

theorem perform_of_fault? {request : GetRequest} {fault : Json.Fault} (h : i.call = .get request)
    (hrequest : requestOf base i = .ok message) (hanswered : Answered message w d after)
    (hsuccess : d.response.Succeeds) (hstatus : d.response.status ≠ 204)
    (hwhole : d.response.missing = 0) (hbody : d.response.body ≠ [])
    (hfault : i.fault? d.response.body = some fault) :
    i.perform (transport base) w = (.error (.serialization fault), after) := by
  obtain ⟨hname, hdraft⟩ := requestOf_eq_ok_iff.1 hrequest
  rw [h] at hdraft
  cases hdraft
  have hget : getState base request w = (.ok ⟨some d.response.body, d.response.etag?⟩, after) := by
    rw [getState_of_content hanswered hsuccess hstatus, content_of_succeeds hsuccess hstatus,
      if_pos hwhole, Except.map, if_neg (by simpa using hbody)]
  exact Instruction.perform_of_fault? h hname hget hbody hfault

end Instructions

end Calls

/-! ## Every operation -/

/-- What an operation comes to is decided by the end of its request, and every request that can be
sent has one: the response behind its redirects, or what keeps that away.  Without a success the
operation fails, with the status and the text of the response or with what kept it away; only soft
writes have an answer to the two statuses by which an etag is refused, and give that to nothing else.
A read takes data and etag from a success as far as that has content, all of it came, and the etag is
text; there is no value in it just if there is no content, an empty body or the literal `null`, and a
body that cannot be decoded is a failure.  A write is done with any success. -/
theorem outcome_of_answer [Redirection] (base : Url) :
    (∀ message w, message.IsSendable → (∃ d after, Answered message w d after) ∨
      ∃ fault after, Unanswered message w fault after) ∧
    (∀ c message, draft base c = .ok message →
      FailsWith message false ((transport base).make c)) ∧
    (∀ request, FailsWith (secretMessage base request) false (getSecret base request)) ∧
    (∀ {β : Type} (i : Instruction β) message, requestOf base i = .ok message →
      FailsWith message i.isSoft (i.perform (transport base))) ∧
    (∀ request w d after, Answered (getMessage base request) w d after →
      Received d (getState base request w).1 ∧
      d.response.etag?.map Text.Utf8.encode =
        (d.response.header? "etag").filter fun b => b.all isTextByte) ∧
    (∀ c message w d after, (∀ request, c ≠ .get request) → draft base c = .ok message →
      Answered message w d after → d.response.Succeeds →
      ∃ answer, (transport base).make c w = (.ok answer, after)) ∧
    (∀ {β : Type} (i : Instruction β) message w d after, requestOf base i = .ok message →
      Answered message w d after → d.response.Succeeds →
      ((∀ request, i.call ≠ .get request) →
        ∃ b, i.perform (transport base) w = (.ok b, after) ∧ i.isDone b) ∧
      ∀ request fault, i.call = .get request → d.response.status ≠ 204 →
        d.response.missing = 0 → d.response.body ≠ [] → i.fault? d.response.body = some fault →
        i.perform (transport base) w = (.error (.serialization fault), after)) ∧
    ∀ {β : Type} (i : Instruction β) w,
      ((∃ b, (i.perform (transport base) w).1 = .ok b ∧ i.isDeclined b) ↔
        i.isSoft ∧ ∃ message d after, requestOf base i = .ok message ∧
          Answered message w d after ∧ (d.response.status = 409 ∨ d.response.status = 412)) ∧
      ∀ request, i.call = .get request →
        ((∃ b, (i.perform (transport base) w).1 = .ok b ∧ i.isVoid b) ↔
          ∃ message d after, requestOf base i = .ok message ∧ Answered message w d after ∧
            d.response.HasNoValue) := by
  refine ⟨fun message w h => answered_or_unanswered h w, fun c message => failsWith_make,
    fun request => failsWith_ask_bind _ _, fun i message => failsWith_perform,
    fun request w d after h => ⟨received_getState h, ?_⟩,
    fun c message w d after hc => make_of_succeeds hc,
    fun i message w d after hrequest hanswered hsuccess => ⟨?_, ?_⟩,
    fun i w => ⟨isDeclined_iff, fun request => isVoid_iff⟩⟩
  · exact encode_etag? d.response
  · exact fun hc => isDone_of_succeeds hc hrequest hanswered hsuccess
  · intro request fault h hstatus hwhole hbody hfault
    exact perform_of_fault? h hrequest hanswered hsuccess hstatus hwhole hbody hfault

/-- A read of `null` with an etag in quotes has the bytes and the etag, but no value, and a delete
that is answered by a failed precondition is declined. -/
theorem outcome_of_answer_declined :
    let null : Response := { headers := [("ETag", [34, 55, 34])], body := [32, 110, 117, 108, 108] }
    let refused : Response := { status := 412, body := [110, 111] }
    let read : Instruction (Option Json) := .getValue Json.readAny "s" "k" none
    let delete : Instruction Bool := .tryDeleteValue "s" "k" (some "7") none
    let before : Wire := { replies := [.response null], otherwise := .closed }
    let between : Wire := { replies := [.response refused], otherwise := .closed }
    (getState usual ⟨"s", "k", none⟩ before).1 =
        .ok ⟨some [32, 110, 117, 108, 108], null.etag?⟩ ∧
      null.etag?.map Text.Utf8.encode = some [34, 55, 34] ∧
      (read.perform (transport usual) before).1 = .ok none ∧
      (delete.perform (transport usual) between).1 = .ok false ∧
      ((transport usual).make delete.call between).1 = .error (.remoteFault 412 "no") := by
  intro null refused read delete before between
  obtain ⟨-, hcalls, -, -, hreads, -, -, hends⟩ := outcome_of_answer usual
  have hnull : Answered (getMessage usual ⟨"s", "k", none⟩) before _ _ :=
    answered_of_reply rfl rfl ⟨rfl, rfl⟩ rfl
  have hrefused : Answered (deleteMessage usual ⟨"s", "k", some "7", none⟩) between _ _ :=
    answered_of_reply rfl rfl ⟨rfl, rfl⟩ rfl
  obtain ⟨hreceived, hetag⟩ := hreads _ _ _ _ hnull
  have hvoid : null.HasNoValue := by
    refine .inr ⟨⟨by decide, by decide⟩, rfl, .inr ?_⟩
    exact @Json.NullText.mk [32] [] (by decide) (by decide)
  obtain ⟨value, hvalue, rfl⟩ := ((hends read before).2 _ rfl).2 ⟨_, _, _, rfl, hnull, hvoid⟩
  obtain ⟨done, hdone, rfl⟩ :=
    (hends delete between).1.2 ⟨rfl, _, _, _, rfl, hrefused, .inr rfl⟩
  have hfault := (hcalls delete.call _ rfl).refused hrefused (fun h => absurd h.2 (by decide)) nofun
  exact ⟨hreceived.data ⟨by decide, by decide⟩ (by decide) rfl (by decide), hetag.trans rfl,
    hvalue, hdone, congrArg Prod.fst hfault⟩

/-- An etag with a letter beyond ASCII is passed over by a read that has the bytes. -/
theorem outcome_of_answer_accented :
    let accented : Response := { headers := [("ETag", [0xC3, 0xA9])], body := [49] }
    ∃ d after, Answered (getMessage usual ⟨"s", "k", none⟩) (wireWithEtag [0xC3, 0xA9] []) d after ∧
      d.response = accented ∧ accented.header? "etag" = some [0xC3, 0xA9] ∧
      (getState usual ⟨"s", "k", none⟩ (wireWithEtag [0xC3, 0xA9] [])).1 =
        .ok ⟨some [49], none⟩ := by
  intro accented
  obtain ⟨hanswered, hsuccess⟩ := answered_of_ask (ask_wireWithEtag [0xC3, 0xA9])
  exact ⟨_, _, hanswered, rfl, rfl, (received_getState hanswered).data hsuccess nofun rfl nofun⟩

end Sidecar.Http
