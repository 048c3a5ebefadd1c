import Sidecar.Http.Secret
import Sidecar.Proofs.Http.Wire
import Sidecar.Proofs.Json.Grammar
import Sidecar.Proofs.Json.Members

/-!
# Replies that differ in values

Two wires are alike if their replies are the same but for the values of objects of strings, the
names being the same in the same order.  What is sent over such wires is the same, and so is
whatever fails; only values that are given differ.

The main results are `matched_ask` and `matched_getSecret`.
-/

namespace Sidecar.Http

variable {α β : Type} {ε : Type}

/-! ## Results -/

/-- The same failure, or results that are related. -/
inductive SameOr (R : α → α → Prop) : Except ε α → Except ε α → Prop
  | error (e : ε) : SameOr R (.error e) (.error e)
  | ok {a b : α} (h : R a b) : SameOr R (.ok a) (.ok b)

section SameOr

variable {R : α → α → Prop} {S : β → β → Prop} {x y : Except ε α}

theorem SameOr.refl (hR : ∀ a, R a a) (x : Except ε α) : SameOr R x x := by
  cases x with
  | error e => exact .error e
  | ok a => exact .ok (hR a)

theorem SameOr.mapError {δ : Type} (h : SameOr R x y) (f : ε → δ) :
    SameOr R (x.mapError f) (y.mapError f) := by
  cases h with
  | error e => exact .error (f e)
  | ok h => exact .ok h

theorem SameOr.eq (h : SameOr Eq x y) : x = y := by
  cases h with
  | error e => rfl
  | ok h => rw [h]

end SameOr

/-! ## Actions -/

/-- The members have the same names in the same order. -/
def SameNames (members others : List (String × String)) : Prop :=
  members.map Prod.fst = others.map Prod.fst

theorem SameNames.refl (members : List (String × String)) : SameNames members members := rfl

/-- The same, or objects of strings that differ in their values. -/
inductive BodyAlike : Bytes → Bytes → Prop
  | same (body : Bytes) : BodyAlike body body
  | objects {members others : List (String × String)} {body other : Bytes}
      (hbody : Json.ObjectText members body) (hother : Json.ObjectText others other)
      (names : SameNames members others) : BodyAlike body other

/-- The same, but for the values of a success that is an object of strings. -/
inductive Response.Alike (r : Response) : Response → Prop
  | same : Alike r r
  | objects {members others : List (String × String)} {body : Bytes} (success : r.isSuccess)
      (hbody : Json.ObjectText members r.body) (hother : Json.ObjectText others body)
      (names : SameNames members others) : Alike r { r with body }

/-- An object of strings as it is printed. -/
def Response.printed (members : List (String × String)) : Response :=
  { body := Text.Utf8.encode ((Json.ofStrings members).pretty ++ "\n") }

theorem Response.alike_printed {members others : List (String × String)}
    (names : SameNames members others) : (printed members).Alike (printed others) :=
  .objects rfl (Json.objectText_pretty members) (Json.objectText_pretty others) names

inductive Reply.Alike : Reply → Reply → Prop
  | closed : Alike .closed .closed
  | silent : Alike .silent .silent
  | unreachable : Alike .unreachable .unreachable
  | response {r s : Response} (h : r.Alike s) : Alike (.response r) (.response s)

structure Wire.Alike (w v : Wire) : Prop where
  replies : List.Forall₂ Reply.Alike w.replies v.replies
  otherwise : Reply.Alike w.otherwise v.otherwise
  sent : w.sent = v.sent

/-- Started on alike wires, the actions have related results and leave alike wires. -/
def Related (R : α → α → Prop) (action other : StateM Wire α) : Prop :=
  ∀ w v : Wire, w.Alike v → R (action w).1 (other v).1 ∧ (action w).2.Alike (other v).2

section Related

variable {R : α → α → Prop} {S : β → β → Prop}

theorem related_pure {a b : α} (h : R a b) : Related R (pure a) (pure b) :=
  fun _ _ hwires => ⟨h, hwires⟩

/-- What follows related actions is related if it is for related results. -/
theorem Related.bind {action other : StateM Wire α} {next further : α → StateM Wire β}
    (h : Related R action other) (hnext : ∀ a b, R a b → Related S (next a) (further b)) :
    Related S (action >>= next) (other >>= further) := by
  intro w v hwires
  obtain ⟨hresult, hafter⟩ := h w v hwires
  exact hnext _ _ hresult _ _ hafter

/-- The same for actions that may fail: they fail in the same way, or have related results. -/
def Matched (R : α → α → Prop) (action other : ExceptT ε (StateM Wire) α) : Prop :=
  Related (SameOr R) action other

theorem matched_pure {a b : α} (h : R a b) :
    Matched R (pure a : ExceptT ε (StateM Wire) α) (pure b) := related_pure (.ok h)

theorem matched_throw (R : α → α → Prop) (e : ε) :
    Matched R (throw e : ExceptT ε (StateM Wire) α) (throw e) := related_pure (.error e)

/-- Checks that come to the same fail on both wires or on none. -/
theorem matched_lift {x y : Except ε α} (h : SameOr R x y) :
    Matched R (liftM x : ExceptT ε (StateM Wire) α) (liftM y) := related_pure h

/-- An action that cannot fail is matched if it is related. -/
theorem matched_run {action other : StateM Wire α} (h : Related R action other) :
    Matched R (liftM action : ExceptT ε (StateM Wire) α) (liftM other) :=
  Related.bind h fun _ _ hab => related_pure (.ok hab)

/-- What follows is done on both wires or on none. -/
theorem Matched.bind {action other : ExceptT ε (StateM Wire) α}
    {next further : α → ExceptT ε (StateM Wire) β} (h : Matched R action other)
    (hnext : ∀ a b, R a b → Matched S (next a) (further b)) :
    Matched S (action >>= next) (other >>= further) := by
  have hcont (x y : Except ε α) (hxy : SameOr R x y) :
      Related (SameOr S) (ExceptT.bindCont next x) (ExceptT.bindCont further y) := by
    cases hxy with
    | error e => exact related_pure (.error e)
    | ok hab => exact hnext _ _ hab
  exact Related.bind h hcont

end Related

/-! ## Replies -/

section Replies

variable {r s : Response} {request : Request}

theorem Response.Alike.isSuccess_eq (h : r.Alike s) : r.isSuccess = s.isSuccess := by
  cases h with
  | same | objects => rfl

/-- There is a connection on both wires or on none. -/
theorem Reply.Alike.eq_unreachable_iff {reply other : Reply} (h : reply.Alike other) :
    reply = .unreachable ↔ other = .unreachable := by
  cases h with
  | response h => exact iff_of_false nofun nofun
  | closed | silent | unreachable => exact Iff.rfl

theorem Reply.Alike.isFinal_eq {reply other : Reply} (h : reply.Alike other) :
    reply.isFinal = other.isFinal := by
  cases h with
  | response h =>
    cases h with
    | same | objects => rfl
  | closed | silent | unreachable => rfl

theorem Reply.Alike.fault?_eq {reply other : Reply} (h : reply.Alike other) (url : String) :
    reply.fault? url = other.fault? url := by
  cases h with
  | closed | silent | unreachable | response => rfl

/-- The same interim responses are passed over. -/
theorem forall₂_dropWhile_isFinal {replies others : List Reply}
    (h : List.Forall₂ Reply.Alike replies others) :
    List.Forall₂ Reply.Alike (replies.dropWhile (!·.isFinal)) (others.dropWhile (!·.isFinal)) := by
  induction h with
  | nil => exact .nil
  | @cons reply other _ _ hreply hrest ih =>
    rw [List.dropWhile_cons, List.dropWhile_cons, hreply.isFinal_eq]
    by_cases hfinal : other.isFinal
    · rw [hfinal]
      exact .cons hreply hrest
    · rw [Bool.eq_false_iff.2 hfinal]
      exact ih

/-- The next replies are alike, and so are those behind them. -/
theorem Wire.Alike.next {w v : Wire} (h : w.Alike v) :
    Reply.Alike w.next.1 v.next.1 ∧ List.Forall₂ Reply.Alike w.next.2 v.next.2 := by
  have hreplies := forall₂_dropWhile_isFinal h.replies
  rw [Wire.next, Wire.next]
  generalize w.replies.dropWhile _ = replies at hreplies
  generalize v.replies.dropWhile _ = others at hreplies
  cases hreplies with
  | nil =>
    refine ⟨?_, .nil⟩
    dsimp only
    rw [h.otherwise.isFinal_eq]
    split
    · exact h.otherwise
    · exact .closed
  | cons hreply hrest => exact ⟨hreply, hrest⟩

theorem related_exchange (request : Request) :
    Related Reply.Alike (Wire.exchange request) (Wire.exchange request) := by
  intro w v h
  obtain ⟨hreply, hrest⟩ := h.next
  refine ⟨hreply, hrest, h.otherwise, ?_⟩
  change (if w.next.1 = .unreachable then w.sent else request :: w.sent) =
    if v.next.1 = .unreachable then v.sent else request :: v.sent
  simp only [hreply.eq_unreachable_iff, h.sent]

/-- Responses that are alike, from one URL. -/
structure Delivery.Alike (d e : Delivery) : Prop where
  response : d.response.Alike e.response
  url : d.url = e.url

/-! ## Asking -/

section Asking

variable [Redirection]

/-- Where to go on is said by the status and the headers. -/
theorem Response.Alike.redirected?_eq (h : r.Alike s) (request : Request) :
    request.redirected? r = request.redirected? s := by
  cases h with
  | same | objects => rfl

/-- With alike replies a request comes to the same, if those that it is redirected to do. -/
theorem Follows.alike {origin : Url} {limit : Nat} {reply other : Reply} {w v : Wire}
    {outcome : Except Fault Delivery × Wire} (h : Follows origin request w limit reply outcome)
    (hreply : reply.Alike other) (hwires : w.Alike v)
    (hrest : ∀ fewer < limit, ∀ next,
      Related (SameOr Delivery.Alike) (follow origin fewer next) (follow origin fewer next)) :
    ∃ further, Follows origin request v limit other further ∧
      SameOr Delivery.Alike outcome.1 further.1 ∧ outcome.2.Alike further.2 := by
  cases h with
  | failed hfault =>
    rw [hreply.fault?_eq] at hfault
    exact ⟨_, .failed hfault, .error _, hwires⟩
  | delivered hnone =>
    cases hreply with
    | response h =>
      rw [h.redirected?_eq] at hnone
      exact ⟨_, .delivered hnone, .ok ⟨h, rfl⟩, hwires⟩
  | tooMany hnext =>
    cases hreply with
    | response h =>
      rw [h.redirected?_eq] at hnext
      exact ⟨_, .tooMany hnext, .error _, hwires⟩
  | away hnext hfault =>
    cases hreply with
    | response h =>
      rw [h.redirected?_eq] at hnext
      exact ⟨_, .away hnext hfault, .error _, hwires⟩
  | @moved fewer response next outcome hnext hfollow =>
    cases hreply with
    | response h =>
      rw [h.redirected?_eq] at hnext
      cases hfollow
      exact ⟨_, .moved hnext rfl, hrest fewer (Nat.lt_succ_self fewer) next w v hwires⟩

/-- Redirects lead to the same messages on both wires. -/
theorem related_follow (origin : Url) (limit : Nat) (request : Request) :
    Related (SameOr Delivery.Alike) (follow origin limit request) (follow origin limit request) := by
  induction limit using Nat.strongRecOn generalizing request with
  | _ limit ih =>
    intro w v h
    obtain ⟨hreply, hwires⟩ := related_exchange request w v h
    obtain ⟨further, hfollows, hrelated⟩ := ((follow_eq_iff rfl).1 rfl).alike hreply hwires ih
    rw [(follow_eq_iff rfl).2 hfollows]
    exact hrelated

/-- Whatever is sent on one wire is sent on the other. -/
theorem related_send (request : Request) :
    Related (SameOr Delivery.Alike) (send request) (send request) := by
  unfold send
  dsimp only
  split
  · exact related_pure (.error _)
  · split
    · exact related_pure (.error _)
    · exact related_follow _ _ _

/-- A response that is no success is the same, and so is the fault. -/
theorem matched_ask (request : Request) : Matched Delivery.Alike (ask request) (ask request) := by
  unfold ask
  refine (matched_run (related_send request)).bind fun x y h => ?_
  cases h with
  | error fault => exact matched_throw _ _
  | @ok d e h =>
    dsimp only
    by_cases hsuccess : d.response.isSuccess
    · rw [if_pos hsuccess, if_pos (h.response.isSuccess_eq ▸ hsuccess)]
      exact matched_pure h
    · obtain ⟨hresponse, -⟩ := h
      obtain ⟨r, url⟩ := d
      obtain ⟨s, other⟩ := e
      cases hresponse with
      | same =>
        rw [if_neg hsuccess, if_neg hsuccess]
        exact matched_throw _ _
      | objects success => exact absurd success hsuccess

end Asking

/-! ## Secrets -/

/-- Whether a body arrives is said by the status and by what is missing of it. -/
theorem Delivery.Alike.content {d e : Delivery} (h : d.Alike e) :
    SameOr BodyAlike d.content e.content := by
  obtain ⟨hresponse, hurl⟩ := h
  obtain ⟨r, url⟩ := d
  obtain ⟨s, other⟩ := e
  cases hurl
  cases hresponse with
  | same => exact .refl .same _
  | @objects members others body success hbody hother names =>
    rw [Delivery.content, Delivery.content]
    by_cases hbodiless : r.isBodiless
    · have hleft : r.content? = some [] := if_pos hbodiless
      have hright : Response.content? { r with body } = some [] := if_pos hbodiless
      rw [hleft, hright]
      exact .ok (.same [])
    · by_cases hmissing : r.missing = 0
      · have hleft : r.content? = some r.body := (if_neg hbodiless).trans (if_pos hmissing)
        have hright : Response.content? { r with body } = some body :=
          (if_neg hbodiless).trans (if_pos hmissing)
        rw [hleft, hright]
        exact .ok (.objects hbody hother names)
      · have hleft : r.content? = none := (if_neg hbodiless).trans (if_neg hmissing)
        have hright : Response.content? { r with body } = none :=
          (if_neg hbodiless).trans (if_neg hmissing)
        rw [hleft, hright]
        exact .error _

/-- The names in alike bodies are the same, and so is what is wrong with them. -/
theorem BodyAlike.readText {body other : Bytes} (h : BodyAlike body other) :
    SameOr SameNames (Json.readText (Json.membersShape Json.stringShape) body)
      (Json.readText (Json.membersShape Json.stringShape) other) := by
  cases h with
  | same => exact .refl SameNames.refl _
  | objects hbody hother names =>
    rw [Json.readText_objectText hbody, Json.readText_objectText hother]
    exact .ok names

/-- The names stay the same when the members are put in order. -/
theorem SameNames.inOrder {members others : List (String × String)} (h : SameNames members others) :
    SameNames (Json.inOrder members) (Json.inOrder others) := by
  rw [SameNames, Json.map_fst_inOrder, Json.map_fst_inOrder, h]

/-- The values of a secret differ, and not the names of the values. -/
theorem matched_getSecret [Redirection] (base : Url) (request : Secret.Request) :
    Matched SameNames (getSecret base request) (getSecret base request) := by
  unfold getSecret
  refine (matched_ask _).bind fun d e h => ?_
  refine (matched_lift h.content).bind fun body other h => ?_
  refine (matched_lift (h.readText.mapError _)).bind fun members others h => ?_
  exact matched_pure h.inOrder

end Replies

end Sidecar.Http
