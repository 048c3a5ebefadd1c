import Sidecar.Proofs.Http.Save
import Sidecar.Proofs.State.Client

/-!
# Etags that come over a wire

An etag comes as the bytes of a header.  Those of a text go back as they came, in the body of a save
or as the condition of a delete; others are passed over, and what is written then is written
unconditionally.

The main result is `tryEntry_sends_etag`.
-/

namespace Sidecar.Http

variable {store key : String} {consistency : Option Consistency} {base : Url} {w after read : Wire}
variable {d : Delivery} {b : Bytes}

/-! ## Reading -/

theorem lt_of_isTextByte {x : UInt8} (h : isTextByte x) : x < 0x7F := by
  rcases Bool.or_eq_true_iff.1 h with h | h
  · rw [eq_of_beq h]
    decide
  · exact of_decide_eq_true (Bool.and_eq_true_iff.1 h).2

/-- What is text may stand in a header. -/
theorem isHeaderByte_of_isTextByte {x : UInt8} (h : isTextByte x) : isHeaderByte x := by
  have hlt := UInt8.lt_iff_toNat_lt.1 (lt_of_isTextByte h)
  have hne : x ≠ 127 := fun heq => absurd (heq ▸ hlt) (by decide)
  rcases Bool.or_eq_true_iff.1 h with h | h
  · exact Bool.or_eq_true_iff.2 (.inl h)
  · exact Bool.or_eq_true_iff.2
      (.inr (Bool.and_eq_true_iff.2 ⟨(Bool.and_eq_true_iff.1 h).1, bne_iff_ne.2 hne⟩))

/-- The etag of a response is its header, as long as all bytes of that are text. -/
theorem map_encode_etag? {r : Response} (h : r.header? "etag" = some b) :
    r.etag?.map Text.Utf8.encode = if b.all isTextByte then some b else none := by
  have hetag : r.etag? = if b.all isTextByte then Text.Utf8.decodeText? b else none := by
    rw [Response.etag?, h]
    rfl
  rw [hetag]
  split
  case isTrue htext =>
    have hascii : ∀ x ∈ b, x < 0x80 := fun x hx =>
      UInt8.lt_trans (lt_of_isTextByte (List.all_eq_true.1 htext x hx)) (by decide)
    obtain ⟨s, hs, hencode⟩ := Text.Utf8.exists_decodeText?_of_ascii hascii
    rw [hs, Option.map_some, hencode]
  case isFalse => rfl

section Calls

variable [Redirection]

/-- A read takes the etag from the response, if there is content. -/
theorem etag_of_getState {request : State.GetRequest} {response : State.GetResponse}
    (hask : ask (getMessage base request) w = (.ok d, after))
    (hstatus : d.response.status ≠ noContent)
    (h : getState base request w = (.ok response, read)) : response.etag = d.response.etag? := by
  unfold getState at h
  rw [Action.bind_of_ok hask, if_neg hstatus] at h
  obtain ⟨body, -, h⟩ := Action.exists_of_bind_lift_eq_ok h
  cases h
  rfl

/-! ## Writing -/

theorem asks_deleteState {request : State.DeleteRequest}
    (hetag : ((request.etag.map Text.Utf8.encode).getD []).all isHeaderByte) :
    Asks (deleteMessage base request) (deleteState base request) := by
  refine asks_of_snd (fun w => ?_) hetag
  unfold deleteState
  rw [Action.bind_snd fun _ _ => rfl]
  exact ask_snd _ w

end Calls

/-- A body that is a list of one object, which has the key and just the given etag. -/
def HasItem (key : String) (etag : Option String) (body : Bytes) : Prop :=
  ∃ members, body = Text.Utf8.encode (Json.array [.object members]).text ∧
    (∀ v, ("key", v) ∈ members ↔ v = .string key) ∧
    ∀ v, ("etag", v) ∈ members ↔ v ∈ etag.map Json.string

/-- A save of one document has its key and its etag in the body. -/
theorem hasItem_of_ofBytes (item : State.Item) {value : Option Json}
    (h : item.value.map Json.ofBytes = value.map .ok) :
    ∃ body, saveBody [item] = .ok body ∧ HasItem item.key item.etag body := by
  have hbody : saveBody [item] =
      .ok (Text.Utf8.encode (Json.array [.object (itemMembers item value)]).text) := by
    rw [saveBody, List.mapM_cons, itemJson_of_ofBytes h]
    rfl
  refine ⟨_, hbody, itemMembers item value, rfl, fun v => ?_, fun v => ?_⟩
  · simp [itemMembers]
  · simp [itemMembers, eq_comm]

theorem saveBody_of_error {item : State.Item} {bytes : Bytes} {fault : Json.Fault}
    (hvalue : item.value = some bytes) (h : Json.ofBytes bytes = .error fault) :
    saveBody [item] = .error (.serialization fault) := by
  rw [saveBody, List.mapM_cons, itemJson_of_error hvalue h]
  rfl

/-! ## Entries -/

section Entries

open State

section Writes

variable [Redirection]

/-- A save of a value sends it with the etag, unless the value cannot be read again. -/
theorem asks_write (base : Url) (haddress : requireAddress store key = .ok ())
    (value : Option Json) (etag : Option String) (options : Option StateOptions)
    (metadata : Option Metadata) :
    (∃ message body, message.method = .post ∧ message.body = some body ∧
      HasItem key etag body ∧
      Asks message ((transport base).write store key value etag options metadata)) ∨
    (∃ v fault, value = some v ∧ Json.ofBytes (encodeValue v) = .error fault ∧
      ∀ now, (transport base).write store key value etag options metadata now =
        (.error (.serialization fault), now)) := by
  have hwrite (now : Wire) : (transport base).write store key value etag options metadata now =
      saveState base ⟨store, [⟨key, value.map encodeValue, etag, metadata, options⟩]⟩ now :=
    Transport.write_eq_save haddress value options metadata
  have hsent (value' : Option Json)
      (h : (value.map encodeValue).map Json.ofBytes = value'.map .ok) :
      ∃ message body, message.method = .post ∧ message.body = some body ∧ HasItem key etag body ∧
        Asks message ((transport base).write store key value etag options metadata) := by
    obtain ⟨body, hbody, hitem⟩ :=
      hasItem_of_ofBytes ⟨key, value.map encodeValue, etag, metadata, options⟩ h
    refine ⟨saveMessage base store body, body, rfl, rfl, hitem, asks_of_snd (fun now => ?_) rfl⟩
    rw [hwrite]
    exact saveState_snd hbody now
  cases value with
  | none => exact .inl (hsent none rfl)
  | some v =>
    cases hread : Json.ofBytes (encodeValue v) with
    | ok v' => exact .inl (hsent (some v') (congrArg some hread))
    | error fault =>
      refine .inr ⟨v, fault, rfl, hread, fun now => ?_⟩
      rw [hwrite]
      exact saveState_of_error (saveBody_of_error rfl hread) now

theorem Asks.soften {message : Request} {action : Action Wire Unit} (h : Asks message action) :
    Asks message (State.soften action) where
  snd now := (soften_snd action now).trans (h.snd now)
  first now htarget hreply := by
    rw [soften_snd]
    exact h.first now htarget hreply
  sendsFor now := by
    rw [soften_snd]
    exact h.sendsFor now

/-- An entry has the etag of the response that it was read from, as far as that is text.  A delete
of the entry has it as its condition and a save in its body, also when they are redirected.  Only a
value that is too deep or has numbers that are not whole may be one that is not sent. -/
theorem tryEntry_sends_etag {α : Type} {reader : Json.Reader α} {entry : Entry α}
    (hask : ask (getMessage base ⟨store, key, consistency⟩) w = (.ok d, after))
    (hstatus : d.response.status ≠ noContent) (hheader : d.response.header? "etag" = some b)
    (hread : (transport base).getEntry reader store key consistency w = (.ok entry, read)) :
    entry.etag.map Text.Utf8.encode = (if b.all isTextByte then some b else none) ∧
    (∀ options, ∃ message, message.method = .delete ∧
      message.ifMatch = entry.etag.map Text.Utf8.encode ∧
      Asks message ((transport base).tryDeleteEntry entry options)) ∧
    ∀ value options,
      (∃ message body, message.method = .post ∧ message.body = some body ∧
        HasItem key entry.etag body ∧
        Asks message ((transport base).trySaveEntry
          ⟨entry.store, entry.key, value, entry.etag⟩ options)) ∨
      (∃ v, value = some v ∧ ¬(v.isWhole ∧ v.levels ≤ Json.depthLimit)) ∧ ∃ fault, ∀ now,
        (transport base).trySaveEntry ⟨entry.store, entry.key, value, entry.etag⟩ options now =
          (.error (.serialization fault), now) := by
  obtain ⟨rfl, rfl, hget⟩ := Transport.exists_of_getEntry_eq_ok hread
  obtain ⟨haddress, response, hcall, -, hetag⟩ := Transport.exists_of_getWithEtag_eq_ok hget
  have hencode : entry.etag.map Text.Utf8.encode = if b.all isTextByte then some b else none := by
    rw [← hetag, etag_of_getState hask hstatus hcall, map_encode_etag? hheader]
  refine ⟨hencode, fun options => ?_, fun value options => ?_⟩
  · have hbytes : ((entry.etag.map Text.Utf8.encode).getD []).all isHeaderByte := by
      rw [hencode]
      split
      case isTrue htext =>
        exact List.all_eq_true.2 fun x hx =>
          isHeaderByte_of_isTextByte (List.all_eq_true.1 htext x hx)
      case isFalse => rfl
    have hasks : Asks _ ((transport base).remove entry.store entry.key entry.etag options) :=
      asks_of_snd (fun now => by
        rw [Transport.remove_eq_delete haddress]
        exact (asks_deleteState hbytes).snd now) hbytes
    exact ⟨_, rfl, rfl, hasks.soften⟩
  · rcases asks_write base haddress value entry.etag options none
      with ⟨message, body, hmethod, hbody, hitem, hasks⟩ | ⟨v, fault, hv, hfault, hwrite⟩
    · exact .inl ⟨message, body, hmethod, hbody, hitem, hasks.soften⟩
    · refine .inr ⟨⟨v, hv, fun ⟨hwhole, hlevels⟩ => ?_⟩, fault, fun now => ?_⟩
      · cases hfault.symm.trans (Json.readText_encode hwhole hlevels)
      · rw [Transport.trySaveEntry, Transport.saveEntry, soften, hwrite]
        rfl

end Writes

/-- A wire on which a value with an etag is followed by an empty success, when the messages have
been sent. -/
def wireWithEtag (etag : Bytes) (sent : List Request) : Wire :=
  { replies := [.response { headers := [("ETag", etag)], body := [49] }, .response {}].drop
      sent.length
    otherwise := .unreachable
    sent }

theorem ask_wireWithEtag (etag : Bytes) :
    ask (getMessage usual ⟨"s", "k", none⟩) (wireWithEtag etag []) =
      (.ok ⟨{ headers := [("ETag", etag)], body := [49] },
        (getMessage usual ⟨"s", "k", none⟩).url⟩,
          wireWithEtag etag [getMessage usual ⟨"s", "k", none⟩]) :=
  ask_of_response rfl rfl rfl rfl rfl

theorem getEntry_wireWithEtag (etag : Bytes) :
    (transport usual).getEntry Json.readAny "s" "k" none (wireWithEtag etag []) =
      (.ok ⟨"s", "k", some (.whole 1),
          Response.etag? { headers := [("ETag", etag)], body := [49] }⟩,
        wireWithEtag etag [getMessage usual ⟨"s", "k", none⟩]) := by
  have hget : getState usual ⟨"s", "k", none⟩ (wireWithEtag etag []) =
      (.ok ⟨some [49], Response.etag? { headers := [("ETag", etag)], body := [49] }⟩,
        wireWithEtag etag [getMessage usual ⟨"s", "k", none⟩]) :=
    Action.bind_of_ok (ask_wireWithEtag etag)
  have hvalue : decodeValue Json.readAny (some [49]) = .ok (some (.whole 1)) := rfl
  exact Transport.getEntry_of_getWithEtag
    (Transport.getWithEtag_of_get (t := transport usual) rfl hget hvalue)

/-- An etag in quotes is the condition of a delete, quotes and all. -/
theorem tryEntry_sends_etag_quoted :
    ∃ entry read message,
      (transport usual).getEntry Json.readAny "s" "k" none (wireWithEtag [34, 55, 34] []) =
        (.ok entry, read) ∧
      entry.etag.map Text.Utf8.encode = some [34, 55, 34] ∧
      message.method = .delete ∧ message.ifMatch = some [34, 55, 34] ∧
      Asks message ((transport usual).tryDeleteEntry entry none) := by
  obtain ⟨hetag, hdelete, -⟩ := tryEntry_sends_etag (ask_wireWithEtag [34, 55, 34]) (by decide) rfl
    (getEntry_wireWithEtag _)
  obtain ⟨message, hmethod, hifMatch, hasks⟩ := hdelete none
  exact ⟨_, _, message, getEntry_wireWithEtag _, hetag, hmethod, hifMatch.trans hetag, hasks⟩

/-- An etag with a letter beyond ASCII is passed over, and the delete has no condition. -/
theorem tryEntry_sends_etag_accented :
    ∃ entry read,
      (transport usual).getEntry Json.readAny "s" "k" none (wireWithEtag [0xC3, 0xA9] []) =
        (.ok entry, read) ∧
      entry.etag = none ∧
      (transport usual).tryDeleteEntry entry none read =
        (.ok true, wireWithEtag [0xC3, 0xA9]
          [deleteMessage usual ⟨"s", "k", none, none⟩, getMessage usual ⟨"s", "k", none⟩]) ∧
      (deleteMessage usual ⟨"s", "k", none, none⟩).ifMatch = none := by
  have hdelete : deleteState usual ⟨"s", "k", none, none⟩
      (wireWithEtag [0xC3, 0xA9] [getMessage usual ⟨"s", "k", none⟩]) =
        (.ok (), wireWithEtag [0xC3, 0xA9]
          [deleteMessage usual ⟨"s", "k", none, none⟩, getMessage usual ⟨"s", "k", none⟩]) :=
    Action.bind_of_ok (ask_of_response rfl rfl rfl rfl rfl)
  exact ⟨_, _, getEntry_wireWithEtag _, rfl,
    soften_of_ok ((Transport.remove_eq_delete rfl none).trans hdelete), rfl⟩

end Entries

end Sidecar.Http
