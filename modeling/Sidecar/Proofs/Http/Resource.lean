import Sidecar.Http.Secret
import Sidecar.Proofs.Http.Ask
import Sidecar.Proofs.Url.Path

/-!
# Which resource a message is about

A message about an item or a secret has a path of four segments.  They decode to what was asked for
exactly where store and name are plain, and then no other plain store and name have the same URL.

The main result is `message_addresses_iff`.
-/

namespace Sidecar.Http

open Url (IsPlain StandsFor Legible escaped)

/-- The URL `http://host:port/`. -/
def root (host : String) (port : Option Nat) : Url := { host, port }

/-- The path of the URL, as it is written, has the version and three more segments, which decode to
the kind of a resource, its store and its name. -/
def Addresses (u : Url) (kind store name : String) : Prop :=
  ∃ a b, Text.textPieces '/' u.pathText = ["", apiVersion, kind, a, b] ∧
    StandsFor a store ∧ StandsFor b name

/-- The messages about a single item or secret. -/
inductive MessageFor (base : Url) : (kind store name : String) → Request → Prop
  | get (request : State.GetRequest) :
      MessageFor base "state" request.store request.key (getMessage base request)
  | delete (request : State.DeleteRequest) :
      MessageFor base "state" request.store request.key (deleteMessage base request)
  | secret (request : Secret.Request) :
      MessageFor base "secrets" request.store request.name (secretMessage base request)

/-! ## The URL of a resource -/

variable {host : String} {port : Option Nat} {kind store name : String} {message : Request}

/-- The path with version, kind, store and name pushed onto it. -/
def pushedPath (kind store name : String) : List String :=
  Url.pushSegment (Url.pushSegment [apiVersion, kind] store) name

theorem pushedPath_ne_nil (kind store name : String) : pushedPath kind store name ≠ [] := by
  have hstore := Url.le_length_pushSegment [apiVersion, kind] store
  have hname := Url.le_length_pushSegment (Url.pushSegment [apiVersion, kind] store) name
  intro hnil
  rw [← pushedPath, hnil] at hname
  exact absurd (Nat.le_trans hstore hname) (by simp)

theorem pushSegment_apiVersion : Url.pushSegment [""] apiVersion = [apiVersion] := by
  decide +kernel

theorem MessageFor.pushSegment_kind (h : MessageFor (root host port) kind store name message) :
    Url.pushSegment [apiVersion] kind = [apiVersion, kind] := by
  cases h with
  | get | delete => decide +kernel
  | secret => decide +kernel

/-- The URL of a resource has the host, the port and the pushed path. -/
theorem resource_root (hkind : Url.pushSegment [apiVersion] kind = [apiVersion, kind])
    (query : List (String × String)) :
    ∃ q, resource (root host port) [kind, store, name] query =
      { host, port, path := pushedPath kind store name, query := q } := by
  have hpath : (root host port).pushSegments [apiVersion, kind, store, name] =
      { host, port, path := pushedPath kind store name } := by
    rw [pushedPath, ← hkind, ← pushSegment_apiVersion]
    rfl
  unfold resource Url.appendQuery
  rw [hpath]
  split
  · exact ⟨none, rfl⟩
  · exact ⟨_, rfl⟩

/-- The URL of a message has the host, the port and the pushed path. -/
theorem MessageFor.url_eq (h : MessageFor (root host port) kind store name message) :
    ∃ q, message.url =
      { host, port, path := pushedPath kind store name, query := q } := by
  have hkind := h.pushSegment_kind
  cases h with
  | get request => exact resource_root hkind _
  | delete request => exact resource_root hkind _
  | secret request => exact resource_root hkind _

/-- The path of a message can be read off its URL. -/
theorem MessageFor.legible (h : MessageFor (root host port) kind store name message) :
    Legible message.url.path := by
  obtain ⟨q, hurl⟩ := h.url_eq
  rw [hurl, pushedPath, ← h.pushSegment_kind, ← pushSegment_apiVersion]
  have hkind := (Url.legible_empty.pushSegment apiVersion).pushSegment kind
  exact (hkind.pushSegment store).pushSegment name

/-- The written path has the segments of the path between its slashes. -/
theorem MessageFor.textPieces_eq (h : MessageFor (root host port) kind store name message) :
    Text.textPieces '/' message.url.pathText = "" :: pushedPath kind store name := by
  obtain ⟨q, hurl⟩ := h.url_eq
  have hpath : message.url.path = pushedPath kind store name := by rw [hurl]
  have hne : message.url.path ≠ [] := by
    rw [hpath]
    exact pushedPath_ne_nil kind store name
  rw [Url.textPieces_pathText hne h.legible, hpath]

/-! ## Reading a URL -/

/-- A message addresses what it is about exactly where store and name are plain. -/
theorem MessageFor.addresses_iff (h : MessageFor (root host port) kind store name message) :
    Addresses message.url kind store name ↔ IsPlain store ∧ IsPlain name := by
  unfold Addresses
  rw [h.textPieces_eq]
  constructor
  · rintro ⟨a, b, hpath, ha, hb⟩
    have hname : Url.pushSegment (Url.pushSegment [apiVersion, kind] store) name =
        [apiVersion, kind, a] ++ [b] := List.tail_eq_of_cons_eq hpath
    have hstore : Url.pushSegment [apiVersion, kind] store = [apiVersion, kind] ++ [a] :=
      Url.eq_of_pushSegment_eq hname (Url.length_pushSegment_le _ _)
    rw [hstore] at hname
    exact ⟨Url.isPlain_of_standsFor hstore ha, Url.isPlain_of_standsFor hname hb⟩
  · rintro ⟨hstore, hname⟩
    refine ⟨escaped store, escaped name, ?_, Url.standsFor_escaped store,
      Url.standsFor_escaped name⟩
    rw [pushedPath, Url.pushSegment_of_isPlain (by simp) hstore,
      Url.pushSegment_of_isPlain (by simp) hname]
    rfl

/-- A URL addresses nothing else. -/
theorem Addresses.eq {u v : Url} {otherKind otherStore otherName : String}
    (h : Addresses u kind store name) (hv : Addresses v otherKind otherStore otherName)
    (hpath : u.pathText = v.pathText) :
    kind = otherKind ∧ store = otherStore ∧ name = otherName := by
  obtain ⟨a, b, hu, ha, hb⟩ := h
  obtain ⟨a', b', hv, ha', hb'⟩ := hv
  rw [hpath, hv] at hu
  simp only [List.cons.injEq, true_and, and_true] at hu
  obtain ⟨rfl, rfl, rfl⟩ := hu
  exact ⟨rfl, ha.eq ha', hb.eq hb'⟩

/-- The target is the URL, as there are no credentials in it. -/
theorem MessageFor.target_eq (h : MessageFor (root host port) kind store name message) :
    message.target = message.url.text := by
  obtain ⟨q, hurl⟩ := h.url_eq
  rw [Request.target, hurl]
  rfl

theorem MessageFor.pathText_eq {otherKind otherStore otherName : String} {other : Request}
    (h : MessageFor (root host port) kind store name message)
    (hother : MessageFor (root host port) otherKind otherStore otherName other)
    (htarget : message.target = other.target) : message.url.pathText = other.url.pathText := by
  rw [h.target_eq, hother.target_eq] at htarget
  obtain ⟨q, hurl⟩ := h.url_eq
  obtain ⟨r, hotherUrl⟩ := hother.url_eq
  apply Url.pathText_eq_of_text_eq h.legible hother.legible
  · rw [hurl, hotherUrl]
    rfl
  · rw [hurl]
  · rw [hotherUrl]
  · exact htarget

/-- About every resource there is a message with the URL of another one. -/
theorem MessageFor.exists_other (h : MessageFor (root host port) kind store name message) :
    ∃ other twin, other ≠ name ∧ other ≠ "" ∧
      MessageFor (root host port) kind store other twin ∧ twin.url = message.url := by
  obtain ⟨other, hne, hother, hpush⟩ := Url.exists_pushSegment_eq name
  have hresource (base : Url) (kind : String) (query : List (String × String)) :
      resource base [kind, store, other] query = resource base [kind, store, name] query := by
    simp only [resource, Url.pushSegments, List.foldl_cons, List.foldl_nil, hpush]
  cases h with
  | get request =>
    exact ⟨other, _, hne, hother, .get { request with key := other }, hresource _ _ _⟩
  | delete request =>
    exact ⟨other, _, hne, hother, .delete { request with key := other }, hresource _ _ _⟩
  | secret request =>
    exact ⟨other, _, hne, hother, .secret { request with name := other }, hresource _ _ _⟩

theorem MessageFor.withCredentials_eq (h : MessageFor (root host port) kind store name message) :
    message.withCredentials = message := by
  obtain ⟨q, hurl⟩ := h.url_eq
  apply withCredentials_eq_self
  · rw [hurl]
  · rw [hurl]

/-! ## What is sent first -/

theorem isSilent_bind_except {α β : Type} (result : Except Error α) {next : α → Action Wire β}
    (hnext : ∀ a, IsSilent (next a).run) :
    IsSilent ((liftM result : Action Wire α) >>= next).run := by
  intro w
  cases result with
  | error error => rfl
  | ok a => exact hnext a w

section First

variable [Redirection]

theorem startsWith_ask (request : Request) :
    StartsWith request.withCredentials (ask request).run := by
  have hlift : (liftM (send request) : Action Wire (Except Fault Delivery)) =
      ExceptT.lift (send request) := rfl
  unfold ask
  rw [hlift, ExceptT.run_bind_lift]
  apply (startsWith_send request).bind
  intro result w
  cases result with
  | error fault => rfl
  | ok d =>
    dsimp only
    split
    · rfl
    · rfl

/-- Once there is a response, nothing more is sent. -/
theorem startsWith_ask_bind {α : Type} (request : Request) {next : Delivery → Action Wire α}
    (hnext : ∀ d, IsSilent (next d).run) :
    StartsWith request.withCredentials (ask request >>= next).run := by
  rw [ExceptT.run_bind]
  apply (startsWith_ask request).bind
  intro result w
  cases result with
  | error error => rfl
  | ok d => exact hnext d w

/-- Nothing is sent before the request, and that is sent as soon as there is a connection and it can
be written. -/
structure Opens {α : Type} (request : Request) (action : Action Wire α) : Prop where
  first : StartsWith request.withCredentials action.run
  sent (w : Wire) (hheader : (request.ifMatch.getD []).all isHeaderByte)
    (htarget : isTarget request.withCredentials.url) (h : w.reply ≠ .unreachable) :
    ∃ more, (action w).2.sent = more ++ request.withCredentials :: w.sent

/-- What begins with a question opens with its request. -/
theorem opens_ask_bind {α : Type} (request : Request) {next : Delivery → Action Wire α}
    (hnext : ∀ d, IsSilent (next d).run) : Opens request (ask request >>= next) where
  first := startsWith_ask_bind request hnext
  sent w hheader htarget h := by
    have hsent := sent_of_send (by rwa [(withCredentials_fields request).2.1]) htarget h
    have hsnd : ((ask request >>= next) w).2 = (ask request w).2 := Action.bind_snd hnext
    rwa [hsnd, ask_snd]

section Calls

variable (base : Url)

theorem opens_getState (request : State.GetRequest) :
    Opens (getMessage base request) (getState base request) := by
  apply opens_ask_bind
  intro d
  split
  · exact fun _ => rfl
  · exact isSilent_bind_except _ fun _ _ => rfl

theorem opens_deleteState (request : State.DeleteRequest) :
    Opens (deleteMessage base request) (deleteState base request) :=
  opens_ask_bind _ fun _ _ => rfl

theorem opens_getSecret (request : Secret.Request) :
    Opens (secretMessage base request) (getSecret base request) := by
  apply opens_ask_bind
  intro d
  apply isSilent_bind_except
  intro body
  exact isSilent_bind_except _ fun _ _ => rfl

end Calls

/-- Below a base without credentials a read sends its message as it is. -/
theorem startsWith_getState (request : State.GetRequest) :
    StartsWith (getMessage (root host port) request) (getState (root host port) request).run := by
  have hfirst := (opens_getState (root host port) request).first
  rwa [(MessageFor.get request).withCredentials_eq] at hfirst

/-- Below a base without credentials a delete sends its message as it is. -/
theorem startsWith_deleteState (request : State.DeleteRequest) :
    StartsWith (deleteMessage (root host port) request)
      (deleteState (root host port) request).run := by
  have hfirst := (opens_deleteState (root host port) request).first
  rwa [(MessageFor.delete request).withCredentials_eq] at hfirst

/-- Below a base without credentials a request for a secret is sent as it is. -/
theorem startsWith_getSecret (request : Secret.Request) :
    StartsWith (secretMessage (root host port) request)
      (getSecret (root host port) request).run := by
  have hfirst := (opens_getSecret (root host port) request).first
  rwa [(MessageFor.secret request).withCredentials_eq] at hfirst

/-! ## What messages address -/

/-- The messages of reads and deletes, which go out before any other, address what was asked for
exactly where store and name are plain.  Then no two of them have the same URL, but each of them
has that of a message about something else, which is not plain. -/
theorem message_addresses_iff (host : String) (port : Option Nat) :
    (∀ kind store name message, MessageFor (root host port) kind store name message →
      (Addresses message.url kind store name ↔ IsPlain store ∧ IsPlain name)) ∧
    (∀ kind store name message otherKind otherStore otherName other,
      MessageFor (root host port) kind store name message →
      MessageFor (root host port) otherKind otherStore otherName other →
      IsPlain store ∧ IsPlain name → IsPlain otherStore ∧ IsPlain otherName →
      message.target = other.target →
      kind = otherKind ∧ store = otherStore ∧ name = otherName) ∧
    (∀ kind store name message, MessageFor (root host port) kind store name message →
      ∃ other twin, other ≠ name ∧ other ≠ "" ∧
        MessageFor (root host port) kind store other twin ∧ twin.url = message.url) ∧
    (∀ request, StartsWith (getMessage (root host port) request)
      (getState (root host port) request).run) ∧
    (∀ request, StartsWith (deleteMessage (root host port) request)
      (deleteState (root host port) request).run) ∧
    (∀ request, StartsWith (secretMessage (root host port) request)
      (getSecret (root host port) request).run) := by
  refine ⟨fun _ _ _ _ h => h.addresses_iff, ?_, fun _ _ _ _ h => h.exists_other,
    startsWith_getState, startsWith_deleteState, startsWith_getSecret⟩
  intro kind store name message otherKind otherStore otherName other h hother hplain hotherPlain
    htarget
  have haddresses := h.addresses_iff.2 hplain
  have hotherAddresses := hother.addresses_iff.2 hotherPlain
  exact haddresses.eq hotherAddresses (h.pathText_eq hother htarget)

end First

/-- A separator in a key is one of its characters. -/
theorem message_addresses_iff_slash :
    Addresses (getMessage (root "127.0.0.1" (some 3500)) ⟨"store", "a/b c", none⟩).url
        "state" "store" "a/b c" ∧
      (getMessage (root "127.0.0.1" (some 3500)) ⟨"store", "a/b c", none⟩).target ≠
        (deleteMessage (root "127.0.0.1" (some 3500)) ⟨"store", "a%2Fb c", none, none⟩).target := by
  obtain ⟨haddresses, hdistinct, -⟩ := message_addresses_iff "127.0.0.1" (some 3500)
  have hget := @MessageFor.get (root "127.0.0.1" (some 3500)) ⟨"store", "a/b c", none⟩
  refine ⟨(haddresses _ _ _ _ hget).2 (by decide), fun htarget => ?_⟩
  have heq := hdistinct _ _ _ _ _ _ _ _ hget (.delete ⟨"store", "a%2Fb c", none, none⟩)
    (by decide) (by decide) htarget
  exact absurd heq.2.2 (by decide)

/-- A tab in a key is dropped, and the message is one about another key. -/
theorem message_tab_not_addresses :
    ¬Addresses (getMessage (root "127.0.0.1" (some 3500)) ⟨"s", "a\tb", none⟩).url
        "state" "s" "a\tb" ∧
      (getMessage (root "127.0.0.1" (some 3500)) ⟨"s", "a\tb", none⟩).target =
        "http://127.0.0.1:3500/v1.0/state/s/ab" ∧
      (getMessage (root "127.0.0.1" (some 3500)) ⟨"s", "ab", none⟩).target =
        "http://127.0.0.1:3500/v1.0/state/s/ab" := by
  refine ⟨fun h => ?_, by decide +kernel, by decide +kernel⟩
  have hplain := (MessageFor.get ⟨"s", "a\tb", none⟩).addresses_iff.1 h
  exact absurd hplain.2 (by decide)

end Sidecar.Http
