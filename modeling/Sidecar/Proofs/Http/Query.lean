import Sidecar.Proofs.Http.Resource
import Sidecar.Proofs.Http.Save
import Sidecar.Proofs.Url.Form
import Sidecar.Proofs.Url.Parser

/-!
# What queries say

Below a base without a query, the query of a request for a secret is read as its metadata, and that
of a delete as its options.  Metadata can be told from other metadata by the URL alone.

The main result is `parameters_of_messages`.
-/

namespace Sidecar.Http

open Json (IsAscending)
open Text.Utf8 (encode)
open Url (Legible)

variable {base : Url}

/-! ## Messages as they are sent -/

theorem query_withCredentials (message : Request) :
    message.withCredentials.url.query = message.url.query := by
  unfold Request.withCredentials
  split
  · rfl
  · rfl
  · rfl

theorem parameters_withCredentials (message : Request) :
    message.withCredentials.url.parameters = message.url.parameters := by
  rw [Url.parameters, query_withCredentials, Url.parameters]

/-- User information is not written into a request anyway. -/
theorem target_withCredentials (message : Request) :
    message.withCredentials.target = message.target := by
  unfold Request.withCredentials
  split
  · rfl
  · rfl
  · rfl

/-! ## Resources -/

/-- Below a base without a query, the parameters are those of the resource. -/
theorem parameters_resource (hbase : base.query = none) (segments : List String)
    (query : List (String × String)) : (resource base segments query).parameters = query := by
  have hnone : (base.pushSegments (apiVersion :: segments)).parameters = [] :=
    congrArg (Option.elim · [] _) hbase
  rw [resource, Url.parameters_appendQuery, hnone, List.nil_append]

/-- There is a query only if there is something to say. -/
theorem query_resource_eq_none_iff (hbase : base.query = none) (segments : List String)
    (query : List (String × String)) :
    (resource base segments query).query = none ↔ query = [] := by
  rw [resource, Url.query_appendQuery_eq_none_iff]
  exact and_iff_right hbase

/-- Segments change nothing but the path, and parameters nothing but the query. -/
theorem resource_fields (segments : List String) (query : List (String × String)) :
    (resource base segments query).host = base.host ∧
      (resource base segments query).port = base.port ∧
      (resource base segments query).path =
        (base.pushSegments (apiVersion :: segments)).path := by
  unfold resource Url.appendQuery
  split
  · exact ⟨rfl, rfl, rfl⟩
  · exact ⟨rfl, rfl, rfl⟩

theorem legible_resource (hbase : Legible base.path) (segments : List String)
    (query : List (String × String)) : Legible (resource base segments query).path := by
  rw [(resource_fields segments query).2.2]
  exact hbase.pushSegments _

/-! ## Telling messages apart -/

/-- What a message is sent to is the URL without the parts that only the sender needs. -/
def sentUrl (message : Request) : Url := message.url.withoutUserInfo.withoutFragment

section Secrets

variable {request other : Secret.Request}

theorem authorityText_secretMessage :
    (sentUrl (secretMessage base request)).authorityText =
      (sentUrl (secretMessage base other)).authorityText := by
  have hfields (r : Secret.Request) := @resource_fields base ["secrets", r.store, r.name]
    (metadataQuery r.metadata)
  unfold Url.authorityText sentUrl Url.userInfoText secretMessage
  dsimp only [Url.withoutUserInfo, Url.withoutFragment]
  rw [(hfields request).1, (hfields request).2.1, (hfields other).1, (hfields other).2.1]

theorem metadataQuery_injective {metadata other : Metadata}
    (h : metadataQuery metadata = metadataQuery other) : metadata = other := by
  refine (List.map_inj_right fun a b hpair => ?_).1 h
  obtain ⟨hname, hvalue⟩ := Prod.mk.inj hpair
  exact Prod.ext ((String.append_right_inj _).1 hname) hvalue

/-- With the same path before it, a query is read off the target. -/
theorem metadata_eq_of_target_eq (hbase : base.query = none)
    (hpath : (secretMessage base request).url.pathText = (secretMessage base other).url.pathText)
    (h : (secretMessage base request).target = (secretMessage base other).target) :
    request.metadata = other.metadata := by
  have hquery : (sentUrl (secretMessage base request)).query =
      (sentUrl (secretMessage base other)).query :=
    Url.query_eq_of_text_eq authorityText_secretMessage hpath rfl rfl h
  have hparameters : (secretMessage base request).url.parameters =
      (secretMessage base other).url.parameters := congrArg (Option.elim · [] _) hquery
  unfold secretMessage at hparameters
  rw [parameters_resource hbase, parameters_resource hbase] at hparameters
  exact metadataQuery_injective hparameters

theorem pathText_secretMessage_congr (hstore : request.store = other.store)
    (hname : request.name = other.name) :
    (secretMessage base request).url.pathText = (secretMessage base other).url.pathText := by
  unfold Url.pathText secretMessage
  dsimp only
  rw [(resource_fields _ _).2.2, (resource_fields _ _).2.2, hstore, hname]

/-- Requests with the same target have the same path. -/
theorem pathText_eq_of_target_eq (hbase : Legible base.path)
    (h : (secretMessage base request).target = (secretMessage base other).target) :
    (secretMessage base request).url.pathText = (secretMessage base other).url.pathText :=
  Url.pathText_eq_of_text_eq (u := sentUrl (secretMessage base request))
    (v := sentUrl (secretMessage base other)) (legible_resource hbase _ _)
    (legible_resource hbase _ _) authorityText_secretMessage rfl rfl h

end Secrets

/-! ## What queries say -/

/-- Names that are in order are in that of their bytes, whatever stands in front of all of them. -/
theorem pairwise_metadataQuery {metadata : Metadata} (h : IsAscending metadata) :
    (metadataQuery metadata).Pairwise fun a b => encode a.1 < encode b.1 := by
  rw [metadataQuery, List.pairwise_map]
  refine h.imp fun {a b} hlt => ?_
  have hencode (name : String) :
      encode ("metadata." ++ name) = encode "metadata." ++ encode name := by
    rw [encode, String.toList_append, List.flatMap_append]
    rfl
  rw [hencode, hencode]
  exact List.append_left_lt (Text.Utf8.encode_lt hlt)

/-- A request for a secret asks with the metadata in order, and a delete with the options; nothing
else is in the query, and there is none if there is nothing to say. -/
theorem parameters_of_messages [Redirection] {base : Url} (hbase : base.query = none) :
    (∀ request : Secret.Request,
      Opens (secretMessage base request) (getSecret base request) ∧
      (secretMessage base request).withCredentials.url.parameters =
        request.metadata.map (fun (name, value) => ("metadata." ++ name, value)) ∧
      ((secretMessage base request).withCredentials.url.query = none ↔ request.metadata = []) ∧
      (IsAscending request.metadata →
        (secretMessage base request).withCredentials.url.parameters.Pairwise
          fun a b => encode a.1 < encode b.1)) ∧
    (∀ request other : Secret.Request,
      (request.store = other.store ∧ request.name = other.name ∨
        ∃ text, Url.parse text = .ok base) →
      (secretMessage base request).withCredentials.target =
        (secretMessage base other).withCredentials.target →
      request.metadata = other.metadata) ∧
    ∀ request : State.DeleteRequest,
      Opens (deleteMessage base request) (deleteState base request) ∧
      (deleteMessage base request).withCredentials.url.parameters =
        request.options.elim [] (fun options =>
          ("concurrency", Vocabulary.word options.concurrency) ::
          ("consistency", Vocabulary.word options.consistency) ::
          options.retry.elim [] fun retry => [
            ("retryInterval", toString retry.interval.milliseconds),
            ("retryPattern", Vocabulary.word retry.pattern),
            ("retryThreshold", toString retry.threshold.toNat)]) ∧
      ((deleteMessage base request).withCredentials.url.query = none ↔
        request.options = none) := by
  refine ⟨fun request => ?_, fun request other hwhere htarget => ?_, fun request => ?_⟩
  · rw [parameters_withCredentials, query_withCredentials, secretMessage,
      parameters_resource hbase, query_resource_eq_none_iff hbase]
    exact ⟨opens_getSecret base request, rfl, List.map_eq_nil_iff, pairwise_metadataQuery⟩
  · rw [target_withCredentials, target_withCredentials] at htarget
    refine metadata_eq_of_target_eq hbase ?_ htarget
    rcases hwhere with ⟨hstore, hname⟩ | ⟨text, hparse⟩
    · exact pathText_secretMessage_congr hstore hname
    · exact pathText_eq_of_target_eq (Url.legible_of_parse hparse) htarget
  · rw [parameters_withCredentials, query_withCredentials, deleteMessage,
      parameters_resource hbase, query_resource_eq_none_iff hbase]
    refine ⟨opens_deleteState base request, ?_⟩
    cases request.options with
    | none => exact ⟨rfl, iff_of_true rfl rfl⟩
    | some options =>
      refine ⟨?_, iff_of_false (List.cons_ne_nil _ _) (Option.some_ne_none _)⟩
      cases hretry : options.retry with
      | none => simp [StateOptions.query, hretry]
      | some retry => simp [StateOptions.query, hretry]

/-- Metadata with all that separates parameters. -/
def separators : Metadata := [("", "+ %"), ("&=", ""), ("é", "\t")]

/-- A base without a query, and separators in names and values. -/
theorem parameters_of_messages_separators :
    usual.query = none ∧ IsAscending separators ∧
      (secretMessage usual ⟨"s", "n", separators⟩).target =
        "http://127.0.0.1:3500/v1.0/secrets/s/n?" ++
          "metadata.=%2B+%25&metadata.%26%3D=&metadata.%C3%A9=%09" ∧
      (secretMessage usual ⟨"s", "n", separators⟩).withCredentials.url.parameters =
        [("metadata.", "+ %"), ("metadata.&=", ""), ("metadata.é", "\t")] ∧
      (secretMessage usual ⟨"s", "n", separators⟩).withCredentials.url.parameters.Pairwise
        (fun a b => encode a.1 < encode b.1) ∧
      (secretMessage usual ⟨"s", "n", [("a", "b&metadata.c=d")]⟩).withCredentials.target ≠
        (secretMessage usual ⟨"s", "n", [("a", "b"), ("c", "d")]⟩).withCredentials.target := by
  have hbase : usual.query = none := rfl
  obtain ⟨hsecret, hdistinct, -⟩ := parameters_of_messages hbase
  obtain ⟨-, hparameters, -, hascending⟩ := hsecret ⟨"s", "n", separators⟩
  have hpairs : separators.map (fun (name, value) => ("metadata." ++ name, value)) =
      [("metadata.", "+ %"), ("metadata.&=", ""), ("metadata.é", "\t")] := by decide
  refine ⟨rfl, by decide, by decide +kernel, hparameters.trans hpairs, hascending (by decide),
    fun htarget => ?_⟩
  have hsame := hdistinct ⟨"s", "n", [("a", "b&metadata.c=d")]⟩ ⟨"s", "n", [("a", "b"), ("c", "d")]⟩
    (.inl ⟨rfl, rfl⟩) htarget
  exact absurd hsame (by decide)

end Sidecar.Http
