import Sidecar.Proofs.CommandLine.Refused
import Sidecar.Proofs.Http.Policy

/-!
# What writes send

A write sends its one request, and that says what the options of the write say: a deletion in its
query, and a save in the document of its one item.  Without options, neither says anything.

The main results are `says_of_sends` and `job_snd`.
-/

namespace Sidecar.CommandLine

open Http State
open Text.Utf8 (encode)

/-! ## What a request says -/

/-- What the request of a write says about how it is to be carried out, if it says anything. -/
inductive Says (base : Url) (message : Request) : Write → Option Policy → Prop
  | plainQuery (h : message.url.parameters = base.parameters) : Says base message .delete none
  | query {parameters : List (String × String)} {policy : Policy}
      (h : message.url.parameters = base.parameters ++ parameters)
      (hpolicy : Policy.ofParameters? parameters = some policy) :
      Says base message .delete (some policy)
  | plainItem {v : Json} (h : message.body = some (encode (Json.array [v]).text))
      (hpolicy : Policy.member? "options" v = none) : Says base message .save none
  | item {v : Json} {policy : Policy} (h : message.body = some (encode (Json.array [v]).text))
      (hpolicy : Policy.ofItem? v = some policy) : Says base message .save (some policy)

namespace Task

def options? : Task → Option StateOptions
  | .save _ _ _ options _ => options
  | .delete _ _ options => options
  | .get .. | .load .. => none

/-- The same task with other options. -/
def withOptions (options : Option StateOptions) : Task → Task
  | .save target valueJson etag _ metadata => .save target valueJson etag options metadata
  | .delete target etag _ => .delete target etag options
  | task => task

end Task

variable {base : Url} {message : Request} {task : Task} {write : Write} {target : Target}
  {etag : Option String} {w : Wire}

/-! ## Options -/

/-- The parameters of a resource come behind those of the base. -/
theorem parameters_resource_eq (base : Url) (segments : List String)
    (query : List (String × String)) :
    (resource base segments query).parameters = base.parameters ++ query := by
  rw [resource, Url.parameters_appendQuery]
  rfl

theorem says_deleteMessage (base : Url) (request : DeleteRequest) :
    Says base (deleteMessage base request) .delete (request.options.map .ofOptions) := by
  have hparameters := parameters_resource_eq base ["state", request.store, request.key]
  cases hoptions : request.options with
  | none =>
    refine .plainQuery ?_
    rw [deleteMessage, hoptions, hparameters, List.append_nil]
  | some o =>
    have hquery : (deleteMessage base request).url.parameters = base.parameters ++ o.query := by
      rw [deleteMessage, hoptions, hparameters]
    exact .query hquery (Policy.ofParameters?_query o)

/-- The document of a save has the one item. -/
theorem says_saveMessage {item : Item} {body : Bytes} (h : saveBody [item] = .ok body)
    (hfits : ∀ o ∈ item.options, (Policy.ofOptions o).capped = Policy.ofOptions o)
    (base : Url) (store : String) :
    Says base (saveMessage base store body) .save (item.options.map .ofOptions) := by
  obtain ⟨vs, hbody, hlength, hzip⟩ := exists_of_saveBody h
  obtain ⟨v, rfl⟩ := List.length_eq_one_iff.1 hlength
  have hitem : itemJson item = .ok v := hzip (item, v) List.mem_cons_self
  have hmessage : (saveMessage base store body).body = some (encode (Json.array [v]).text) :=
    congrArg some hbody
  have hmember := member?_options_of_itemJson hitem
  have hpolicy := ofItem?_of_itemJson hitem
  cases hoptions : item.options with
  | none =>
    rw [hoptions] at hmember
    exact .plainItem hmessage hmember
  | some o =>
    rw [hoptions, Option.map_some, hfits o hoptions] at hpolicy
    exact .item hmessage hpolicy

theorem Says.withCredentials {policy : Option Policy} (h : Says base message write policy) :
    Says base message.withCredentials write policy := by
  obtain ⟨-, -, hbody⟩ := withCredentials_fields message
  have hparameters := parameters_withCredentials message
  cases h with
  | plainQuery h => exact .plainQuery (hparameters.trans h)
  | query h hpolicy => exact .query (hparameters.trans h) hpolicy
  | plainItem h hpolicy => exact .plainItem (hbody.trans h) hpolicy
  | item h hpolicy => exact .item (hbody.trans h) hpolicy

/-- The request of a write says what its options say. -/
theorem says_of_sends (hwrite : task.write? = some (write, target, etag))
    (hfits : ∀ o ∈ task.options?, (Policy.ofOptions o).capped = Policy.ofOptions o)
    (h : task.Sends base message) :
    Says base message.withCredentials write (task.options?.map .ofOptions) := by
  obtain ⟨c, hcall, -, hdraft⟩ := h
  cases task with
  | get | load => cases hwrite
  | save target valueJson etag options metadata =>
    cases hwrite
    obtain ⟨value, -, rfl⟩ := Option.map_eq_some_iff.1 hcall
    obtain ⟨body, hbody, hmessage⟩ := Result.exists_of_bind_eq_ok hdraft
    cases hmessage
    exact (says_saveMessage hbody hfits base target.store).withCredentials
  | delete target etag options =>
    cases hwrite
    cases hcall
    cases hdraft
    exact (says_deleteMessage base ⟨target.store, target.key, etag, options⟩).withCredentials

/-! ## Runs -/

theorem during_snd {α : Type} (doing : String) (action : Action Wire α) (w : Wire) :
    (during doing action w).2 = (action w).2 := by
  rw [during]
  rcases action w with ⟨result, after⟩
  cases result with
  | ok a => rfl
  | error e => rfl

/-- Whether or not a soft write is done, nothing else is sent. -/
theorem soft_snd (doing : String) (action : Action Wire Bool) (stale : Failure) (w : Wire) :
    (((do
      let done ← during doing action
      if done then return "" else throw stale) : Job) w).2 = (action w).2 := by
  rw [← during_snd doing]
  refine Action.bind_snd fun done w => ?_
  cases done with
  | true => rfl
  | false => rfl

section Runs

variable [Redirection]

theorem perform_snd {β : Type} {i : Instruction β} (hc : ∀ request, i.call ≠ .get request)
    (h : requestOf base i = .ok message) (w : Wire) :
    (i.perform (transport base) w).2 = (ask message w).2 := by
  obtain ⟨hname, hdraft⟩ := requestOf_eq_ok_iff.1 h
  obtain ⟨next, hmake, hnext⟩ := exists_make_eq hdraft
  rw [Instruction.perform_of_names hname, hmake]
  refine Action.bind_snd fun d w => ?_
  obtain ⟨answer, hanswer⟩ := hnext hc d w
  rw [hanswer]

/-- A write does the one thing that its call stands for. -/
theorem exists_instruction (hwrite : task.write? = some (write, target, etag)) {c : Call}
    (hcall : task.call? = some c) :
    ∃ (β : Type) (i : Instruction β), i.call = c ∧ (∀ request, i.call ≠ .get request) ∧
      ∀ base w, (task.job base w).2 = (i.perform (transport base) w).2 := by
  cases task with
  | get | load => cases hwrite
  | save target valueJson etag options metadata =>
    cases hwrite
    obtain ⟨value, hvalue, hcall⟩ := Option.map_eq_some_iff.1 hcall
    have hjob (base : Url) (w : Wire) :
        (Task.save target valueJson etag options metadata).job base w = _ :=
      Action.bind_lift_of_ok (Result.mapError_of_toOption hvalue _)
    cases etag with
    | none =>
      refine ⟨_, .saveValue target.store target.key (some value) options metadata, hcall, nofun,
        fun base w => ?_⟩
      rw [hjob]
      exact (Action.bind_snd fun _ _ => rfl).trans (during_snd _ _ w)
    | some etag =>
      refine ⟨_, .trySaveValue target.store target.key (some value) (some etag) options metadata,
        hcall, nofun, fun base w => ?_⟩
      rw [hjob]
      exact soft_snd _ _ _ w
  | delete target etag options =>
    cases hwrite
    exact ⟨_, .tryDeleteValue target.store target.key etag options, Option.some.inj hcall, nofun,
      fun base w => soft_snd _ _ _ w⟩

/-- A write asks its one question. -/
theorem job_snd (hwrite : task.write? = some (write, target, etag))
    (h : task.Sends base message) (w : Wire) : (task.job base w).2 = (ask message w).2 := by
  obtain ⟨c, hcall, hnames, hdraft⟩ := h
  obtain ⟨β, i, rfl, hc, hjob⟩ := exists_instruction hwrite hcall
  rw [hjob]
  exact perform_snd hc (requestOf_eq_ok_iff.2 ⟨hnames, hdraft⟩) w

/-- Without a request, a write sends nothing. -/
theorem job_snd_of_not_sends (hwrite : task.write? = some (write, target, etag))
    (h : ∀ message, ¬task.Sends base message) (w : Wire) : (task.job base w).2 = w := by
  cases hcall : task.call? with
  | none =>
    -- only a value that is no JSON keeps a write from being a call
    cases task with
    | get | load => cases hwrite
    | delete => cases hcall
    | save target valueJson etag options metadata =>
      cases hread : Json.ofText valueJson with
      | ok value =>
        rw [Task.call?, hread] at hcall
        cases hcall
      | error fault =>
        rw [Task.job, CommandLine.saveState, hread]
        rfl
  | some c =>
    obtain ⟨β, i, rfl, hc, hjob⟩ := exists_instruction hwrite hcall
    rw [hjob]
    cases hname : emptyName? i.call.store i.call.keys with
    | some name => rw [Instruction.perform_of_emptyName? hname]
    | none =>
      rw [Instruction.perform_of_names hname]
      cases hdraft : draft base i.call with
      | ok message => exact absurd ⟨_, hcall, hname, hdraft⟩ (h message)
      | error fault => rw [(make_of_draft_error hdraft w).1]

section Run

variable {environment : String → Option String} {args : List String} {e : Endpoint}

theorem run_snd (hparse : parse environment args = .ok (.task e task))
    (hbase : e.baseUrl = .ok base) (w : Wire) :
    (run environment args w).2 = (task.job base w).2 := by
  have hlift : e.baseUrl.mapError Failure.ofError = .ok base := by
    rw [hbase]
    rfl
  rw [run_eq_reported hparse, Invocation.job, Action.bind_lift_of_ok hlift]

theorem run_snd_of_error (hparse : parse environment args = .ok (.task e task)) {fault : Error}
    (hbase : e.baseUrl = .error fault) (w : Wire) : (run environment args w).2 = w := by
  have hlift : e.baseUrl.mapError Failure.ofError = .error (.ofError fault) := by
    rw [hbase]
    rfl
  rw [run_eq_reported hparse, Invocation.job, Action.bind_lift_of_error hlift]

/-- Where there is no request to be made, nothing is sent. -/
theorem run_snd_of_not_sends (hparse : parse environment args = .ok (.task e task))
    (hwrite : task.write? = some (write, target, etag))
    (h : ∀ base message, e.baseUrl = .ok base → ¬task.Sends base message) (w : Wire) :
    (run environment args w).2 = w := by
  cases hbase : e.baseUrl with
  | error fault => exact run_snd_of_error hparse hbase w
  | ok base =>
    rw [run_snd hparse hbase]
    exact job_snd_of_not_sends hwrite (fun message => h base message hbase) w

end Run

end Runs

end Sidecar.CommandLine
