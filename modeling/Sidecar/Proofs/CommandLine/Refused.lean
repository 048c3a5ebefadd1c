import Sidecar.Proofs.CommandLine.Given
import Sidecar.Proofs.CommandLine.Masking
import Sidecar.Proofs.Http.Outcome

/-!
# Writes that are refused

A save or a deletion that the sidecar refuses is reported with the status and the body of the
response.  With an etag on the command line, two statuses are put down to that etag instead.  A
deletion does so without an etag as well, and blames one that was not given.

The main result is `run_of_refused`.
-/

namespace Sidecar.CommandLine

open Http State

/-! ## Reports -/

/-- The tasks that change an item. -/
inductive Write where
  | save
  | delete
deriving DecidableEq, Repr

namespace Write

def doing : Write → String
  | .save => "saving"
  | .delete => "deleting"

def done : Write → String
  | .save => "saved"
  | .delete => "deleted"

/-- The fault itself. -/
def faultReport (write : Write) (key : String) (r : Response) : Outcome :=
  ⟨1, "", "dapr-cli error: " ++ write.doing ++ " " ++ quoted key ++ ": " ++
    "remote call failed with status " ++ toString r.status ++ ": " ++ r.message ++ "\n"⟩

/-- A fault that is put down to an etag. -/
def staleReport (write : Write) (key etag : String) : Outcome :=
  ⟨1, "", "dapr-cli error: " ++ quoted key ++ " was not " ++ write.done ++ ": etag " ++ etag ++
    " is stale" ++ "\n"⟩

/-- An etag is blamed only if there is one, and only for conflict and precondition failed. -/
def report (write : Write) (key : String) (etag : Option String) (r : Response) : Outcome :=
  match etag with
  | none => write.faultReport key r
  | some etag =>
    if r.status = 409 ∨ r.status = 412 then write.staleReport key etag else write.faultReport key r

/-- One begins with a letter and the other with a quote. -/
theorem staleReport_ne_faultReport (write : Write) (key etag : String) (r : Response) :
    write.staleReport key etag ≠ write.faultReport key r := by
  intro h
  have htext := congrArg Outcome.stderr h
  simp only [staleReport, faultReport, quoted, String.append_assoc] at htext
  rw [String.append_right_inj] at htext
  have hfirst := congrArg (·.toList.head?) htext
  cases write <;> simp [doing, String.toList_append] at hfirst

end Write

/-- Which item is changed, and how. -/
def Task.write? : Task → Option (Write × Target × Option String)
  | .save target _ etag _ _ => some (.save, target, etag)
  | .delete target etag _ => some (.delete, target, etag)
  | .get .. | .load .. => none

/-- The call of a task that changes an item, unless its value is not JSON. -/
def Task.call? : Task → Option Call
  | .save target valueJson etag options metadata =>
    (Json.ofText valueJson).toOption.map fun value =>
      .save ⟨target.store, [⟨target.key, some (encodeValue value), etag, metadata, options⟩]⟩
  | .delete target etag options => some (.delete ⟨target.store, target.key, etag, options⟩)
  | .get .. | .load .. => none

/-- The request of a task that changes an item. -/
def Task.Sends (base : Url) (task : Task) (message : Request) : Prop :=
  ∃ c, task.call? = some c ∧ emptyName? c.store c.keys = none ∧ draft base c = .ok message

variable {base : Url} {message : Request} {w after : Wire} {d : Delivery} {task : Task}
  {write : Write} {target : Target} {etag : Option String}

/-! ## Failures -/

theorem during_of_error {α : Type} {action : Action Wire α} {e : Error} (doing : String)
    (h : action w = (.error e, after)) :
    during doing action w = (.error ((Failure.ofError e).under doing), after) := by
  rw [during, h]

/-- The failure of a write without an etag. -/
def Write.fault (write : Write) (key : String) (r : Response) : Failure :=
  (Failure.ofError r.refusal).under (write.doing ++ " " ++ quoted key)

theorem outcome_eq (chain : List String) :
    (⟨chain⟩ : Failure).outcome =
      ⟨1, "", "dapr-cli error: " ++ String.intercalate ": " chain ++ "\n"⟩ := rfl

/-- The report of a fault has the status and the text of the response in it. -/
theorem outcome_fault (write : Write) (key : String) (r : Response) :
    (write.fault key r).outcome = write.faultReport key r := by
  have hchain : write.fault key r =
      ⟨[write.doing ++ " " ++ quoted key,
        "remote call failed with status " ++ toString r.status ++ ": " ++ r.message]⟩ := rfl
  rw [hchain, outcome_eq, String.intercalate_cons_cons, String.intercalate_singleton,
    Write.faultReport]
  simp only [String.append_assoc]

/-- The report of a stale etag has the etag in it, and nothing of the response. -/
theorem outcome_staleEtag (write : Write) (key etag : String) :
    (staleEtag key write.done etag).outcome = write.staleReport key etag := by
  rw [staleEtag, outcome_eq, String.intercalate_singleton, Write.staleReport]
  simp only [String.append_assoc]

theorem softened_refusal (r : Response) :
    softened (.error r.refusal) =
      if r.status = 409 ∨ r.status = 412 then .ok false else .error r.refusal :=
  if_congr isStaleEtag_refusal rfl rfl

/-- A soft write that is refused fails for the etag or for the fault. -/
theorem soft_of_refused {action : Action Wire Bool} {r : Response}
    (h : action w = (softened (.error r.refusal), after)) (doing : String) (stale : Failure) :
    (do
      let done ← during doing action
      if done then return "" else throw stale : Job) w =
    (.error (if r.status = 409 ∨ r.status = 412 then stale
      else (Failure.ofError r.refusal).under doing), after) := by
  rw [softened_refusal] at h
  by_cases hstatus : r.status = 409 ∨ r.status = 412
  · rw [if_pos hstatus] at h ⊢
    have hduring : during doing action w = (.ok false, after) := by rw [during, h]
    rw [Action.bind_of_ok hduring]
    rfl
  · rw [if_neg hstatus] at h ⊢
    exact Action.bind_of_error (during_of_error doing h)

/-- The failure of a write that is refused; only a save looks whether there is an etag. -/
def Write.refused (write : Write) (key : String) (etag : Option String) (r : Response) : Failure :=
  match write, etag with
  | .save, none => write.fault key r
  | _, _ =>
    if r.status = 409 ∨ r.status = 412 then staleEtag key write.done (etag.getD "")
    else write.fault key r

theorem job_of_refused [Redirection] (hwrite : task.write? = some (write, target, etag))
    (hsends : task.Sends base message) (hanswered : Answered message w d after)
    (hrefused : ¬d.response.Succeeds) :
    task.job base w = (.error (write.refused target.key etag d.response), after) := by
  obtain ⟨c, hcall, hnames, hdraft⟩ := hsends
  have hperform {β : Type} (i : Instruction β) (hi : i.call = c) :
      i.perform (transport base) w = (i.outcome (.error d.response.refusal), after) := by
    subst hi
    exact perform_of_refused (requestOf_eq_ok_iff.2 ⟨hnames, hdraft⟩) hanswered hrefused
  cases task with
  | get | load => cases hwrite
  | save target valueJson etag options metadata =>
    cases hwrite
    obtain ⟨value, hvalue, hcall⟩ := Option.map_eq_some_iff.1 hcall
    cases hcall
    rw [Task.job, CommandLine.saveState,
      Action.bind_lift_of_ok (Result.mapError_of_toOption hvalue _)]
    cases etag with
    | none =>
      have hsave := hperform (.saveValue target.store target.key (some value) options metadata) rfl
      exact Action.bind_of_error (during_of_error _ hsave)
    | some etag =>
      have hsave := hperform
        (.trySaveValue target.store target.key (some value) (some etag) options metadata) rfl
      exact soft_of_refused hsave _ _
  | delete target etag options =>
    cases hwrite
    cases hcall
    have hdelete := hperform (.tryDeleteValue target.store target.key etag options) rfl
    exact soft_of_refused hdelete _ _

/-! ## Runs -/

section Run

variable {environment : String → Option String} {args : List String} {e : Endpoint}

theorem run_of_job [Redirection] (hparse : parse environment args = .ok (.task e task))
    (hbase : e.baseUrl = .ok base) {failure : Failure}
    (h : task.job base w = (.error failure, after)) :
    run environment args w = (failure.outcome, after) := by
  have hlift : e.baseUrl.mapError Failure.ofError = .ok base := by
    rw [hbase]
    rfl
  have hjob : (Invocation.task e task).job w = (.error failure, after) :=
    (Action.bind_lift_of_ok hlift).trans h
  rw [run_eq_reported hparse, hjob]
  rfl

theorem etag_of_task? {l : Level} (htask : l.task? = some task)
    (hwrite : task.write? = some (write, target, etag)) : etag = l.value? .etag := by
  unfold Level.task? at htask
  split at htask <;> cases htask <;> cases hwrite <;> rfl

/-- The etag of a write is the one on the command line. -/
theorem given_etag_of_parse (hparse : parse environment args = .ok (.task e task))
    (hwrite : task.write? = some (write, target, etag)) : given .etag args = etag.toList := by
  obtain ⟨l, above, hlevels, htask, -⟩ := exists_level_of_parse hparse
  rw [etag_of_task? htask hwrite]
  exact given_etag_of_levels hlevels

/-- The report is the right one, unless a deletion has no etag and is refused for one. -/
theorem outcome_refused_eq_iff (write : Write) (key : String) (etag : Option String)
    (r : Response) :
    (write.refused key etag r).outcome = write.report key etag r ↔
      ¬(write = .delete ∧ etag = none ∧ (r.status = 409 ∨ r.status = 412)) := by
  have hsoft (write : Write) (etag : String) :
      (if r.status = 409 ∨ r.status = 412 then staleEtag key write.done etag
        else write.fault key r).outcome =
      if r.status = 409 ∨ r.status = 412 then write.staleReport key etag
        else write.faultReport key r := by
    rw [← outcome_staleEtag, ← outcome_fault]
    exact apply_ite Failure.outcome _ _ _
  cases etag with
  | some etag =>
    refine iff_of_true ?_ (fun h => nomatch h.2.1)
    cases write with
    | save => exact hsoft .save etag
    | delete => exact hsoft .delete etag
  | none =>
    cases write with
    | save => exact iff_of_true (outcome_fault .save key r) (fun h => nomatch h.1)
    | delete =>
      refine Iff.trans (Eq.congr_left (hsoft .delete "")) ?_
      by_cases hstatus : r.status = 409 ∨ r.status = 412
      · rw [if_pos hstatus]
        exact iff_of_false (Write.staleReport_ne_faultReport _ _ _ _) fun h => h ⟨rfl, rfl, hstatus⟩
      · rw [if_neg hstatus]
        exact iff_of_true rfl fun h => hstatus h.2.2

/-- A write that is refused is reported as such, and as a stale etag if and only if there is an etag
on the command line and the status is one of the two; then the report names it.  The exception is a
deletion without an etag: with these statuses, it is reported as an empty etag that is stale. -/
theorem run_of_refused [Redirection] (hparse : parse environment args = .ok (.task e task))
    (hwrite : task.write? = some (write, target, etag)) (hbase : e.baseUrl = .ok base)
    (hsends : task.Sends base message) (hanswered : Answered message w d after)
    (hrefused : ¬d.response.Succeeds) :
    given .etag args = etag.toList ∧
      (run environment args w = (write.report target.key etag d.response, after) ↔
        ¬(write = .delete ∧ etag = none ∧
          (d.response.status = 409 ∨ d.response.status = 412))) ∧
      (write = .delete → etag = none → d.response.status = 409 ∨ d.response.status = 412 →
        run environment args w = (write.staleReport target.key "", after)) := by
  have hrun := run_of_job hparse hbase (job_of_refused hwrite hsends hanswered hrefused)
  refine ⟨given_etag_of_parse hparse hwrite, ?_, ?_⟩
  · rw [hrun, Prod.mk.injEq, and_iff_left rfl]
    exact outcome_refused_eq_iff write target.key etag d.response
  · rintro rfl rfl hstatus
    rw [hrun, ← outcome_staleEtag]
    exact congrArg (fun failure : Failure => (failure.outcome, after)) (if_pos hstatus)

/-- A save with an etag, which the sidecar answers with a failed precondition. -/
theorem run_of_refused_precondition :
    let args := ["--dapr-host", "[::1]", "state", "save", "--store", "s", "--key", "k",
      "--value-json", "1", "--etag=7"]
    let w : Wire := ⟨[.response { status := 412 }], .closed, []⟩
    given .etag args = ["7"] ∧
      (run (fun _ => none) args w).1 =
        ⟨1, "", "dapr-cli error: 'k' was not saved: etag 7 is stale\n"⟩ := by
  intro args w
  have hparse : parse (fun _ => none) args =
      .ok (.task { host := "[::1]" } (.save ⟨"s", "k"⟩ "1" (some "7") none none)) := by rfl
  have hbase : Endpoint.baseUrl { host := "[::1]" } =
      .ok { host := "[::1]", port := some 3500 } := by rfl
  have hsends : Task.Sends { host := "[::1]", port := some 3500 }
      (.save ⟨"s", "k"⟩ "1" (some "7") none none) _ := ⟨_, rfl, rfl, rfl⟩
  obtain ⟨hgiven, hreport, -⟩ := run_of_refused (w := w) hparse rfl hbase hsends
    (answered_of_reply rfl rfl ⟨rfl, rfl⟩ rfl) (fun h => absurd h.2 (by decide))
  exact ⟨hgiven, congrArg Prod.fst (hreport.2 fun h => nomatch h.1)⟩

/-- A deletion without an etag, which the sidecar answers with a conflict. -/
theorem run_unconditional_conflict :
    let args := ["--dapr-host", "[::1]", "state", "delete", "--store", "s", "--key", "k"]
    let conflict : Response := { status := 409, body := [120] }
    let w : Wire := ⟨[.response conflict], .closed, []⟩
    given .etag args = [] ∧
      (run (fun _ => none) args w).1 =
        ⟨1, "", "dapr-cli error: 'k' was not deleted: etag  is stale\n"⟩ ∧
      (run (fun _ => none) args w).1 ≠ Write.delete.report "k" none conflict := by
  intro args conflict w
  have hrun : (run (fun _ => none) args w).1 =
      ⟨1, "", "dapr-cli error: 'k' was not deleted: etag  is stale\n"⟩ := by
    decide +kernel
  refine ⟨by rfl, hrun, ?_⟩
  rw [hrun]
  decide +kernel

end Run

end Sidecar.CommandLine
