import Sidecar.CommandLine.Outcome
import Sidecar.Proofs.Action
import Sidecar.Proofs.Json.Reading
import Sidecar.Proofs.Secret.Masked

/-!
# Masked values do not show

Unless values are to be shown, what the tool prints for a load of secrets, what it reports if the
load fails, and how it exits are the same whatever the values are.  What it prints is an object with
a masked member for every entry.

The main result is `runLoad_masked`.
-/

namespace Sidecar.CommandLine

open Http Secret Secret.Snapshot

variable {base : Url} {store : String} {secrets : List Descriptor} {names : List String}

/-! ## Printing -/

/-- Keys with masks in the place of values. -/
def masked (s : Snapshot) : List (String × String) := s.toList.map fun entry => (entry.1, mask)

theorem printSecrets_masked (s : Snapshot) :
    printSecrets s.toList false = printJson (Json.ofStrings (Json.sortMembers (masked s))) := rfl

theorem masked_eq_of_sameKeys {s t : Snapshot} (h : s.SameKeys t) : masked s = masked t := by
  have hhidden (s : Snapshot) :
      masked s = (s.entries.map Entry.hidden).map fun e => (e.key, mask) := by
    rw [masked, toList, List.map_map, List.map_map]
    rfl
  rw [hhidden, hhidden, h]

theorem map_fst_masked (s : Snapshot) : (masked s).map Prod.fst = s.toList.map Prod.fst := by
  rw [masked, List.map_map]
  rfl

/-- Keys that are not the same when folded are not the same. -/
theorem nodup_masked {s : Snapshot} (h : s.Loaded) : ((masked s).map Prod.fst).Nodup := by
  obtain ⟨pairs, hholds⟩ := loaded_iff.1 h
  rw [map_fst_masked]
  refine List.pairwise_map.2 (hholds.lists.ascending.imp fun {a b} hlt heq => ?_)
  exact String.lt_irrefl (fold b.1) (heq ▸ hlt)

/-! ## Loading -/

section Loading

variable [Redirection]

/-- The settings of the provider from which the tool loads. -/
def secretSource (base : Url) (store : String) (secrets : List Descriptor) (names : List String) :
    Source Wire :=
  { store := some store, descriptors := secrets, names, api := some (Http.secrets base) }

theorem api_of_build {p : Provider Wire}
    (h : (secretSource base store secrets names).build = .ok p) : p.api = Http.secrets base := by
  unfold Source.build at h
  dsimp only [secretSource] at h
  split at h
  · cases h
  · obtain ⟨api, hapi, h⟩ := Result.exists_of_bind_eq_ok h
    obtain ⟨selection, -, h⟩ := Result.exists_of_bind_eq_ok h
    cases hapi
    unfold Provider.create at h
    split at h
    · cases h
    · cases h
      rfl

/-- A load prints the same over alike wires, or fails in the same way. -/
theorem matched_loadSecrets (base : Url) (store : String) (secrets : List Descriptor)
    (names : List String) :
    Matched Eq (loadSecrets (Http.secrets base) store secrets names false)
      (loadSecrets (Http.secrets base) store secrets names false) := by
  have hbuild : SameOr (fun p q => p = q ∧ p.api = Http.secrets base)
      (secretSource base store secrets names).build
      (secretSource base store secrets names).build := by
    cases h : (secretSource base store secrets names).build with
    | error e => exact .error e
    | ok p => exact .ok ⟨rfl, api_of_build h⟩
  unfold loadSecrets
  refine (matched_lift (hbuild.mapError Failure.ofLoadError)).bind fun p q h => ?_
  obtain ⟨rfl, hapi⟩ := h
  refine (matched_run (Provider.related_load hapi .toTheEnd)).bind fun x y h => ?_
  obtain ⟨result, p⟩ := x
  obtain ⟨other, q⟩ := y
  cases h with
  | none => exact matched_throw _ _
  | some h =>
    cases h with
    | error e => exact matched_throw _ _
    | ok h =>
      dsimp only
      rw [printSecrets_masked, printSecrets_masked, masked_eq_of_sameKeys h]
      exact matched_pure rfl

/-! ## Running -/

section Run

variable {environment : String → Option String} {args : List String} {e : Endpoint}

/-- A job that loads secrets prints the same over alike wires, or fails in the same way. -/
theorem matched_job (e : Endpoint) (store : String) (secrets : List Descriptor)
    (names : List String) :
    Matched Eq (Invocation.task e (.load store secrets names false)).job
      (Invocation.task e (.load store secrets names false)).job := by
  have hbase : SameOr Eq (e.baseUrl.mapError Failure.ofError)
      (e.baseUrl.mapError Failure.ofError) := .refl (fun _ => rfl) _
  refine (matched_lift hbase).bind fun base other h => ?_
  cases h
  exact matched_loadSecrets base store secrets names

/-- What a job comes to for the user. -/
def reported : Except Failure String → Outcome
  | .ok text => .printed text
  | .error failure => failure.outcome

/-- A run is its job, and what is reported of that. -/
theorem run_of_parse {invocation : Invocation} (hparse : parse environment args = .ok invocation) :
    run environment args = do return reported (← invocation.job.run) := by
  unfold run
  rw [hparse]
  dsimp only
  congr 1
  funext result
  cases result with
  | ok text => rfl
  | error failure => rfl

theorem run_eq_reported {invocation : Invocation}
    (hparse : parse environment args = .ok invocation) (w : Wire) :
    run environment args w = (reported (invocation.job w).1, (invocation.job w).2) := by
  rw [run_of_parse hparse]
  rfl

/-- Runs over alike wires are reported in the same way. -/
theorem related_runLoad
    (hparse : parse environment args = .ok (.task e (.load store secrets names false))) :
    Related Eq (run environment args) (run environment args) := by
  rw [run_of_parse hparse]
  exact Related.bind (matched_job e store secrets names) fun x y h =>
    related_pure (congrArg reported h.eq)

/-- Either a failure is reported, or what was loaded is printed. -/
theorem runLoad_cases
    (hparse : parse environment args = .ok (.task e (.load store secrets names false)))
    (w : Wire) :
    (∃ failure : Failure, (run environment args w).1 = failure.outcome) ∨
    ∃ base p s, e.baseUrl = .ok base ∧ (secretSource base store secrets names).build = .ok p ∧
      (p.load .toTheEnd w).1.1 = some (.ok s) ∧
      (run environment args w).1 = .printed (printSecrets s.toList false) := by
  have hrun := congrArg Prod.fst (run_eq_reported hparse w)
  rcases hjob : (Invocation.task e (.load store secrets names false)).job w with ⟨result, after⟩
  rw [hjob] at hrun
  cases result with
  | error failure => exact .inl ⟨failure, hrun⟩
  | ok text =>
    refine .inr ?_
    obtain ⟨base, hbase, hload⟩ := Action.exists_of_bind_lift_eq_ok hjob
    obtain ⟨p, hp, hload⟩ := Action.exists_of_bind_lift_eq_ok hload
    have hprint := (Action.bind_lift_state _).symm.trans hload
    rcases hresult : p.load .toTheEnd w with ⟨⟨outcome, q⟩, between⟩
    rw [hresult] at hprint
    cases outcome with
    | none => cases hprint
    | some outcome =>
      cases outcome with
      | error => cases hprint
      | ok s =>
        cases hprint
        have hloaded : (p.load .toTheEnd w).1.1 = some (.ok s) := by rw [hresult]
        exact ⟨base, p, s, Result.eq_ok_of_mapError hbase, Result.eq_ok_of_mapError hp, hloaded,
          hrun⟩

/-- What a load of secrets prints, what it reports and how it exits are the same over alike wires.
If it succeeds, an object is printed that has one member for every entry that was loaded, under the
key as it was inserted, and the mask for its value. -/
theorem runLoad_masked
    (hparse : parse environment args = .ok (.task e (.load store secrets names false)))
    {w v : Wire} (h : w.Alike v) :
    (run environment args w).1 = (run environment args v).1 ∧
      ((run environment args w).1.exit = 0 →
        ∃ base p s members, e.baseUrl = .ok base ∧
          (secretSource base store secrets names).build = .ok p ∧
          (p.load .toTheEnd w).1.1 = some (.ok s) ∧
          Json.ObjectText members (Text.Utf8.encode (run environment args w).1.stdout) ∧
          members.Perm (s.toList.map fun entry => (entry.1, mask)) ∧
          (members.map Prod.fst).Nodup) := by
  refine ⟨(related_runLoad hparse w v h).1, fun hexit => ?_⟩
  rcases runLoad_cases hparse w with ⟨failure, hrun⟩ | ⟨base, p, s, hbase, hp, hload, hrun⟩
  · rw [hrun] at hexit
    cases hexit
  · have hnodup : ((masked s).map Prod.fst).Nodup := nodup_masked ⟨Wire, p, .toTheEnd, w, hload⟩
    have hperm : (Json.sortMembers (masked s)).Perm (masked s) := Json.perm_sortMembers hnodup
    refine ⟨base, p, s, Json.sortMembers (masked s), hbase, hp, hload, ?_, hperm,
      (hperm.map _).nodup_iff.2 hnodup⟩
    rw [hrun, printSecrets_masked]
    exact Json.objectText_pretty _

end Run

end Loading

/-- A secret whose value is one thing or another. -/
theorem runLoad_masked_one_secret :
    let args := ["secrets", "load", "--store", "vault", "--secret", "S"]
    let wire (value : String) : Wire := ⟨[.response (.printed [("a", value)])], .closed, []⟩
    parse (fun _ => none) args = .ok (.task default (.load "vault" [⟨"S", []⟩] [] false)) ∧
      (wire "1").Alike (wire "2") ∧
      (run (fun _ => none) args (wire "1")).1 = (run (fun _ => none) args (wire "2")).1 := by
  intro args wire
  have hparse : parse (fun _ => none) args =
      .ok (.task default (.load "vault" [⟨"S", []⟩] [] false)) := by rfl
  have halike : (wire "1").Alike (wire "2") :=
    ⟨.cons (.response (Response.alike_printed rfl)) .nil, .closed, rfl⟩
  exact ⟨hparse, halike, (runLoad_masked hparse halike).1⟩

end Sidecar.CommandLine
