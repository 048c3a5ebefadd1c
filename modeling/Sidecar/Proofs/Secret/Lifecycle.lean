import Sidecar.Proofs.Secret.Load

/-!
# The life of a provider

A provider is loaded, given up on and read in any order.  Only the first load does anything: before
it the provider is as it was created, and after it nothing changes any more, whether the load
succeeded, failed or was given up.

The main result is `run_loads_once`.
-/

namespace Sidecar.Secret.Provider

variable {σ : Type}

/-! ## Steps -/

inductive Step where
  | load (patience : Patience)
  | status
  | get (key : String)
  | snapshot
deriving DecidableEq

/-- What comes of a step. -/
inductive Seen where
  /-- The result of a load, unless it was given up. -/
  | load (result : Option (Except LoadError Snapshot))
  | status (isLoaded : Bool)
  | get (value : Option String)
  | snapshot (s : Option Snapshot)

def perform (p : Provider σ) : Step → StateM σ (Seen × Provider σ)
  | .load patience => do
    let (result, p) ← p.load patience
    return (.load result, p)
  | .status => return (.status p.isLoaded, p)
  | .get key => return (.get (p.get? key), p)
  | .snapshot => return (.snapshot p.snapshot?, p)

def run (p : Provider σ) : List Step → StateM σ (List Seen × Provider σ)
  | [] => return ([], p)
  | step :: rest => do
    let (seen, p) ← p.perform step
    let (more, p) ← p.run rest
    return (seen :: more, p)

/-- The requests that steps send, oldest first. -/
def sentBy (p : Provider σ) (steps : List Step) (w : σ) : List Request :=
  (p.recorded.run steps (w, [])).2.2

def Step.patience? : Step → Option Patience
  | .load patience => some patience
  | _ => none

/-- How long the first load of all goes on. -/
def firstLoad (steps : List Step) : Option Patience := steps.findSome? Step.patience?

/-- What comes of a step once the provider changes no more. -/
def seen (p : Provider σ) : Step → Seen
  | .load _ => .load (some (.error .alreadyLoaded))
  | .status => .status p.isLoaded
  | .get key => .get (p.get? key)
  | .snapshot => .snapshot p.snapshot?

/-! ## Steps that change nothing -/

theorem load_of_settled {p : Provider σ} (hp : p.progress ≠ .unloaded) (patience : Patience)
    (w : σ) : p.load patience w = ((some (.error .alreadyLoaded), p), w) := by
  rw [load]
  cases hprogress : p.progress with
  | unloaded => exact absurd hprogress hp
  | loading | loaded | failed => rfl

theorem perform_of_settled {p : Provider σ} (hp : p.progress ≠ .unloaded) (step : Step) (w : σ) :
    p.perform step w = ((p.seen step, p), w) := by
  cases step with
  | load patience =>
    simp only [perform, bind, StateT.bind, load_of_settled hp]
    rfl
  | status | get | snapshot => rfl

theorem perform_of_patience?_eq_none (p : Provider σ) {step : Step} (h : step.patience? = none)
    (w : σ) : p.perform step w = ((p.seen step, p), w) := by
  cases step with
  | load => cases h
  | status | get | snapshot => rfl

theorem perform_load (p : Provider σ) (patience : Patience) (w : σ) :
    p.perform (.load patience) w =
      ((.load (p.load patience w).1.1, (p.load patience w).1.2), (p.load patience w).2) := rfl

theorem run_cons (p : Provider σ) (step : Step) (rest : List Step) (w : σ) :
    p.run (step :: rest) w =
      (((p.perform step w).1.1 :: ((p.perform step w).1.2.run rest (p.perform step w).2).1.1,
        ((p.perform step w).1.2.run rest (p.perform step w).2).1.2),
        ((p.perform step w).1.2.run rest (p.perform step w).2).2) := rfl

theorem run_append (p : Provider σ) (steps rest : List Step) (w : σ) :
    p.run (steps ++ rest) w =
      (((p.run steps w).1.1 ++ ((p.run steps w).1.2.run rest (p.run steps w).2).1.1,
        ((p.run steps w).1.2.run rest (p.run steps w).2).1.2),
        ((p.run steps w).1.2.run rest (p.run steps w).2).2) := by
  induction steps generalizing p w with
  | nil => rfl
  | cons step steps ih =>
    rw [List.cons_append, run_cons, run_cons, ih]
    rfl

/-- Steps that change nothing show what was there before. -/
theorem run_of_still (p : Provider σ) {steps : List Step} {w : σ}
    (h : ∀ step ∈ steps, p.perform step w = ((p.seen step, p), w)) :
    p.run steps w = ((steps.map p.seen, p), w) := by
  induction steps with
  | nil => rfl
  | cons step steps ih =>
    obtain ⟨hstep, hsteps⟩ := List.forall_mem_cons.1 h
    rw [run_cons, hstep, ih hsteps]
    rfl

/-- A provider that has been asked to load stays as it is, whatever is done with it. -/
theorem run_of_settled {p : Provider σ} (hp : p.progress ≠ .unloaded) (steps : List Step) (w : σ) :
    p.run steps w = ((steps.map p.seen, p), w) :=
  p.run_of_still fun step _ => perform_of_settled hp step w

/-- So does one that has not been asked to load. -/
theorem run_of_firstLoad_eq_none (p : Provider σ) {steps : List Step}
    (h : firstLoad steps = none) (w : σ) : p.run steps w = ((steps.map p.seen, p), w) :=
  p.run_of_still fun step hstep =>
    p.perform_of_patience?_eq_none (List.findSome?_eq_none_iff.1 h step hstep) w

/-! ## The first load -/

/-- A load leaves a provider behind that is not as it was created. -/
theorem progress_load_ne_unloaded {p : Provider σ} (hp : p.progress = .unloaded)
    (patience : Patience) (w : σ) : (p.load patience w).1.2.progress ≠ .unloaded := by
  rw [load_of_unloaded p hp]
  dsimp only [behind]
  split
  · exact nofun
  · exact nofun
  · exact nofun

/-- Before the first load nothing happens, and behind it nothing more. -/
theorem run_of_firstLoad_eq_some {p : Provider σ} (hp : p.progress = .unloaded)
    {steps : List Step} {patience : Patience} (h : firstLoad steps = some patience) (w : σ) :
    (p.run steps w).1.2 = (p.load patience w).1.2 ∧
      (p.run steps w).2 = (p.load patience w).2 := by
  obtain ⟨before, step, after, rfl, hstep, hbefore⟩ := List.findSome?_eq_some_iff.1 h
  cases step with
  | status | get | snapshot => cases hstep
  | load =>
    cases hstep
    rw [run_append, p.run_of_firstLoad_eq_none (List.findSome?_eq_none_iff.2 hbefore), run_cons,
      perform_load, run_of_settled (progress_load_ne_unloaded hp patience w)]
    exact ⟨rfl, rfl⟩

/-- A life in which there is a load does not leave a provider as it was created. -/
theorem progress_run_ne_unloaded {p : Provider σ} (hp : p.progress = .unloaded)
    {steps : List Step} (h : firstLoad steps ≠ none) (w : σ) :
    (p.run steps w).1.2.progress ≠ .unloaded := by
  obtain ⟨patience, hpatience⟩ := Option.ne_none_iff_exists'.1 h
  rw [(run_of_firstLoad_eq_some hp hpatience w).1]
  exact progress_load_ne_unloaded hp patience w

theorem firstLoad_append {steps : List Step} (h : firstLoad steps ≠ none) (more : List Step) :
    firstLoad (steps ++ more) = firstLoad steps := by
  obtain ⟨patience, hpatience⟩ := Option.ne_none_iff_exists'.1 h
  rw [firstLoad, List.findSome?_append, ← firstLoad, hpatience]
  rfl

/-! ## What is sent -/

/-- Fetching stops somewhere. -/
theorem sent_fetchAll (p : Provider σ) (patience : Patience) (data : Snapshot)
    (ds : List Descriptor) (w : σ) (sent : List Request) :
    ∃ n, (p.recorded.fetchAll patience data ds (w, sent)).2.2 =
      sent ++ (ds.map p.request).take n := by
  induction ds generalizing data w sent with
  | nil => exact ⟨0, (List.append_nil sent).symm⟩
  | cons d rest ih =>
    rw [fetchAll_cons, fetch_recorded]
    cases patience.result? (p.api.fetch (p.request d) w).1 with
    | none => exact ⟨1, rfl⟩
    | some result =>
      cases result with
      | error e => exact ⟨1, rfl⟩
      | ok values =>
        dsimp only
        cases p.recorded.selection.addValues d.name data values with
        | error e => exact ⟨1, rfl⟩
        | ok more =>
          obtain ⟨n, hn⟩ := ih more (p.api.fetch (p.request d) w).2 (sent ++ [p.request d])
          refine ⟨n + 1, hn.trans ?_⟩
          rw [List.append_assoc]
          rfl

/-- A load sends the requests for its secrets in order, up to some point. -/
theorem sent_prefix_requests {p : Provider σ} (hp : p.progress = .unloaded) (patience : Patience)
    (w : σ) : p.sent patience w <+: p.requests := by
  obtain ⟨n, hn⟩ := p.sent_fetchAll patience .empty p.selection.toDescriptors w []
  rw [sent, p.recorded.load_of_unloaded hp]
  exact ⟨_, (congrArg (· ++ _) hn).trans (List.take_append_drop n _)⟩

/-! ## Whole lives -/

/-- The result of the first load, unless there was none or it was given up. -/
def outcome (p : Provider σ) (steps : List Step) (w : σ) : Option (Except LoadError Snapshot) :=
  (firstLoad steps).bind fun patience => (p.load patience w).1.1

/-- Only the first load publishes, and only if it succeeds. -/
theorem snapshot?_run {p : Provider σ} (hp : p.progress = .unloaded) (steps : List Step) (w : σ)
    (s : Snapshot) : (p.run steps w).1.2.snapshot? = some s ↔ p.outcome steps w = some (.ok s) := by
  unfold outcome
  cases hfirst : firstLoad steps with
  | none =>
    rw [p.run_of_firstLoad_eq_none hfirst, snapshot?, hp]
    exact iff_of_false nofun nofun
  | some patience =>
    rw [(run_of_firstLoad_eq_some hp hfirst w).1, Option.bind_some]
    exact snapshot?_load hp patience w s

theorem sentBy_eq {p : Provider σ} (hp : p.progress = .unloaded) (steps : List Step) (w : σ) :
    p.sentBy steps w = (firstLoad steps).elim [] fun patience => p.sent patience w := by
  unfold sentBy
  cases hfirst : firstLoad steps with
  | none => rw [p.recorded.run_of_firstLoad_eq_none hfirst]; rfl
  | some patience =>
    exact congrArg Prod.snd (run_of_firstLoad_eq_some (p := p.recorded) hp hfirst (w, [])).2

/-- Whatever is done with a new provider, only the first load sends requests, and they are the first
of those that the secrets call for.  A snapshot is there to be read exactly if that load came to its
end and succeeded, and it is the one that the load returned.  After the first load the provider is
never changed again, and all further loads are refused without a request. -/
theorem run_loads_once (p : Provider σ) (hp : p.progress = .unloaded) (steps : List Step) (w : σ) :
    let now := (p.run steps w).1.2
    p.sentBy steps w = ((firstLoad steps).elim [] fun patience => p.sent patience w) ∧
    p.sentBy steps w <+: p.requests ∧
    (∀ s, now.snapshot? = some s ↔ p.outcome steps w = some (.ok s)) ∧
    (now.isLoaded ↔ ∃ s, p.outcome steps w = some (.ok s)) ∧
    (∀ key value, now.get? key = some value ↔
      ∃ s, p.outcome steps w = some (.ok s) ∧ s.get? key = some value) ∧
    (firstLoad steps = none → p.run steps w = ((steps.map p.seen, p), w)) ∧
    (firstLoad steps ≠ none → ∀ more later,
      now.run more later = ((more.map now.seen, now), later) ∧
      p.sentBy (steps ++ more) w = p.sentBy steps w) := by
  intro now
  have hsnapshot := snapshot?_run hp steps w
  refine ⟨sentBy_eq hp steps w, ?_, hsnapshot, ?_, fun key value => ?_,
    fun hnone => p.run_of_firstLoad_eq_none hnone w, fun hfirst more later => ⟨?_, ?_⟩⟩
  · rw [sentBy_eq hp]
    cases firstLoad steps with
    | none => exact List.nil_prefix
    | some patience => exact sent_prefix_requests hp patience w
  · rw [isLoaded, Option.isSome_iff_exists]
    exact exists_congr hsnapshot
  · rw [get?, Option.bind_eq_some_iff]
    exact exists_congr fun s => and_congr_left' (hsnapshot s)
  · exact run_of_settled (progress_run_ne_unloaded hp hfirst w) more later
  · rw [sentBy_eq hp, sentBy_eq hp, firstLoad_append hfirst]

/-- A load that is given up while it waits for the first of two secrets has sent one request, and no
load behind it does anything. -/
theorem run_loads_once_given_up :
    let p : Provider Unit := ⟨"vault", .described [⟨"A", []⟩, ⟨"B", []⟩],
      .answering fun _ => .ok [("_default", "v")], .unloaded⟩
    let now := (p.run [.status, .load .untilWait] ()).1.2
    p.progress = .unloaded ∧
      p.sentBy [.status, .load .untilWait] () = [⟨"vault", "A", []⟩] ∧
      now.isLoaded = false ∧
      now.run [.load .toTheEnd, .get "A"] () =
        (([.load (some (.error .alreadyLoaded)), .get none], now), ()) := by
  intro p now
  obtain ⟨hsent, -, -, hloaded, -, -, hlater⟩ :=
    run_loads_once p rfl [.status, .load .untilWait] ()
  refine ⟨rfl, hsent, ?_, (hlater nofun [.load .toTheEnd, .get "A"] ()).1⟩
  exact Bool.eq_false_iff.2 fun h => nomatch hloaded.1 h

end Sidecar.Secret.Provider
