import Sidecar.Proofs.Secret.Snapshot
import Sidecar.Secret.Provider

/-!
# What a load does

A load fetches secrets one after the other and adds their values one after the other, and each of
these steps may be the last.  Its outcome is compared with the list of what the store answers:
`FirstFailure` says which failure comes first, and a load without one holds everything.

The main results are `Provider.load_cases` for any store and `Provider.load_toTheEnd`.
-/

namespace Sidecar.Secret

open Snapshot

variable {σ : Type}

/-- A secret and the result of fetching it. -/
abbrev Fetched := Descriptor × Except Error Values

/-! ## The entries that are to come -/

namespace Selection

/-- Keys and values for the configuration from the values of the secret `name`. -/
def effective (s : Selection) (name : String) (values : Values) : List (String × String) :=
  values.map fun (key, value) => (s.entryKey name key, value)

/-- The same for all secrets that were fetched. -/
def effectiveAll (s : Selection) (fetched : List Fetched) : List (String × String) :=
  fetched.flatMap fun
    | (d, .ok values) => s.effective d.name values
    | (_, .error _) => []

@[simp] theorem effective_nil (s : Selection) (name : String) : s.effective name [] = [] := rfl

@[simp] theorem effective_cons (s : Selection) (name key value : String) (rest : Values) :
    s.effective name ((key, value) :: rest) =
      (s.entryKey name key, value) :: s.effective name rest := rfl

@[simp] theorem effectiveAll_append (s : Selection) (front rest : List Fetched) :
    s.effectiveAll (front ++ rest) = s.effectiveAll front ++ s.effectiveAll rest :=
  List.flatMap_append

@[simp] theorem effectiveAll_ok (s : Selection) (d : Descriptor) (values : Values) :
    s.effectiveAll [(d, .ok values)] = s.effective d.name values := by
  simp [effectiveAll]

end Selection

/-- No fetch failed. -/
def AllAnswered (fetched : List Fetched) : Prop := ∀ f ∈ fetched, f.2.isOk

instance (fetched : List Fetched) : Decidable (AllAnswered fetched) :=
  inferInstanceAs (Decidable (∀ f ∈ fetched, f.2.isOk))

/-- The first of the added keys whose folding already occurred, before all or among the added. -/
def FirstRepeat (held added : List (String × String)) (key : String) : Prop :=
  ∃ before value after, added = before ++ (key, value) :: after ∧
    Distinct (held ++ before) ∧ fold key ∈ foldings (held ++ before)

/-- The failure that comes first when the secrets are fetched and their values are added in order,
and how many secrets were fetched until then. -/
inductive FirstFailure (s : Selection) (fetched : List Fetched) : Nat → LoadError → Prop
  | fetch {front rest : List Fetched} {d : Descriptor} {error : Error}
      (split : fetched = front ++ (d, .error error) :: rest)
      (answered : AllAnswered front) (distinct : Distinct (s.effectiveAll front)) :
      FirstFailure s fetched (front.length + 1) (.store error)
  | key {front rest : List Fetched} {d : Descriptor} {values : Values} {key : String}
      (split : fetched = front ++ (d, .ok values) :: rest)
      (answered : AllAnswered front)
      (repeated : FirstRepeat (s.effectiveAll front) (s.effective d.name values) key) :
      FirstFailure s fetched (front.length + 1) (.duplicateKey key)

theorem AllAnswered.append_ok {front : List Fetched} (h : AllAnswered front) (d : Descriptor)
    (values : Values) : AllAnswered (front ++ [(d, .ok values)]) := by
  intro f hf
  rcases List.mem_append.1 hf with hf | hf
  · exact h f hf
  · rw [List.mem_singleton.1 hf]
    rfl

/-- A key whose folding is there already is a repetition. -/
theorem not_distinct_of_mem {front rest : List (String × String)} {key : String} (value : String)
    (h : fold key ∈ foldings front) : ¬Distinct (front ++ (key, value) :: rest) := by
  rw [Distinct, foldings, List.map_append, List.nodup_append]
  rintro ⟨-, -, hdisjoint⟩
  exact hdisjoint (fold key) h (fold key) (by simp) rfl

/-- Where there is a first repetition keys are not distinct, whatever comes behind. -/
theorem FirstRepeat.not_distinct {held added : List (String × String)} {key : String}
    (h : FirstRepeat held added key) (rest : List (String × String)) :
    ¬Distinct (held ++ (added ++ rest)) := by
  obtain ⟨before, value, after, rfl, -, hmem⟩ := h
  rw [List.append_assoc, List.cons_append, ← List.append_assoc]
  exact not_distinct_of_mem value hmem

/-- Where there is a first failure, something failed or two keys have the same folding. -/
theorem FirstFailure.not_allAnswered_and_distinct {s : Selection} {fetched : List Fetched} {n : Nat}
    {failure : LoadError} (h : FirstFailure s fetched n failure) :
    ¬(AllAnswered fetched ∧ Distinct (s.effectiveAll fetched)) := by
  rintro ⟨hall, hdistinct⟩
  cases h with
  | @fetch front rest d error split _ _ =>
    have herror := hall (d, .error error) (by simp [split])
    simp [Except.isOk, Except.toBool] at herror
  | @key front rest d values key split _ repeated =>
    rw [split, ← List.singleton_append, Selection.effectiveAll_append,
      Selection.effectiveAll_append, Selection.effectiveAll_ok] at hdistinct
    exact repeated.not_distinct _ hdistinct

/-! ## There is only one first failure -/

theorem Snapshot.Distinct.of_append {front rest : List (String × String)}
    (h : Distinct (front ++ rest)) : Distinct front := by
  rw [Distinct, foldings, List.map_append, List.nodup_append] at h
  exact h.1

theorem FirstRepeat.unique {held added : List (String × String)} {key other : String}
    (h : FirstRepeat held added key) (hother : FirstRepeat held added other) : key = other := by
  obtain ⟨before, value, after, hadded, hdistinct, hmem⟩ := h
  obtain ⟨before', value', after', hadded', hdistinct', hmem'⟩ := hother
  -- neither of the two is among what precedes the other
  rcases List.append_eq_append_iff.1 (hadded.symm.trans hadded') with
    ⟨more, hbefore, hafter⟩ | ⟨more, hbefore, hafter⟩
  · cases more with
    | nil => exact congrArg Prod.fst (List.cons.inj hafter).1
    | cons pair more =>
      obtain ⟨rfl, -⟩ := List.cons.inj hafter
      rw [hbefore, ← List.append_assoc] at hdistinct'
      exact absurd hdistinct' (not_distinct_of_mem value hmem)
  · cases more with
    | nil => exact congrArg Prod.fst (List.cons.inj hafter).1.symm
    | cons pair more =>
      obtain ⟨rfl, -⟩ := List.cons.inj hafter
      rw [hbefore, ← List.append_assoc] at hdistinct
      exact absurd hdistinct (not_distinct_of_mem value' hmem')

/-- What precedes the first failure is answered and distinct, and what follows it does not
matter. -/
theorem FirstFailure.exists_split {s : Selection} {fetched : List Fetched} {n : Nat}
    {failure : LoadError} (h : FirstFailure s fetched n failure) :
    ∃ front f rest, fetched = front ++ f :: rest ∧ n = front.length + 1 ∧
      (AllAnswered front ∧ Distinct (s.effectiveAll front)) ∧
      ∀ more, FirstFailure s (front ++ f :: more) n failure := by
  cases h with
  | @fetch front rest d error split answered distinct =>
    exact ⟨front, _, rest, split, rfl, ⟨answered, distinct⟩, fun _ => .fetch rfl answered distinct⟩
  | @key front rest d values key split answered repeated =>
    obtain ⟨before, value, after, hadded, hdistinct, hmem⟩ := repeated
    exact ⟨front, _, rest, split, rfl, ⟨answered, hdistinct.of_append⟩, fun _ =>
      .key rfl answered ⟨before, value, after, hadded, hdistinct, hmem⟩⟩

/-- A first failure comes no later than another one. -/
theorem FirstFailure.le {s : Selection} {fetched : List Fetched} {n m : Nat}
    {failure other : LoadError} (h : FirstFailure s fetched n failure)
    (hother : FirstFailure s fetched m other) : n ≤ m := by
  obtain ⟨front, f, rest, hsplit, rfl, hgood, -⟩ := h.exists_split
  obtain ⟨front', f', rest', hsplit', rfl, -, hmore⟩ := hother.exists_split
  rcases List.append_eq_append_iff.1 (hsplit'.symm.trans hsplit) with
    ⟨more, hfront, hrest⟩ | ⟨more, hfront, -⟩
  · cases more with
    | nil => simp [hfront]
    | cons g more =>
      -- the other one would be a failure among what precedes this one
      obtain ⟨rfl, -⟩ := List.cons.inj hrest
      rw [hfront] at hgood
      exact absurd hgood (hmore more).not_allAnswered_and_distinct
  · simp [hfront]

/-- The failure that comes first is one. -/
theorem FirstFailure.unique {s : Selection} {fetched : List Fetched} {n m : Nat}
    {failure other : LoadError} (h : FirstFailure s fetched n failure)
    (hother : FirstFailure s fetched m other) : n = m ∧ failure = other := by
  have hlength : n = m := Nat.le_antisymm (h.le hother) (hother.le h)
  refine ⟨hlength, ?_⟩
  cases h with
  | @fetch front rest d error split _ _ =>
    cases hother with
    | @fetch front' rest' d' error' split' _ _ =>
      obtain ⟨-, hrest⟩ := List.append_inj (split.symm.trans split') (by simpa using hlength)
      cases hrest
      rfl
    | @key front' rest' d' values key split' _ _ =>
      obtain ⟨-, hrest⟩ := List.append_inj (split.symm.trans split') (by simpa using hlength)
      cases hrest
  | @key front rest d values key split _ repeated =>
    cases hother with
    | @fetch front' rest' d' error split' _ _ =>
      obtain ⟨-, hrest⟩ := List.append_inj (split.symm.trans split') (by simpa using hlength)
      cases hrest
    | @key front' rest' d' values' key' split' _ repeated' =>
      obtain ⟨rfl, hrest⟩ := List.append_inj (split.symm.trans split') (by simpa using hlength)
      cases hrest
      rw [repeated.unique repeated']

/-! ## Adding the values of one secret -/

/-- Either all values are added, or the load fails at the first key that repeats one. -/
theorem Selection.addValues_cases (s : Selection) (name : String) (values : Values)
    {data : Snapshot} {pairs : List (String × String)} (h : data.Holds pairs) :
    (∃ more, s.addValues name data values = .ok more ∧
      more.Holds (pairs ++ s.effective name values)) ∨
    (∃ key, s.addValues name data values = .error (.duplicateKey key) ∧
      FirstRepeat pairs (s.effective name values) key) := by
  induction values generalizing data pairs with
  | nil => exact .inl ⟨data, rfl, by simpa using h⟩
  | cons pair rest ih =>
    obtain ⟨key, value⟩ := pair
    simp only [addValues, effective_cons]
    cases hins : data.insert? (s.entryKey name key) value with
    | none =>
      refine .inr ⟨s.entryKey name key, rfl, [], value, s.effective name rest, rfl, ?_, ?_⟩
      · simpa using h.distinct
      · simpa using h.insert?_eq_none_iff.1 hins
    | some more =>
      rcases ih (h.insert? hins) with ⟨all, hall, hholds⟩ | ⟨again, hagain, hfirst⟩
      · exact .inl ⟨all, hall, by simpa using hholds⟩
      · -- what was just added joins what precedes the repeated key
        obtain ⟨before, later, after, hsplit, hdistinct, hmem⟩ := hfirst
        refine .inr ⟨again, hagain, (s.entryKey name key, value) :: before, later, after,
          ?_, ?_, ?_⟩
        · rw [hsplit, List.cons_append]
        · simpa using hdistinct
        · simpa using hmem

/-! ## Fetching -/

namespace Api

/-- The store answers every request, and its answers are those of `result`. -/
def Answers (api : Api σ) (result : Request → σ → Except Error Values) : Prop :=
  ∀ request w, Patience.toTheEnd.result? (api.fetch request w).1 = some (result request w)

/-- The world behind requests that are made one after the other. -/
def after (api : Api σ) (w : σ) (requests : List Request) : σ :=
  requests.foldl (fun w request => (api.fetch request w).2) w

/-- The same store, with a record of what it is asked, oldest first. -/
def recorded (api : Api σ) : Api (σ × List Request) :=
  ⟨fun request world =>
    let (answer, w) := api.fetch request world.1
    (answer, (w, world.2 ++ [request]))⟩

/-- A store whose answers depend on nothing but the request. -/
def answering (result : Request → Except Error Values) : Api Unit :=
  ⟨fun request => pure (.delayed (result request))⟩

/-- A store that answers by the request alone does so at any time. -/
theorem answers_answering (result : Request → Except Error Values) :
    (answering result).Answers fun request _ => result request :=
  fun _ _ => rfl

/-- A record of the requests does not change the answers. -/
theorem Answers.recorded {api : Api σ} {result : Request → σ → Except Error Values}
    (h : api.Answers result) : api.recorded.Answers fun request world => result request world.1 :=
  fun request world => h request world.1

theorem after_recorded (api : Api σ) (w : σ) (sent requests : List Request) :
    api.recorded.after (w, sent) requests = (api.after w requests, sent ++ requests) := by
  induction requests generalizing w sent with
  | nil => simp [after]
  | cons request rest ih =>
    have hstep := ih (api.fetch request w).2 (sent ++ [request])
    rw [List.append_assoc, List.singleton_append] at hstep
    exact hstep

end Api

namespace Provider

def request (p : Provider σ) (d : Descriptor) : Request := ⟨p.store, d.name, d.metadata⟩

/-- What the declared secrets call for, in order. -/
def requests (p : Provider σ) : List Request := p.selection.toDescriptors.map p.request

/-- The secrets with the results of fetching all of them one after the other. -/
def fetched (p : Provider σ) (result : Request → σ → Except Error Values) :
    σ → List Descriptor → List Fetched
  | _, [] => []
  | w, d :: rest =>
    (d, result (p.request d) w) :: p.fetched result (p.api.fetch (p.request d) w).2 rest

def recorded (p : Provider σ) : Provider (σ × List Request) :=
  ⟨p.store, p.selection, p.api.recorded, p.progress⟩

/-- The requests that a load sends, oldest first. -/
def sent (p : Provider σ) (patience : Patience) (w : σ) : List Request :=
  (p.recorded.load patience (w, [])).2.2

theorem fetchAll_cons (p : Provider σ) (patience : Patience) (data : Snapshot) (d : Descriptor)
    (rest : List Descriptor) (w : σ) :
    p.fetchAll patience data (d :: rest) w =
      match patience.result? (p.api.fetch (p.request d) w).1 with
      | none => (none, (p.api.fetch (p.request d) w).2)
      | some (.error e) => (some (.error (.store e)), (p.api.fetch (p.request d) w).2)
      | some (.ok values) =>
        match p.selection.addValues d.name data values with
        | .error e => (some (.error e), (p.api.fetch (p.request d) w).2)
        | .ok data => p.fetchAll patience data rest (p.api.fetch (p.request d) w).2 := by
  rw [fetchAll]
  simp only [bind, StateT.bind, request]
  obtain ⟨answer, w'⟩ := p.api.fetch ⟨p.store, d.name, d.metadata⟩ w
  cases hresult : patience.result? answer with
  | none => simp only [hresult]; rfl
  | some result =>
    cases result with
    | error e => simp only [hresult]; rfl
    | ok values =>
      simp only [hresult]
      cases p.selection.addValues d.name data values <;> rfl

/-- Either all secrets are fetched and all values added, or the load stops at the first failure;
`front` are the secrets whose values are there already. -/
theorem fetchAll_cases (p : Provider σ) {result : Request → σ → Except Error Values}
    (hr : p.api.Answers result) (ds : List Descriptor) {w : σ} {data : Snapshot}
    {front : List Fetched} (hfront : AllAnswered front)
    (h : data.Holds (p.selection.effectiveAll front)) :
    (∃ s, p.fetchAll .toTheEnd data ds w = (some (.ok s), p.api.after w (ds.map p.request)) ∧
      AllAnswered (front ++ p.fetched result w ds) ∧
      s.Holds (p.selection.effectiveAll (front ++ p.fetched result w ds))) ∨
    (∃ n failure, p.fetchAll .toTheEnd data ds w =
        (some (.error failure), p.api.after w ((ds.map p.request).take n)) ∧
      FirstFailure p.selection (front ++ p.fetched result w ds) (front.length + n) failure) := by
  induction ds generalizing w data front with
  | nil => exact .inl ⟨data, rfl, by simpa [fetched] using hfront, by simpa [fetched] using h⟩
  | cons d rest ih =>
    rw [fetchAll_cons, hr]
    cases hresult : result (p.request d) w with
    | error e =>
      exact .inr ⟨1, .store e, rfl,
        .fetch (by rw [fetched, hresult]) hfront h.distinct⟩
    | ok values =>
      rcases p.selection.addValues_cases d.name values h with
        ⟨more, hmore, hholds⟩ | ⟨key, hkey, hrepeat⟩
      · -- the secret moves over to those that are done
        have hsplit : front ++ p.fetched result w (d :: rest) =
            (front ++ [(d, .ok values)]) ++
              p.fetched result (p.api.fetch (p.request d) w).2 rest := by
          rw [fetched, hresult, List.append_assoc, List.singleton_append]
        rw [← Selection.effectiveAll_ok, ← Selection.effectiveAll_append] at hholds
        rw [hsplit]
        simp only [hmore]
        rcases ih (hfront.append_ok d values) hholds with
          ⟨s, hs, hall, hlast⟩ | ⟨n, failure, hfail, hfirst⟩
        · exact .inl ⟨s, hs, hall, hlast⟩
        · refine .inr ⟨n + 1, failure, hfail, ?_⟩
          rw [List.length_append, List.length_singleton, Nat.add_assoc, Nat.add_comm 1] at hfirst
          exact hfirst
      · simp only [hkey]
        exact .inr ⟨1, .duplicateKey key, rfl,
          .key (by rw [fetched, hresult]) hfront hrepeat⟩

/-! ## The record changes nothing -/

theorem fetched_recorded (p : Provider σ) (result : Request → σ → Except Error Values)
    (w : σ) (sent : List Request) (ds : List Descriptor) :
    p.recorded.fetched (fun request world => result request world.1) (w, sent) ds =
      p.fetched result w ds := by
  induction ds generalizing w sent with
  | nil => rfl
  | cons d rest ih => exact congrArg _ (ih _ _)

theorem recorded_selection (p : Provider σ) : p.recorded.selection = p.selection := rfl

theorem fetch_recorded (p : Provider σ) (d : Descriptor) (w : σ) (sent : List Request) :
    p.recorded.api.fetch (p.recorded.request d) (w, sent) =
      ((p.api.fetch (p.request d) w).1,
        ((p.api.fetch (p.request d) w).2, sent ++ [p.request d])) := rfl

theorem fetchAll_recorded (p : Provider σ) (patience : Patience) (data : Snapshot)
    (ds : List Descriptor) (w : σ) (sent : List Request) :
    (p.recorded.fetchAll patience data ds (w, sent)).1 = (p.fetchAll patience data ds w).1 := by
  induction ds generalizing data w sent with
  | nil => rfl
  | cons d rest ih =>
    rw [fetchAll_cons, fetchAll_cons, fetch_recorded]
    cases patience.result? (p.api.fetch (p.request d) w).1 with
    | none => rfl
    | some result =>
      cases result with
      | error e => rfl
      | ok values =>
        simp only [recorded_selection]
        cases p.selection.addValues d.name data values with
        | error e => rfl
        | ok more => exact ih _ _ _

/-! ## The whole load -/

/-- What becomes of a provider by a load with this result. -/
def behind (p : Provider σ) (result : Option (Except LoadError Snapshot)) : Provider σ :=
  { p with progress := match result with
    | none => .loading
    | some (.ok snapshot) => .loaded snapshot
    | some (.error _) => .failed }

/-- What a load leaves is published exactly if the load succeeded. -/
theorem snapshot?_behind (p : Provider σ) (result : Option (Except LoadError Snapshot))
    (s : Snapshot) : (p.behind result).snapshot? = some s ↔ result = some (.ok s) := by
  cases result with
  | none => exact iff_of_false nofun nofun
  | some result =>
    cases result with
    | error e => exact iff_of_false nofun nofun
    | ok t =>
      constructor
      · rintro ⟨⟩
        rfl
      · rintro ⟨⟩
        rfl

/-- The first load fetches all secrets, and its result is kept. -/
theorem load_of_unloaded (p : Provider σ) (hp : p.progress = .unloaded) (patience : Patience)
    (w : σ) :
    p.load patience w =
      (((p.fetchAll patience .empty p.selection.toDescriptors w).1,
        p.behind (p.fetchAll patience .empty p.selection.toDescriptors w).1),
        (p.fetchAll patience .empty p.selection.toDescriptors w).2) := by
  rw [load, hp]
  rfl

/-- What is published is what the load comes to. -/
theorem snapshot?_load {p : Provider σ} (hp : p.progress = .unloaded) (patience : Patience) (w : σ)
    (s : Snapshot) :
    (p.load patience w).1.2.snapshot? = some s ↔ (p.load patience w).1.1 = some (.ok s) := by
  rw [p.load_of_unloaded hp]
  exact p.snapshot?_behind _ s

/-- `fetchAll_cases` for a load from the start, with the requests that it sends. -/
theorem load_cases (p : Provider σ) (hp : p.progress = .unloaded)
    {result : Request → σ → Except Error Values} (hr : p.api.Answers result) (w : σ) :
    (∃ s, (p.load .toTheEnd w).1 = (some (.ok s), { p with progress := .loaded s }) ∧
      p.sent .toTheEnd w = p.requests ∧
      AllAnswered (p.fetched result w p.selection.toDescriptors) ∧
      s.Holds (p.selection.effectiveAll (p.fetched result w p.selection.toDescriptors))) ∨
    (∃ n failure, (p.load .toTheEnd w).1 = (some (.error failure), { p with progress := .failed }) ∧
      p.sent .toTheEnd w = p.requests.take n ∧
      FirstFailure p.selection (p.fetched result w p.selection.toDescriptors) n failure) := by
  have hfetch := p.fetchAll_recorded .toTheEnd .empty p.selection.toDescriptors w []
  have hnone : AllAnswered [] := by simp [AllAnswered]
  have hrun := p.recorded.fetchAll_cases hr.recorded p.selection.toDescriptors (w := (w, []))
    hnone Holds.empty
  rw [List.nil_append, fetched_recorded] at hrun
  rw [sent, p.recorded.load_of_unloaded hp, p.load_of_unloaded hp, recorded_selection, ← hfetch]
  rcases hrun with ⟨s, hs, hall, hholds⟩ | ⟨n, failure, hfail, hfirst⟩
  · refine .inl ⟨s, ?_, ?_, hall, hholds⟩
    · rw [hs]; rfl
    · rw [hs]; exact congrArg Prod.snd (p.api.after_recorded w [] p.requests)
  · rw [List.length_nil, Nat.zero_add] at hfirst
    refine .inr ⟨n, failure, ?_, ?_, hfirst⟩
    · rw [hfail]; rfl
    · rw [hfail]; exact congrArg Prod.snd (p.api.after_recorded w [] (p.requests.take n))

/-- A load that runs to its end succeeds if and only if every fetch does and no two keys have the
same folding.  Then the snapshot lists exactly the values under their keys, and it is published.
Otherwise the load ends with the one failure that comes first, and nothing is published.  What is
sent are the requests of the secrets up to the one at which the load ends. -/
theorem load_toTheEnd (p : Provider σ) (hp : p.progress = .unloaded)
    {result : Request → σ → Except Error Values} (hr : p.api.Answers result) (w : σ) :
    let fetched := p.fetched result w p.selection.toDescriptors
    let entries := p.selection.effectiveAll fetched
    let outcome := (p.load .toTheEnd w).1
    ((∃ s, outcome.1 = some (.ok s)) ↔ AllAnswered fetched ∧ Distinct entries) ∧
    (∀ s, outcome.1 = some (.ok s) →
      s.Lists entries ∧ outcome.2.snapshot? = some s ∧ p.sent .toTheEnd w = p.requests) ∧
    ((¬∃ s, outcome.1 = some (.ok s)) → ∃ n failure,
      FirstFailure p.selection fetched n failure ∧
      (∀ m other, FirstFailure p.selection fetched m other → m = n ∧ other = failure) ∧
      outcome.1 = some (.error failure) ∧ outcome.2.snapshot? = none ∧
      p.sent .toTheEnd w = p.requests.take n) := by
  intro fetched entries outcome
  rcases p.load_cases hp hr w with
    ⟨s, hload, hsent, hall, hholds⟩ | ⟨n, failure, hload, hsent, hfirst⟩
  · have houtcome : outcome = _ := hload
    rw [houtcome]
    refine ⟨iff_of_true ⟨s, rfl⟩ ⟨hall, hholds.distinct⟩, fun t ht => ?_, fun hnone => ?_⟩
    · obtain rfl : s = t := by simpa using ht
      exact ⟨hholds.lists, rfl, hsent⟩
    · exact absurd ⟨s, rfl⟩ hnone
  · have houtcome : outcome = _ := hload
    rw [houtcome]
    refine ⟨iff_of_false (by simp) hfirst.not_allAnswered_and_distinct, fun t ht => ?_, fun _ => ?_⟩
    · simp at ht
    · exact ⟨n, failure, hfirst, fun _ _ h => h.unique hfirst, rfl, rfl, hsent⟩

/-- Two secrets by name, the second with two values. -/
theorem load_toTheEnd_two_names :
    let result : Request → Except Error Values := fun request =>
      if request.name = "Db--Password" then .ok [("_default", "pw")]
      else .ok [("url", "u"), ("_default", "a")]
    let p : Provider Unit :=
      ⟨"vault", .named ["Db--Password", "Api"] .standard, .answering result, .unloaded⟩
    p.progress = .unloaded ∧ p.api.Answers (fun request _ => result request) ∧
      ∃ s, (p.load .toTheEnd ()).1.1 = some (.ok s) ∧
        s.Lists [("Db:Password", "pw"), ("url", "u"), ("Api", "a")] ∧
        p.sent .toTheEnd () = [⟨"vault", "Db--Password", []⟩, ⟨"vault", "Api", []⟩] := by
  intro result p
  have hr : p.api.Answers (fun request _ => result request) := Api.answers_answering result
  have hload := load_toTheEnd p rfl hr ()
  have hall : AllAnswered
      (p.fetched (fun request _ => result request) () p.selection.toDescriptors) := by
    decide
  have hdistinct : Distinct (p.selection.effectiveAll
      (p.fetched (fun request _ => result request) () p.selection.toDescriptors)) := by
    decide
  obtain ⟨s, hs⟩ := hload.1.2 ⟨hall, hdistinct⟩
  obtain ⟨hlists, -, hsent⟩ := hload.2.1 s hs
  exact ⟨rfl, hr, s, hs, hlists, hsent⟩

end Provider

/-! ## Snapshots of successful loads -/

/-- The snapshot was returned by a load, which may have been given up if it had had to wait. -/
def Snapshot.Loaded (s : Snapshot) : Prop :=
  ∃ (σ : Type) (p : Provider σ) (patience : Patience) (w : σ),
    (p.load patience w).1.1 = some (.ok s)

/-- What is loaded is held by a snapshot that was built entry by entry. -/
theorem Provider.holds_of_fetchAll (p : Provider σ) (patience : Patience) (ds : List Descriptor)
    {w : σ} {data s : Snapshot} (h : ∃ pairs, data.Holds pairs)
    (hs : (p.fetchAll patience data ds w).1 = some (.ok s)) : ∃ pairs, s.Holds pairs := by
  induction ds generalizing w data with
  | nil =>
    have hfetched : some (Except.ok data) = some (.ok s) := hs
    cases hfetched
    exact h
  | cons d rest ih =>
    obtain ⟨pairs, hpairs⟩ := h
    rw [fetchAll_cons] at hs
    cases hresult : patience.result? (p.api.fetch (p.request d) w).1 with
    | none => simp [hresult] at hs
    | some result =>
      cases result with
      | error e => simp [hresult] at hs
      | ok values =>
        rcases p.selection.addValues_cases d.name values hpairs with
          ⟨more, hmore, hholds⟩ | ⟨key, hkey, -⟩
        · simp only [hresult, hmore] at hs
          exact ih ⟨_, hholds⟩ hs
        · simp [hresult, hkey] at hs

/-- A single secret that is called like the key of single values keeps the keys of its values. -/
theorem Selection.effective_singleValueKey (ds : List Descriptor) (values : Values) :
    (Selection.described ds).effective singleValueKey values = values := by
  have hkey (key : String) : (Selection.described ds).entryKey singleValueKey key = key := by
    simp only [entryKey, mapKey]
    split
    · next heq => exact heq.symm
    · rfl
  simp [effective, hkey]

/-- Every snapshot that was built entry by entry can be loaded. -/
theorem Snapshot.Holds.loaded {s : Snapshot} {pairs : List (String × String)} (h : s.Holds pairs) :
    s.Loaded := by
  let p : Provider Unit :=
    ⟨"store", .described [⟨singleValueKey, []⟩], .answering fun _ => .ok pairs, .unloaded⟩
  have hr : p.api.Answers fun _ _ => .ok pairs := Api.answers_answering _
  have heffective : p.selection.effectiveAll
      (p.fetched (fun _ _ => .ok pairs) () p.selection.toDescriptors) = pairs := by
    change p.selection.effectiveAll [(⟨singleValueKey, []⟩, .ok pairs)] = pairs
    rw [Selection.effectiveAll_ok]
    exact Selection.effective_singleValueKey _ pairs
  rcases p.load_cases rfl hr () with ⟨t, hload, -, -, hholds⟩ | ⟨n, failure, -, -, hfirst⟩
  · rw [heffective] at hholds
    obtain rfl : t = s := hholds.eq_of_perm h (.refl _)
    exact ⟨Unit, p, .toTheEnd, (), congrArg Prod.fst hload⟩
  · refine absurd ⟨?_, ?_⟩ hfirst.not_allAnswered_and_distinct
    · intro f hf
      rw [List.mem_singleton.1 hf]
      rfl
    · rw [heffective]
      exact h.distinct

/-- Loads return all snapshots that are built by adding keys and values, and no other. -/
theorem Snapshot.loaded_iff {s : Snapshot} : s.Loaded ↔ ∃ pairs, s.Holds pairs := by
  constructor
  · rintro ⟨σ, p, patience, w, hs⟩
    cases hp : p.progress with
    | unloaded =>
      rw [p.load_of_unloaded hp] at hs
      exact p.holds_of_fetchAll patience _ ⟨[], Holds.empty⟩ hs
    | loading | loaded | failed =>
      have hrefused : (p.load patience w).1.1 = some (.error .alreadyLoaded) := by
        rw [Provider.load, hp]
        rfl
      cases hrefused.symm.trans hs
  · rintro ⟨pairs, h⟩
    exact h.loaded

/-- In a loaded snapshot every entry stands under its folded key. -/
theorem Snapshot.Loaded.folded_eq {s : Snapshot} (hs : s.Loaded) {e : Entry} (he : e ∈ s.entries) :
    e.folded = fold e.key := by
  obtain ⟨pairs, h⟩ := loaded_iff.1 hs
  exact h.folded_eq he

/-- The configuration with a single key. -/
def Snapshot.single (key value : String) : Snapshot :=
  ⟨[entryOf (key, value)], List.pairwise_singleton _ _⟩

theorem Snapshot.loaded_single (key value : String) : (single key value).Loaded :=
  (show (single key value).Holds [(key, value)] from .refl _).loaded

end Sidecar.Secret
