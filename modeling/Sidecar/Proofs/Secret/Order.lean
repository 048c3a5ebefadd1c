import Sidecar.Proofs.Secret.Load

/-!
# The order of the secrets

Where a store answers every request in its own way whatever it was asked before, the order in which
secrets are declared decides only which failure comes first.  Whether a load succeeds depends on the
secrets as a collection, and so does the snapshot, because entries are held in an order of their
own.

The main result is `load_reordered`.
-/

namespace Sidecar.Secret

open Snapshot

variable {σ : Type}

namespace Selection

/-- The same secrets in another order. -/
inductive Reordered : Selection → Selection → Prop
  | described {ds es : List Descriptor} (perm : ds.Perm es) :
      Reordered (.described ds) (.described es)
  | named {names others : List String} (perm : names.Perm others) (manager : Manager) :
      Reordered (.named names manager) (.named others manager)

variable {s t : Selection}

/-- The secrets are the same, in another order. -/
theorem Reordered.perm (h : s.Reordered t) : s.toDescriptors.Perm t.toDescriptors := by
  cases h with
  | described perm => exact perm
  | named perm manager => exact perm.map _

theorem Reordered.symm (h : s.Reordered t) : t.Reordered s := by
  cases h with
  | described perm => exact .described perm.symm
  | named perm manager => exact .named perm.symm manager

/-- Keys are made in the same way, whatever the order. -/
theorem Reordered.effective_eq (h : s.Reordered t) : s.effective = t.effective := by
  cases h with
  | described | named => rfl

end Selection

/-- What comes of a fetch, if the load waits for it, depends on the request alone. -/
def Api.AnswersBy (api : Api σ) (patience : Patience)
    (answer : Request → Option (Except Error Values)) : Prop :=
  ∀ request w, patience.result? (api.fetch request w).1 = answer request

theorem Api.answersBy_answering (result : Request → Except Error Values) :
    (answering result).AnswersBy .toTheEnd fun request => some (result request) :=
  fun _ _ => rfl

namespace Provider

variable {patience : Patience} {answer : Request → Option (Except Error Values)}

/-- The secret can be fetched. -/
def Answered (p : Provider σ) (answer : Request → Option (Except Error Values))
    (d : Descriptor) : Prop :=
  ∃ values, answer (p.request d) = some (.ok values)

/-- The keys and values that a secret adds to the configuration. -/
def adds (p : Provider σ) (answer : Request → Option (Except Error Values))
    (d : Descriptor) : List (String × String) :=
  match answer (p.request d) with
  | some (.ok values) => p.selection.effective d.name values
  | _ => []

theorem not_answered {p : Provider σ} {d : Descriptor}
    (h : ∀ values, answer (p.request d) ≠ some (.ok values)) : ¬p.Answered answer d :=
  fun ⟨values, hvalues⟩ => h values hvalues

theorem adds_of_eq_ok {p : Provider σ} {d : Descriptor} {values : Values}
    (h : answer (p.request d) = some (.ok values)) :
    p.adds answer d = p.selection.effective d.name values := by
  rw [adds, h]

/-- Fetching succeeds exactly if every secret can be fetched and there is a snapshot with what all
of them add, which means that no two of the keys are one; that snapshot is the result. -/
theorem fetchAll_eq_ok_iff (p : Provider σ) (ha : p.api.AnswersBy patience answer)
    (ds : List Descriptor) (w : σ) {data : Snapshot} {pairs : List (String × String)}
    (h : data.Holds pairs) (s : Snapshot) :
    (p.fetchAll patience data ds w).1 = some (.ok s) ↔
      (∀ d ∈ ds, p.Answered answer d) ∧ s.Holds (pairs ++ ds.flatMap (p.adds answer)) := by
  induction ds generalizing w data pairs with
  | nil =>
    rw [List.flatMap_nil, List.append_nil]
    constructor
    · rintro ⟨⟩
      exact ⟨nofun, h⟩
    · rintro ⟨-, hs⟩
      rw [h.eq_of_perm hs (.refl _)]
      rfl
  | cons d rest ih =>
    rw [fetchAll_cons, ha, List.forall_mem_cons, List.flatMap_cons, ← List.append_assoc]
    cases hanswer : answer (p.request d) with
    | none => exact iff_of_false nofun fun hs => not_answered (by simp [hanswer]) hs.1.1
    | some result =>
      cases result with
      | error e => exact iff_of_false nofun fun hs => not_answered (by simp [hanswer]) hs.1.1
      | ok values =>
        rw [adds_of_eq_ok hanswer, and_iff_right (show p.Answered answer d from ⟨values, hanswer⟩)]
        rcases p.selection.addValues_cases d.name values h with
          ⟨more, hmore, hholds⟩ | ⟨key, hkey, hrepeat⟩
        · simp only [hmore]
          exact ih _ hholds
        · simp only [hkey]
          refine iff_of_false nofun fun hs => ?_
          -- a snapshot with all of it would have two entries for the repeated key
          rw [List.append_assoc] at hs
          exact hrepeat.not_distinct _ hs.2.distinct

/-! ## The collection of secrets -/

/-- Every secret can be fetched, and the snapshot holds what all of them add. -/
structure ComesTo (p : Provider σ) (answer : Request → Option (Except Error Values))
    (s : Snapshot) : Prop where
  answered : ∀ d ∈ p.selection.toDescriptors, p.Answered answer d
  holds : s.Holds (p.selection.toDescriptors.flatMap (p.adds answer))

/-- Whether a load succeeds, and with what, depends on the secrets and their answers. -/
theorem load_eq_ok_iff (p : Provider σ) (hp : p.progress = .unloaded)
    (ha : p.api.AnswersBy patience answer) (w : σ) (s : Snapshot) :
    (p.load patience w).1.1 = some (.ok s) ↔ p.ComesTo answer s := by
  rw [load_of_unloaded p hp]
  refine (p.fetchAll_eq_ok_iff ha _ w Holds.empty s).trans ⟨fun h => ⟨h.1, h.2⟩, fun h => ?_⟩
  exact ⟨h.answered, h.holds⟩

/-- What a load comes to does not depend on the order of the secrets. -/
theorem ComesTo.reordered {p : Provider σ} {s : Snapshot} (hs : p.ComesTo answer s) {t : Selection}
    (h : p.selection.Reordered t) : ComesTo { p with selection := t } answer s := by
  have hadds : p.adds answer = adds { p with selection := t } answer := by
    funext d
    rw [adds, adds, h.effective_eq]
    rfl
  constructor
  case answered => exact fun d hd => hs.answered d (h.perm.mem_iff.2 hd)
  case holds =>
    rw [← hadds]
    exact hs.holds.trans ((h.perm.flatMap_right _).map entryOf)

/-- Where answers depend on nothing but the request, a load comes to a snapshot exactly if every
secret can be fetched and the snapshot holds what they add.  With the secrets in another order it
therefore comes to the same snapshot, or to none as before, and the same is published; the worlds in
which the two loads begin do not matter. -/
theorem load_reordered (p : Provider σ) (hp : p.progress = .unloaded) {t : Selection}
    (h : p.selection.Reordered t) (ha : p.api.AnswersBy patience answer) (w w' : σ) :
    let q : Provider σ := { p with selection := t }
    (∀ s, (p.load patience w).1.1 = some (.ok s) ↔ p.ComesTo answer s) ∧
    (∀ s, (p.load patience w).1.1 = some (.ok s) ↔ (q.load patience w').1.1 = some (.ok s)) ∧
    (p.load patience w).1.2.snapshot? = (q.load patience w').1.2.snapshot? := by
  intro q
  have hq : q.progress = .unloaded := hp
  have hresult (s : Snapshot) :
      (p.load patience w).1.1 = some (.ok s) ↔ (q.load patience w').1.1 = some (.ok s) := by
    rw [p.load_eq_ok_iff hp ha, q.load_eq_ok_iff hq ha]
    exact ⟨fun hs => hs.reordered h, fun hs => hs.reordered h.symm⟩
  refine ⟨p.load_eq_ok_iff hp ha w, hresult, Option.ext fun s => ?_⟩
  rw [snapshot?_load hp, snapshot?_load hq]
  exact hresult s

/-- Three keys from two secrets by name, in either order. -/
theorem load_reordered_two_names :
    let result : Request → Except Error Values := fun request =>
      if request.name = "Db--Password" then .ok [("_default", "pw")]
      else .ok [("url", "u"), ("_default", "a")]
    let p : Provider Unit :=
      ⟨"vault", .named ["Db--Password", "Api"] .standard, .answering result, .unloaded⟩
    let q : Provider Unit := { p with selection := .named ["Api", "Db--Password"] .standard }
    p.progress = .unloaded ∧ p.selection.Reordered q.selection ∧
      p.api.AnswersBy .toTheEnd (fun request => some (result request)) ∧
      ∃ s, (p.load .toTheEnd ()).1.1 = some (.ok s) ∧ (q.load .toTheEnd ()).1.1 = some (.ok s) ∧
        s.Lists [("Db:Password", "pw"), ("url", "u"), ("Api", "a")] := by
  intro result p q
  have hreordered : p.selection.Reordered (.named ["Api", "Db--Password"] .standard) :=
    .named (.swap _ _ _) _
  have ha : p.api.AnswersBy .toTheEnd fun request => some (result request) :=
    Api.answersBy_answering result
  have hboth := (load_reordered p rfl hreordered ha () ()).2.1
  have hall : AllAnswered
      (p.fetched (fun request _ => result request) () p.selection.toDescriptors) := by
    decide
  have hdistinct : Distinct (p.selection.effectiveAll
      (p.fetched (fun request _ => result request) () p.selection.toDescriptors)) := by
    decide
  rcases p.load_cases rfl (Api.answers_answering result) () with
    ⟨s, hload, -, -, hholds⟩ | ⟨n, failure, -, -, hfirst⟩
  · have hs : (p.load .toTheEnd ()).1.1 = some (.ok s) := congrArg Prod.fst hload
    have hother : (q.load .toTheEnd ()).1.1 = some (.ok s) := by
      rw [← hboth]
      exact hs
    exact ⟨rfl, hreordered, ha, s, hs, hother, hholds.lists⟩
  · exact absurd ⟨hall, hdistinct⟩ hfirst.not_allAnswered_and_distinct

end Provider

end Sidecar.Secret
