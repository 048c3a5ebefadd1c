import Mathlib.Data.List.Forall2
import Sidecar.Error

/-!
# Running operations

An operation that is done after another one starts in the state that the first one left, unless the
first one failed.

In a run that succeeds every part has succeeded (`exists_of_bind_eq_ok`), and nothing but a failure
keeps what comes next from being done (`bind_of_ok`, `bind_of_error`).
-/

namespace Sidecar

/-! ## Results -/

namespace Result

variable {α β ε : Type} {x : Except ε α} {b : β}

/-- A success has come through every step before it. -/
theorem exists_of_bind_eq_ok {next : α → Except ε β} (h : x >>= next = .ok b) :
    ∃ a, x = .ok a ∧ next a = .ok b := by
  cases x with
  | ok a => exact ⟨a, rfl, h⟩
  | error e => cases h

theorem bind_eq_ok_iff {next : α → Except ε β} :
    x >>= next = .ok b ↔ ∃ a, x = .ok a ∧ next a = .ok b := by
  refine ⟨exists_of_bind_eq_ok, ?_⟩
  rintro ⟨a, rfl, h⟩
  exact h

/-- What is made of a result is made of a success. -/
theorem exists_of_map_eq_ok {f : α → β} (h : x.map f = .ok b) : ∃ a, x = .ok a ∧ f a = b := by
  cases x with
  | ok a => exact ⟨a, rfl, Except.ok.inj h⟩
  | error e => cases h

theorem eq_ok_of_mapError {δ : Type} {f : ε → δ} {a : α} (h : x.mapError f = .ok a) :
    x = .ok a := by
  cases x with
  | ok => cases h; rfl
  | error => cases h

theorem mapError_of_toOption {δ : Type} {a : α} (h : x.toOption = some a) (f : ε → δ) :
    x.mapError f = .ok a := by
  cases x with
  | ok => cases h; rfl
  | error => cases h

section List

variable {f : α → Except ε β} {as : List α}

/-- A list is converted exactly if every element is. -/
theorem mapM_eq_ok_iff {bs : List β} :
    as.mapM f = .ok bs ↔ List.Forall₂ (fun a b => f a = .ok b) as bs := by
  induction as generalizing bs with
  | nil =>
    rw [List.forall₂_nil_left_iff]
    exact ⟨fun h => (Except.ok.inj h).symm, fun h => congrArg Except.ok h.symm⟩
  | cons a as ih =>
    rw [List.mapM_cons, List.forall₂_cons_left_iff]
    constructor
    · intro h
      obtain ⟨b, hb, h⟩ := exists_of_bind_eq_ok h
      obtain ⟨bs, hbs, h⟩ := exists_of_bind_eq_ok h
      exact ⟨b, bs, hb, ih.1 hbs, (Except.ok.inj h).symm⟩
    · rintro ⟨b, bs, hb, hbs, rfl⟩
      rw [hb, ih.2 hbs]
      rfl

/-- All come to something if each of them does. -/
theorem exists_mapM_eq_ok_iff : (∃ bs, as.mapM f = .ok bs) ↔ ∀ a ∈ as, ∃ b, f a = .ok b := by
  simp only [mapM_eq_ok_iff]
  induction as with
  | nil => simp
  | cons a as ih =>
    rw [List.forall_mem_cons, ← ih]
    constructor
    · rintro ⟨_, _ | ⟨hb, hbs⟩⟩
      exact ⟨⟨_, hb⟩, ⟨_, hbs⟩⟩
    · rintro ⟨⟨b, hb⟩, ⟨bs, hbs⟩⟩
      exact ⟨b :: bs, .cons hb hbs⟩

end List

end Result

/-! ## Operations -/

namespace Action

variable {σ α β : Type} {s t : σ}

section Bind

-- these hold for failures of any kind, those of the tool included
variable {ε : Type} {action : ExceptT ε (StateM σ) α} {next : α → ExceptT ε (StateM σ) β}
  {result : Except ε α}

/-- A success is handed on, together with the state that it leaves. -/
theorem bind_of_ok {a : α} (h : action s = (.ok a, t)) : (action >>= next) s = next a t := by
  simp only [bind, ExceptT.bind, ExceptT.mk, StateT.bind, h, ExceptT.bindCont]

/-- After a failure nothing more is done. -/
theorem bind_of_error {e : ε} (h : action s = (.error e, t)) :
    (action >>= next) s = (.error e, t) := by
  simp only [bind, ExceptT.bind, ExceptT.mk, StateT.bind, h, ExceptT.bindCont]
  rfl

/-- A success has come through the action before it, and started from the state that this left. -/
theorem exists_of_bind_eq_ok {b : β} (h : (action >>= next) s = (.ok b, t)) :
    ∃ a s', action s = (.ok a, s') ∧ next a s' = (.ok b, t) := by
  rcases haction : action s with ⟨result, s'⟩
  cases result with
  | ok a =>
    rw [bind_of_ok haction] at h
    exact ⟨a, s', rfl, h⟩
  | error e =>
    rw [bind_of_error haction] at h
    cases h

/-- A check that succeeds leaves the state as it is. -/
theorem bind_lift_of_ok {a : α} (h : result = .ok a) :
    ((liftM result : ExceptT ε (StateM σ) α) >>= next) s = next a s :=
  bind_of_ok (h ▸ rfl)

theorem bind_lift_of_error {e : ε} (h : result = .error e) :
    ((liftM result : ExceptT ε (StateM σ) α) >>= next) s = (.error e, s) :=
  bind_of_error (h ▸ rfl)

/-- After an operation that cannot fail. -/
theorem bind_lift_state (f : StateM σ α) :
    ((liftM f : ExceptT ε (StateM σ) α) >>= next) s = next (f s).1 (f s).2 :=
  bind_of_ok rfl

theorem exists_of_bind_lift_eq_ok {b : β}
    (h : ((liftM result : ExceptT ε (StateM σ) α) >>= next) s = (.ok b, t)) :
    ∃ a, result = .ok a ∧ next a s = (.ok b, t) := by
  cases hresult : result with
  | ok a =>
    rw [bind_lift_of_ok hresult] at h
    exact ⟨a, rfl, h⟩
  | error e =>
    rw [bind_lift_of_error hresult] at h
    cases h

theorem bind_snd (hnext : ∀ a s, (next a s).2 = s) : ((action >>= next) s).2 = (action s).2 := by
  rcases haction : action s with ⟨result, s'⟩
  cases result with
  | ok a => rw [bind_of_ok haction, hnext]
  | error e => rw [bind_of_error haction]

end Bind

variable {action : Action σ α} {next : α → Action σ β}

/-- A result that depends on the state only through that of the first action. -/
theorem bind_fst_congr (h : (action s).1 = (action t).1)
    (hnext : ∀ a s t, (next a s).1 = (next a t).1) :
    ((action >>= next) s).1 = ((action >>= next) t).1 := by
  rcases hs : action s with ⟨result, s'⟩
  rcases ht : action t with ⟨result', t'⟩
  rw [hs, ht] at h
  cases h
  cases result with
  | ok a =>
    rw [bind_of_ok hs, bind_of_ok ht]
    exact hnext a s' t'
  | error e => rw [bind_of_error hs, bind_of_error ht]

/-! ## Checks that come first -/

variable {result : Except Error α}

theorem lift_snd (s : σ) : ((liftM result : Action σ α) s).2 = s := rfl

theorem forM_snd {check : α → Action σ PUnit} (hcheck : ∀ a s, (check a s).2 = s) {as : List α}
    (s : σ) : ((as.forM check : Action σ PUnit) s).2 = s := by
  induction as generalizing s with
  | nil => rfl
  | cons a as ih =>
    exact (bind_snd fun _ => ih).trans (hcheck a s)

/-- Checks need no state, one by one or all at once. -/
theorem forM_lift {check : α → Except Error PUnit} (as : List α) :
    (as.forM fun a => liftM (check a) : Action σ PUnit) = liftM (as.forM check) := by
  induction as with
  | nil => rfl
  | cons a as ih =>
    change (liftM (check a) >>= fun _ => as.forM fun a => liftM (check a)) =
      liftM (check a >>= fun _ => as.forM check)
    rw [ih]
    funext s
    cases check a with
    | ok => rfl
    | error => rfl

end Action

end Sidecar
