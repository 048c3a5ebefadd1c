import Mathlib.Data.List.Infix
import Sidecar.Secret.Manager

/-!
# Dashes in names

Two dashes in the name of a secret stand for a delimiter in its key.  The scan leaves no two dashes
next to each other, so that there is nothing left for a second one.  A name without delimiters can
be read off its key, whatever runs of dashes are in it: where a run is odd, it is the last dash that
stays.

The main result is `standard_key_restores`.  Statements about the scan are proved with
`delimitDashes_induction`, which follows its steps.
-/

namespace Sidecar.Secret.Manager

variable {s t : List Char}

/-- Two dashes next to each other. -/
def dashes : List Char := ['-', '-']

/-- Each delimiter becomes two dashes. -/
def restoreDashes (s : List Char) : List Char := s.flatMap fun c => if c = ':' then dashes else [c]

/-! ## One step of the scan -/

/-- A text starts with two dashes, or the scan takes one character. -/
theorem dashes_prefix_iff : dashes <+: s ↔ ∃ rest, s = '-' :: '-' :: rest := by
  constructor
  · rintro ⟨rest, rfl⟩
    exact ⟨rest, rfl⟩
  · rintro ⟨rest, rfl⟩
    exact ⟨rest, rfl⟩

theorem delimitDashes_dashes (rest : List Char) :
    delimitDashes (dashes ++ rest) = ':' :: delimitDashes rest := rfl

theorem delimitDashes_cons {c : Char} (h : ¬dashes <+: c :: s) :
    delimitDashes (c :: s) = c :: delimitDashes s := by
  rw [delimitDashes]
  intro rest hc hs
  exact h (dashes_prefix_iff.2 ⟨rest, by rw [hc, hs]⟩)

/-- The scan takes two dashes off the front, or else one character. -/
theorem delimitDashes_induction {P : List Char → Prop} (nil : P [])
    (dashes : ∀ rest, P rest → P (dashes ++ rest))
    (cons : ∀ c rest, ¬Manager.dashes <+: c :: rest → P rest → P (c :: rest)) (s : List Char) :
    P s := by
  fun_induction delimitDashes s with
  | case1 rest ih => exact dashes rest ih
  | case2 c rest hne ih =>
    apply cons c rest _ ih
    rw [dashes_prefix_iff]
    rintro ⟨more, h⟩
    cases h
    exact hne more rfl rfl
  | case3 => exact nil

/-! ## What is left -/

/-- The scan writes no dash in front. -/
theorem head?_delimitDashes (h : (delimitDashes s).head? = some '-') : s.head? = some '-' := by
  induction s using delimitDashes_induction with
  | nil => exact h
  | dashes rest => rfl
  | cons c rest hc =>
    rw [delimitDashes_cons hc] at h
    exact h

/-- No two dashes are left next to each other. -/
theorem not_dashes_infix_delimitDashes (s : List Char) : ¬dashes <:+: delimitDashes s := by
  induction s using delimitDashes_induction with
  | nil => simp [delimitDashes, dashes]
  | dashes rest ih =>
    rw [delimitDashes_dashes, List.infix_cons_iff, not_or]
    exact ⟨by simp [dashes], ih⟩
  | cons c rest hc ih =>
    rw [delimitDashes_cons hc, List.infix_cons_iff, not_or]
    refine ⟨?_, ih⟩
    rw [dashes_prefix_iff]
    rintro ⟨more, hmore⟩
    obtain ⟨rfl, hrest⟩ := List.cons.inj hmore
    -- a second dash would have been there before the scan
    have hhead : rest.head? = some '-' := head?_delimitDashes (by rw [hrest]; rfl)
    obtain ⟨tail, rfl⟩ := List.head?_eq_some_iff.1 hhead
    exact hc (dashes_prefix_iff.2 ⟨tail, rfl⟩)

theorem delimitDashes_eq_self (h : ¬dashes <:+: s) : delimitDashes s = s := by
  induction s with
  | nil => rfl
  | cons c s ih =>
    rw [List.infix_cons_iff, not_or] at h
    rw [delimitDashes_cons h.1, ih h.2]

theorem restoreDashes_cons (c : Char) (s : List Char) :
    restoreDashes (c :: s) = (if c = ':' then dashes else [c]) ++ restoreDashes s := rfl

/-- A name without delimiters is read off what the scan makes of it. -/
theorem restoreDashes_delimitDashes (h : ':' ∉ s) : restoreDashes (delimitDashes s) = s := by
  induction s using delimitDashes_induction with
  | nil => rfl
  | dashes rest ih =>
    have hrest : ':' ∉ rest := fun hmem => h (List.mem_append_right dashes hmem)
    rw [delimitDashes_dashes, restoreDashes_cons, if_pos rfl, ih hrest]
  | cons c rest hc ih =>
    rw [List.mem_cons, not_or] at h
    rw [delimitDashes_cons hc, restoreDashes_cons, if_neg (Ne.symm h.1), ih h.2]
    rfl

/-! ## Keys -/

theorem toList_standard_key (name : String) :
    (standard.key name).toList = delimitDashes name.toList := String.toList_ofList

/-- A key has no two dashes next to each other, and is its own key.  Two dashes in the place of each
delimiter make the key of a name without delimiters that name again, so that different names of
this kind have different keys. -/
theorem standard_key_restores :
    (∀ name, ¬dashes <:+: (standard.key name).toList ∧
      standard.key (standard.key name) = standard.key name) ∧
    (∀ name : String, ':' ∉ name.toList →
      String.ofList (restoreDashes (standard.key name).toList) = name) ∧
    ∀ name other : String, ':' ∉ name.toList → ':' ∉ other.toList →
      standard.key name = standard.key other → name = other := by
  have hrestores (name : String) (h : ':' ∉ name.toList) :
      String.ofList (restoreDashes (standard.key name).toList) = name := by
    rw [toList_standard_key, restoreDashes_delimitDashes h, String.ofList_toList]
  refine ⟨fun name => ⟨?_, ?_⟩, hrestores, fun name other hname hother h => ?_⟩
  · rw [toList_standard_key]
    exact not_dashes_infix_delimitDashes _
  · rw [← String.toList_inj, toList_standard_key, toList_standard_key]
    exact delimitDashes_eq_self (not_dashes_infix_delimitDashes _)
  · rw [← hrestores name hname, h, hrestores other hother]

/-- Runs of three and of four dashes, at both ends of a name. -/
theorem standard_key_restores_runs :
    ':' ∉ "---a----".toList ∧ ':' ∉ "--a----".toList ∧ standard.key "---a----" = ":-a::" ∧
      String.ofList (restoreDashes (standard.key "---a----").toList) = "---a----" ∧
      standard.key "---a----" ≠ standard.key "--a----" := by
  obtain ⟨-, hrestores, hdistinct⟩ := standard_key_restores
  have hname : ':' ∉ "---a----".toList := by decide
  have hother : ':' ∉ "--a----".toList := by decide
  refine ⟨hname, hother, by decide, hrestores _ hname, fun h => ?_⟩
  exact absurd (hdistinct _ _ hname hother h) (by decide)

end Sidecar.Secret.Manager
