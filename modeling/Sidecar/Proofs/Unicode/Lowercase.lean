import Sidecar.Unicode.Lowercase

/-!
# Lowercase in context

The lowercase of a part of a text depends on the rest only through two questions: whether the next
character before it that is not ignored is a letter with case, and whether the next one behind it
is.  Only capital sigmas look that far: the one that ends a part, up to ignored characters, and the
one that begins it.

The main results are `lowerBetween_after_eq_iff` and `lowerBetween_before_eq_iff`: when a part has
the same lowercase beside something else.
-/

namespace Sidecar.Unicode

/-! ## Looking for a letter with case -/

/-- Whether the first character that is not ignored is a letter with case, `beyond` being the answer
for what follows the text. -/
def meets (beyond : Bool) (s : List Char) : Bool :=
  match s.dropWhile isCaseIgnorable with
  | [] => beyond
  | c :: _ => isCased c

@[simp] theorem meets_nil (beyond : Bool) : meets beyond [] = beyond := rfl

theorem meets_cons (beyond : Bool) (c : Char) (s : List Char) :
    meets beyond (c :: s) = if isCaseIgnorable c then meets beyond s else isCased c := by
  unfold meets
  rw [List.dropWhile_cons]
  by_cases hc : isCaseIgnorable c
  · rw [if_pos hc, if_pos hc]
  · rw [if_neg hc, if_neg hc]

theorem meets_append (beyond : Bool) (s t : List Char) :
    meets beyond (s ++ t) = meets (meets beyond t) s := by
  induction s with
  | nil => rfl
  | cons c s ih => rw [List.cons_append, meets_cons, meets_cons, ih]

/-- Ignored characters hide nothing of what follows them. -/
theorem meets_of_ignorable (beyond : Bool) {s : List Char} (h : ∀ c ∈ s, isCaseIgnorable c) :
    meets beyond s = beyond := by
  induction s with
  | nil => rfl
  | cons c s ih =>
    rw [meets_cons, if_pos (h c List.mem_cons_self)]
    exact ih fun d hd => h d (List.mem_cons_of_mem c hd)

/-- Only behind ignored characters does it matter what follows a text. -/
theorem meets_true_eq_iff {s : List Char} :
    meets true s = meets false s ↔ ¬∀ c ∈ s, isCaseIgnorable c := by
  induction s with
  | nil => simp
  | cons c s ih =>
    rw [meets_cons, meets_cons]
    by_cases hc : isCaseIgnorable c
    · rw [if_pos hc, if_pos hc, ih]
      simp [hc]
    · simp [hc]

/-- A letter with case that is met in a text is met whatever follows. -/
theorem meets_of_meets_false {beyond : Bool} {s : List Char} (h : meets false s) :
    meets beyond s := by
  unfold meets at h ⊢
  split at h
  · cases h
  · exact h

/-! ## Lowercase of a part -/

/-- Lowercase of a character between letters with case or others. -/
def lowerAt (before after : Bool) (c : Char) : List Char :=
  if c = 'Σ' then [if before && !after then 'ς' else 'σ'] else lowercaseChar c

/-- Lowercase of a part of a text, `before` and `after` saying whether a letter with case is met on
either side of it. -/
def lowerBetween (before after : Bool) : List Char → List Char
  | [] => []
  | c :: rest =>
    lowerAt before (meets after rest) c ++ lowerBetween (meets before [c]) after rest

/-- Behind other characters, the lowercase depends only on whether a letter with case is met among
them. -/
theorem lowercaseAfter_eq (before s : List Char) :
    lowercaseAfter before s = lowerBetween (meetsCased before) false s := by
  induction s generalizing before with
  | nil => rfl
  | cons c s ih =>
    have hbefore : meetsCased (c :: before) = meets (meetsCased before) [c] :=
      meets_append false [c] before
    rw [lowercaseAfter, ih, hbefore]
    rfl

theorem toList_lowercase (s : String) :
    (lowercase s).toList = lowerBetween false false s.toList := by
  rw [lowercase, String.toList_ofList, lowercaseAfter_eq]
  rfl

/-- A text is put in lowercase part by part, each with the other for its context. -/
theorem lowerBetween_append (before after : Bool) (s t : List Char) :
    lowerBetween before after (s ++ t) =
      lowerBetween before (meets after t) s ++ lowerBetween (meets before s.reverse) after t := by
  induction s generalizing before with
  | nil => rfl
  | cons c s ih =>
    rw [List.cons_append, lowerBetween, lowerBetween, ih, meets_append, List.reverse_cons,
      meets_append, List.append_assoc]

theorem length_lowerAt (before after before' after' : Bool) (c : Char) :
    (lowerAt before after c).length = (lowerAt before' after' c).length := by
  unfold lowerAt
  split <;> rfl

/-- The context changes characters, but not their number. -/
theorem length_lowerBetween (before after before' after' : Bool) (s : List Char) :
    (lowerBetween before after s).length = (lowerBetween before' after' s).length := by
  induction s generalizing before before' with
  | nil => rfl
  | cons c s ih =>
    rw [lowerBetween, lowerBetween, List.length_append, List.length_append,
      length_lowerAt before _ before' (meets after' s), ih]

/-- A text has the same lowercase in two places if its first character has and the rest has. -/
theorem lowerBetween_cons_eq_iff {before after before' after' : Bool} {c : Char} {s : List Char} :
    lowerBetween before after (c :: s) = lowerBetween before' after' (c :: s) ↔
      lowerAt before (meets after s) c = lowerAt before' (meets after' s) c ∧
        lowerBetween (meets before [c]) after s = lowerBetween (meets before' [c]) after' s := by
  constructor
  · intro h
    exact List.append_inj h (length_lowerAt ..)
  · rintro ⟨hc, hs⟩
    rw [lowerBetween, lowerBetween, hc, hs]

/-! ## Sigmas at the border -/

/-- Up to ignored characters the text ends in a capital sigma, and a letter with case precedes that:
it is a final sigma unless a letter follows the text. -/
def EndsInSigma (before : Bool) (s : List Char) : Prop :=
  ∃ front tail, s = front ++ 'Σ' :: tail ∧ (∀ c ∈ tail, isCaseIgnorable c) ∧
    meets before front.reverse

/-- Up to ignored characters the text begins with a capital sigma, and no letter with case follows
that: it is a final sigma if a letter precedes the text. -/
def BeginsWithSigma (after : Bool) (s : List Char) : Prop :=
  ∃ head rest, s = head ++ 'Σ' :: rest ∧ (∀ c ∈ head, isCaseIgnorable c) ∧ meets after rest = false

theorem endsInSigma_cons {before : Bool} {c : Char} {s : List Char} :
    EndsInSigma before (c :: s) ↔
      (c = 'Σ' ∧ (∀ d ∈ s, isCaseIgnorable d) ∧ before) ∨ EndsInSigma (meets before [c]) s := by
  constructor
  · rintro ⟨front, tail, hsplit, htail, hfront⟩
    cases front with
    | nil =>
      obtain ⟨rfl, rfl⟩ := List.cons.inj hsplit
      exact .inl ⟨rfl, htail, hfront⟩
    | cons d front =>
      obtain ⟨rfl, rfl⟩ := List.cons.inj hsplit
      rw [List.reverse_cons, meets_append] at hfront
      exact .inr ⟨front, tail, rfl, htail, hfront⟩
  · rintro (⟨rfl, htail, hbefore⟩ | ⟨front, tail, rfl, htail, hfront⟩)
    · exact ⟨[], s, rfl, htail, hbefore⟩
    · refine ⟨c :: front, tail, rfl, htail, ?_⟩
      rw [List.reverse_cons, meets_append]
      exact hfront

theorem beginsWithSigma_cons {after : Bool} {c : Char} {s : List Char} :
    BeginsWithSigma after (c :: s) ↔
      (c = 'Σ' ∧ meets after s = false) ∨ (isCaseIgnorable c ∧ BeginsWithSigma after s) := by
  constructor
  · rintro ⟨head, rest, hsplit, hhead, hrest⟩
    cases head with
    | nil =>
      obtain ⟨rfl, rfl⟩ := List.cons.inj hsplit
      exact .inl ⟨rfl, hrest⟩
    | cons d head =>
      obtain ⟨rfl, rfl⟩ := List.cons.inj hsplit
      have hd := List.forall_mem_cons.1 hhead
      exact .inr ⟨hd.1, head, rest, rfl, hd.2, hrest⟩
  · rintro (⟨rfl, hrest⟩ | ⟨hc, head, rest, rfl, hhead, hrest⟩)
    · exact ⟨[], s, rfl, by simp, hrest⟩
    · exact ⟨c :: head, rest, rfl, List.forall_mem_cons.2 ⟨hc, hhead⟩, hrest⟩

/-- Only a sigma is changed by what is around it, and only by whether it ends a word. -/
theorem lowerAt_eq_iff {before after before' after' : Bool} {c : Char} :
    lowerAt before after c = lowerAt before' after' c ↔
      (c = 'Σ' → (before && !after) = (before' && !after')) := by
  unfold lowerAt
  by_cases hc : c = 'Σ'
  · cases before && !after <;> cases before' && !after' <;> simp [hc]
  · simp [hc]

/-- What follows a part matters only to a sigma at its end. -/
theorem lowerBetween_after_eq_iff {before : Bool} {s : List Char} :
    lowerBetween before true s = lowerBetween before false s ↔ ¬EndsInSigma before s := by
  induction s generalizing before with
  | nil => simp [lowerBetween, EndsInSigma]
  | cons c s ih =>
    have hhead : lowerAt before (meets true s) c = lowerAt before (meets false s) c ↔
        ¬(c = 'Σ' ∧ (∀ d ∈ s, isCaseIgnorable d) ∧ before) := by
      rw [lowerAt_eq_iff]
      by_cases hs : ∀ d ∈ s, isCaseIgnorable d
      · rw [meets_of_ignorable true hs, meets_of_ignorable false hs]
        rw [eq_true hs, true_and]
        cases before <;> simp
      · rw [meets_true_eq_iff.2 hs, eq_false hs]
        simp
    rw [lowerBetween_cons_eq_iff, hhead, ih, endsInSigma_cons, not_or]

/-- What precedes a part matters only to a sigma at its beginning. -/
theorem lowerBetween_before_eq_iff {after : Bool} {s : List Char} :
    lowerBetween true after s = lowerBetween false after s ↔ ¬BeginsWithSigma after s := by
  induction s with
  | nil => simp [lowerBetween, BeginsWithSigma]
  | cons c s ih =>
    have hhead : lowerAt true (meets after s) c = lowerAt false (meets after s) c ↔
        ¬(c = 'Σ' ∧ meets after s = false) := by
      rw [lowerAt_eq_iff]
      cases meets after s <;> simp
    rw [lowerBetween_cons_eq_iff, hhead, beginsWithSigma_cons, not_or]
    by_cases hc : isCaseIgnorable c
    · rw [meets_cons, if_pos hc, meets_cons, if_pos hc, meets_nil, meets_nil, ih]
      simp [hc]
    · rw [meets_cons, if_neg hc, meets_cons, if_neg hc]
      simp [hc]

end Sidecar.Unicode
