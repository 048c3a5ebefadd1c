import Sidecar.Proofs.Text.Pieces
import Sidecar.Proofs.Unicode.Lowercase
import Sidecar.Secret.Snapshot

/-!
# Folding and delimiters

Folding keeps every delimiter and makes none, and it looks past them: a delimiter separates the
sections of a key, but not the words that decide about a final sigma.  So a folded key falls into
the folded parts on either side of a delimiter except where a sigma stands at it.

The main result is `Snapshot.fold_fullKey_iff`: where the folding of a key falls apart at a
delimiter.
-/

namespace Sidecar.Secret

open Unicode

/-! ## Delimiters in lowercase -/

theorem ignorable_delimiter : isCaseIgnorable delimiter = true := by decide +kernel

/-- All lowercase characters in the table come behind the delimiter. -/
theorem lowercaseRuns_above :
    ∀ run ∈ lowercaseRuns, (delimiter.toNat : Int) < run.1 + run.2.2.2 := by decide +kernel

/-- In ASCII no other character has the delimiter as its lowercase. -/
theorem eq_of_toLower_eq_delimiter {c : Char} (hc : c.toNat < 0x80) (h : c.toLower = delimiter) :
    c = delimiter := by
  have hall : ∀ n < 0x80, (Char.ofNat n).toLower = delimiter → n = delimiter.toNat := by decide
  have hn : c.toNat = delimiter.toNat := hall c.toNat hc (by rwa [Char.ofNat_toNat])
  exact Char.toNat_inj.1 hn

theorem toNat_of_ofNat_eq_delimiter {n : Nat} (h : Char.ofNat n = delimiter) :
    n = delimiter.toNat := by
  by_cases hn : n.isValidChar
  · rw [← h, Char.ofNat, dif_pos hn]
    rfl
  · rw [Char.ofNat, dif_neg hn] at h
    exact absurd h (by decide)

/-- No other character has a delimiter in its lowercase. -/
theorem eq_of_delimiter_mem_lowercaseChar {c : Char} (h : delimiter ∈ lowercaseChar c) :
    c = delimiter := by
  unfold lowercaseChar at h
  split at h
  case isTrue hc => exact eq_of_toLower_eq_delimiter hc (List.mem_singleton.1 h).symm
  case isFalse =>
    split at h
    case isTrue => exact absurd h (by decide)
    case isFalse =>
      split at h
      case h_1 first last stride shift hfind =>
        have hmem := lowercaseRuns_above _ (List.mem_of_find?_eq_some hfind)
        have hfirst := List.find?_some hfind
        have hn := toNat_of_ofNat_eq_delimiter (List.mem_singleton.1 h).symm
        simp at hfirst hmem
        omega
      case h_2 => exact (List.mem_singleton.1 h).symm

theorem lowercaseChar_ne_nil (c : Char) : lowercaseChar c ≠ [] := by
  unfold lowercaseChar
  split
  · simp
  · split
    · simp
    · split <;> simp

/-- A delimiter in lowercase was one before, wherever it stands. -/
theorem delimiter_mem_lowerAt_iff {before after : Bool} {c : Char} :
    delimiter ∈ lowerAt before after c ↔ c = delimiter := by
  constructor
  · intro h
    unfold lowerAt at h
    split at h
    · split at h <;> exact absurd h (by decide)
    · exact eq_of_delimiter_mem_lowercaseChar h
  · rintro rfl
    exact List.mem_singleton_self delimiter

theorem lowerAt_ne_nil (before after : Bool) (c : Char) : lowerAt before after c ≠ [] := by
  unfold lowerAt
  split
  · simp
  · exact lowercaseChar_ne_nil c

theorem lowerAt_delimiter (before after : Bool) :
    lowerAt before after delimiter = [delimiter] := rfl

/-- Letters with case are looked for beyond delimiters. -/
theorem meets_delimiter (beyond : Bool) (s : List Char) :
    meets beyond (delimiter :: s) = meets beyond s := by
  rw [meets_cons, if_pos ignorable_delimiter]

/-- Letters with case are looked for beyond any number of delimiters. -/
theorem meets_replicate (beyond : Bool) (n : Nat) :
    meets beyond (List.replicate n delimiter) = beyond := by
  apply meets_of_ignorable
  intro c hc
  rw [List.eq_of_mem_replicate hc]
  exact ignorable_delimiter

/-- What stands behind a delimiter has the same lowercase as without it. -/
theorem lowerBetween_delimiter (before after : Bool) (s : List Char) :
    lowerBetween before after (delimiter :: s) = delimiter :: lowerBetween before after s := by
  rw [lowerBetween, meets_delimiter, lowerAt_delimiter]
  rfl

theorem lowerBetween_replicate (before after : Bool) (n : Nat) :
    lowerBetween before after (List.replicate n delimiter) = List.replicate n delimiter := by
  induction n with
  | zero => rfl
  | succ n ih => rw [List.replicate_succ, lowerBetween_delimiter, ih]

/-- There are as many delimiters in lowercase. -/
theorem count_lowerBetween (before after : Bool) (s : List Char) :
    (lowerBetween before after s).count delimiter = s.count delimiter := by
  induction s generalizing before with
  | nil => rfl
  | cons c s ih =>
    rw [lowerBetween, List.count_append, ih]
    by_cases hc : c = delimiter
    · rw [hc, lowerAt_delimiter, List.count_singleton_self, List.count_cons_self, Nat.add_comm]
    · rw [List.count_cons_of_ne hc, Nat.add_eq_right, List.count_eq_zero, delimiter_mem_lowerAt_iff]
      exact hc

/-! ## Trimming -/

theorem lowerBetween_eq_nil_iff {before after : Bool} {s : List Char} :
    lowerBetween before after s = [] ↔ s = [] := by
  cases s with
  | nil => simp [lowerBetween]
  | cons c s => simp [lowerBetween, lowerAt_ne_nil]

/-- Lowercase brings no delimiter to the front. -/
theorem head?_lowerBetween_ne {before after : Bool} {s : List Char}
    (h : s.head? ≠ some delimiter) : (lowerBetween before after s).head? ≠ some delimiter := by
  cases s with
  | nil => exact h
  | cons c s =>
    intro hhead
    rw [lowerBetween, List.head?_append] at hhead
    cases hl : (lowerAt before (meets after s) c).head? with
    | none => exact lowerAt_ne_nil _ _ _ (List.head?_eq_none_iff.1 hl)
    | some d =>
      rw [hl, Option.some_or] at hhead
      have hd := List.mem_of_head? (hl.trans hhead)
      exact h (congrArg some (delimiter_mem_lowerAt_iff.1 hd))

theorem getLast?_lowerBetween_ne {before after : Bool} {s : List Char}
    (h : s.getLast? ≠ some delimiter) :
    (lowerBetween before after s).getLast? ≠ some delimiter := by
  rcases List.eq_nil_or_concat s with rfl | ⟨front, c, rfl⟩
  · exact h
  · intro hlast
    rw [List.concat_eq_append] at h hlast
    rw [lowerBetween_append, lowerBetween, lowerBetween, List.append_nil,
      List.getLast?_append] at hlast
    cases hl : (lowerAt (meets before front.reverse) (meets after []) c).getLast? with
    | none => exact lowerAt_ne_nil _ _ _ (List.getLast?_eq_none_iff.1 hl)
    | some d =>
      rw [hl, Option.some_or] at hlast
      have hd := List.mem_of_getLast? (hl.trans hlast)
      exact h (by rw [delimiter_mem_lowerAt_iff.1 hd, List.getLast?_concat])

/-- Delimiters around a text are not looked at, so trimming may come before folding or after it. -/
theorem trim_lowerBetween (s : List Char) :
    Text.trim delimiter (lowerBetween false false s) =
      lowerBetween false false (Text.trim delimiter s) := by
  obtain ⟨m, n, hs, hhead, hlast⟩ := Text.exists_trim_eq (d := delimiter) s
  generalize Text.trim delimiter s = t at hs hhead hlast ⊢
  have hlower : lowerBetween false false s =
      List.replicate m delimiter ++ lowerBetween false false t ++ List.replicate n delimiter := by
    rw [hs, lowerBetween_append, lowerBetween_append, lowerBetween_replicate,
      lowerBetween_replicate, meets_replicate, List.reverse_replicate, meets_replicate]
  rw [hlower]
  exact Text.trim_append ⟨head?_lowerBetween_ne hhead, getLast?_lowerBetween_ne hlast⟩

/-! ## Folded keys -/

theorem toList_fold (s : String) : (fold s).toList = lowerBetween false false s.toList :=
  toList_lowercase s

namespace Snapshot

/-- The front of a section is its folded name and a delimiter. -/
theorem toList_sectionFront (name : List Char) :
    (sectionFront name).toList = lowerBetween false false name ++ [delimiter] := by
  rw [sectionFront, toList_fold, String.toList_ofList, lowerBetween_append, lowerBetween_delimiter,
    meets_delimiter]
  rfl

/-- The key below a section with this name. -/
def fullKey (name : List Char) (key : String) : String :=
  String.ofList (name ++ delimiter :: key.toList)

/-- A sigma at the delimiter has another form where the parts stand together: it ends the word
before the delimiter but a letter follows, or it stands alone behind the delimiter but a letter
precedes. -/
def SigmaAcross (name : List Char) (key : String) : Prop :=
  (EndsInSigma false name ∧ meetsCased key.toList) ∨
    (meetsCased name.reverse ∧ BeginsWithSigma false key.toList)

/-- The folding of a key falls into those of its parts if no sigma is in the way. -/
theorem fold_fullKey_iff {name : List Char} {key : String} :
    fold (fullKey name key) = sectionFront name ++ fold key ↔ ¬SigmaAcross name key := by
  have hsplit : (fold (fullKey name key)).toList =
      lowerBetween false (meetsCased key.toList) name ++
        delimiter :: lowerBetween (meetsCased name.reverse) false key.toList := by
    rw [toList_fold, fullKey, String.toList_ofList, lowerBetween_append, meets_delimiter,
      lowerBetween_delimiter]
    rfl
  have hparts : (sectionFront name ++ fold key).toList =
      lowerBetween false false name ++ delimiter :: lowerBetween false false key.toList := by
    rw [String.toList_append, toList_sectionFront, toList_fold, List.append_assoc]
    rfl
  have hback : lowerBetween false (meetsCased key.toList) name = lowerBetween false false name ↔
      ¬(EndsInSigma false name ∧ meetsCased key.toList) := by
    cases meetsCased key.toList with
    | false => simp
    | true => rw [lowerBetween_after_eq_iff]; simp
  have hfront : lowerBetween (meetsCased name.reverse) false key.toList =
        lowerBetween false false key.toList ↔
      ¬(meetsCased name.reverse ∧ BeginsWithSigma false key.toList) := by
    cases meetsCased name.reverse with
    | false => simp
    | true => rw [lowerBetween_before_eq_iff]; simp
  rw [SigmaAcross, not_or, ← hback, ← hfront, ← String.toList_inj, hsplit, hparts]
  constructor
  · intro h
    obtain ⟨hname, hkey⟩ := List.append_inj h (length_lowerBetween ..)
    exact ⟨hname, (List.cons.inj hkey).2⟩
  · rintro ⟨hname, hkey⟩
    rw [hname, hkey]

/-- Names with the same folding have names of sections with the same folding. -/
theorem lowerBetween_sectionName {name other : String} (h : fold name = fold other) :
    lowerBetween false false (sectionName name) = lowerBetween false false (sectionName other) := by
  have hlower := congrArg String.toList h
  rw [toList_fold, toList_fold] at hlower
  rw [sectionName, sectionName, ← trim_lowerBetween, ← trim_lowerBetween, hlower]

end Snapshot

end Sidecar.Secret
