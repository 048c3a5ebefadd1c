import Sidecar.Text.Pieces

/-!
# Pieces between delimiters

Cutting at the first delimiter and dropping pieces from the front are told in terms of all pieces,
and trimming in terms of the runs of delimiters that it takes away.

Everything goes back to `head?_pieces_eq_iff` for the first piece, `dropPieces_eq` for those behind
it, and `exists_trim_eq` for what is trimmed.
-/

namespace Sidecar.Text

variable {d : Char}

/-! ## All pieces -/

theorem pieces_of_not_mem {s : List Char} (h : d ∉ s) : pieces d s = [s] := by
  induction s with
  | nil => rfl
  | cons c s ih =>
    rw [List.mem_cons, not_or] at h
    rw [pieces, if_neg (Ne.symm h.1), ih h.2]

theorem pieces_append {a : List Char} (h : d ∉ a) (b : List Char) :
    pieces d (a ++ d :: b) = a :: pieces d b := by
  induction a with
  | nil => simp [pieces]
  | cons c a ih =>
    rw [List.mem_cons, not_or] at h
    rw [List.cons_append, pieces, if_neg (Ne.symm h.1), ih h.2]

theorem pieces_ne_nil (s : List Char) : pieces d s ≠ [] := by
  cases s with
  | nil => simp [pieces]
  | cons c s =>
    rw [pieces]
    split
    · simp
    · split <;> simp

/-- There is one more piece than there are delimiters. -/
theorem length_pieces (s : List Char) : (pieces d s).length = s.count d + 1 := by
  induction s with
  | nil => simp [pieces]
  | cons c s ih =>
    rw [pieces]
    by_cases hc : c = d
    · rw [if_pos hc, List.length_cons, ih, hc, List.count_cons_self]
    · rw [if_neg hc, List.count_cons_of_ne hc, ← ih]
      cases hp : pieces d s with
      | nil => exact absurd hp (pieces_ne_nil s)
      | cons p more => rfl

/-! ## The first piece -/

/-- There is nothing to cut at exactly if there is no delimiter. -/
theorem cutOnce_eq_none_iff {s : List Char} : cutOnce d s = none ↔ d ∉ s := by
  induction s with
  | nil => simp [cutOnce]
  | cons c s ih =>
    rw [cutOnce]
    by_cases hc : c = d
    · simp [hc]
    · rw [if_neg hc, Option.map_eq_none_iff, ih, List.mem_cons, not_or]
      simp [Ne.symm hc]

/-- What is cut off in front has no delimiter in it. -/
theorem cutOnce_eq_some {s a b : List Char} (h : cutOnce d s = some (a, b)) :
    s = a ++ d :: b ∧ d ∉ a := by
  induction s generalizing a with
  | nil => simp [cutOnce] at h
  | cons c s ih =>
    rw [cutOnce] at h
    by_cases hc : c = d
    · rw [if_pos hc] at h
      cases h
      exact ⟨by rw [hc]; rfl, by simp⟩
    · rw [if_neg hc] at h
      obtain ⟨⟨front, after⟩, hcut, hpair⟩ := Option.map_eq_some_iff.1 h
      cases hpair
      obtain ⟨hs, hfront⟩ := ih hcut
      exact ⟨by rw [hs]; rfl, by simp [Ne.symm hc, hfront]⟩

theorem cutOnce_append {a : List Char} (h : d ∉ a) (b : List Char) :
    cutOnce d (a ++ d :: b) = some (a, b) := by
  induction a with
  | nil => exact if_pos rfl
  | cons c a ih =>
    rw [List.mem_cons, not_or] at h
    rw [List.cons_append, cutOnce, if_neg (Ne.symm h.1), ih h.2]
    rfl

/-- The first piece goes up to the first delimiter. -/
theorem head?_pieces (s : List Char) : (pieces d s).head? = some (s.takeWhile (· != d)) := by
  induction s with
  | nil => rfl
  | cons c s ih =>
    rw [pieces]
    by_cases hc : c = d
    · simp [hc]
    · rw [if_neg hc, List.takeWhile_cons_of_pos (by simpa using hc)]
      cases hp : pieces d s with
      | nil => exact absurd hp (pieces_ne_nil s)
      | cons p more =>
        rw [hp, List.head?_cons, Option.some_inj] at ih
        rw [ih, List.head?_cons]

/-- The first piece is the whole text, or a delimiter follows it. -/
theorem head?_pieces_eq_iff {a s : List Char} (h : d ∉ a) :
    (pieces d s).head? = some a ↔ s = a ∨ a ++ [d] <+: s := by
  constructor
  · intro hhead
    cases hcut : cutOnce d s with
    | none =>
      rw [pieces_of_not_mem (cutOnce_eq_none_iff.1 hcut)] at hhead
      exact .inl (Option.some.inj hhead)
    | some ab =>
      obtain ⟨front, after⟩ := ab
      obtain ⟨rfl, hfront⟩ := cutOnce_eq_some hcut
      rw [pieces_append hfront] at hhead
      obtain rfl := Option.some.inj hhead
      exact .inr ⟨after, by simp⟩
  · rintro (rfl | ⟨rest, rfl⟩)
    · rw [pieces_of_not_mem h, List.head?_cons]
    · rw [List.append_assoc, List.singleton_append, pieces_append h, List.head?_cons]

/-! ## Pieces put together -/

/-- Pieces are found on either side of a delimiter for themselves. -/
theorem pieces_append_delimiter (a b : List Char) :
    pieces d (a ++ d :: b) = pieces d a ++ pieces d b := by
  induction a with
  | nil => simp [pieces]
  | cons c a ih =>
    rw [List.cons_append, pieces, pieces, ih]
    by_cases hc : c = d
    · rw [if_pos hc, if_pos hc, List.cons_append]
    · rw [if_neg hc, if_neg hc]
      cases hp : pieces d a with
      | nil => exact absurd hp (pieces_ne_nil a)
      | cons p more => rfl

/-- The pieces with delimiters in between are the text. -/
theorem intercalate_pieces (s : List Char) : [d].intercalate (pieces d s) = s := by
  induction hn : s.count d generalizing s with
  | zero => rw [pieces_of_not_mem (List.count_eq_zero.1 hn), List.intercalate_singleton]
  | succ n ih =>
    cases hcut : cutOnce d s with
    | none => rw [List.count_eq_zero_of_not_mem (cutOnce_eq_none_iff.1 hcut)] at hn; omega
    | some ab =>
      obtain ⟨a, b⟩ := ab
      obtain ⟨rfl, ha⟩ := cutOnce_eq_some hcut
      have hb : b.count d = n := by
        simpa [List.count_eq_zero_of_not_mem ha] using hn
      rw [pieces_append ha, List.intercalate_cons_of_ne_nil (pieces_ne_nil b), ih b hb]
      simp

theorem not_mem_of_mem_pieces {s part : List Char} (h : part ∈ pieces d s) : d ∉ part := by
  induction s generalizing part with
  | nil => simp_all [pieces]
  | cons c s ih =>
    rw [pieces] at h
    by_cases hc : c = d
    · rw [if_pos hc] at h
      rcases List.mem_cons.1 h with rfl | h
      · exact List.not_mem_nil
      · exact ih h
    · rw [if_neg hc] at h
      cases hp : pieces d s with
      | nil => exact absurd hp (pieces_ne_nil s)
      | cons p more =>
        rw [hp] at h ih
        rcases List.mem_cons.1 h with rfl | h
        · exact mt List.mem_cons.1 (not_or.2 ⟨Ne.symm hc, ih List.mem_cons_self⟩)
        · exact ih (List.mem_cons_of_mem p h)

/-- Parts without delimiters are the pieces of what they make up. -/
theorem pieces_intercalate {parts : List (List Char)} (hne : parts ≠ [])
    (h : ∀ part ∈ parts, d ∉ part) : pieces d ([d].intercalate parts) = parts := by
  induction parts with
  | nil => exact absurd rfl hne
  | cons part rest ih =>
    obtain ⟨hpart, hrest⟩ := List.forall_mem_cons.1 h
    cases rest with
    | nil => rw [List.intercalate_singleton, pieces_of_not_mem hpart]
    | cons next rest =>
      rw [List.intercalate_cons_cons, List.append_assoc, List.singleton_append,
        pieces_append hpart, ih (List.cons_ne_nil next rest) hrest]

/-! ## Texts -/

/-- A text is cut in two exactly where its first delimiter is. -/
theorem cutText_eq_some_iff {s before after : String} :
    cutText d s = some (before, after) ↔
      s.toList = before.toList ++ d :: after.toList ∧ d ∉ before.toList := by
  rw [cutText, Option.map_eq_some_iff]
  constructor
  · rintro ⟨⟨a, b⟩, hcut, hpair⟩
    cases hpair
    simpa using cutOnce_eq_some hcut
  · rintro ⟨hs, hbefore⟩
    exact ⟨(before.toList, after.toList), hs ▸ cutOnce_append hbefore _, by simp⟩

theorem cutText_eq_none_iff {s : String} : cutText d s = none ↔ d ∉ s.toList := by
  rw [cutText, Option.map_eq_none_iff, cutOnce_eq_none_iff]

/-- The pieces are the one way to make a text up of parts without delimiters. -/
theorem textPieces_eq_iff {s : String} {parts : List String} :
    textPieces d s = parts ↔ parts ≠ [] ∧ (∀ part ∈ parts, d ∉ part.toList) ∧
      s.toList = [d].intercalate (parts.map String.toList) := by
  constructor
  · rintro rfl
    refine ⟨?_, ?_, ?_⟩
    · simpa [textPieces] using pieces_ne_nil s.toList
    · simpa [textPieces] using fun part => not_mem_of_mem_pieces
    · simp [textPieces, Function.comp_def, intercalate_pieces]
  · rintro ⟨hne, hparts, hs⟩
    rw [textPieces, hs, pieces_intercalate (by simpa using hne) (by simpa using hparts)]
    simp [Function.comp_def]

/-! ## Without the first pieces -/

/-- Where there are enough pieces, dropping some leaves the others with the delimiters between
them. -/
theorem dropPieces_eq {n : Nat} {s : List Char} (h : n < (pieces d s).length) :
    dropPieces d n s = [d].intercalate ((pieces d s).drop n) := by
  induction n generalizing s with
  | zero => rw [dropPieces, List.drop_zero, intercalate_pieces]
  | succ n ih =>
    rw [dropPieces]
    cases hcut : cutOnce d s with
    | none =>
      rw [pieces_of_not_mem (cutOnce_eq_none_iff.1 hcut), List.length_singleton] at h
      omega
    | some ab =>
      obtain ⟨a, b⟩ := ab
      obtain ⟨rfl, ha⟩ := cutOnce_eq_some hcut
      rw [pieces_append ha, List.length_cons] at h
      rw [pieces_append ha, List.drop_succ_cons]
      exact ih (by omega)

/-- The pieces that are left are those that were not dropped. -/
theorem pieces_dropPieces {n : Nat} {s : List Char} (h : n < (pieces d s).length) :
    pieces d (dropPieces d n s) = (pieces d s).drop n := by
  induction n generalizing s with
  | zero => rfl
  | succ n ih =>
    rw [dropPieces]
    cases hcut : cutOnce d s with
    | none =>
      rw [pieces_of_not_mem (cutOnce_eq_none_iff.1 hcut), List.length_singleton] at h
      omega
    | some ab =>
      obtain ⟨a, b⟩ := ab
      obtain ⟨rfl, ha⟩ := cutOnce_eq_some hcut
      rw [pieces_append ha, List.length_cons] at h
      rw [pieces_append ha, List.drop_succ_cons]
      exact ih (by omega)

theorem dropPieces_nil (n : Nat) : dropPieces d n [] = [] := by
  cases n <;> rfl

theorem dropPieces_dropPieces (m n : Nat) (s : List Char) :
    dropPieces d n (dropPieces d m s) = dropPieces d (m + n) s := by
  induction m generalizing s with
  | zero => rw [dropPieces, Nat.zero_add]
  | succ m ih =>
    rw [Nat.add_right_comm, dropPieces, dropPieces]
    cases cutOnce d s with
    | none => exact dropPieces_nil n
    | some ab => exact ih ab.2

/-! ## Trimming -/

/-- A text that neither begins nor ends with a delimiter. -/
def Trimmed (d : Char) (s : List Char) : Prop := s.head? ≠ some d ∧ s.getLast? ≠ some d

theorem dropWhile_replicate_append {m : Nat} {t : List Char} (h : t.head? ≠ some d) :
    (List.replicate m d ++ t).dropWhile (· == d) = t := by
  rw [List.dropWhile_append_of_pos (by simp)]
  cases t with
  | nil => rfl
  | cons c t => exact List.dropWhile_cons_of_neg (by simpa using h)

/-- What is dropped in front are delimiters, as many as there are. -/
theorem exists_dropWhile_eq (s : List Char) :
    ∃ m, s = List.replicate m d ++ s.dropWhile (· == d) ∧
      (s.dropWhile (· == d)).head? ≠ some d := by
  induction s with
  | nil => exact ⟨0, rfl, by simp⟩
  | cons c s ih =>
    by_cases hc : c = d
    · obtain ⟨m, hs, hhead⟩ := ih
      refine ⟨m + 1, ?_, ?_⟩
      · rw [List.dropWhile_cons_of_pos (by simpa using hc), List.replicate_succ, List.cons_append,
          ← hs, hc]
      · rwa [List.dropWhile_cons_of_pos (by simpa using hc)]
    · refine ⟨0, ?_, ?_⟩
      · rw [List.dropWhile_cons_of_neg (by simpa using hc)]
        rfl
      · rw [List.dropWhile_cons_of_neg (by simpa using hc)]
        simpa using hc

theorem trim_append {m n : Nat} {t : List Char} (h : Trimmed d t) :
    trim d (List.replicate m d ++ t ++ List.replicate n d) = t := by
  obtain ⟨hhead, hlast⟩ := h
  have hback : (List.replicate n d ++ t.reverse).dropWhile (· == d) = t.reverse :=
    dropWhile_replicate_append (by rwa [List.head?_reverse])
  cases t with
  | nil =>
    rw [trim, List.append_nil, List.replicate_append_replicate,
      ← List.append_nil (List.replicate (m + n) d), dropWhile_replicate_append (by simp)]
    rfl
  | cons c t =>
    rw [trim, List.append_assoc, dropWhile_replicate_append (by simpa using hhead),
      List.reverse_append, List.reverse_replicate, hback, List.reverse_reverse]

/-- Without delimiters there is nothing to trim. -/
theorem trim_of_not_mem {s : List Char} (h : d ∉ s) : trim d s = s := by
  have htrimmed : Trimmed d s :=
    ⟨fun hhead => h (List.mem_of_head? hhead), fun hlast => h (List.mem_of_getLast? hlast)⟩
  simpa using trim_append (m := 0) (n := 0) htrimmed

/-- Trimming takes a run of delimiters away on either side, and there is none left. -/
theorem exists_trim_eq (s : List Char) :
    ∃ m n, s = List.replicate m d ++ trim d s ++ List.replicate n d ∧ Trimmed d (trim d s) := by
  obtain ⟨m, hm, hhead⟩ := exists_dropWhile_eq (d := d) s
  obtain ⟨n, hn, hlast⟩ := exists_dropWhile_eq (d := d) (s.dropWhile (· == d)).reverse
  have hinner : s.dropWhile (· == d) = trim d s ++ List.replicate n d := by
    rw [trim, ← List.reverse_replicate, ← List.reverse_append, ← hn, List.reverse_reverse]
  refine ⟨m, n, ?_, ?_, ?_⟩
  · rw [List.append_assoc, ← hinner]
    exact hm
  · cases ht : trim d s with
    | nil => simp
    | cons c t =>
      rw [hinner, ht] at hhead
      simpa using hhead
  · rw [trim, List.getLast?_reverse]
    exact hlast

end Sidecar.Text
