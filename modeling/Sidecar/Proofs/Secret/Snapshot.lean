import Sidecar.Secret.Snapshot

/-!
# What a snapshot holds

A snapshot that was built by adding keys and values holds exactly these: `Holds` relates it to them
in the order in which they were added, and everything that can be read off it follows from there.

The main results are `Holds.insert?` and `Holds.insert?_eq_none_iff` on adding a key,
`Holds.eq_of_perm`, and `Holds.lists` on reading.
-/

namespace Sidecar.Secret.Snapshot

/-! ## Ascending entries -/

/-- An entry has a place unless its key is taken. -/
theorem insertNew?_eq_none_iff {e : Entry} {entries : List Entry} (hs : Ascending entries) :
    insertNew? e entries = none ↔ ∃ f ∈ entries, f.folded = e.folded := by
  induction entries with
  | nil => simp [insertNew?]
  | cons f rest ih =>
    obtain ⟨hf, hrest⟩ := List.pairwise_cons.1 hs
    unfold insertNew?
    split
    case isTrue hlt =>
      -- the head is already greater, and with it all that follows
      refine iff_of_false (by simp) ?_
      rintro ⟨g, hg, heq⟩
      rcases List.mem_cons.1 hg with rfl | hg
      · exact String.lt_irrefl _ (heq ▸ hlt)
      · exact String.lt_irrefl _ (String.lt_trans hlt (heq ▸ hf g hg))
    case isFalse hlt =>
      split
      case isTrue heq => exact iff_of_true rfl ⟨f, List.mem_cons_self, heq.symm⟩
      case isFalse hne =>
        rw [Option.map_eq_none_iff, ih hrest]
        simp [Ne.symm hne]

theorem perm_of_insertNew? {e : Entry} {entries inserted : List Entry}
    (h : insertNew? e entries = some inserted) : inserted.Perm (e :: entries) := by
  induction entries generalizing inserted with
  | nil =>
    obtain rfl := Option.some.inj h
    exact .refl _
  | cons f rest ih =>
    unfold insertNew? at h
    split at h
    · obtain rfl := Option.some.inj h
      exact .refl _
    · split at h
      · simp at h
      · obtain ⟨more, hmore, rfl⟩ := Option.map_eq_some_iff.1 h
        exact ((ih hmore).cons f).trans (.swap e f rest)

/-- Among ascending entries there is one at most with a given folded key. -/
theorem Ascending.find?_eq_some {entries : List Entry} (hs : Ascending entries) {e : Entry}
    (he : e ∈ entries) : entries.find? (·.folded == e.folded) = some e := by
  induction entries with
  | nil => simp at he
  | cons f rest ih =>
    obtain ⟨hf, hrest⟩ := List.pairwise_cons.1 hs
    rcases List.mem_cons.1 he with rfl | he
    · simp
    · have hne : f.folded ≠ e.folded := fun heq => String.lt_irrefl _ (heq ▸ hf e he)
      rw [List.find?_cons_of_neg (by simpa using hne)]
      exact ih hrest he

/-- In ascending order no folded key comes twice. -/
theorem Ascending.nodup {entries : List Entry} (hs : Ascending entries) :
    (entries.map (·.folded)).Nodup := by
  refine List.pairwise_map.2 (hs.imp fun {a b} hlt heq => ?_)
  exact String.lt_irrefl b.folded (heq ▸ hlt)

theorem eq_of_entries {s t : Snapshot} (h : s.entries = t.entries) : s = t := by
  cases s
  cases t
  cases h
  rfl

/-! ## Adding -/

/-- A key is refused if there is one with the same folding. -/
theorem insert?_eq_none_iff {s : Snapshot} {key value : String} :
    s.insert? key value = none ↔ ∃ e ∈ s.entries, e.folded = fold key := by
  rw [← insertNew?_eq_none_iff (e := ⟨fold key, key, value⟩) s.ascending]
  unfold insert?
  split <;> simp [*]

theorem perm_of_insert? {s t : Snapshot} {key value : String}
    (h : s.insert? key value = some t) : t.entries.Perm (⟨fold key, key, value⟩ :: s.entries) := by
  unfold insert? at h
  split at h
  case h_1 entries hentries =>
    obtain rfl := Option.some.inj h
    exact perm_of_insertNew? hentries
  case h_2 => simp at h

/-- The entry for a key and its value. -/
def entryOf (pair : String × String) : Entry := ⟨fold pair.1, pair.1, pair.2⟩

/-- The folded keys, in order. -/
def foldings (pairs : List (String × String)) : List String := pairs.map fun pair => fold pair.1

/-- No two keys have the same folding. -/
def Distinct (pairs : List (String × String)) : Prop := (foldings pairs).Nodup

instance (pairs : List (String × String)) : Decidable (Distinct pairs) :=
  inferInstanceAs (Decidable (foldings pairs).Nodup)

/-- The snapshot has an entry for each of these keys and values, and no other. -/
def Holds (s : Snapshot) (pairs : List (String × String)) : Prop :=
  s.entries.Perm (pairs.map entryOf)

namespace Holds

variable {s t : Snapshot} {pairs : List (String × String)} {key value : String}

theorem empty : Holds .empty [] := .refl _

theorem foldings_perm (h : s.Holds pairs) : (s.entries.map (·.folded)).Perm (foldings pairs) := by
  simpa [entryOf, foldings, Function.comp_def] using h.map (·.folded)

theorem distinct (h : s.Holds pairs) : Distinct pairs :=
  h.foldings_perm.nodup_iff.1 s.ascending.nodup

/-- A key is refused if its folding already occurred. -/
theorem insert?_eq_none_iff (h : s.Holds pairs) :
    s.insert? key value = none ↔ fold key ∈ foldings pairs := by
  rw [Snapshot.insert?_eq_none_iff, ← h.foldings_perm.mem_iff, List.mem_map]

/-- A pair that is added is held behind the others. -/
theorem insert? (h : s.Holds pairs) (ht : s.insert? key value = some t) :
    t.Holds (pairs ++ [(key, value)]) := by
  have hp : t.entries.Perm (entryOf (key, value) :: pairs.map entryOf) :=
    (perm_of_insert? ht).trans (h.cons _)
  rw [Holds, List.map_append]
  exact hp.trans (List.perm_append_singleton _ _).symm

/-- Every entry stands under its folded key. -/
theorem folded_eq (h : s.Holds pairs) {e : Entry} (he : e ∈ s.entries) : e.folded = fold e.key := by
  obtain ⟨pair, -, rfl⟩ := List.mem_map.1 (h.mem_iff.1 he)
  rfl

/-- The order in which keys were added leaves no trace. -/
theorem eq_of_perm {others : List (String × String)} (h : s.Holds pairs) (ht : t.Holds others)
    (hp : pairs.Perm others) : s = t := by
  apply eq_of_entries
  apply ((h.trans (hp.map entryOf)).trans ht.symm).eq_of_pairwise _ s.ascending t.ascending
  intro a b _ _ hab hba
  exact absurd (String.lt_trans hab hba) (String.lt_irrefl _)

end Holds

/-! ## Reading -/

/-- The snapshot lists exactly these keys and values: each once, in its original spelling and in
strictly ascending order of the folded keys; and every key is found with its value. -/
structure Lists (s : Snapshot) (pairs : List (String × String)) : Prop where
  toList_perm : s.toList.Perm pairs
  ascending : s.toList.Pairwise fun a b => fold a.1 < fold b.1
  get?_eq_some : ∀ pair ∈ pairs, s.get? pair.1 = some pair.2

/-- All that can be read off a snapshot is said by the pairs that it holds. -/
theorem Holds.lists {s : Snapshot} {pairs : List (String × String)} (h : s.Holds pairs) :
    s.Lists pairs where
  toList_perm := by simpa [toList, entryOf, Function.comp_def] using h.map fun e => (e.key, e.value)
  ascending := by
    refine List.pairwise_map.2 (s.ascending.imp_of_mem fun {a b} ha hb hlt => ?_)
    rw [← h.folded_eq ha, ← h.folded_eq hb]
    exact hlt
  get?_eq_some pair hpair := by
    have he : entryOf pair ∈ s.entries := h.mem_iff.2 (List.mem_map_of_mem hpair)
    have hfind : s.find? pair.1 = some (entryOf pair) := s.ascending.find?_eq_some he
    rw [get?, hfind]
    rfl

end Sidecar.Secret.Snapshot
