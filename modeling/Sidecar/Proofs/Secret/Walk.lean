import Mathlib.Algebra.Order.BigOperators.Group.List
import Mathlib.Algebra.Order.Group.Nat
import Sidecar.Proofs.Secret.Children

/-!
# Walks

A walk takes the children of a configuration in order and walks on through the section of each.  It
comes to an end exactly if no key has an empty segment: the section of the empty child is the whole
configuration again.  A walk that ends visits every entry once.

The main results are `exists_walk`, `Walk.perm` and `children_share_out`.
-/

namespace Sidecar.Secret.Snapshot

/-! ## Visits -/

/-- A value that is found on a walk, and the children that lead to it. -/
structure Visit where
  path : List String
  value : String

/-- The folded key at the end of a path. -/
def foldedPath : List String → String
  | [] => ""
  | [name] => fold name
  | name :: rest => fold name ++ ":" ++ foldedPath rest

/-- The visit as it is seen from the configuration that `child` belongs to. -/
def Visit.under (child : String) (v : Visit) : Visit := ⟨child :: v.path, v.value⟩

/-- The value at a child, if there is one, and whatever is visited in its section. -/
def visitsAt (s : Snapshot) (child : String) (deeper : List Visit) : List Visit :=
  (s.get? child).toList.map (⟨[child], ·⟩) ++ deeper.map (Visit.under child)

/-- A walk that ends, and its visits. -/
inductive Walk : Snapshot → List Visit → Prop
  | through {s : Snapshot} {deeper : String → List Visit}
      (walks : ∀ c ∈ s.children, Walk (s.within c) (deeper c)) :
      Walk s (s.children.flatMap fun c => s.visitsAt c (deeper c))

theorem foldedPath_cons (name : String) {rest : List String} (h : rest ≠ []) :
    foldedPath (name :: rest) = fold name ++ ":" ++ foldedPath rest := by
  cases rest with
  | nil => exact absurd rfl h
  | cons _ _ => rfl

variable {s : Snapshot} {c : String} {e : Entry} {visited : List Visit}

theorem path_ne_nil_of_mem_visitsAt {deeper : List Visit} {v : Visit}
    (h : v ∈ s.visitsAt c deeper) : v.path ≠ [] := by
  rcases List.mem_append.1 h with hown | hinside
  · obtain ⟨value, -, rfl⟩ := List.mem_map.1 hown
    exact List.cons_ne_nil _ _
  · obtain ⟨w, -, rfl⟩ := List.mem_map.1 hinside
    exact List.cons_ne_nil _ _

theorem Walk.path_ne_nil (h : s.Walk visited) {v : Visit} (hv : v ∈ visited) : v.path ≠ [] := by
  cases h with
  | through walks =>
    obtain ⟨c, -, hc⟩ := List.mem_flatMap.1 hv
    exact path_ne_nil_of_mem_visitsAt hc

/-! ## Walks that end -/

/-- Beneath the empty child the same walk begins again. -/
theorem Walk.empty_not_mem_children (h : s.Walk visited) : "" ∉ s.children := by
  induction h with
  | through walks ih =>
    intro hempty
    have hagain := ih "" hempty
    rw [within_empty] at hagain
    exact hagain hempty

theorem Walk.firstPiece_ne_empty (h : s.Walk visited) (he : e ∈ s.entries) :
    firstPiece e.key ≠ "" :=
  fun hempty => h.empty_not_mem_children (empty_mem_children_iff.2 ⟨e, he, hempty⟩)

section Simple

variable (hs : s.Apart) (hc : IsSimple c)
include hs hc

/-- What is in the section of a child has lost its first segment. -/
theorem segments_of_startsWith (he : e ∈ s.entries) (hstart : e.startsWith (fold c ++ ":")) :
    segments e.key = firstPiece e.key :: segments (e.strip (fold c ++ ":") 1).key := by
  rw [← hc.sectionFront_eq] at hstart ⊢
  have hstrip := (hs e he).segments_strip hstart
  rw [hc.length_pieces] at hstrip
  rw [hstrip, List.drop_one]
  exact (List.cons_head?_tail (head?_segments e.key)).symm

theorem exists_of_mem_within {f : Entry} (hf : f ∈ (s.within c).entries) :
    ∃ e ∈ s.entries, segments e.key = firstPiece e.key :: segments f.key := by
  obtain ⟨e, he, hstart, rfl⟩ := hc.mem_within_iff.1 hf
  exact ⟨e, he, segments_of_startsWith hs hc he hstart⟩

/-- An entry has but one segment, or what is left of it is in the section of a child. -/
theorem segments_cases (he : e ∈ s.entries) (hfold : fold c = fold (firstPiece e.key)) :
    segments e.key = [firstPiece e.key] ∨
      ∃ f ∈ (s.within c).entries, segments e.key = firstPiece e.key :: segments f.key := by
  have hfirst := (hs e he).firstPiece_folded
  rw [← hfold, hc.firstPiece_eq_fold_iff] at hfirst
  rcases hfirst with hown | hinside
  · have hapart := hs e he
    rw [Entry.Apart, hown, segments_of_not_mem (mt delimiter_mem_fold_iff.1 hc.delimiter_not_mem),
      eq_comm] at hapart
    obtain ⟨segment, hsegments, -⟩ := List.map_eq_singleton_iff.1 hapart
    have hhead := head?_segments e.key
    rw [hsegments] at hhead ⊢
    exact .inl (congrArg (fun p => [p]) (Option.some.inj hhead))
  · have hstart := startsWith_iff.2 hinside
    exact .inr ⟨_, hc.mem_within_iff.2 ⟨e, he, hstart, rfl⟩, segments_of_startsWith hs hc he hstart⟩

end Simple

/-- Where a walk ends, no key has an empty segment. -/
theorem Walk.empty_not_mem_segments (h : s.Walk visited) (hs : s.Apart) (he : e ∈ s.entries) :
    "" ∉ segments e.key := by
  have hfirst {e : Entry} (he : e ∈ s.entries) := h.firstPiece_ne_empty he
  induction h generalizing e with
  | @through s deeper walks ih =>
    obtain ⟨c, hnamed, hfold⟩ := exists_mem_named he (hfirst he)
    have hc := (mem_named.1 hnamed).1
    rcases segments_cases hs (isSimple_of_mem_named hnamed) he hfold with hone | ⟨f, hf, hmore⟩
    · rw [hone, List.mem_singleton]
      exact (hfirst he).symm
    · rw [hmore, List.mem_cons, not_or]
      exact ⟨(hfirst he).symm, ih c hc (hs.within c) hf (walks c hc).firstPiece_ne_empty⟩

/-- Where no key has an empty segment, a walk gets through a segment of every key at a time. -/
theorem exists_walk (hs : s.Apart) (h : ∀ e ∈ s.entries, "" ∉ segments e.key) :
    ∃ visited, s.Walk visited := by
  suffices hbound : ∀ n, ∀ s : Snapshot, s.Apart → (∀ e ∈ s.entries, "" ∉ segments e.key) →
      (∀ e ∈ s.entries, (segments e.key).length ≤ n) → ∃ visited, s.Walk visited by
    refine hbound (s.entries.map fun e => (segments e.key).length).sum s hs h ?_
    exact fun e he => List.le_sum_of_mem (List.mem_map_of_mem he)
  intro n
  induction n with
  | zero =>
    intro s _ _ hn
    have hnone : ∀ c, c ∉ s.children := by
      intro c hc
      obtain ⟨e, he, -⟩ := exists_of_mem_children hc
      exact segments_ne_nil e.key (List.length_eq_zero_iff.1 (Nat.le_zero.1 (hn e he)))
    exact ⟨_, @Walk.through s (fun _ => []) fun c hc => absurd hc (hnone c)⟩
  | succ n ih =>
    intro s hs h hn
    have hwalks : ∀ c ∈ s.children, ∃ visited, (s.within c).Walk visited := by
      intro c hc
      have hname : c ≠ "" := by
        rintro rfl
        obtain ⟨e, he, hempty⟩ := empty_mem_children_iff.1 hc
        exact h e he (List.mem_of_head? (hempty ▸ head?_segments e.key))
      have hsimple := isSimple_of_mem_named (mem_named.2 ⟨hc, hname⟩)
      apply ih (s.within c) (hs.within c)
      · intro f hf
        obtain ⟨e, he, hsegments⟩ := exists_of_mem_within hs hsimple hf
        exact fun hmem => h e he (hsegments ▸ List.mem_cons_of_mem _ hmem)
      · intro f hf
        obtain ⟨e, he, hsegments⟩ := exists_of_mem_within hs hsimple hf
        have hlength := hn e he
        rw [hsegments, List.length_cons] at hlength
        exact Nat.le_of_succ_le_succ hlength
    choose! deeper hdeeper using hwalks
    exact ⟨_, .through hdeeper⟩

/-! ## What a walk visits -/

/-- A folded key and the value that belongs to it. -/
abbrev Found := String × String

def Visit.found (v : Visit) : Found := (foldedPath v.path, v.value)

def Entry.found (e : Entry) : Found := (e.folded, e.value)

/-- At a child a walk visits what is reached through it. -/
theorem visitsAt_perm (hc : IsSimple c) {deeper : List Visit} (hpaths : ∀ v ∈ deeper, v.path ≠ [])
    (hdeeper : (deeper.map Visit.found).Perm ((s.within c).entries.map Entry.found)) :
    ((s.visitsAt c deeper).map Visit.found).Perm ((s.through c).map Entry.found) := by
  -- in front of all that is found in the section stands the name of the child
  let front : Found → Found := fun p => (fold c ++ ":" ++ p.1, p.2)
  have hown : ((s.get? c).toList.map (⟨[c], ·⟩)).map Visit.found =
      (s.find? c).toList.map Entry.found := by
    rw [get?]
    cases hfind : s.find? c with
    | none => rfl
    | some e =>
      have hfolded : e.folded = fold c := by simpa using List.find?_some hfind
      simp [Visit.found, Entry.found, foldedPath, hfolded]
  have hunder : (deeper.map (Visit.under c)).map Visit.found =
      (deeper.map Visit.found).map front := by
    rw [List.map_map, List.map_map]
    apply List.map_congr_left
    intro v hv
    simp [Visit.found, Visit.under, front, foldedPath_cons c (hpaths v hv)]
  have hinside : ((s.within c).entries.map Entry.found).map front =
      (s.entries.filter (Entry.startsWith (fold c ++ ":"))).map Entry.found := by
    rw [hc.entries_within, below, List.map_map, List.map_map]
    apply List.map_congr_left
    intro e he
    have hfolded := toList_strip_folded 1 (List.mem_filter.1 he).2
    rw [← String.toList_append, String.toList_inj] at hfolded
    simp [Entry.found, front, value_strip, ← hfolded]
  rw [visitsAt, through, List.map_append, List.map_append, hown, hunder, ← hinside]
  exact (hdeeper.map front).append_left _

/-- A walk that ends visits every entry once. -/
theorem Walk.perm (h : s.Walk visited) (hs : s.Apart) :
    (visited.map Visit.found).Perm (s.entries.map Entry.found) := by
  have hfirst {e : Entry} (he : e ∈ s.entries) := h.firstPiece_ne_empty he
  induction h with
  | @through s deeper walks ih =>
    have hchildren := named_eq_children fun e he => hfirst he
    have hthrough := flatMap_through_perm hs
    rw [hchildren, filter_eq_entries fun e he => hfirst he] at hthrough
    refine .trans ?_ (hthrough.map _)
    rw [List.map_flatMap, List.map_flatMap]
    apply List.Perm.flatMap_left
    intro c hc
    have hnamed := hc
    rw [← hchildren] at hnamed
    exact visitsAt_perm (isSimple_of_mem_named hnamed) (fun v => (walks c hc).path_ne_nil)
      (ih c hc (hs.within c) (walks c hc).firstPiece_ne_empty)

/-! ## Children share out a configuration -/

/-- The children of what is left of a loaded configuration below some sections have distinct
foldings.  The section of the empty child is the whole of it.  Where keys fold apart, an entry with
a first segment is reached through one child with a name, in one way, and the others are reached
through none; so sizes add up, and they do for all children if no key has an empty first segment.
A walk ends if and only if no key has an empty segment, and then it visits every entry once. -/
theorem children_share_out {s : Snapshot} (hs : s.Loaded) (names : List String) :
    let t := s.withinAll names
    (t.children.map fold).Nodup ∧ t.within "" = t ∧
    ((∀ e ∈ s.entries, FoldsApart e.key) →
      (∀ e ∈ t.entries, firstPiece e.key ≠ "" →
        ∃! p : String × Way, p.1 ∈ t.named ∧ t.Reached e p.1 p.2) ∧
      (∀ e ∈ t.entries, firstPiece e.key = "" → ∀ c ∈ t.named, ∀ way, ¬t.Reached e c way) ∧
      (t.named.map t.sizeThrough).sum = (t.entries.filter (firstPiece ·.key ≠ "")).length ∧
      ((∀ e ∈ t.entries, firstPiece e.key ≠ "") →
        t.named = t.children ∧ t.size = (t.children.map t.sizeThrough).sum) ∧
      ((∃ visited, t.Walk visited) ↔ ∀ e ∈ t.entries, "" ∉ segments e.key) ∧
      ∀ visited, t.Walk visited →
        (visited.map Visit.found).Perm (t.entries.map Entry.found)) := by
  intro t
  refine ⟨nodup_children t, within_empty t, fun hkeys => ?_⟩
  have hapart : t.Apart := (hs.apart hkeys).withinAll names
  refine ⟨fun e he => existsUnique_reached hapart he, fun e he hempty c hc =>
    not_reached_of_firstPiece_eq_empty hapart he hempty hc, sum_sizeThrough hapart,
    fun hfirst => ⟨named_eq_children hfirst, ?_⟩, ?_, fun visited hwalk => hwalk.perm hapart⟩
  · rw [← named_eq_children hfirst, sum_sizeThrough hapart, filter_eq_entries hfirst]
    rfl
  · constructor
    · rintro ⟨visited, hwalk⟩ e he
      exact hwalk.empty_not_mem_segments hapart he
    · exact exists_walk hapart

/-- A child with a key of its own and keys in two spellings below it, and one with nothing else. -/
theorem children_share_out_two_spellings :
    ∃ s : Snapshot, s.Loaded ∧ (∀ e ∈ s.entries, FoldsApart e.key) ∧
      s.toList = [("Db", "1"), ("DB:Host", "2"), ("db:Replica:Host", "3"), ("Log", "4")] ∧
      s.children = ["Db", "Log"] ∧ s.size = (s.children.map s.sizeThrough).sum ∧
      ∃ visited, s.Walk visited ∧
        (visited.map Visit.found).Perm
          [("db", "1"), ("db:host", "2"), ("db:replica:host", "3"), ("log", "4")] := by
  let pairs := [("Db", "1"), ("DB:Host", "2"), ("db:Replica:Host", "3"), ("Log", "4")]
  let s : Snapshot := ofEntries (pairs.map entryOf)
  have hentries : s.entries = pairs.map entryOf := by decide +kernel
  have hs : s.Loaded := (show s.Holds pairs from .of_eq hentries).loaded
  have hkeys : ∀ e ∈ s.entries, FoldsApart e.key := by
    have hsigma : ∀ pair ∈ pairs, 'Σ' ∉ pair.1.toList := by decide
    rw [hentries]
    intro e he
    obtain ⟨pair, hpair, rfl⟩ := List.mem_map.1 he
    exact foldsApart_of_not_mem (hsigma pair hpair)
  have hsegments : ∀ e ∈ s.entries, "" ∉ segments e.key := by
    rw [hentries]
    decide
  have hfirst : ∀ e ∈ s.entries, firstPiece e.key ≠ "" := by
    rw [hentries]
    decide
  obtain ⟨-, -, hapart⟩ := children_share_out hs []
  obtain ⟨-, -, -, hsize, hends, hvisits⟩ := hapart hkeys
  obtain ⟨visited, hwalk⟩ := hends.2 hsegments
  have hfound := hvisits visited hwalk
  refine ⟨s, hs, hkeys, by decide +kernel, by decide +kernel, (hsize hfirst).2, visited, hwalk, ?_⟩
  rwa [show (s.withinAll []).entries = pairs.map entryOf from hentries] at hfound

/-- A key with an empty first segment has a child whose section is the whole configuration: what is
in it is reached through other children as well, and no walk ends. -/
theorem children_share_out_empty_segment :
    ∃ s : Snapshot, s.Loaded ∧ s.toList = [(":a", "1"), ("b", "2")] ∧ s.children = ["", "b"] ∧
      (∃ e, s.find? "b" = some e ∧ e ∈ (s.within "").entries) ∧
      s.size = 2 ∧ (s.children.map s.sizeThrough).sum = 3 ∧ ¬∃ visited, s.Walk visited := by
  let pairs := [(":a", "1"), ("b", "2")]
  let s : Snapshot := ofEntries (pairs.map entryOf)
  have hentries : s.entries = pairs.map entryOf := by decide +kernel
  have hs : s.Loaded := (show s.Holds pairs from .of_eq hentries).loaded
  have hchildren : s.children = ["", "b"] := by decide +kernel
  refine ⟨s, hs, by decide +kernel, hchildren, ⟨entryOf ("b", "2"), by decide +kernel, ?_⟩,
    by decide +kernel, by decide +kernel, ?_⟩
  · rw [within_empty, hentries]
    exact List.mem_cons_of_mem _ List.mem_cons_self
  · rintro ⟨visited, hwalk⟩
    exact hwalk.empty_not_mem_children (by rw [hchildren]; exact List.mem_cons_self)

end Sidecar.Secret.Snapshot
