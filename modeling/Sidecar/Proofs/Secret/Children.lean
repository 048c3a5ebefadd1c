import Mathlib.Algebra.GroupWithZero.Nat
import Mathlib.Data.List.Perm.Basic
import Mathlib.Data.List.Nodup
import Sidecar.Proofs.Secret.Segments

/-!
# Children and their sections

The children of a configuration share out its entries by the first segment of their folded keys: an
entry is a child's own, or it is in the section of one.  The empty child stands apart, because its
section is the whole configuration.

The main results are `existsUnique_reached`, that there is one child and one way to every entry that
does not begin with a delimiter, and `flatMap_through_perm`, that the children together have just
these entries.
-/

namespace Sidecar.Secret

open Unicode

/-! ## Lists -/

section Lists

variable {α β : Type}

/-- What is picked by one test or another is picked by both in turn, if nothing passes both. -/
theorem filter_append_filter_perm {p q : α → Bool} {l : List α} (h : ∀ a ∈ l, p a → ¬q a) :
    (l.filter p ++ l.filter q).Perm (l.filter fun a => p a || q a) := by
  have hleft : (l.filter fun a => p a || q a).filter p = l.filter p := by
    rw [List.filter_filter]
    apply List.filter_congr
    intro a _
    cases p a <;> rfl
  have hright : (l.filter fun a => p a || q a).filter (!p ·) = l.filter q := by
    rw [List.filter_filter]
    apply List.filter_congr
    intro a ha
    cases hp : p a with
    | false => simp
    | true => simp [h a ha hp]
  rw [← hleft, ← hright]
  exact List.filter_append_perm p _

/-- Distinct labels share out what they label. -/
theorem flatMap_filter_perm [DecidableEq β] (label : α → β) {labels : List β} (h : labels.Nodup)
    (l : List α) :
    (labels.flatMap fun b => l.filter fun a => label a = b).Perm
      (l.filter fun a => label a ∈ labels) := by
  induction labels with
  | nil => simp
  | cons b labels ih =>
    obtain ⟨hb, hlabels⟩ := List.nodup_cons.1 h
    rw [List.flatMap_cons]
    refine ((ih hlabels).append_left _).trans ((filter_append_filter_perm ?_).trans (.of_eq ?_))
    · intro a _ hab hmem
      rw [decide_eq_true_iff] at hab hmem
      exact hb (hab ▸ hmem)
    · apply List.filter_congr
      intro a _
      rw [Bool.eq_iff_iff]
      simp

end Lists

namespace Snapshot

/-! ## Simple names -/

/-- A name that stands for one segment and is not empty. -/
structure IsSimple (name : String) : Prop where
  delimiter_not_mem : delimiter ∉ name.toList
  ne_empty : name ≠ ""

namespace IsSimple

variable {name : String} (h : IsSimple name)
include h

theorem sectionName_eq : sectionName name = name.toList := Text.trim_of_not_mem h.delimiter_not_mem

theorem sectionName_ne_nil : sectionName name ≠ [] := by
  rw [h.sectionName_eq]
  exact mt (fun heq => String.toList_inj.1 heq) h.ne_empty

/-- The section of a simple name starts behind its folding and a delimiter. -/
theorem sectionFront_eq : sectionFront (sectionName name) = fold name ++ ":" := by
  rw [h.sectionName_eq, ← String.toList_inj, toList_sectionFront, String.toList_append, toList_fold]
  rfl

theorem length_pieces : (Text.pieces delimiter (sectionName name)).length = 1 := by
  rw [h.sectionName_eq, Text.pieces_of_not_mem h.delimiter_not_mem, List.length_singleton]

/-- The folding of a simple name and a delimiter stand in front of the folded keys of its section. -/
theorem entries_within (s : Snapshot) :
    (s.within name).entries = below (fold name ++ ":") 1 s.entries := by
  rw [Snapshot.entries_within s h.sectionName_ne_nil, h.sectionFront_eq, h.length_pieces]

/-- The section of a simple name has what is left of the entries that start with it. -/
theorem mem_within_iff {s : Snapshot} {f : Entry} :
    f ∈ (s.within name).entries ↔
      ∃ e ∈ s.entries, e.startsWith (fold name ++ ":") ∧ e.strip (fold name ++ ":") 1 = f := by
  rw [h.entries_within, below, List.mem_map]
  constructor
  · rintro ⟨e, he, hf⟩
    obtain ⟨hmem, hstart⟩ := List.mem_filter.1 he
    exact ⟨e, hmem, hstart, hf⟩
  · rintro ⟨e, hmem, hstart, hf⟩
    exact ⟨e, List.mem_filter.2 ⟨hmem, hstart⟩, hf⟩

/-- A key begins with a simple name if it is that name, or a delimiter follows the name. -/
theorem firstPiece_eq_fold_iff {key : String} :
    firstPiece key = fold name ↔ key = fold name ∨ (fold name ++ ":").toList <+: key.toList :=
  firstPiece_eq_iff (mt delimiter_mem_fold_iff.1 h.delimiter_not_mem)

end IsSimple

theorem within_empty (s : Snapshot) : s.within "" = s := within_of_eq_nil rfl

/-- A key cannot be a name and start with it and a delimiter at once. -/
theorem not_prefix_self (front : String) : ¬(front ++ ":").toList <+: front.toList := by
  intro hprefix
  have hlength := hprefix.length_le
  rw [String.toList_append, List.length_append] at hlength
  exact absurd hlength (Nat.not_succ_le_self _)

/-! ## Distinct names -/

theorem mem_of_mem_distinctNames {seen names : List String} {name : String}
    (h : name ∈ distinctNames seen names) : name ∈ names := by
  induction names generalizing seen with
  | nil => exact h
  | cons other rest ih =>
    rw [distinctNames] at h
    split at h
    · exact List.mem_cons_of_mem _ (ih h)
    · rcases List.mem_cons.1 h with rfl | h
      · exact List.mem_cons_self
      · exact List.mem_cons_of_mem _ (ih h)

theorem fold_not_mem_of_mem_distinctNames {seen names : List String} {name : String}
    (h : name ∈ distinctNames seen names) : fold name ∉ seen := by
  induction names generalizing seen with
  | nil => cases h
  | cons other rest ih =>
    rw [distinctNames] at h
    split at h
    case isTrue => exact ih h
    case isFalse hseen =>
      rcases List.mem_cons.1 h with rfl | h
      · exact hseen
      · exact fun hmem => ih h (List.mem_cons_of_mem _ hmem)

theorem nodup_distinctNames (seen names : List String) :
    ((distinctNames seen names).map fold).Nodup := by
  induction names generalizing seen with
  | nil => exact List.nodup_nil
  | cons name rest ih =>
    rw [distinctNames]
    split
    · exact ih seen
    · rw [List.map_cons, List.nodup_cons]
      refine ⟨?_, ih _⟩
      rintro hmem
      obtain ⟨other, hother, heq⟩ := List.mem_map.1 hmem
      exact fold_not_mem_of_mem_distinctNames hother (heq ▸ List.mem_cons_self)

theorem exists_mem_distinctNames {seen names : List String} {name : String} (h : name ∈ names)
    (hseen : fold name ∉ seen) : ∃ other ∈ distinctNames seen names, fold other = fold name := by
  induction names generalizing seen with
  | nil => cases h
  | cons first rest ih =>
    rw [distinctNames]
    split
    case isTrue hfirst =>
      rcases List.mem_cons.1 h with rfl | h
      · exact absurd hfirst hseen
      · exact ih h hseen
    case isFalse =>
      by_cases heq : fold name = fold first
      · exact ⟨first, List.mem_cons_self, heq.symm⟩
      · have hrest : name ∈ rest := by
          rcases List.mem_cons.1 h with rfl | h
          · exact absurd rfl heq
          · exact h
        obtain ⟨other, hother, hfold⟩ := ih hrest (List.not_mem_cons_of_ne_of_not_mem heq hseen)
        exact ⟨other, List.mem_cons_of_mem _ hother, hfold⟩

/-! ## Children -/

section Children

variable {s : Snapshot} {c d : String} {e : Entry}

/-- No two children have the same folding. -/
theorem nodup_children (s : Snapshot) : (s.children.map fold).Nodup := nodup_distinctNames _ _

theorem eq_of_mem_children (hc : c ∈ s.children) (hd : d ∈ s.children) (h : fold c = fold d) :
    c = d := List.inj_on_of_nodup_map (nodup_children s) hc hd h

theorem exists_of_mem_children (h : c ∈ s.children) : ∃ e ∈ s.entries, firstPiece e.key = c :=
  List.mem_map.1 (mem_of_mem_distinctNames h)

theorem delimiter_not_mem_of_mem_children (h : c ∈ s.children) : delimiter ∉ c.toList := by
  obtain ⟨e, -, rfl⟩ := exists_of_mem_children h
  exact delimiter_not_mem_firstPiece e.key

theorem exists_mem_children (h : e ∈ s.entries) :
    ∃ c ∈ s.children, fold c = fold (firstPiece e.key) :=
  exists_mem_distinctNames (List.mem_map_of_mem h) (by simp)

/-- There is an empty child if a key begins with a delimiter. -/
theorem empty_mem_children_iff : "" ∈ s.children ↔ ∃ e ∈ s.entries, firstPiece e.key = "" := by
  refine ⟨exists_of_mem_children, ?_⟩
  rintro ⟨e, he, hempty⟩
  obtain ⟨c, hc, hfold⟩ := exists_mem_children he
  rw [hempty, fold_eq_empty_iff.2 rfl, fold_eq_empty_iff] at hfold
  exact hfold ▸ hc

/-- The children with a name. -/
def named (s : Snapshot) : List String := s.children.filter (· ≠ "")

theorem mem_named : c ∈ s.named ↔ c ∈ s.children ∧ c ≠ "" := by
  rw [named, List.mem_filter, decide_eq_true_iff]

theorem isSimple_of_mem_named (h : c ∈ s.named) : IsSimple c := by
  obtain ⟨hc, hname⟩ := mem_named.1 h
  exact ⟨delimiter_not_mem_of_mem_children hc, hname⟩

/-- An entry that does not begin with a delimiter has a child with a name. -/
theorem exists_mem_named (he : e ∈ s.entries) (hne : firstPiece e.key ≠ "") :
    ∃ c ∈ s.named, fold c = fold (firstPiece e.key) := by
  obtain ⟨c, hc, hfold⟩ := exists_mem_children he
  refine ⟨c, mem_named.2 ⟨hc, ?_⟩, hfold⟩
  rintro rfl
  exact hne (fold_eq_empty_iff.1 (hfold.symm.trans (fold_eq_empty_iff.2 rfl)))

end Children

/-! ## Through a child -/

/-- The entries that are reached through a child with a name: its own and those of its section. -/
def through (s : Snapshot) (child : String) : List Entry :=
  (s.find? child).toList ++ s.entries.filter (Entry.startsWith (fold child ++ ":"))

/-- How many entries are reached through a child. -/
def sizeThrough (s : Snapshot) (child : String) : Nat :=
  (s.within child).size + if s.contains child then 1 else 0

/-- An entry can be a child's own, or one of its section. -/
inductive Way where
  | own
  | inside

/-- The entry is reached through the child in this way. -/
inductive Reached (s : Snapshot) (e : Entry) (child : String) : Way → Prop
  | own (find : s.find? child = some e) : s.Reached e child .own
  | inside {f : Entry} (mem : f ∈ (s.within child).entries)
      (folded : e.folded = fold child ++ ":" ++ f.folded) (value : e.value = f.value) :
      s.Reached e child .inside

section Through

variable {s : Snapshot} {c : String} {e : Entry}

/-- Of entries in order there is one at most with a folded key. -/
theorem Ascending.toList_find? {entries : List Entry} (hs : Ascending entries) (folded : String) :
    (entries.find? (·.folded == folded)).toList = entries.filter (·.folded = folded) := by
  induction entries with
  | nil => rfl
  | cons e rest ih =>
    obtain ⟨he, hrest⟩ := List.pairwise_cons.1 hs
    by_cases hfolded : e.folded = folded
    · have hnone : rest.filter (·.folded = folded) = [] := by
        rw [List.filter_eq_nil_iff]
        intro f hf
        rw [decide_eq_true_iff, ← hfolded]
        exact fun heq => String.lt_irrefl _ (heq ▸ he f hf)
      rw [List.find?_cons_of_pos (by simpa using hfolded),
        List.filter_cons_of_pos (by simpa using hfolded), hnone]
      rfl
    · rw [List.find?_cons_of_neg (by simpa using hfolded),
        List.filter_cons_of_neg (by simpa using hfolded), ih hrest]

theorem toList_find? (s : Snapshot) (key : String) :
    (s.find? key).toList = s.entries.filter (·.folded = fold key) :=
  s.ascending.toList_find? (fold key)

theorem value_strip (front : String) (depth : Nat) (e : Entry) :
    (e.strip front depth).value = e.value := by rw [Entry.strip]

variable (hc : IsSimple c)
include hc

/-- As many entries are reached through a child as its value and its section have. -/
theorem length_through : (s.through c).length = s.sizeThrough c := by
  have hsize : (s.within c).size = (s.entries.filter (Entry.startsWith (fold c ++ ":"))).length := by
    rw [size, hc.entries_within, below, List.length_map]
  rw [through, List.length_append, sizeThrough, hsize, Nat.add_comm, contains]
  cases s.find? c <;> rfl

/-- What is reached through a child are the entries whose folded keys begin with its folding. -/
theorem through_perm :
    (s.through c).Perm (s.entries.filter fun e => firstPiece e.folded = fold c) := by
  rw [through, toList_find?]
  refine (filter_append_filter_perm ?_).trans (.of_eq (List.filter_congr ?_))
  · intro e _ hown hinside
    rw [decide_eq_true_iff] at hown
    rw [startsWith_iff, hown] at hinside
    exact not_prefix_self _ hinside
  · intro e _
    rw [Bool.eq_iff_iff, Bool.or_eq_true, decide_eq_true_iff, decide_eq_true_iff, startsWith_iff,
      hc.firstPiece_eq_fold_iff]

variable (he : e ∈ s.entries)
include he

omit hc in
/-- The value of a child has the name of the child as its key. -/
theorem reached_own_iff : s.Reached e c .own ↔ e.folded = fold c := by
  constructor
  · rintro ⟨hfind⟩
    simpa using List.find?_some hfind
  · intro hfolded
    have hfind := s.ascending.find?_eq_some he
    rw [hfolded] at hfind
    exact .own hfind

/-- What is in the section of a child has the name and a delimiter in front. -/
theorem reached_inside_iff :
    s.Reached e c .inside ↔ (fold c ++ ":").toList <+: e.folded.toList := by
  constructor
  · intro h
    cases h with
    | inside _ hfolded _ =>
      rw [hfolded, String.toList_append (s := fold c ++ ":")]
      exact List.prefix_append _ _
  · intro hprefix
    have hstart := startsWith_iff.2 hprefix
    apply Reached.inside (hc.mem_within_iff.2 ⟨e, he, hstart, rfl⟩)
    · rw [← String.toList_inj, String.toList_append (s := fold c ++ ":")]
      exact toList_strip_folded 1 hstart
    · exact (value_strip _ _ e).symm

/-- Entries are reached through the child that they begin with. -/
theorem firstPiece_of_reached {way : Way} (h : s.Reached e c way) : firstPiece e.folded = fold c := by
  rw [hc.firstPiece_eq_fold_iff]
  cases way with
  | own => exact .inl ((reached_own_iff he).1 h)
  | inside => exact .inr ((reached_inside_iff hc he).1 h)

/-- Nothing is reached through one child in two ways. -/
theorem existsUnique_way (h : firstPiece e.folded = fold c) : ∃! way, s.Reached e c way := by
  have hboth : s.Reached e c .own → ¬s.Reached e c .inside := by
    rw [reached_own_iff he, reached_inside_iff hc he]
    intro hown
    rw [hown]
    exact not_prefix_self (fold c)
  rw [hc.firstPiece_eq_fold_iff, ← reached_own_iff he, ← reached_inside_iff hc he] at h
  rcases h with hown | hinside
  · refine ⟨.own, hown, ?_⟩
    rintro (_ | _) hway
    · rfl
    · exact absurd hway (hboth hown)
  · refine ⟨.inside, hinside, ?_⟩
    rintro (_ | _) hway
    · exact absurd hinside (hboth hway)
    · rfl

end Through

/-! ## Sharing out -/

section Apart

variable {s : Snapshot} {c : String} {e : Entry}

/-- An entry with a first segment is reached through one child with a name, and in one way. -/
theorem existsUnique_reached (hs : s.Apart) (he : e ∈ s.entries) (hne : firstPiece e.key ≠ "") :
    ∃! p : String × Way, p.1 ∈ s.named ∧ s.Reached e p.1 p.2 := by
  obtain ⟨c, hc, hfold⟩ := exists_mem_named he hne
  have hfirst : firstPiece e.folded = fold c := (hs e he).firstPiece_folded.trans hfold.symm
  obtain ⟨way, hway, honly⟩ := existsUnique_way (isSimple_of_mem_named hc) he hfirst
  refine ⟨(c, way), ⟨hc, hway⟩, ?_⟩
  rintro ⟨d, way'⟩ ⟨hd, hway'⟩
  have hother := firstPiece_of_reached (isSimple_of_mem_named hd) he hway'
  obtain rfl := eq_of_mem_children (mem_named.1 hd).1 (mem_named.1 hc).1 (hother.symm.trans hfirst)
  rw [honly way' hway']

/-- An entry without a first segment is reached through no child with a name. -/
theorem not_reached_of_firstPiece_eq_empty (hs : s.Apart) (he : e ∈ s.entries)
    (hempty : firstPiece e.key = "") (hc : c ∈ s.named) (way : Way) : ¬s.Reached e c way := by
  intro hway
  have hfirst := firstPiece_of_reached (isSimple_of_mem_named hc) he hway
  rw [(hs e he).firstPiece_folded, hempty, fold_eq_empty_iff.2 rfl, eq_comm,
    fold_eq_empty_iff] at hfirst
  exact (mem_named.1 hc).2 hfirst

/-- The children with names share out the entries with first segments. -/
theorem flatMap_through_perm (hs : s.Apart) :
    (s.named.flatMap s.through).Perm (s.entries.filter (firstPiece ·.key ≠ "")) := by
  have hthrough : (s.named.flatMap s.through).Perm
      ((s.named.map fold).flatMap fun f => s.entries.filter (firstPiece ·.folded = f)) := by
    rw [List.flatMap_map]
    exact .flatMap_left _ fun c hc => through_perm (isSimple_of_mem_named hc)
  have hnodup : (s.named.map fold).Nodup := (nodup_children s).sublist (List.filter_sublist.map fold)
  refine hthrough.trans ((flatMap_filter_perm _ hnodup _).trans (.of_eq (List.filter_congr ?_)))
  intro e he
  rw [decide_eq_decide, (hs e he).firstPiece_folded, List.mem_map]
  constructor
  · rintro ⟨c, hc, hfold⟩ hempty
    rw [hempty, fold_eq_empty_iff.2 rfl, fold_eq_empty_iff] at hfold
    exact (mem_named.1 hc).2 hfold
  · intro hne
    exact exists_mem_named he hne

/-- The sizes of the children add up to the number of entries that they share. -/
theorem sum_sizeThrough (hs : s.Apart) :
    (s.named.map s.sizeThrough).sum = (s.entries.filter (firstPiece ·.key ≠ "")).length := by
  rw [← (flatMap_through_perm hs).length_eq, List.length_flatMap]
  congr 1
  apply List.map_congr_left
  intro c hc
  exact (length_through (isSimple_of_mem_named hc)).symm

/-- Without keys that begin with a delimiter, all children have a name. -/
theorem named_eq_children (h : ∀ e ∈ s.entries, firstPiece e.key ≠ "") : s.named = s.children := by
  apply List.filter_eq_self.2
  intro c hc
  obtain ⟨e, he, rfl⟩ := exists_of_mem_children hc
  simpa using h e he

/-- Without keys that begin with a delimiter, all entries are shared. -/
theorem filter_eq_entries (h : ∀ e ∈ s.entries, firstPiece e.key ≠ "") :
    s.entries.filter (firstPiece ·.key ≠ "") = s.entries :=
  List.filter_eq_self.2 fun e he => by simpa using h e he

end Apart

end Snapshot

end Sidecar.Secret
