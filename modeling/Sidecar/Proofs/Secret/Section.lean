import Sidecar.Proofs.Secret.Fold
import Sidecar.Proofs.Secret.Load

/-!
# What a section holds

Keys that start alike stand together in ascending order, so the scan from the first of them finds
them all; they stay ascending and distinct when the common front is cut off.  Both together are
`below`, which composes: the section of a section is a section.

The main results are `scan_eq_filter`, `ascending_below` and `entries_within`.
-/

namespace Sidecar.Secret.Snapshot

/-! ## Texts that start alike -/

theorem lt_of_append_lt_append {front a b : List Char} (h : front ++ a < front ++ b) : a < b := by
  induction front with
  | nil => exact h
  | cons c front ih =>
    rcases List.cons_lt_cons_iff.1 h with h | ⟨-, h⟩
    · exact absurd h (Char.lt_irrefl c)
    · exact ih h

/-- A text does not come before its own beginning. -/
theorem not_lt_of_prefix {front a : List Char} (h : front <+: a) : ¬a < front := by
  obtain ⟨rest, rfl⟩ := h
  intro hlt
  rw [← List.append_nil front, List.append_assoc, List.nil_append] at hlt
  exact List.not_lt_nil rest (lt_of_append_lt_append hlt)

/-- What lies between a front and a text that starts with it starts with it too. -/
theorem prefix_of_lt_append {front a rest : List Char} (hge : ¬a < front)
    (hlt : a < front ++ rest) : front <+: a := by
  induction front generalizing a with
  | nil => exact List.nil_prefix
  | cons c front ih =>
    cases a with
    | nil => exact absurd (List.nil_lt_cons c front) hge
    | cons d a =>
      rw [List.cons_lt_cons_iff, not_or, not_and] at hge
      rcases List.cons_lt_cons_iff.1 hlt with h | ⟨rfl, h⟩
      · exact absurd h hge.1
      · exact List.cons_prefix_cons.2 ⟨rfl, ih (hge.2 rfl) h⟩

theorem startsWith_iff {front : String} {e : Entry} :
    e.startsWith front ↔ front.toList <+: e.folded.toList :=
  List.isPrefixOf_iff_prefix

/-! ## The scan -/

/-- From the first key that starts alike, all of them stand in a row. -/
theorem takeWhile_startsWith {front : String} {entries : List Entry} (hs : Ascending entries)
    (hge : ∀ e ∈ entries, ¬e.folded < front) :
    entries.takeWhile (Entry.startsWith front) = entries.filter (Entry.startsWith front) := by
  induction entries with
  | nil => rfl
  | cons e rest ih =>
    obtain ⟨he, hrest⟩ := List.pairwise_cons.1 hs
    by_cases hstart : e.startsWith front
    · rw [List.takeWhile_cons_of_pos hstart, List.filter_cons_of_pos hstart,
        ih hrest fun g hg => hge g (List.mem_cons_of_mem e hg)]
    · rw [List.takeWhile_cons_of_neg hstart, List.filter_cons_of_neg hstart]
      symm
      rw [List.filter_eq_nil_iff]
      intro g hg hgstart
      -- the head would lie between the front and a key that starts with it
      obtain ⟨tail, htail⟩ := startsWith_iff.1 hgstart
      have hlt := he g hg
      have hhead := hge e List.mem_cons_self
      rw [String.lt_iff, ← htail] at hlt
      rw [String.lt_iff] at hhead
      exact hstart (startsWith_iff.2 (prefix_of_lt_append hhead hlt))

/-- The scan finds all entries that start with the front. -/
theorem scan_eq_filter (front : String) {entries : List Entry} (hs : Ascending entries) :
    scan front entries = entries.filter (Entry.startsWith front) := by
  induction entries with
  | nil => rfl
  | cons e rest ih =>
    obtain ⟨he, hrest⟩ := List.pairwise_cons.1 hs
    by_cases hlt : e.folded < front
    · have hstart : ¬e.startsWith front := by
        rw [startsWith_iff]
        intro hprefix
        rw [String.lt_iff] at hlt
        exact not_lt_of_prefix hprefix hlt
      rw [List.filter_cons_of_neg hstart, ← ih hrest, scan, scan,
        List.dropWhile_cons_of_pos (by simpa using hlt)]
    · rw [scan, List.dropWhile_cons_of_neg (by simpa using hlt)]
      apply takeWhile_startsWith hs
      intro g hg hglt
      rcases List.mem_cons.1 hg with rfl | hg
      · exact hlt hglt
      · exact hlt (String.lt_trans (he g hg) hglt)

/-! ## Collecting -/

/-- An entry with a greater key is put at the end. -/
theorem replace_of_lt {e : Entry} {held : List Entry} (h : ∀ f ∈ held, f.folded < e.folded) :
    replace e held = held ++ [e] := by
  induction held with
  | nil => rfl
  | cons f rest ih =>
    obtain ⟨hf, hrest⟩ := List.forall_mem_cons.1 h
    have hne : e.folded ≠ f.folded := fun heq => String.lt_irrefl _ (heq ▸ hf)
    have hnot : ¬e.folded < f.folded := fun hlt =>
      String.lt_irrefl _ (String.lt_trans hlt hf)
    rw [replace, if_neg hnot, if_neg hne, ih hrest, List.cons_append]

/-- Entries that come in ascending order are taken as they are. -/
theorem collect_eq_self {entries : List Entry} (hs : Ascending entries) :
    collect entries = entries := by
  have hfold : ∀ held, Ascending (held ++ entries) →
      entries.foldl (fun held e => replace e held) held = held ++ entries := by
    clear hs
    induction entries with
    | nil => intro held _; simp
    | cons e rest ih =>
      intro held hs
      have hlt : ∀ f ∈ held, f.folded < e.folded := fun f hf =>
        (List.pairwise_append.1 hs).2.2 f hf e List.mem_cons_self
      rw [List.foldl_cons, replace_of_lt hlt, ih, List.append_assoc, List.singleton_append]
      rwa [List.append_assoc, List.singleton_append]
  exact hfold [] hs

/-! ## The entries below a front -/

/-- The entries whose folded keys start with `front`, without it and without the first `depth`
pieces of their keys. -/
def below (front : String) (depth : Nat) (entries : List Entry) : List Entry :=
  (entries.filter (Entry.startsWith front)).map (Entry.strip front depth)

theorem toList_strip_folded {front : String} {e : Entry} (depth : Nat) (h : e.startsWith front) :
    e.folded.toList = front.toList ++ (e.strip front depth).folded.toList := by
  obtain ⟨tail, htail⟩ := startsWith_iff.1 h
  rw [Entry.strip, String.toList_ofList, ← htail, ← String.length_toList, List.drop_left]

/-- Without a common front the folded keys are as distinct as with it, and in the same order. -/
theorem ascending_below {entries : List Entry} (front : String) (depth : Nat)
    (hs : Ascending entries) : Ascending (below front depth entries) := by
  apply List.pairwise_map.2
  have hfilter := hs.filter (Entry.startsWith front)
  refine hfilter.imp_of_mem fun {a b} ha hb hlt => ?_
  have ha' := toList_strip_folded depth (List.mem_filter.1 ha).2
  have hb' := toList_strip_folded depth (List.mem_filter.1 hb).2
  rw [String.lt_iff, ha', hb'] at hlt
  rw [String.lt_iff]
  exact lt_of_append_lt_append hlt

theorem within_of_eq_nil {s : Snapshot} {name : String} (h : sectionName name = []) :
    s.within name = s := by
  rw [within, h]
  rfl

theorem entries_within (s : Snapshot) {name : String} (h : sectionName name ≠ []) :
    (s.within name).entries =
      below (sectionFront (sectionName name))
        (Text.pieces delimiter (sectionName name)).length s.entries := by
  rw [within, if_neg (by simpa using h), ofEntries, scan_eq_filter _ s.ascending]
  exact collect_eq_self (ascending_below _ _ s.ascending)

end Sidecar.Secret.Snapshot
