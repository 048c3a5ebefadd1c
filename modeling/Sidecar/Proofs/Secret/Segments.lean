import Sidecar.Proofs.Secret.Lookup
import Sidecar.Proofs.Secret.Nested

/-!
# Folding segment by segment

A key folds apart if its folding falls into the foldings of its segments, each put in lower case as
if it stood alone.  Keys without a sigma at a delimiter do, and what sections leave of an entry folds
apart if the entry does.

The main results are `foldsApart_of_not_sigmaAcross`, `Entry.Apart.segments_strip` and
`Apart.withinAll`.
-/

namespace Sidecar.Secret

open Unicode

namespace Snapshot

/-! ## Delimiters and empty names -/

theorem delimiter_mem_fold_iff {s : String} :
    delimiter ∈ (fold s).toList ↔ delimiter ∈ s.toList := by
  rw [← List.count_pos_iff, ← List.count_pos_iff, toList_fold, count_lowerBetween]

theorem fold_eq_empty_iff {s : String} : fold s = "" ↔ s = "" := by
  rw [← String.toList_inj, toList_fold, ← String.toList_inj]
  exact lowerBetween_eq_nil_iff

/-! ## First pieces -/

/-- A key begins with a segment if it is that segment or goes on behind a delimiter. -/
theorem firstPiece_eq_iff {s front : String} (h : delimiter ∉ front.toList) :
    firstPiece s = front ↔ s = front ∨ (front ++ ":").toList <+: s.toList := by
  have hhead := Text.head?_pieces_eq_iff (s := s.toList) h
  rw [Text.head?_pieces, Option.some_inj] at hhead
  rw [firstPiece, ← String.toList_inj, String.toList_ofList, hhead, String.toList_inj,
    String.toList_append]
  rfl

/-- A first piece ends before the first delimiter. -/
theorem delimiter_not_mem_firstPiece (key : String) : delimiter ∉ (firstPiece key).toList := by
  rw [firstPiece, String.toList_ofList]
  intro hmem
  simpa using List.all_eq_true.1 List.all_takeWhile _ hmem

/-! ## Segments -/

/-- What stands between the delimiters of a key. -/
abbrev segments (key : String) : List String := Text.textPieces delimiter key

/-- The folding of the key falls into the foldings of its segments. -/
def FoldsApart (key : String) : Prop := segments (fold key) = (segments key).map fold

theorem head?_segments (key : String) : (segments key).head? = some (firstPiece key) := by
  rw [segments, Text.textPieces, List.head?_map, Text.head?_pieces]
  rfl

theorem segments_of_not_mem {key : String} (h : delimiter ∉ key.toList) : segments key = [key] := by
  rw [segments, Text.textPieces, Text.pieces_of_not_mem h, List.map_singleton, String.ofList_toList]

/-- A full key has the segments of the name and those of the key. -/
theorem segments_fullKey (name : List Char) (key : String) :
    segments (fullKey name key) = segments (String.ofList name) ++ segments key := by
  rw [segments, Text.textPieces, fullKey, String.toList_ofList, Text.pieces_append_delimiter,
    List.map_append, segments, Text.textPieces, String.toList_ofList]
  rfl

theorem sectionFront_append (name : List Char) (key : String) :
    sectionFront name ++ key = fullKey (fold (String.ofList name)).toList key := by
  rw [← String.toList_inj, String.toList_append, toList_sectionFront, fullKey,
    String.toList_ofList, toList_fold, String.toList_ofList, List.append_assoc]
  rfl

/-- A sigma at a delimiter stays there whatever is put in front. -/
theorem SigmaAcross.append_left {name : List Char} {key : String} (h : SigmaAcross name key)
    (front : List Char) : SigmaAcross (front ++ delimiter :: name) key := by
  -- what a text meets, it meets in front of any other text
  have hmeets {s : List Char} (hs : meets false s.reverse) :
      meets false (front ++ delimiter :: s).reverse := by
    rw [List.reverse_append, List.reverse_cons, List.append_assoc, meets_append]
    exact meets_of_meets_false hs
  rcases h with ⟨⟨first, tail, rfl, htail, hfirst⟩, hkey⟩ | ⟨hname, hkey⟩
  · exact .inl ⟨⟨front ++ delimiter :: first, tail, by simp, htail, hmeets hfirst⟩, hkey⟩
  · exact .inr ⟨hmeets hname, hkey⟩

/-- A key folds apart if no sigma stands in the way at any of its delimiters. -/
theorem foldsApart_of_not_sigmaAcross {key : String}
    (h : ∀ name rest, key = fullKey name rest → ¬SigmaAcross name rest) : FoldsApart key := by
  induction hn : key.toList.count delimiter generalizing key with
  | zero =>
    have hkey : delimiter ∉ key.toList := List.count_eq_zero.1 hn
    rw [FoldsApart, segments_of_not_mem hkey,
      segments_of_not_mem (mt delimiter_mem_fold_iff.1 hkey), List.map_singleton]
  | succ n ih =>
    cases hcut : Text.cutOnce delimiter key.toList with
    | none => rw [List.count_eq_zero_of_not_mem (Text.cutOnce_eq_none_iff.1 hcut)] at hn; omega
    | some ab =>
      obtain ⟨name, rest⟩ := ab
      obtain ⟨hsplit, hname⟩ := Text.cutOnce_eq_some hcut
      obtain rfl : key = fullKey name (String.ofList rest) := by
        rw [← String.toList_inj, hsplit, fullKey, String.toList_ofList, String.toList_ofList]
      have hrest : FoldsApart (String.ofList rest) := by
        apply ih
        · intro inner last hinner hsigma
          refine h (name ++ delimiter :: inner) last ?_ (hsigma.append_left name)
          rw [hinner]
          simp [fullKey]
        · rw [hsplit, List.count_append, List.count_eq_zero_of_not_mem hname,
            List.count_cons_self] at hn
          rw [String.toList_ofList]
          omega
      have hname' : delimiter ∉ (String.ofList name).toList := by rwa [String.toList_ofList]
      rw [FoldsApart, fold_fullKey_iff.2 (h name _ rfl), sectionFront_append, segments_fullKey,
        segments_fullKey, List.map_append, hrest, String.ofList_toList, segments_of_not_mem hname',
        segments_of_not_mem (mt delimiter_mem_fold_iff.1 hname'), List.map_singleton]

/-- Only capital sigmas look past a delimiter. -/
theorem foldsApart_of_not_mem {key : String} (h : 'Σ' ∉ key.toList) : FoldsApart key := by
  apply foldsApart_of_not_sigmaAcross
  rintro name rest rfl
  rw [fullKey, String.toList_ofList, List.mem_append, List.mem_cons, not_or, not_or] at h
  exact not_sigmaAcross h.1 h.2.2

/-! ## Entries that fold apart -/

/-- The folded key falls into the foldings of the key's segments. -/
def Entry.Apart (e : Entry) : Prop := segments e.folded = (segments e.key).map fold

/-- An entry that folds apart begins with the folding of its first segment. -/
theorem Entry.Apart.firstPiece_folded {e : Entry} (h : e.Apart) :
    firstPiece e.folded = fold (firstPiece e.key) := by
  have hhead := congrArg List.head? h
  rw [head?_segments, List.head?_map, head?_segments] at hhead
  exact Option.some.inj hhead

theorem segments_ne_nil (key : String) : segments key ≠ [] :=
  mt List.map_eq_nil_iff.1 (Text.pieces_ne_nil key.toList)

/-- A folded name has as many segments as the name. -/
theorem length_segments_fold (name : List Char) :
    (segments (fold (String.ofList name))).length = (Text.pieces delimiter name).length := by
  rw [segments, Text.textPieces, List.length_map, Text.length_pieces, Text.length_pieces,
    toList_fold, String.toList_ofList, count_lowerBetween]

section Strip

variable {e : Entry} {name : List Char}

/-- An entry of a section has the segments of the name in front of those that are left. -/
theorem segments_folded (h : e.startsWith (sectionFront name)) (depth : Nat) :
    segments e.folded =
      segments (fold (String.ofList name)) ++
        segments (e.strip (sectionFront name) depth).folded := by
  have hfolded : e.folded = sectionFront name ++ (e.strip (sectionFront name) depth).folded := by
    rw [← String.toList_inj, String.toList_append]
    exact toList_strip_folded depth h
  rw [hfolded, sectionFront_append, segments_fullKey, String.ofList_toList]

namespace Entry.Apart

/-- There are enough segments to be dropped. -/
theorem segments_strip (hapart : e.Apart) (h : e.startsWith (sectionFront name)) :
    segments (e.strip (sectionFront name) (Text.pieces delimiter name).length).key =
      (segments e.key).drop (Text.pieces delimiter name).length := by
  have hlength := congrArg List.length
    ((segments_folded h (Text.pieces delimiter name).length).symm.trans hapart)
  rw [List.length_append, length_segments_fold, List.length_map] at hlength
  have hpos := List.length_pos_iff.2 (segments_ne_nil
    (e.strip (sectionFront name) (Text.pieces delimiter name).length).folded)
  have hkey : (segments e.key).length = (Text.pieces delimiter e.key.toList).length :=
    List.length_map _
  rw [segments, Text.textPieces, Entry.strip, String.toList_ofList,
    Text.pieces_dropPieces (by omega), List.map_drop]
  rfl

protected theorem strip (hapart : e.Apart) (h : e.startsWith (sectionFront name)) :
    (e.strip (sectionFront name) (Text.pieces delimiter name).length).Apart := by
  have hdrop := congrArg (List.drop (Text.pieces delimiter name).length)
    ((segments_folded h (Text.pieces delimiter name).length).symm.trans hapart)
  rw [← length_segments_fold, List.drop_left, length_segments_fold, ← List.map_drop,
    ← hapart.segments_strip h] at hdrop
  exact hdrop

end Entry.Apart

end Strip

/-- All entries fold apart. -/
def Apart (s : Snapshot) : Prop := ∀ e ∈ s.entries, e.Apart

theorem Loaded.apart {s : Snapshot} (hs : s.Loaded) (h : ∀ e ∈ s.entries, FoldsApart e.key) :
    s.Apart := by
  intro e he
  rw [Entry.Apart, hs.folded_eq he]
  exact h e he

protected theorem Apart.within {s : Snapshot} (hs : s.Apart) (name : String) :
    (s.within name).Apart := by
  by_cases hname : sectionName name = []
  · rwa [within_of_eq_nil hname]
  · intro f hf
    rw [entries_within s hname] at hf
    obtain ⟨e, he, rfl⟩ := List.mem_map.1 hf
    obtain ⟨hmem, hstart⟩ := List.mem_filter.1 he
    exact (hs e hmem).strip hstart

/-- Sections of a snapshot that folds apart do so too. -/
theorem Apart.withinAll {s : Snapshot} (hs : s.Apart) (names : List String) :
    (s.withinAll names).Apart := by
  induction names generalizing s with
  | nil => exact hs
  | cons name names ih => exact ih (hs.within name)

end Snapshot

end Sidecar.Secret
