import Sidecar.Proofs.Secret.Section

/-!
# Looking up through a section

A section is searched for the folded front followed by the folded key, the whole snapshot for the
folding of the full key.  The two agree for every configuration exactly where folding falls into
parts at the delimiter, that is where no sigma stands at it.

The main result is `lookup_within_iff`.
-/

namespace Sidecar.Secret.Snapshot

/-! ## Searching a section -/

/-- An entry is found in a section under what its folded key has behind the front. -/
theorem startsWith_and_strip_iff {front folded : String} {depth : Nat} {e : Entry} :
    (e.startsWith front ∧ (e.strip front depth).folded = folded) ↔ e.folded = front ++ folded := by
  constructor
  · rintro ⟨hstart, rfl⟩
    rw [← String.toList_inj, String.toList_append]
    exact toList_strip_folded depth hstart
  · intro h
    have hstart : e.startsWith front := by
      rw [startsWith_iff, h, String.toList_append]
      exact List.prefix_append _ _
    refine ⟨hstart, ?_⟩
    have hlist := toList_strip_folded depth hstart
    rw [h, String.toList_append] at hlist
    exact String.toList_inj.1 (List.append_cancel_left hlist).symm

/-- Searching below a front is searching for the front with the key behind it. -/
theorem find?_below (front folded : String) (depth : Nat) (entries : List Entry) :
    (below front depth entries).find? (·.folded == folded) =
      (entries.find? (·.folded == front ++ folded)).map (Entry.strip front depth) := by
  rw [below, List.find?_map, List.find?_filter]
  congr 2
  funext e
  rw [Bool.eq_iff_iff, decide_eq_true_iff, Function.comp_apply, beq_iff_eq, beq_iff_eq]
  exact startsWith_and_strip_iff

theorem find?_within (s : Snapshot) {name : String} (h : sectionName name ≠ []) (key : String) :
    (s.within name).find? key =
      (s.entries.find? (·.folded == sectionFront (sectionName name) ++ fold key)).map
        (Entry.strip (sectionFront (sectionName name))
          (Text.pieces delimiter (sectionName name)).length) := by
  rw [find?, entries_within s h, find?_below]

theorem get?_within (s : Snapshot) {name : String} (h : sectionName name ≠ []) (key : String) :
    (s.within name).get? key =
      (s.entries.find? (·.folded == sectionFront (sectionName name) ++ fold key)).map
        (·.value) := by
  rw [get?, find?_within s h, Option.map_map]
  have hvalue (front : String) (depth : Nat) :
      (fun e : Entry => e.value) ∘ Entry.strip front depth = (·.value) := rfl
  rw [hvalue]

theorem contains_within (s : Snapshot) {name : String} (h : sectionName name ≠ []) (key : String) :
    (s.within name).contains key =
      (s.entries.find? (·.folded == sectionFront (sectionName name) ++ fold key)).isSome := by
  rw [contains, find?_within s h, Option.isSome_map]

/-! ## Against the full key -/

/-- Without capital sigmas nothing depends on where a word ends. -/
theorem not_sigmaAcross {name : List Char} {key : String} (hname : 'Σ' ∉ name)
    (hkey : 'Σ' ∉ key.toList) : ¬SigmaAcross name key := by
  rintro (⟨⟨front, tail, hsplit, -⟩, -⟩ | ⟨-, head, rest, hsplit, -⟩)
  · exact hname (by simp [hsplit])
  · exact hkey (by simp [hsplit])

/-- Whatever was loaded, a key is found below a section exactly as its full key is found in the
whole, unless a sigma stands at the delimiter; and then there is a configuration that holds the full
key, but not the key below the section. -/
theorem lookup_within_iff {name : String} (hname : sectionName name ≠ []) (key : String) :
    (∀ s : Snapshot, s.Loaded →
      (s.within name).get? key = s.get? (fullKey (sectionName name) key) ∧
      (s.within name).contains key = s.contains (fullKey (sectionName name) key)) ↔
    ¬SigmaAcross (sectionName name) key := by
  constructor
  · intro hall
    rw [← fold_fullKey_iff]
    -- a configuration that holds nothing but the full key tells the two apart
    let s := single (fullKey (sectionName name) key) "v"
    have hget := (hall s (loaded_single _ _)).1
    have hfull : s.get? (fullKey (sectionName name) key) = some "v" := by
      simp [s, single, get?, find?, entryOf]
    rw [hfull, get?_within s hname, Option.map_eq_some_iff] at hget
    obtain ⟨e, he, -⟩ := hget
    have hmem := List.mem_of_find?_eq_some he
    have hfolded := List.find?_some he
    rw [List.mem_singleton.1 hmem] at hfolded
    exact eq_of_beq hfolded
  · intro hsigma s _
    rw [← fold_fullKey_iff] at hsigma
    constructor
    · rw [get?_within s hname, ← hsigma]
      rfl
    · rw [contains_within s hname, ← hsigma]
      rfl

theorem lookup_within_database :
    sectionName ":Datenbank:" ≠ [] ∧
      ∀ s : Snapshot, s.Loaded →
        (s.within ":Datenbank:").get? "Größe" = s.get? "Datenbank:Größe" := by
  have hname : sectionName ":Datenbank:" ≠ [] := by decide
  refine ⟨hname, fun s hs => ?_⟩
  have hsigma : ¬SigmaAcross (sectionName ":Datenbank:") "Größe" :=
    not_sigmaAcross (by decide) (by decide)
  exact ((lookup_within_iff hname "Größe").2 hsigma s hs).1

/-- The sigma is final in the name of the section, but not in the full key. -/
theorem lookup_within_sigma_ne :
    ∃ s : Snapshot, s.Loaded ∧ (s.within "ΑΣ").get? "Β" = none ∧ s.get? "ΑΣ:Β" = some "v" := by
  refine ⟨single "ΑΣ:Β" "v", loaded_single _ _, ?_, ?_⟩
  · decide +kernel
  · decide +kernel

end Sidecar.Secret.Snapshot
