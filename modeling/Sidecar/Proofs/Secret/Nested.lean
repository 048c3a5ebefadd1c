import Sidecar.Proofs.Secret.Section

/-!
# Sections one after the other

However many sections are entered, what is left are the entries whose folded keys start with the
folded fronts of all of them, one behind the other.  The folded keys lose that front, and the keys
lose as many pieces as the names of the sections have: there are always enough.

The main result is `withinAll_holds`.
-/

namespace Sidecar.Secret.Snapshot

/-! ## A section of a section -/

/-- Two sections cut off both fronts at once, and the pieces of both. -/
theorem strip_strip (front inner : String) (m n : Nat) (e : Entry) :
    (e.strip front m).strip inner n = e.strip (front ++ inner) (m + n) := by
  simp only [Entry.strip, String.toList_ofList, List.drop_drop, String.length_append,
    Text.dropPieces_dropPieces]

/-- A front may be looked for part by part. -/
theorem startsWith_append_iff {front inner : String} (depth : Nat) {e : Entry} :
    e.startsWith (front ++ inner) ↔
      e.startsWith front ∧ (e.strip front depth).startsWith inner := by
  constructor
  · intro h
    rw [startsWith_iff, String.toList_append] at h
    have hstart : e.startsWith front := startsWith_iff.2 ((List.prefix_append _ _).trans h)
    rw [toList_strip_folded depth hstart, List.prefix_append_right_inj] at h
    exact ⟨hstart, startsWith_iff.2 h⟩
  · rintro ⟨hstart, hinner⟩
    rw [startsWith_iff, String.toList_append, toList_strip_folded depth hstart,
      List.prefix_append_right_inj]
    exact startsWith_iff.1 hinner

/-- Below one front and then below another is below both together. -/
theorem below_below (front inner : String) (m n : Nat) (entries : List Entry) :
    below inner n (below front m entries) = below (front ++ inner) (m + n) entries := by
  have hstart : (fun e => (Entry.startsWith inner ∘ Entry.strip front m) e && e.startsWith front) =
      Entry.startsWith (front ++ inner) := by
    funext e
    rw [Bool.eq_iff_iff, Bool.and_eq_true, startsWith_append_iff m, and_comm, Function.comp_apply]
  have hstrip : Entry.strip inner n ∘ Entry.strip front m =
      Entry.strip (front ++ inner) (m + n) := by
    funext e
    exact strip_strip front inner m n e
  rw [below, below, List.filter_map, List.filter_filter, List.map_map, hstrip, hstart]
  rfl

theorem below_empty (entries : List Entry) : below "" 0 entries = entries := by
  have hstart : Entry.startsWith "" = fun _ => true := rfl
  have hstrip : Entry.strip "" 0 = id := by
    funext e
    simp [Entry.strip, Text.dropPieces]
  rw [below, hstart, hstrip, List.filter_eq_self.2 (fun _ _ => rfl), List.map_id]

/-! ## Chains -/

/-- The names of sections that are not empty. -/
def sectionNames (names : List String) : List (List Char) :=
  (names.map sectionName).filter (!·.isEmpty)

/-- What the folded keys below all the sections start with. -/
def chainFront (names : List String) : String := String.join ((sectionNames names).map sectionFront)

/-- How many pieces the names of the sections have together. -/
def chainDepth (names : List String) : Nat :=
  ((sectionNames names).flatMap (Text.pieces delimiter)).length

theorem sectionNames_cons (name : String) (names : List String) :
    sectionNames (name :: names) =
      if sectionName name = [] then sectionNames names
      else sectionName name :: sectionNames names := by
  unfold sectionNames
  by_cases h : sectionName name = []
  · simp [h]
  · simp [h]

theorem entries_withinAll (s : Snapshot) (names : List String) :
    (s.withinAll names).entries = below (chainFront names) (chainDepth names) s.entries := by
  induction names generalizing s with
  | nil => exact (below_empty s.entries).symm
  | cons name names ih =>
    have hstep : s.withinAll (name :: names) = (s.within name).withinAll names := rfl
    rw [hstep, ih, chainFront, chainFront, chainDepth, chainDepth, sectionNames_cons]
    by_cases h : sectionName name = []
    · rw [within_of_eq_nil h, if_pos h]
    · rw [entries_within s h, if_neg h, below_below, List.map_cons, String.join_cons,
        List.flatMap_cons, List.length_append]

/-! ## Names with the same folding -/

/-- Sections whose names have the same folding start behind the same front. -/
theorem sectionFront_congr {name other : String} (h : fold name = fold other) :
    sectionFront (sectionName name) = sectionFront (sectionName other) := by
  rw [← String.toList_inj, toList_sectionFront, toList_sectionFront, lowerBetween_sectionName h]

theorem depth_congr {name other : String} (h : fold name = fold other) :
    (Text.pieces delimiter (sectionName name)).length =
      (Text.pieces delimiter (sectionName other)).length := by
  have hcount := congrArg (List.count delimiter) (lowerBetween_sectionName h)
  rw [count_lowerBetween, count_lowerBetween] at hcount
  rw [Text.length_pieces, Text.length_pieces, hcount]

/-- Of two spellings with the same folding neither is the name of a section, or both are. -/
theorem sectionName_eq_nil_congr {name other : String} (h : fold name = fold other) :
    sectionName name = [] ↔ sectionName other = [] := by
  have hlower := lowerBetween_sectionName h
  constructor
  · intro hname
    rw [hname] at hlower
    exact lowerBetween_eq_nil_iff.1 hlower.symm
  · intro hother
    rw [hother] at hlower
    exact lowerBetween_eq_nil_iff.1 hlower

theorem within_congr (s : Snapshot) {name other : String} (h : fold name = fold other) :
    s.within name = s.within other := by
  by_cases hname : sectionName name = []
  · rw [within_of_eq_nil hname, within_of_eq_nil ((sectionName_eq_nil_congr h).1 hname)]
  · have hother := mt (sectionName_eq_nil_congr h).2 hname
    apply eq_of_entries
    rw [entries_within s hname, entries_within s hother, sectionFront_congr h, depth_congr h]

theorem withinAll_congr (s : Snapshot) {names others : List String}
    (h : names.map fold = others.map fold) : s.withinAll names = s.withinAll others := by
  induction names generalizing s others with
  | nil =>
    obtain rfl := List.map_eq_nil_iff.1 h.symm
    rfl
  | cons name names ih =>
    obtain ⟨other, others, rfl, hname, hnames⟩ := List.map_eq_cons_iff.1 h.symm
    change (s.within name).withinAll names = (s.within other).withinAll others
    rw [within_congr s hname.symm, ih _ hnames.symm]

/-! ## Pieces enough -/

/-- The front of a section has a delimiter for each piece of the name. -/
theorem count_sectionFront (name : List Char) :
    (sectionFront name).toList.count delimiter = (Text.pieces delimiter name).length := by
  rw [toList_sectionFront, List.count_append, count_lowerBetween, Text.length_pieces,
    List.count_singleton_self]

/-- The front of a chain has a delimiter for each piece of its names. -/
theorem count_chainFront (names : List String) :
    (chainFront names).toList.count delimiter = chainDepth names := by
  unfold chainFront chainDepth
  induction sectionNames names with
  | nil => rfl
  | cons name rest ih =>
    rw [List.map_cons, String.join_cons, String.toList_append, List.count_append,
      count_sectionFront, ih, List.flatMap_cons, List.length_append]

/-- A key below the sections has a piece more than their names together. -/
theorem chainDepth_lt {names : List String} {key : String}
    (h : (chainFront names).toList <+: (fold key).toList) :
    chainDepth names < (Text.pieces delimiter key.toList).length := by
  have hcount := h.sublist.count_le delimiter
  rw [count_chainFront, toList_fold, count_lowerBetween] at hcount
  rw [Text.length_pieces]
  exact Nat.lt_succ_of_le hcount

/-! ## What is left -/

/-- The entry that a chain of sections makes of an entry with this key and value. -/
def entryBelow (names : List String) (e : Entry) : Entry where
  folded := String.ofList ((fold e.key).toList.drop (chainFront names).length)
  key := String.ofList ([delimiter].intercalate
    ((Text.pieces delimiter e.key.toList).drop (chainDepth names)))
  value := e.value

/-- Whatever was loaded and however many sections are entered, the entries below all of them are
left, each once and in the order they had, without the fronts and without the pieces of the names;
each key has pieces enough.  Only the foldings of the names matter. -/
theorem withinAll_holds {s : Snapshot} (hs : s.Loaded) (names : List String) :
    (s.withinAll names).entries =
        (s.entries.filter fun e => (chainFront names).toList <+: (fold e.key).toList).map
          (entryBelow names) ∧
      (s.withinAll names).entries.Pairwise (·.folded < ·.folded) ∧
      (∀ e ∈ s.entries, (chainFront names).toList <+: (fold e.key).toList →
        chainDepth names < (Text.pieces delimiter e.key.toList).length) ∧
      ∀ others : List String, others.map fold = names.map fold →
        s.withinAll others = s.withinAll names := by
  refine ⟨?_, (s.withinAll names).ascending, fun _ _ => chainDepth_lt,
    fun _ => withinAll_congr s⟩
  have hfilter : s.entries.filter (Entry.startsWith (chainFront names)) =
      s.entries.filter fun e => (chainFront names).toList <+: (fold e.key).toList := by
    apply List.filter_congr
    intro e he
    rw [Bool.eq_iff_iff, startsWith_iff, decide_eq_true_iff, hs.folded_eq he]
  rw [entries_withinAll, below, hfilter]
  apply List.map_congr_left
  intro e he
  obtain ⟨hmem, hstart⟩ := List.mem_filter.1 he
  rw [Entry.strip, entryBelow, hs.folded_eq hmem,
    Text.dropPieces_eq (chainDepth_lt (of_decide_eq_true hstart))]

/-- The folded key is cut behind more characters than the key. -/
theorem withinAll_holds_two_sections :
    (single "App:İzmir:Tür" "v").Loaded ∧
      ((single "App:İzmir:Tür" "v").withinAll ["APP", "::", "İZMIR:"]).entries =
        [⟨"tür", "Tür", "v"⟩] := by
  refine ⟨loaded_single _ _, ?_⟩
  rw [(withinAll_holds (loaded_single "App:İzmir:Tür" "v") ["APP", "::", "İZMIR:"]).1]
  decide +kernel

end Sidecar.Secret.Snapshot
