import Sidecar.Unicode.Normal

/-!
# Characters that stay in composed text

A character that is not split, absorbs no other and is absorbed by none is there after composition
if it was there before, wherever the marks around it go.

The main result is `mem_compose`.
-/

namespace Sidecar.Unicode

variable {c d : Char} {s : List Char}

/-- A character that has nothing to do with composition. -/
structure IsAlone (c : Char) : Prop where
  split?_eq : split? c = none
  join?_front (d : Char) : join? c d = none
  join?_back (d : Char) : join? d c = none

/-- Letters and signs, behind which a mark may become part of the character. -/
def takesMarks (c : Char) : Bool :=
  0x80 ≤ c.toNat || c.isAlpha || c == '<' || c == '=' || c == '>'

set_option maxRecDepth 2000 in
/-- No ASCII character becomes part of another or comes of two, and few have others become part of
them. -/
theorem takesMarks_of_mem_compositions : ∀ row ∈ compositions, 0x80 ≤ row.1 ∧
    ∀ pair ∈ pairs row.2.toList, takesMarks pair.1 ∧ 0x80 ≤ pair.2.toNat := by
  -- a row is taken apart as a literal, since decoding it costs too much
  have hrows : ∀ row ∈ compositions, ∃ s, row.2 = String.ofList s ∧ 0x80 ≤ row.1 ∧
      (pairs s).all fun pair => takesMarks pair.1 && 0x80 ≤ pair.2.toNat := by
    unfold compositions
    repeat
      rw [List.forall_mem_cons]
      refine ⟨⟨_, rfl, by decide, by decide +kernel⟩, ?_⟩
    exact List.forall_mem_nil _
  intro row hrow
  obtain ⟨s, hs, hback, hall⟩ := hrows row hrow
  rw [hs, String.toList_ofList]
  refine ⟨hback, fun pair hpair => ?_⟩
  simpa using List.all_eq_true.1 hall pair hpair

/-- A character of ASCII that takes no marks is in no composition. -/
theorem isAlone_of_ascii (hascii : c.toNat < 0x80) (h : takesMarks c = false) : IsAlone c := by
  have hsyllable : Hangul.isSyllable c = false := by
    unfold Hangul.isSyllable
    rw [decide_eq_false (show ¬0xAC00 ≤ c.toNat by omega), Bool.false_and]
  constructor
  case split?_eq =>
    have hhangul : Hangul.split? c = none := by
      rw [Hangul.split?, hsyllable]
      rfl
    rw [split?, hhangul, Option.orElse_eq_orElse, Option.orElse_eq_or, Option.none_or]
    refine List.findSome?_eq_none_iff.2 fun row hrow => ?_
    rw [Option.map_eq_none_iff, List.find?_eq_none]
    intro pair hpair hwhole
    have hbound := ((takesMarks_of_mem_compositions row hrow).2 pair hpair).2
    rw [beq_iff_eq.1 hwhole] at hbound
    omega
  case join?_front =>
    intro d
    have hhangul : Hangul.join? c d = none := by
      unfold Hangul.join?
      rw [hsyllable, decide_eq_false (show ¬0x1100 ≤ c.toNat by omega)]
      rfl
    rw [join?, hhangul, Option.orElse_eq_orElse, Option.orElse_eq_or, Option.none_or]
    refine List.findSome?_eq_none_iff.2 fun row hrow => ?_
    refine List.lookup_eq_none_iff.2 fun pair hpair => ?_
    rw [bne_iff_ne]
    rintro rfl
    have hrow := (List.mem_filter.1 hrow).1
    rw [((takesMarks_of_mem_compositions row hrow).2 pair hpair).1] at h
    cases h
  case join?_back =>
    intro d
    have hhangul : Hangul.join? d c = none := by
      unfold Hangul.join?
      rw [decide_eq_false (show ¬0x1161 ≤ c.toNat by omega),
        decide_eq_false (show ¬0x11A7 < c.toNat by omega)]
      simp
    have hfilter : compositions.filter (·.1 == c.toNat) = [] := by
      refine List.filter_eq_nil_iff.2 fun row hrow hback => ?_
      have hbound := (takesMarks_of_mem_compositions row hrow).1
      rw [beq_iff_eq.1 hback] at hbound
      omega
    rw [join?, hhangul, hfilter]
    rfl

/-! ## Composition -/

theorem mem_decompose (h : IsAlone c) (hc : c ∈ s) : c ∈ decompose s := by
  refine List.mem_flatMap.2 ⟨c, hc, ?_⟩
  rw [splitOff, h.split?_eq]
  exact List.mem_singleton.2 rfl

theorem mem_sink : d ∈ sink c s ↔ d ∈ c :: s := by
  induction s with
  | nil => rfl
  | cons e rest ih =>
    unfold sink
    split
    case isTrue =>
      rw [List.mem_cons, ih]
      simp only [List.mem_cons]
      exact or_left_comm
    case isFalse => rfl

theorem mem_sortMarks : d ∈ sortMarks s ↔ d ∈ s := by
  induction s with
  | nil => rfl
  | cons c rest ih => rw [sortMarks, mem_sink, List.mem_cons, List.mem_cons, ih]

/-- Only what is joined is lost. -/
theorem mem_joinBehind (h : IsAlone d) {passed : List Char} (hd : d = c ∨ d ∈ passed ∨ d ∈ s) :
    d ∈ joinBehind c passed s := by
  induction s generalizing c passed with
  | nil =>
    simpa [joinBehind] using hd
  | cons e rest ih =>
    unfold joinBehind
    dsimp only
    split
    case h_1 whole hjoin =>
      have hwhole : join? c e = some whole := (Option.ite_none_right_eq_some.1 hjoin).2
      apply ih
      rcases hd with rfl | hd | hd
      · rw [h.join?_front] at hwhole
        cases hwhole
      · exact .inr (.inl hd)
      · rcases List.mem_cons.1 hd with rfl | hd
        · rw [h.join?_back] at hwhole
          cases hwhole
        · exact .inr (.inr hd)
    case h_2 =>
      split
      case isTrue =>
        rw [List.cons_append, List.mem_cons, List.mem_append, List.mem_reverse]
        rcases hd with rfl | hd | hd
        · exact .inl rfl
        · exact .inr (.inl hd)
        · exact .inr (.inr (ih ((List.mem_cons.1 hd).imp_right .inr)))
      case isFalse =>
        apply ih
        rcases hd with rfl | hd | hd
        · exact .inl rfl
        · exact .inr (.inl (List.mem_cons_of_mem _ hd))
        · rcases List.mem_cons.1 hd with rfl | hd
          · exact .inr (.inl List.mem_cons_self)
          · exact .inr (.inr hd)

/-- What is alone outlasts composition. -/
theorem mem_compose (h : IsAlone c) (hc : c ∈ s) : c ∈ compose s := by
  have hsorted : c ∈ sortMarks (decompose s) := mem_sortMarks.2 (mem_decompose h hc)
  unfold compose
  cases hs : sortMarks (decompose s) with
  | nil =>
    rw [hs] at hsorted
    exact absurd hsorted List.not_mem_nil
  | cons front rest =>
    rw [hs] at hsorted
    exact mem_joinBehind h ((List.mem_cons.1 hsorted).imp_right .inr)

end Sidecar.Unicode
