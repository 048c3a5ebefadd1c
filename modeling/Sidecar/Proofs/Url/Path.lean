import Sidecar.Proofs.Text.Pieces
import Sidecar.Proofs.Url.Percent
import Sidecar.Url.Basic

/-!
# Pushing segments onto a path

A plain segment is pushed as it is, escaped, and what is pushed decodes to it.  Of all other
segments some characters are lost: dots are skipped or take a segment away, tabs and line breaks
are dropped.  Whatever is pushed, the path is written without other slashes than those between its
segments, so it can be read off the written URL.

The main results are `isPlain_of_standsFor` and `exists_pushSegment_eq`, on what is lost when a
segment is pushed, and `pathText_eq_of_text_eq`.
-/

namespace Sidecar.Url

open Text.Utf8

/-! ## Segments -/

/-- A segment that loses nothing when it is pushed. -/
def IsPlain (segment : String) : Prop :=
  segment ≠ "." ∧ segment ≠ ".." ∧ ∀ c ∈ segment.toList, ¬isDropped c

instance (segment : String) : Decidable (IsPlain segment) :=
  decidable_of_iff (segment ≠ "." ∧ segment ≠ ".." ∧ segment.toList.all (!isDropped ·))
    (by simp [IsPlain])

def escaped (segment : String) : String :=
  String.ofList (percentEncode EscapeSet.segment segment.toList)

/-- A written segment decodes to the text. -/
def StandsFor (written text : String) : Prop := percentDecode (encode written) = encode text

theorem StandsFor.eq {written text other : String} (h : StandsFor written text)
    (hother : StandsFor written other) : text = other :=
  encode_injective (h.symm.trans hother)

/-- Escaping a text writes a segment that stands for it. -/
theorem standsFor_escaped (segment : String) : StandsFor (escaped segment) segment := by
  rw [StandsFor, escaped, encode_ofList, percentDecode_percentEncode rfl]
  rfl

theorem standsFor_empty {text : String} (h : StandsFor "" text) : text = "" :=
  encode_injective (h.symm.trans rfl)

/-! ## Pushing one -/

/-- A plain segment is pushed behind the others, escaped. -/
theorem pushSegment_of_isPlain {path : List String} (hpath : path ≠ [""]) {segment : String}
    (h : IsPlain segment) : pushSegment path segment = path ++ [escaped segment] := by
  obtain ⟨hdot, hdots, hkept⟩ := h
  have hfilter : segment.toList.filter (!isDropped ·) = segment.toList :=
    List.filter_eq_self.2 fun c hc => by simpa using hkept c hc
  have hone : segment.toList ≠ ['.'] := fun h => hdot (String.toList_inj.1 h)
  have htwo : segment.toList ≠ ['.', '.'] := fun h => hdots (String.toList_inj.1 h)
  rw [pushSegment, if_neg (not_or.2 ⟨hdot, hdots⟩)]
  simp only [hfilter, if_neg hpath, if_neg hone, if_neg htwo]
  rfl

/-- Nothing but a plain segment is pushed in such a way that it can be read again. -/
theorem isPlain_of_standsFor {path : List String} {segment written : String}
    (hpush : pushSegment path segment = path ++ [written]) (h : StandsFor written segment) :
    IsPlain segment := by
  have hempty {front : List String} (hdots : front ++ [""] = path ++ [written]) :
      segment.toList = [] := by
    obtain ⟨-, rfl⟩ := List.append_singleton_inj.1 hdots
    rw [standsFor_empty h]
    rfl
  unfold pushSegment at hpush
  split at hpush
  case isTrue => simp at hpush
  case isFalse hdots =>
    rw [not_or] at hdots
    refine ⟨hdots.1, hdots.2, ?_⟩
    dsimp only at hpush
    split at hpush
    case isTrue hkept =>
      rw [hempty hpush] at hkept
      exact absurd hkept (by decide)
    case isFalse =>
      split at hpush
      case isTrue hkept =>
        rw [hempty hpush] at hkept
        exact absurd hkept (by decide)
      case isFalse =>
        obtain ⟨-, rfl⟩ := List.append_singleton_inj.1 hpush
        have hkept := standsFor_escaped (String.ofList (segment.toList.filter (!isDropped ·)))
        rw [escaped, String.toList_ofList] at hkept
        have hall := congrArg String.toList (h.eq hkept)
        rw [String.toList_ofList] at hall
        intro c hc
        rw [hall] at hc
        simpa using (List.mem_filter.1 hc).2

/-! ## Pushing any -/

/-- Two dots take a segment away, or there is none to take. -/
theorem parent_eq_or_dropLast (path : List String) :
    parent path = path ∨ parent path = path.dropLast := by
  unfold parent
  split
  case h_1 =>
    split
    · exact .inl rfl
    · exact .inr rfl
  case h_2 hlast =>
    rw [List.getLast?_eq_none_iff.1 hlast]
    exact .inl rfl

/-- A push leaves the path as it is, or it adds an escaped segment to the path or in place of its
last segment. -/
theorem pushSegment_cases (path : List String) (segment : String) :
    pushSegment path segment = path ∨
      ∃ front kept, (front = path ∨ front = path.dropLast) ∧
        pushSegment path segment =
          front ++ [String.ofList (percentEncode EscapeSet.segment kept)] := by
  let base := if path = [""] then [] else path
  have hbase : base = path ∨ base = path.dropLast := by
    by_cases h : path = [""]
    · right
      simp [base, h]
    · left
      simp [base, h]
  have hparent : parent base = path ∨ parent base = path.dropLast := by
    by_cases h : path = [""]
    · right
      simp [base, h, parent]
    · simpa [base, h] using parent_eq_or_dropLast path
  unfold pushSegment
  split
  case isTrue => exact .inl rfl
  case isFalse =>
    right
    dsimp only
    split
    · exact ⟨parent base, [], hparent, rfl⟩
    · split
      · exact ⟨base, [], hbase, rfl⟩
      · exact ⟨base, _, hbase, rfl⟩

theorem length_pushSegment_le (path : List String) (segment : String) :
    (pushSegment path segment).length ≤ path.length + 1 := by
  rcases pushSegment_cases path segment with h | ⟨front, kept, rfl | rfl, h⟩
  · rw [h]
    exact Nat.le_succ _
  · rw [h, List.length_append]
    exact Nat.le_refl _
  · rw [h, List.length_append, List.length_singleton, List.length_dropLast]
    omega

theorem le_length_pushSegment (path : List String) (segment : String) :
    path.length ≤ (pushSegment path segment).length := by
  rcases pushSegment_cases path segment with h | ⟨front, kept, rfl | rfl, h⟩
  · exact Nat.le_of_eq (congrArg List.length h.symm)
  · rw [h, List.length_append]
    exact Nat.le_add_right _ _
  · rw [h, List.length_append, List.length_singleton, List.length_dropLast]
    omega

/-- A path that is long enough after a push had all segments but the last before. -/
theorem eq_of_pushSegment_eq {path front : List String} {segment written : String}
    (h : pushSegment path segment = front ++ [written]) (hlength : path.length ≤ front.length) :
    path = front := by
  rcases pushSegment_cases path segment with hpush | ⟨before, kept, hbefore, hpush⟩
  · have hlen := congrArg List.length (hpush.symm.trans h)
    rw [List.length_append, List.length_singleton] at hlen
    omega
  · obtain ⟨rfl, -⟩ := List.append_singleton_inj.1 (hpush.symm.trans h)
    rcases hbefore with rfl | rfl
    · rfl
    · rw [List.length_dropLast] at hlength
      have hnil : path = [] := List.eq_nil_of_length_eq_zero (by omega)
      rw [hnil]
      rfl

/-- No segment can be told from all others. -/
theorem exists_pushSegment_eq (segment : String) :
    ∃ other, other ≠ segment ∧ other ≠ "" ∧
      ∀ path, pushSegment path other = pushSegment path segment := by
  by_cases hdot : segment = "."
  · subst hdot
    exact ⟨"..", by decide, by decide, fun _ => rfl⟩
  · by_cases hdots : segment = ".."
    · subst hdots
      exact ⟨".", by decide, by decide, fun _ => rfl⟩
    · -- a tab more, which is dropped
      have hne {other : String} (h : '\t' ∉ other.toList) : segment.push '\t' ≠ other := by
        intro heq
        apply h
        rw [← heq, String.toList_push]
        exact List.mem_append_right _ (List.mem_singleton_self _)
      have hfilter : (segment.push '\t').toList.filter (!isDropped ·) =
          segment.toList.filter (!isDropped ·) := by
        rw [String.toList_push, List.filter_append]
        exact List.append_nil _
      refine ⟨segment.push '\t', ?_, hne (by decide), fun path => ?_⟩
      · intro heq
        have hlength := congrArg String.length heq
        rw [String.length_push] at hlength
        omega
      · rw [pushSegment, pushSegment, hfilter, if_neg (not_or.2 ⟨hdot, hdots⟩),
          if_neg (not_or.2 ⟨hne (by decide), hne (by decide)⟩)]

/-! ## Written paths -/

/-- A character that ends a segment or the path where a URL is written. -/
def IsEnd (c : Char) : Prop := c = '/' ∨ c = '?'

/-- A path that can be read off the written URL. -/
def Legible (path : List String) : Prop := ∀ written ∈ path, ∀ c ∈ written.toList, ¬IsEnd c

theorem legible_empty : Legible [""] := by
  intro written hwritten c hc
  rw [List.mem_singleton.1 hwritten] at hc
  exact absurd hc (List.not_mem_nil)

theorem not_isEnd_of_mem_percentEncode {kept : List Char} {c : Char}
    (hc : c ∈ percentEncode EscapeSet.segment kept) : ¬IsEnd c := by
  rintro (rfl | rfl)
  · exact not_mem_percentEncode rfl (isUnwritten_of_forall (by decide) (by decide)) kept hc
  · exact not_mem_percentEncode rfl (isUnwritten_of_forall (by decide) (by decide)) kept hc

theorem Legible.pushSegment {path : List String} (h : Legible path) (segment : String) :
    Legible (pushSegment path segment) := by
  rcases pushSegment_cases path segment with hpush | ⟨front, kept, hfront, hpush⟩
  · rw [hpush]
    exact h
  · rw [hpush]
    intro written hwritten
    rcases List.mem_append.1 hwritten with hwritten | hwritten
    · apply h written
      rcases hfront with rfl | rfl
      · exact hwritten
      · exact List.dropLast_subset _ hwritten
    · rw [List.mem_singleton.1 hwritten, String.toList_ofList]
      exact fun c => not_isEnd_of_mem_percentEncode

/-- A path stays legible, however many segments are pushed onto it. -/
theorem Legible.pushSegments {u : Url} (h : Legible u.path) (segments : List String) :
    Legible (u.pushSegments segments).path := by
  have hfold : ∀ path, Legible path → Legible (segments.foldl Url.pushSegment path) := by
    induction segments with
    | nil => exact fun _ h => h
    | cons segment rest ih => exact fun path h => ih _ (h.pushSegment segment)
  apply hfold
  unfold popIfEmpty
  split
  · exact fun written hwritten => h written (List.dropLast_subset _ hwritten)
  · exact h

/-- A path is written as its segments with slashes in between and one in front. -/
theorem toList_pathText (u : Url) :
    u.pathText.toList = '/' :: ['/'].intercalate (u.path.map String.toList) := by
  rw [pathText, String.toList_append, String.toList_intercalate]
  rfl

/-- Between the slashes of the path stand its segments. -/
theorem textPieces_pathText {u : Url} (hne : u.path ≠ []) (h : Legible u.path) :
    Text.textPieces '/' u.pathText = "" :: u.path := by
  have hslash : ∀ part ∈ u.path.map String.toList, '/' ∉ part := by
    intro part hpart hmem
    obtain ⟨written, hwritten, rfl⟩ := List.mem_map.1 hpart
    exact h written hwritten '/' hmem (.inl rfl)
  have hpieces : Text.pieces '/' u.pathText.toList = [] :: u.path.map String.toList := by
    rw [toList_pathText, ← List.nil_append ('/' :: _), Text.pieces_append (by simp),
      Text.pieces_intercalate (by simpa using hne) hslash]
  rw [Text.textPieces, hpieces, List.map_cons, List.map_map]
  simp [Function.comp_def]

theorem mark_not_mem_pathText {u : Url} (h : Legible u.path) : '?' ∉ u.pathText.toList := by
  have hparts : ∀ parts : List (List Char), (∀ part ∈ parts, '?' ∉ part) →
      '?' ∉ ['/'].intercalate parts := by
    intro parts hparts
    induction parts with
    | nil => simp
    | cons part rest ih =>
      obtain ⟨hpart, hrest⟩ := List.forall_mem_cons.1 hparts
      cases rest with
      | nil => rwa [List.intercalate_singleton]
      | cons next rest =>
        rw [List.intercalate_cons_cons, List.mem_append, List.mem_append, List.mem_singleton]
        simp [hpart, ih hrest]
  rw [toList_pathText, List.mem_cons]
  rintro (hslash | hmem)
  · exact absurd hslash (by decide)
  · refine hparts _ (fun part hpart hmark => ?_) hmem
    obtain ⟨written, hwritten, rfl⟩ := List.mem_map.1 hpart
    exact h written hwritten '?' hmark (.inr rfl)

/-- The path ends where the query starts. -/
theorem takeWhile_pathText_append {u : Url} (h : Legible u.path) :
    (u.pathText ++ u.queryText).toList.takeWhile (· != '?') = u.pathText.toList := by
  have hmark : ∀ c ∈ u.pathText.toList, c != '?' := by
    intro c hc
    rw [bne_iff_ne]
    rintro rfl
    exact mark_not_mem_pathText h hc
  rw [String.toList_append, List.takeWhile_append_of_pos hmark, queryText]
  split
  · exact List.append_nil _
  · rw [String.toList_append]
    exact List.append_nil _

/-- Below one host a URL without a fragment is written as another only if their paths are. -/
theorem pathText_eq_of_text_eq {u v : Url} (hu : Legible u.path) (hv : Legible v.path)
    (hauthority : u.authorityText = v.authorityText) (hufragment : u.fragment = none)
    (hvfragment : v.fragment = none) (h : u.text = v.text) : u.pathText = v.pathText := by
  have htext {w : Url} (hw : w.fragment = none) :
      w.text.toList =
        ("http://" ++ w.authorityText).toList ++ (w.pathText ++ w.queryText).toList := by
    rw [text, fragmentText, hw, String.append_empty, ← String.toList_append, String.append_assoc]
  have hlist := congrArg String.toList h
  rw [htext hufragment, htext hvfragment, hauthority, List.append_cancel_left_eq] at hlist
  rw [← String.toList_inj, ← takeWhile_pathText_append hu, hlist, takeWhile_pathText_append hv]

end Sidecar.Url
