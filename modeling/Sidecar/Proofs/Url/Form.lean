import Sidecar.Proofs.Text.Pieces
import Sidecar.Proofs.Url.Percent
import Sidecar.Url.Basic

/-!
# Form encoding is undone by decoding

A query is read as pairs: ampersands part them, the first equals sign parts a name from its value, a
plus sign is a blank, and the rest is percent-encoded UTF-8.  Pairs that are written as a query are
read as they were, whatever they are made of, and parameters that are added to a URL come behind
those that are there.

The main results are `formDecode_formPairs` and `parameters_appendQuery`.
-/

namespace Sidecar.Url

open Text.Utf8

/-! ## Decoding -/

def blankOfPlus (c : Char) : Char := if c = '+' then ' ' else c

def formDecodeText (s : List Char) : String :=
  decodeLossy (percentDecode (encodeChars (s.map blankOfPlus)))

/-- Without an equals sign the value is empty. -/
def formDecodePair (s : List Char) : String × String :=
  match Text.cutOnce '=' s with
  | none => (formDecodeText s, "")
  | some (name, value) => (formDecodeText name, formDecodeText value)

/-- Between two ampersands there may be nothing. -/
def formDecode (query : List Char) : List (String × String) :=
  ((Text.pieces '&' query).filter (!·.isEmpty)).map formDecodePair

/-- The pairs of the query. -/
def parameters (u : Url) : List (String × String) :=
  u.query.elim [] fun query => formDecode query.toList

/-! ## Texts -/

/-- What is not written as it is. -/
def formSet : EscapeSet := fun c => !isFormPlain c

theorem lt_of_isFormPlain {c : Char} (h : isFormPlain c) : c.toNat < 0x80 := by
  delta isFormPlain Char.isAlphanum Char.isAlpha Char.isUpper Char.isLower Char.isDigit at h
  simp only [Bool.or_eq_true, Bool.and_eq_true, decide_eq_true_eq, beq_iff_eq,
    UInt32.le_iff_toNat_le, ge_iff_le] at h
  change ((((((65 ≤ c.toNat ∧ c.toNat ≤ 90) ∨ (97 ≤ c.toNat ∧ c.toNat ≤ 122)) ∨
    (48 ≤ c.toNat ∧ c.toNat ≤ 57)) ∨ c = '*') ∨ c = '-') ∨ c = '.') ∨ c = '_' at h
  rcases h with ((((h | rfl) | rfl) | rfl) | rfl)
  · omega
  all_goals decide

/-- All but the blank is escaped as in other texts. -/
theorem formChar_eq (c : Char) :
    formChar c = if c = ' ' then ['+'] else escapeChar formSet c := by
  unfold formChar escapeChar
  by_cases hplain : isFormPlain c
  · simp [hplain, formSet, lt_of_isFormPlain hplain]
  · simp [hplain, formSet]

/-- A character that is escaped does not stand in any escape. -/
theorem not_mem_escapeChar {set : EscapeSet} {d : Char} (hset : set d) (hd : IsUnwritten d)
    (c : Char) : d ∉ escapeChar set c := by
  have hencode := not_mem_percentEncode hset hd [c]
  rwa [percentEncode, List.flatMap_singleton] at hencode

/-- An escaped character is not in the text of a form, unless it is the plus sign, which stands for
a blank. -/
theorem not_mem_formText {d : Char} (hset : formSet d) (hd : IsUnwritten d) (hplus : d ≠ '+')
    (s : String) : d ∉ formText s := by
  intro hmem
  obtain ⟨c, -, hc⟩ := List.mem_flatMap.1 hmem
  rw [formChar_eq] at hc
  split at hc
  case isTrue => exact hplus (List.mem_singleton.1 hc)
  case isFalse => exact not_mem_escapeChar hset hd c hc

theorem equals_not_mem_formText (s : String) : '=' ∉ formText s :=
  not_mem_formText rfl (isUnwritten_of_forall (by decide) (by decide)) (by decide) s

/-- A name or a value ends before the next ampersand. -/
theorem ampersand_not_mem_formText (s : String) : '&' ∉ formText s :=
  not_mem_formText rfl (isUnwritten_of_forall (by decide) (by decide)) (by decide) s

theorem map_blankOfPlus_of_not_mem {s : List Char} (h : '+' ∉ s) : s.map blankOfPlus = s := by
  have hsame : ∀ c ∈ s, blankOfPlus c = id c := by
    intro c hc
    exact if_neg fun hplus : c = '+' => h (hplus ▸ hc)
  rw [List.map_congr_left hsame, List.map_id]

/-- A plus sign that is no blank is escaped, so it is not taken for one. -/
theorem percentDecode_formChar (c : Char) (rest : Bytes) :
    percentDecode (encodeChars ((formChar c).map blankOfPlus) ++ rest) =
      String.utf8EncodeChar c ++ percentDecode rest := by
  rw [formChar_eq]
  split
  case isTrue h =>
    subst h
    exact percentDecode_cons (by decide) rest
  case isFalse =>
    have hset : formSet '+' := rfl
    have hplus := not_mem_escapeChar hset (isUnwritten_of_forall (by decide) (by decide)) c
    rw [map_blankOfPlus_of_not_mem hplus, percentDecode_escapeChar rfl]

/-- The bytes that are decoded are those of the text. -/
theorem percentDecode_formChars (s : List Char) :
    percentDecode (encodeChars ((s.flatMap formChar).map blankOfPlus)) = encodeChars s := by
  induction s with
  | nil => rfl
  | cons c s ih =>
    rw [List.flatMap_cons, List.map_append, encodeChars_append, percentDecode_formChar, ih,
      encodeChars_cons]

theorem formDecodeText_formText (s : String) : formDecodeText (formText s) = s := by
  rw [formDecodeText, formText, percentDecode_formChars, decodeLossy_encodeChars,
    String.ofList_toList]

/-! ## Pairs -/

/-- A pair is read as it was, whatever signs are in it. -/
theorem formDecodePair_formPair (pair : String × String) :
    formDecodePair (formPair pair) = pair := by
  have hcut : Text.cutOnce '=' (formPair pair) = some (formText pair.1, formText pair.2) := by
    rw [formPair, List.append_assoc]
    exact Text.cutOnce_append (equals_not_mem_formText pair.1) (formText pair.2)
  rw [formDecodePair, hcut]
  dsimp only
  rw [formDecodeText_formText, formDecodeText_formText]

theorem formPair_ne_nil (pair : String × String) : formPair pair ≠ [] := by
  simp [formPair]

theorem ampersand_not_mem_formPair (pair : String × String) : '&' ∉ formPair pair := by
  simp [formPair, ampersand_not_mem_formText]

theorem formDecode_formPairs (pairs : List (String × String)) :
    formDecode (formPairs pairs) = pairs := by
  by_cases hne : pairs = []
  · subst hne
    rfl
  · have hpieces : Text.pieces '&' (formPairs pairs) = pairs.map formPair := by
      refine Text.pieces_intercalate (by simpa using hne) fun piece hpiece => ?_
      obtain ⟨pair, -, rfl⟩ := List.mem_map.1 hpiece
      exact ampersand_not_mem_formPair pair
    have hkept : ∀ piece ∈ pairs.map formPair, !piece.isEmpty := by
      intro piece hpiece
      obtain ⟨pair, -, rfl⟩ := List.mem_map.1 hpiece
      simpa using formPair_ne_nil pair
    rw [formDecode, hpieces, List.filter_eq_self.2 hkept, List.map_map]
    exact (List.map_congr_left fun pair _ => formDecodePair_formPair pair).trans (List.map_id pairs)

theorem formDecode_append (front back : List Char) :
    formDecode (front ++ '&' :: back) = formDecode front ++ formDecode back := by
  rw [formDecode, Text.pieces_append_delimiter, List.filter_append, List.map_append]
  rfl

/-! ## Adding parameters -/

/-- Parameters are added behind those that are there. -/
theorem parameters_appendQuery (u : Url) (pairs : List (String × String)) :
    (u.appendQuery pairs).parameters = u.parameters ++ pairs := by
  unfold appendQuery
  split
  case isTrue hpairs => rw [List.isEmpty_iff.1 hpairs, List.append_nil]
  case isFalse =>
    have hadded : formDecode (String.ofList (formPairs pairs)).toList = pairs := by
      rw [String.toList_ofList, formDecode_formPairs]
    unfold parameters
    dsimp only
    split
    case h_1 hquery => rw [hquery]; exact hadded
    case h_2 hquery => rw [hquery]; exact hadded
    case h_3 query hquery =>
      rw [hquery]
      dsimp only [Option.elim]
      rw [String.toList_append, String.toList_append, List.append_assoc]
      exact (formDecode_append _ _).trans (congrArg _ hadded)

/-- There is a query once there are parameters to write. -/
theorem query_appendQuery_eq_none_iff (u : Url) (pairs : List (String × String)) :
    (u.appendQuery pairs).query = none ↔ u.query = none ∧ pairs = [] := by
  unfold appendQuery
  split
  case isTrue hpairs => simp [List.isEmpty_iff.1 hpairs]
  case isFalse hpairs => simp [mt List.isEmpty_iff.2 hpairs]

/-! ## Reading the query off a URL -/

/-- A query of nothing is told from none by its question mark. -/
theorem query_eq_of_queryText_eq {u v : Url} (h : u.queryText = v.queryText) :
    u.query = v.query := by
  have hmark (q : String) : "" ≠ "?" ++ q := by
    intro heq
    exact absurd (String.append_eq_empty_iff.1 heq.symm).1 (by decide)
  unfold queryText at h
  cases hu : u.query with
  | none =>
    cases hv : v.query with
    | none => rfl
    | some q =>
      rw [hu, hv] at h
      exact absurd h (hmark q)
  | some p =>
    cases hv : v.query with
    | none =>
      rw [hu, hv] at h
      exact absurd h.symm (hmark p)
    | some q =>
      rw [hu, hv] at h
      exact congrArg some (String.append_right_inj _ |>.1 h)

/-- With the same path and the same host a URL without a fragment is written as another only if
their queries are the same. -/
theorem query_eq_of_text_eq {u v : Url} (hauthority : u.authorityText = v.authorityText)
    (hpath : u.pathText = v.pathText) (hu : u.fragment = none) (hv : v.fragment = none)
    (h : u.text = v.text) : u.query = v.query := by
  have htext {w : Url} (hw : w.fragment = none) :
      w.text = "http://" ++ w.authorityText ++ w.pathText ++ w.queryText := by
    rw [text, fragmentText, hw, String.append_empty]
  rw [htext hu, htext hv, hauthority, hpath] at h
  exact query_eq_of_queryText_eq (String.append_right_inj _ |>.1 h)

end Sidecar.Url
