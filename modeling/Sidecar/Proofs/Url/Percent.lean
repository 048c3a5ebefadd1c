import Sidecar.Proofs.Text.Utf8
import Sidecar.Url.Percent

/-!
# Percent-encoding is undone by decoding

A set of escapes that has the percent sign in it loses nothing: whatever is escaped decodes to the
bytes it had.  The characters of the set do not occur in escaped text, except where escapes are
written with them.

The main results are `percentDecode_percentEncode` and `not_mem_percentEncode`.
-/

namespace Sidecar.Url

open Text.Utf8

/-! ## Escaped bytes -/

theorem upperDigit_ascii {n : Nat} (hn : n < 16) : (Hex.upperDigit n).toNat < 0x80 := by
  have hall : ∀ n < 16, (Hex.upperDigit n).toNat < 0x80 := by decide
  exact hall n hn

theorem value?_upperDigit {n : Nat} (hn : n < 16) :
    Hex.value? (UInt8.ofNat (Hex.upperDigit n).toNat) = some n := by
  have hall : ∀ n < 16, Hex.value? (UInt8.ofNat (Hex.upperDigit n).toNat) = some n := by decide
  exact hall n hn

/-- A byte is escaped as a percent sign and two digits. -/
theorem encodeChars_escapeByte (b : UInt8) :
    encodeChars (escapeByte b) =
      [37, UInt8.ofNat (Hex.upperDigit (b.toNat / 16)).toNat,
        UInt8.ofNat (Hex.upperDigit (b.toNat % 16)).toNat] := by
  have hb := b.toNat_lt
  rw [encodeChars, escapeByte, List.flatMap_cons, List.flatMap_cons, List.flatMap_cons,
    List.flatMap_nil, utf8EncodeChar_ascii (by decide),
    utf8EncodeChar_ascii (upperDigit_ascii (by omega)),
    utf8EncodeChar_ascii (upperDigit_ascii (by omega))]
  rfl

theorem percentDecode_escapeByte (b : UInt8) (rest : Bytes) :
    percentDecode (encodeChars (escapeByte b) ++ rest) = b :: percentDecode rest := by
  have hb := b.toNat_lt
  have hbyte : UInt8.ofNat (b.toNat / 16 * 16 + b.toNat % 16) = b := by
    rw [Nat.div_add_mod' b.toNat 16, UInt8.ofNat_toNat]
  rw [encodeChars_escapeByte, List.cons_append, List.cons_append, List.cons_append,
    List.nil_append, percentDecode, value?_upperDigit (by omega), value?_upperDigit (by omega)]
  exact congrArg (· :: percentDecode rest) hbyte

/-- Bytes that are escaped one after the other are decoded to themselves. -/
theorem percentDecode_escapeBytes (bs rest : Bytes) :
    percentDecode (encodeChars (bs.flatMap escapeByte) ++ rest) = bs ++ percentDecode rest := by
  induction bs with
  | nil => rfl
  | cons b bs ih =>
    rw [List.flatMap_cons, encodeChars, List.flatMap_append, List.append_assoc]
    exact (percentDecode_escapeByte b _).trans (congrArg (b :: ·) ih)

/-! ## Escaped text -/

theorem percentDecode_cons {b : UInt8} (hb : b ≠ 37) (rest : Bytes) :
    percentDecode (b :: rest) = b :: percentDecode rest := by
  rw [percentDecode]
  intro high low more hsign
  exact absurd hsign hb

/-- A character is decoded to its bytes, whether it is escaped or not. -/
theorem percentDecode_escapeChar {set : EscapeSet} (hset : set '%') (c : Char) (rest : Bytes) :
    percentDecode (encodeChars (escapeChar set c) ++ rest) =
      String.utf8EncodeChar c ++ percentDecode rest := by
  unfold escapeChar
  split
  case isTrue h =>
    simp only [Bool.and_eq_true, decide_eq_true_eq, Bool.not_eq_true'] at h
    obtain ⟨hc, hplain⟩ := h
    have hne : UInt8.ofNat c.toNat ≠ 37 := by
      intro heq
      have hnat := congrArg UInt8.toNat heq
      rw [UInt8.toNat_ofNat', Nat.mod_eq_of_lt (by omega)] at hnat
      obtain rfl : c = '%' := Char.toNat_inj.1 hnat
      rw [hset] at hplain
      exact absurd hplain (by decide)
    rw [encodeChars, List.flatMap_cons, List.flatMap_nil, List.append_nil,
      utf8EncodeChar_ascii hc]
    exact percentDecode_cons hne rest
  case isFalse => exact percentDecode_escapeBytes _ rest

/-- Decoding undoes encoding if percent signs are escaped. -/
theorem percentDecode_percentEncode {set : EscapeSet} (hset : set '%') (s : List Char) :
    percentDecode (encodeChars (percentEncode set s)) = encodeChars s := by
  induction s with
  | nil => rfl
  | cons c s ih =>
    rw [percentEncode, List.flatMap_cons, encodeChars, List.flatMap_append]
    rw [percentEncode, encodeChars] at ih
    rw [← encodeChars, percentDecode_escapeChar hset, ih]
    rfl

/-- Bytes that do not take part in an escape stay. -/
theorem mem_percentDecode {b : UInt8} (hsign : b ≠ 37) (hdigit : Hex.value? b = none) {bs : Bytes}
    (h : b ∈ bs) : b ∈ percentDecode bs := by
  fun_induction percentDecode bs with
  | case1 => exact h
  | case2 x y rest m n hy hx ih =>
    simp only [List.mem_cons] at h
    rcases h with rfl | rfl | rfl | h
    · exact absurd rfl hsign
    · rw [hx] at hdigit
      cases hdigit
    · rw [hy] at hdigit
      cases hdigit
    · exact List.mem_cons_of_mem _ (ih h)
  | case3 x y rest _ ih =>
    rcases List.mem_cons.1 h with rfl | h
    · exact absurd rfl hsign
    · exact List.mem_cons_of_mem _ (ih h)
  | case4 x rest _ ih =>
    rcases List.mem_cons.1 h with rfl | h
    · exact List.mem_cons_self
    · exact List.mem_cons_of_mem _ (ih h)

/-! ## What is escaped does not occur -/

/-- A character that no escape is written with. -/
def IsUnwritten (d : Char) : Prop := ∀ b : UInt8, d ∉ escapeByte b

/-- Escapes are written with the percent sign and sixteen digits, and with nothing else. -/
theorem isUnwritten_of_forall {d : Char} (hsign : d ≠ '%') (h : ∀ n < 16, d ≠ Hex.upperDigit n) :
    IsUnwritten d := by
  intro b hd
  have hb := b.toNat_lt
  simp only [escapeByte, List.mem_cons, List.not_mem_nil, or_false] at hd
  rcases hd with hd | hd | hd
  · exact hsign hd
  · exact h _ (by omega) hd
  · exact h _ (by omega) hd

/-- What is escaped is no longer there. -/
theorem not_mem_percentEncode {set : EscapeSet} {d : Char} (hset : set d) (hd : IsUnwritten d)
    (s : List Char) : d ∉ percentEncode set s := by
  intro hmem
  obtain ⟨c, -, hc⟩ := List.mem_flatMap.1 hmem
  unfold escapeChar at hc
  split at hc
  case isTrue h =>
    obtain rfl := List.mem_singleton.1 hc
    simp [hset] at h
  case isFalse =>
    obtain ⟨b, -, hb⟩ := List.mem_flatMap.1 hc
    exact hd b hb

end Sidecar.Url
