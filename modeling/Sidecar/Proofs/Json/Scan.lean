import Sidecar.Json.Printer
import Sidecar.Json.Scan
import Sidecar.Proofs.Json.Value
import Sidecar.Proofs.Text.Utf8

/-!
# Strings and whole numbers are read back

What is written for a string or a whole number of 64 bits is read as that again, whatever follows a
string, and as long as no more of a number follows a number.

The main results are `readNumber_ofNat` and `readNumber_negSucc` for numbers, and
`readString_escaped`.
-/

namespace Sidecar.Json

open Text.Utf8

variable {rest : Bytes}

/-! ## Whole numbers -/

/-- No number goes on with what follows. -/
def Ends (rest : Bytes) : Prop :=
  ∀ b ∈ rest.head?, isDigit b = false ∧ b ≠ 46 ∧ isExponentLetter b = false

theorem ends_nil : Ends [] := fun _ h => nomatch h

theorem ends_cons {b : UInt8} (hdigit : isDigit b = false) (hpoint : b ≠ 46)
    (hletter : isExponentLetter b = false) (rest : Bytes) : Ends (b :: rest) := by
  intro c hc
  cases hc
  exact ⟨hdigit, hpoint, hletter⟩

/-- Behind the digits there is no fraction and no exponent. -/
theorem readAfterDigits_of_ends (h : Ends rest) (negative : Bool) (n : Nat) :
    readAfterDigits negative n rest = wholeOrDouble negative n rest := by
  cases rest with
  | nil => rfl
  | cons b rest =>
    obtain ⟨-, hpoint, hletter⟩ := h b rfl
    rw [readAfterDigits, if_neg hpoint, hletter]
    rfl

theorem readDigits_of_ends (h : Ends rest) (negative : Bool) (n : Nat) :
    readDigits negative n rest = wholeOrDouble negative n rest := by
  rw [← readAfterDigits_of_ends h]
  cases rest with
  | nil => rfl
  | cons b rest =>
    obtain ⟨hdigit, -⟩ := h b rfl
    rw [readDigits, hdigit]
    rfl

theorem encodeChars_digitChar {d : Nat} (hd : d < 10) :
    encodeChars [d.digitChar] = [UInt8.ofNat (d + 48)] := by
  have hall : ∀ d < 10, encodeChars [d.digitChar] = [UInt8.ofNat (d + 48)] := by decide
  exact hall d hd

theorem isDigit_digit {d : Nat} (hd : d < 10) : isDigit (UInt8.ofNat (d + 48)) := by
  have hall : ∀ d < 10, isDigit (UInt8.ofNat (d + 48)) := by decide
  exact hall d hd

theorem digitOf_digit {d : Nat} (hd : d < 10) : digitOf (UInt8.ofNat (d + 48)) = d := by
  have hall : ∀ d < 10, digitOf (UInt8.ofNat (d + 48)) = d := by decide
  exact hall d hd

/-- A further digit is added as long as the number fits. -/
theorem readDigits_digit {n d : Nat} (hd : d < 10) (hbound : n * 10 + d ≤ greatestSignificand)
    (negative : Bool) (rest : Bytes) :
    readDigits negative n (UInt8.ofNat (d + 48) :: rest) =
      readDigits negative (n * 10 + d) rest := by
  rw [readDigits, isDigit_digit hd, digitOf_digit hd]
  exact if_neg (Nat.not_lt.2 hbound)

theorem readNumber_of_ne_zero {b : UInt8} (hb : b ≠ 48) (hdigit : isDigit b) (negative : Bool)
    (rest : Bytes) : readNumber negative (b :: rest) = readDigits negative (digitOf b) rest :=
  (if_neg hb).trans (if_pos hdigit)

theorem readNumber_zero {b : UInt8} (hdigit : isDigit b = false) (negative : Bool)
    (rest : Bytes) :
    readNumber negative (48 :: b :: rest) = readAfterDigits negative 0 (b :: rest) := by
  change (if isDigit b then stop .invalidNumber rest else _) = _
  rw [hdigit]
  rfl

/-- The digits of a number are taken one after the other, the number so far being kept. -/
theorem readNumber_toDigits {n : Nat} (hpos : 0 < n) (hbound : n ≤ greatestSignificand)
    (negative : Bool) (rest : Bytes) :
    readNumber negative (encodeChars (Nat.toDigits 10 n) ++ rest) = readDigits negative n rest := by
  induction n using Nat.strongRecOn generalizing rest with
  | ind n ih =>
    by_cases hn : n < 10
    · have hne : UInt8.ofNat (n + 48) ≠ 48 := by
        intro heq
        have hzero := congrArg UInt8.toNat heq
        rw [toNat_byte (by omega)] at hzero
        exact absurd hzero (show n + 48 ≠ 48 by omega)
      rw [Nat.toDigits_of_lt_base hn, encodeChars_digitChar hn, List.singleton_append,
        readNumber_of_ne_zero hne (isDigit_digit hn), digitOf_digit hn]
    · have hd : n % 10 < 10 := Nat.mod_lt _ (by decide)
      rw [Nat.toDigits_of_base_le (by decide) (Nat.le_of_not_lt hn), encodeChars_append,
        encodeChars_digitChar hd, List.append_assoc, List.singleton_append,
        ih (n / 10) (by omega) (by omega) (by omega), readDigits_digit hd (by omega),
        Nat.div_add_mod']

theorem readNumber_of_ends {n : Nat} (hbound : n ≤ greatestSignificand) (h : Ends rest)
    (negative : Bool) :
    readNumber negative (encodeChars (Nat.toDigits 10 n) ++ rest) =
      wholeOrDouble negative n rest := by
  rcases Nat.eq_zero_or_pos n with rfl | hpos
  · cases rest with
    | nil => rfl
    | cons b rest =>
      obtain ⟨hdigit, -⟩ := h b rfl
      rw [← readAfterDigits_of_ends h]
      exact readNumber_zero hdigit negative rest
  · rw [readNumber_toDigits hpos hbound, readDigits_of_ends h]

/-- A number that is not negative. -/
theorem readNumber_ofNat {n : Nat} (hbound : n ≤ greatestSignificand) (h : Ends rest) :
    readNumber false (encodeChars (Nat.toDigits 10 n) ++ rest) = .ok (.whole n, rest) :=
  readNumber_of_ends hbound h false

/-- A negative number, after its sign. -/
theorem readNumber_negSucc {n : Nat} (hbound : n < 9223372036854775808) (h : Ends rest) :
    readNumber true (encodeChars (Nat.toDigits 10 (n + 1)) ++ rest) =
      .ok (.whole (.negSucc n), rest) := by
  have hgreatest : n + 1 ≤ greatestSignificand := by
    unfold greatestSignificand
    omega
  have hrange : 0 < n + 1 ∧ n + 1 ≤ 9223372036854775808 := ⟨Nat.succ_pos n, hbound⟩
  rw [readNumber_of_ends hgreatest h, wholeOrDouble, Bool.not_true,
    if_neg Bool.false_ne_true, if_pos hrange]
  rfl

/-! ## Strings -/

/-- A byte that stands for itself in a string. -/
def IsPlainByte (b : UInt8) : Prop := b ≠ quote ∧ b ≠ backslash ∧ ¬b < 32

theorem isPlainByte_ofNat {n : Nat} (hn : n < 256) (hlow : 32 ≤ n) (hquote : n ≠ 34)
    (hbackslash : n ≠ 92) : IsPlainByte (UInt8.ofNat n) := by
  refine ⟨fun h => ?_, fun h => ?_, fun h => ?_⟩
  · have heq := congrArg UInt8.toNat h
    rw [toNat_byte hn] at heq
    exact hquote heq
  · have heq := congrArg UInt8.toNat h
    rw [toNat_byte hn] at heq
    exact hbackslash heq
  · rw [UInt8.lt_iff_toNat_lt, toNat_byte hn] at h
    exact absurd h (Nat.not_lt.2 hlow)

/-- Bytes beyond ASCII stand for themselves in a string. -/
theorem isPlainByte_of_le {n : Nat} (hn : n < 256) (h : 128 ≤ n) :
    IsPlainByte (UInt8.ofNat n) :=
  isPlainByte_ofNat hn (by omega) (by omega) (by omega)

/-- The bytes of a character that needs no escape stand for themselves. -/
theorem isPlainByte_of_mem_utf8EncodeChar {c : Char} (hquote : c ≠ '"') (hbackslash : c ≠ '\\')
    (hlow : ¬c.toNat < 0x20) {b : UInt8} (hb : b ∈ String.utf8EncodeChar c) : IsPlainByte b := by
  have hvalid : c.toNat < 0xD800 ∨ 0xDFFF < c.toNat ∧ c.toNat < 0x110000 := c.valid
  have hquote : c.toNat ≠ 34 := fun h => hquote (Char.toNat_inj.1 h)
  have hbackslash : c.toNat ≠ 92 := fun h => hbackslash (Char.toNat_inj.1 h)
  unfold String.utf8EncodeChar at hb
  rw [show c.val.toNat = c.toNat from rfl] at hb
  generalize c.toNat = n at hb hvalid hlow hquote hbackslash
  dsimp only at hb
  split at hb
  · obtain rfl := List.mem_singleton.1 hb
    exact isPlainByte_ofNat (by omega) (by omega) hquote hbackslash
  -- all bytes of a longer character are above those of ASCII
  · split at hb
    · simp only [List.mem_cons, List.not_mem_nil, or_false] at hb
      rcases hb with rfl | rfl <;> exact isPlainByte_of_le (by omega) (by omega)
    · split at hb
      · simp only [List.mem_cons, List.not_mem_nil, or_false] at hb
        rcases hb with rfl | rfl | rfl <;> exact isPlainByte_of_le (by omega) (by omega)
      · simp only [List.mem_cons, List.not_mem_nil, or_false] at hb
        rcases hb with rfl | rfl | rfl | rfl <;> exact isPlainByte_of_le (by omega) (by omega)

/-- How a character is written in a string: by an escape of one letter, by the number of a control
character, or by itself. -/
inductive Written (c : Char) : Bytes → Prop
  | letter {b : UInt8} (hb : b ≠ 117) (h : escapedChar? b = some c) : Written c [backslash, b]
  | unit {x y : UInt8} (h : hexValue? [48, 48, x, y] = some c.toNat) (hc : c.toNat < 0x20) :
      Written c [backslash, 117, 48, 48, x, y]
  | plain (h : ∀ b ∈ String.utf8EncodeChar c, IsPlainByte b) : Written c (String.utf8EncodeChar c)

/-- The number of a control character in four hexadecimal digits. -/
theorem encodeChars_unit {n : Nat} (hn : n < 0x20) :
    ∃ x y, encodeChars ['\\', 'u', '0', '0', Hex.lowerDigit (n / 16), Hex.lowerDigit (n % 16)] =
        [backslash, 117, 48, 48, x, y] ∧ hexValue? [48, 48, x, y] = some n := by
  have hdigits : ∀ n < 0x20, encodeChars ['\\', 'u', '0', '0', Hex.lowerDigit (n / 16),
      Hex.lowerDigit (n % 16)] = [backslash, 117, 48, 48,
        UInt8.ofNat (Hex.lowerDigit (n / 16)).toNat, UInt8.ofNat (Hex.lowerDigit (n % 16)).toNat] ∧
      hexValue? [48, 48, UInt8.ofNat (Hex.lowerDigit (n / 16)).toNat,
        UInt8.ofNat (Hex.lowerDigit (n % 16)).toNat] = some n := by decide
  exact ⟨_, _, hdigits n hn⟩

/-- A character is written as it is, by a letter, or by its code unit. -/
theorem written_escapeChar (c : Char) : Written c (encodeChars (escapeChar c)) := by
  by_cases hquote : c = '"'
  · subst hquote
    exact .letter (by decide) rfl
  by_cases hbackslash : c = '\\'
  · subst hbackslash
    exact .letter (by decide) rfl
  by_cases hlow : c.toNat < 0x20
  · rw [escapeChar, if_neg hquote, if_neg hbackslash, if_pos hlow]
    iterate 5
      split
      case isTrue h =>
        subst h
        exact .letter (by decide) rfl
    obtain ⟨x, y, hbytes, hvalue⟩ := encodeChars_unit hlow
    rw [hbytes]
    exact .unit hvalue hlow
  · rw [escapeChar, if_neg hquote, if_neg hbackslash, if_neg hlow, encodeChars_cons]
    exact (List.append_nil (String.utf8EncodeChar c)).symm ▸
      .plain fun _ => isPlainByte_of_mem_utf8EncodeChar hquote hbackslash hlow

/-! ### Reading -/

variable {text : List Char} {start chunk : Bytes}

/-- Plain bytes are kept for the chunk that they belong to. -/
theorem readStringFrom_plain {bs : Bytes} (h : ∀ b ∈ bs, IsPlainByte b) (rest : Bytes) :
    readStringFrom text (.plain start chunk) (bs ++ rest) =
      readStringFrom text (.plain start (bs.reverse ++ chunk)) rest := by
  induction bs generalizing chunk with
  | nil => rfl
  | cons b bs ih =>
    obtain ⟨⟨hquote, hbackslash, hlow⟩, hrest⟩ := List.forall_mem_cons.1 h
    rw [List.cons_append, readStringFrom, if_neg hquote, if_neg hbackslash, if_neg hlow, ih hrest,
      List.reverse_cons, List.append_assoc]
    rfl

/-- Plain bytes that are characters are those characters. -/
theorem endChunk_encodeChars {cs : List Char} (h : chunk.reverse = encodeChars cs) :
    endChunk start chunk = .ok cs := by
  rw [endChunk, h, decode?_encodeChars]

/-- A backslash ends the plain characters before it. -/
theorem readStringFrom_backslash {cs : List Char} (h : chunk.reverse = encodeChars cs)
    (rest : Bytes) :
    readStringFrom text (.plain start chunk) (backslash :: rest) =
      readStringFrom (text ++ cs) .escape rest := by
  rw [readStringFrom, if_neg (by decide), if_pos rfl, endChunk_encodeChars h]
  rfl

/-- A backslash with a letter is the character that the letter stands for. -/
theorem readStringFrom_letter {b : UInt8} {c : Char} (hb : b ≠ 117)
    (hc : escapedChar? b = some c) (rest : Bytes) :
    readStringFrom text .escape (b :: rest) =
      readStringFrom (text ++ [c]) (.plain rest []) rest := by
  rw [readStringFrom, if_neg hb, hc]

theorem readStringFrom_unit {w x y z : UInt8} {c : Char}
    (hvalue : hexValue? [w, x, y, z] = some c.toNat) (rest : Bytes) :
    readStringFrom text .escape (117 :: w :: x :: y :: z :: rest) =
      readStringFrom (text ++ [c]) (.plain rest []) rest := by
  have hvalid : c.toNat < 0xD800 ∨ 0xDFFF < c.toNat ∧ c.toNat < 0x110000 := c.valid
  have hunit : endUnit none [z, y, x, w] rest = .ok (.inl c) := by
    unfold endUnit
    rw [show [z, y, x, w].reverse = [w, x, y, z] from rfl, hvalue]
    dsimp only
    rw [if_neg (by omega), if_neg (by omega), Char.ofNat_toNat]
  change (endUnit none [z, y, x, w] rest >>= _) = _
  rw [hunit]
  rfl

/-- A written character is read as itself, behind the plain characters `cs` before it. -/
theorem readStringFrom_written {c : Char} {bs : Bytes} (hwritten : Written c bs) {cs : List Char}
    (h : chunk.reverse = encodeChars cs) (text : List Char) (start rest : Bytes) :
    ∃ text' cs' start' chunk', text' ++ cs' = text ++ cs ++ [c] ∧
      chunk'.reverse = encodeChars cs' ∧
      readStringFrom text (.plain start chunk) (bs ++ rest) =
        readStringFrom text' (.plain start' chunk') rest := by
  cases hwritten with
  | letter hb hchar =>
    refine ⟨text ++ cs ++ [c], [], rest, [], List.append_nil _, rfl, ?_⟩
    exact (readStringFrom_backslash h _).trans (readStringFrom_letter hb hchar rest)
  | unit hvalue _ =>
    refine ⟨text ++ cs ++ [c], [], rest, [], List.append_nil _, rfl, ?_⟩
    exact (readStringFrom_backslash h _).trans (readStringFrom_unit hvalue rest)
  | plain hplain =>
    refine ⟨text, cs ++ [c], start, (String.utf8EncodeChar c).reverse ++ chunk,
      (List.append_assoc _ _ _).symm, ?_, readStringFrom_plain hplain rest⟩
    rw [List.reverse_append, List.reverse_reverse, h, encodeChars_append]
    simp [encodeChars]

/-- What is written for a string is read as it, up to the quote behind. -/
theorem readStringFrom_escaped (s cs : List Char) (h : chunk.reverse = encodeChars cs)
    (rest : Bytes) :
    readStringFrom text (.plain start chunk)
        (encodeChars (s.flatMap escapeChar) ++ quote :: rest) =
      .ok (String.ofList (text ++ cs ++ s), rest) := by
  induction s generalizing text cs start chunk with
  | nil =>
    change readStringFrom text (.plain start chunk) (quote :: rest) = _
    rw [readStringFrom, if_pos rfl, endChunk_encodeChars h, List.append_nil]
    rfl
  | cons c s ih =>
    obtain ⟨text', cs', start', chunk', htext, hchunk, hread⟩ :=
      readStringFrom_written (written_escapeChar c) h text start
        (encodeChars (s.flatMap escapeChar) ++ quote :: rest)
    rw [List.flatMap_cons, encodeChars_append, List.append_assoc, hread, ih cs' hchunk, htext,
      List.append_assoc _ [c]]
    rfl

/-- A string is read back from what is written for it. -/
theorem readString_escaped (s : String) (rest : Bytes) :
    readString (encodeChars (s.toList.flatMap escapeChar) ++ quote :: rest) = .ok (s, rest) :=
  (readStringFrom_escaped s.toList [] rfl rest).trans
    (by rw [List.append_nil, List.nil_append, String.ofList_toList])

end Sidecar.Json
