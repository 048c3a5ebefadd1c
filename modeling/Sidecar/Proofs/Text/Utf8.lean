import Sidecar.Text.Utf8

/-!
# Decoding undoes UTF-8

Bytes of a character bring the decoder back between characters, and give that character.  Texts are
in the order of their bytes.

The main results are `decode?_encodeChars`, that decoding gives back what was encoded, and
`encode_lt`, that texts are in the order of their bytes.
-/

namespace Sidecar.Text.Utf8

/-! ## Encoding -/

theorem toByteArray_encode (s : String) : (encode s).toByteArray = s.toByteArray := by
  rw [← String.utf8Encode_toList, List.utf8Encode]
  rfl

theorem encode_injective {s t : String} (h : encode s = encode t) : s = t := by
  rw [← String.toByteArray_inj, ← toByteArray_encode, h, toByteArray_encode]

theorem utf8EncodeChar_ascii {c : Char} (hc : c.toNat < 0x80) :
    String.utf8EncodeChar c = [UInt8.ofNat c.toNat] := by
  have hsize : c.utf8Size = 1 := by
    rw [Char.utf8Size_eq_one_iff, UInt32.le_iff_toNat_le]
    exact Nat.le_of_lt_succ hc
  exact String.utf8EncodeChar_eq_singleton hsize

/-- The bytes of characters. -/
def encodeChars (s : List Char) : Bytes := s.flatMap String.utf8EncodeChar

theorem encode_ofList (s : List Char) : encode (String.ofList s) = encodeChars s := by
  rw [encode, String.toList_ofList]
  rfl

theorem encodeChars_cons (c : Char) (s : List Char) :
    encodeChars (c :: s) = String.utf8EncodeChar c ++ encodeChars s := rfl

theorem encodeChars_append (s t : List Char) :
    encodeChars (s ++ t) = encodeChars s ++ encodeChars t := List.flatMap_append

/-! ## Decoding -/

theorem toNat_byte {n : Nat} (h : n < 256) : (UInt8.ofNat n).toNat = n :=
  UInt8.toNat_ofNat_of_lt' h

/-- Whether a byte of the value `n` may come next inside a character. -/
def IsBetween (low high : UInt8) (n : Nat) : Prop := low.toNat ≤ n ∧ n ≤ high.toNat

/-- Six bits make a byte that may follow another one. -/
theorem isBetween_tail {n : Nat} (h : n < 64) : IsBetween 0x80 0xBF (n + 128) :=
  ⟨Nat.le_add_left 128 n, show n + 128 ≤ 191 by omega⟩

theorem symbols_ready (b : UInt8) (rest : Bytes) :
    symbols .ready (b :: rest) = (start b).1 ++ symbols (start b).2 rest := rfl

section Tail

variable {low high : UInt8} {value n : Nat} {rest : Bytes}

/-- Inside of a character a byte brings six bits more, and the last one ends it. -/
theorem feed_inside (h : IsBetween low high n) (hn : n < 256) (more : Nat) :
    feed (.inside more low high value) (UInt8.ofNat n) =
      match more with
      | 0 => ([some (Char.ofNat (value * 64 + (n - 0x80)))], .ready)
      | more + 1 => ([], .inside more 0x80 0xBF (value * 64 + (n - 0x80))) := by
  have hrange : low ≤ UInt8.ofNat n ∧ UInt8.ofNat n ≤ high := by
    rw [UInt8.le_iff_toNat_le, UInt8.le_iff_toNat_le, toNat_byte hn]
    exact h
  cases more with
  | zero => exact (if_pos hrange).trans (by rw [toNat_byte hn])
  | succ more => exact (if_pos hrange).trans (by rw [toNat_byte hn])

theorem symbols_last (h : IsBetween low high n) (hn : n < 256) :
    symbols (.inside 0 low high value) (UInt8.ofNat n :: rest) =
      some (Char.ofNat (value * 64 + (n - 0x80))) :: symbols .ready rest := by
  rw [symbols, feed_inside h hn]
  rfl

theorem symbols_more {more : Nat} (h : IsBetween low high n) (hn : n < 256) :
    symbols (.inside (more + 1) low high value) (UInt8.ofNat n :: rest) =
      symbols (.inside more 0x80 0xBF (value * 64 + (n - 0x80))) rest := by
  rw [symbols, feed_inside h hn]
  rfl

end Tail

/-! ### Characters of two, three and four bytes -/

variable {a b c d : Nat}

theorem symbols_two (ha : 2 ≤ a) (ha' : a < 32) (hb : b < 64) (rest : Bytes) :
    symbols .ready (UInt8.ofNat (a + 192) :: UInt8.ofNat (b + 128) :: rest) =
      some (Char.ofNat (a * 64 + b)) :: symbols .ready rest := by
  have hstart : start (UInt8.ofNat (a + 192)) = ([], .inside 0 0x80 0xBF (a + 192 - 0xC0)) := by
    unfold start
    rw [toNat_byte (by omega)]
    simp only [show ¬a + 192 < 0x80 by omega, show ¬a + 192 < 0xC2 by omega,
      show a + 192 < 0xE0 by omega, if_true, if_false]
  rw [symbols_ready, hstart]
  refine (symbols_last (isBetween_tail (by omega)) (by omega)).trans ?_
  rw [Nat.add_sub_cancel, Nat.add_sub_cancel]

/-- The first of two more bytes is bounded so that nothing is written longer than it need be and no
surrogate is written. -/
theorem symbols_three (ha : a < 16) (hb : b < 64) (hc : c < 64) (hlong : a = 0 → 32 ≤ b)
    (hsurrogate : a = 13 → b < 32) (rest : Bytes) :
    symbols .ready
        (UInt8.ofNat (a + 224) :: UInt8.ofNat (b + 128) :: UInt8.ofNat (c + 128) :: rest) =
      some (Char.ofNat (a * 4096 + b * 64 + c)) :: symbols .ready rest := by
  have hstart : ∃ low high, start (UInt8.ofNat (a + 224)) = ([], .inside 1 low high a) ∧
      IsBetween low high (b + 128) := by
    unfold start
    rw [toNat_byte (by omega)]
    simp only [show ¬a + 224 < 0x80 by omega, show ¬a + 224 < 0xC2 by omega,
      show ¬a + 224 < 0xE0 by omega, show a + 224 < 0xF0 by omega, if_true, if_false]
    by_cases h0 : a = 0
    · subst h0
      exact ⟨0xA0, 0xBF, rfl, show 160 ≤ b + 128 by omega, show b + 128 ≤ 191 by omega⟩
    · by_cases h13 : a = 13
      · subst h13
        exact ⟨0x80, 0x9F, rfl, show 128 ≤ b + 128 by omega, show b + 128 ≤ 159 by omega⟩
      · refine ⟨0x80, 0xBF, ?_, isBetween_tail hb⟩
        simp [h0, show a + 224 ≠ 0xED by omega]
  obtain ⟨low, high, hstart, hbetween⟩ := hstart
  rw [symbols_ready, hstart]
  refine (symbols_more hbetween (by omega)).trans ?_
  refine (symbols_last (isBetween_tail (by omega)) (by omega)).trans ?_
  rw [Nat.add_sub_cancel, Nat.add_sub_cancel, Nat.add_mul, Nat.mul_assoc]

/-- Four bytes give a character beyond the first plane; none is written too long or out of range. -/
theorem symbols_four (ha : a < 5) (hb : b < 64) (hc : c < 64) (hd : d < 64)
    (hlong : a = 0 → 16 ≤ b) (hbound : a = 4 → b < 16) (rest : Bytes) :
    symbols .ready (UInt8.ofNat (a + 240) :: UInt8.ofNat (b + 128) :: UInt8.ofNat (c + 128) ::
        UInt8.ofNat (d + 128) :: rest) =
      some (Char.ofNat (a * 262144 + b * 4096 + c * 64 + d)) :: symbols .ready rest := by
  have hstart : ∃ low high, start (UInt8.ofNat (a + 240)) = ([], .inside 2 low high a) ∧
      IsBetween low high (b + 128) := by
    unfold start
    rw [toNat_byte (by omega)]
    simp only [show ¬a + 240 < 0x80 by omega, show ¬a + 240 < 0xC2 by omega,
      show ¬a + 240 < 0xE0 by omega, show ¬a + 240 = 0xE0 by omega, show ¬a + 240 = 0xED by omega,
      show ¬a + 240 < 0xF0 by omega, if_false]
    by_cases h0 : a = 0
    · subst h0
      exact ⟨0x90, 0xBF, rfl, show 144 ≤ b + 128 by omega, show b + 128 ≤ 191 by omega⟩
    · by_cases h4 : a = 4
      · subst h4
        exact ⟨0x80, 0x8F, rfl, show 128 ≤ b + 128 by omega, show b + 128 ≤ 143 by omega⟩
      · refine ⟨0x80, 0xBF, ?_, isBetween_tail hb⟩
        simp [h0, show a + 240 < 0xF4 by omega]
  obtain ⟨low, high, hstart, hbetween⟩ := hstart
  rw [symbols_ready, hstart]
  refine (symbols_more hbetween (by omega)).trans ?_
  refine (symbols_more (isBetween_tail hc) (by omega)).trans ?_
  refine (symbols_last (isBetween_tail hd) (by omega)).trans ?_
  have hvalue : ((a * 64 + (b + 128 - 128)) * 64 + (c + 128 - 128)) * 64 + (d + 128 - 128) =
      a * 262144 + b * 4096 + c * 64 + d := by omega
  rw [← hvalue]

/-! ### Characters -/

/-- The bytes of a character are decoded to it, whatever comes behind. -/
theorem symbols_utf8EncodeChar (c : Char) (rest : Bytes) :
    symbols .ready (String.utf8EncodeChar c ++ rest) = some c :: symbols .ready rest := by
  have hvalid : c.toNat < 0xD800 ∨ 0xDFFF < c.toNat ∧ c.toNat < 0x110000 := c.valid
  have hchar :
      some (Char.ofNat c.toNat) :: symbols .ready rest = some c :: symbols .ready rest := by
    rw [Char.ofNat_toNat]
  rw [← hchar]
  unfold String.utf8EncodeChar
  rw [show c.val.toNat = c.toNat from rfl]
  generalize c.toNat = n at hvalid ⊢
  dsimp only
  split
  · rw [List.singleton_append, symbols_ready, start, toNat_byte (by omega), if_pos (by omega)]
    rfl
  · split
    · refine (symbols_two (by omega) (by omega) (by omega) rest).trans ?_
      rw [show n / 64 % 32 * 64 + n % 64 = n by omega]
    · split
      · refine (symbols_three (by omega) (by omega) (by omega) (by omega) (by omega) rest).trans ?_
        rw [show n / 4096 % 16 * 4096 + n / 64 % 64 * 64 + n % 64 = n by omega]
      · refine (symbols_four (by omega) (by omega) (by omega) (by omega) (by omega) (by omega)
          rest).trans ?_
        rw [show n / 262144 % 8 * 262144 + n / 4096 % 64 * 4096 + n / 64 % 64 * 64 + n % 64 = n by
          omega]

/-- The bytes of a text are decoded to its characters, without a fault. -/
theorem symbols_encodeChars (s : List Char) :
    symbols .ready (encodeChars s) = s.map some := by
  induction s with
  | nil => rfl
  | cons c s ih => rw [encodeChars_cons, symbols_utf8EncodeChar, ih, List.map_cons]

/-- Decoding undoes encoding. -/
theorem decode?_encodeChars (s : List Char) : decode? (encodeChars s) = some s := by
  rw [decode?, symbols_encodeChars]
  induction s with
  | nil => rfl
  | cons c s ih => rw [List.map_cons, List.mapM_cons, ih]; rfl

theorem decodeLossy_encodeChars (s : List Char) :
    decodeLossy (encodeChars s) = String.ofList s := by
  rw [decodeLossy, symbols_encodeChars, List.map_map]
  exact congrArg String.ofList (List.map_id s)

/-- Bytes of ASCII are text, which has those bytes. -/
theorem exists_decodeText?_of_ascii {bs : Bytes} (h : ∀ b ∈ bs, b < 0x80) :
    ∃ s, decodeText? bs = some s ∧ encode s = bs := by
  have hbytes : encodeChars (bs.map fun b => Char.ofNat b.toNat) = bs := by
    induction bs with
    | nil => rfl
    | cons b bs ih =>
      obtain ⟨hb, hbs⟩ := List.forall_mem_cons.1 h
      have hlow : b.toNat < 0x80 := UInt8.lt_iff_toNat_lt.1 hb
      have hvalid : b.toNat.isValidChar := .inl (Nat.lt_trans hlow (by decide))
      have hchar : (Char.ofNat b.toNat).toNat = b.toNat := by
        rw [Char.ofNat, dif_pos hvalid]
        rfl
      rw [List.map_cons, encodeChars_cons, utf8EncodeChar_ascii (by omega), hchar, ih hbs,
        UInt8.ofNat_toNat]
      rfl
  refine ⟨String.ofList (bs.map fun b => Char.ofNat b.toNat), ?_, by rw [encode_ofList, hbytes]⟩
  have hdecode := decode?_encodeChars (bs.map fun b => Char.ofNat b.toNat)
  rw [hbytes] at hdecode
  rw [decodeText?, hdecode]
  rfl

/-! ## Bytes of ASCII -/

/-- A state in which no byte of ASCII may come next. -/
def State.IsProper : State → Prop
  | .ready => True
  | .inside _ low _ _ => 0x80 ≤ low

/-- After the first byte of a character the decoder expects a byte that may follow. -/
theorem isProper_start (b : UInt8) : (start b).2.IsProper := by
  unfold start
  dsimp only
  repeat' split
  all_goals first | exact trivial | exact UInt8.le_iff_toNat_le.2 (by decide)

/-- Whatever byte comes, the decoder goes on expecting bytes of which none is ASCII. -/
theorem isProper_feed (state : State) (b : UInt8) : (feed state b).2.IsProper := by
  unfold feed
  split
  · exact isProper_start b
  · split
    · split
      · exact trivial
      · exact UInt8.le_refl _
    · exact isProper_start b

theorem start_of_ascii {b : UInt8} (hb : b < 0x80) :
    start b = ([some (Char.ofNat b.toNat)], .ready) := if_pos (UInt8.lt_iff_toNat_lt.1 hb)

/-- A byte of ASCII is never taken for a part of another character. -/
theorem mem_feed_of_ascii {state : State} (h : state.IsProper) {b : UInt8} (hb : b < 0x80) :
    some (Char.ofNat b.toNat) ∈ (feed state b).1 := by
  unfold feed
  split
  case h_1 =>
    rw [start_of_ascii hb]
    exact List.mem_cons_self
  case h_2 more low high value =>
    rw [if_neg fun hrange => UInt8.not_le.2 hb (UInt8.le_trans h hrange.1), start_of_ascii hb]
    exact List.mem_cons_of_mem _ List.mem_cons_self

/-- A byte of ASCII is a character of its own wherever it stands. -/
theorem mem_symbols_of_ascii {state : State} (h : state.IsProper) {b : UInt8} (hb : b < 0x80)
    {bs : Bytes} (hmem : b ∈ bs) : some (Char.ofNat b.toNat) ∈ symbols state bs := by
  induction bs generalizing state with
  | nil => exact absurd hmem List.not_mem_nil
  | cons a rest ih =>
    rw [symbols]
    rcases List.mem_cons.1 hmem with rfl | hmem
    · exact List.mem_append_left _ (mem_feed_of_ascii h hb)
    · exact List.mem_append_right _ (ih (isProper_feed state a) hmem)

/-- What is made of a list has something made of each element. -/
theorem exists_of_mem_mapM {α β : Type} {f : α → Option β} {as : List α} {bs : List β}
    (h : as.mapM f = some bs) {a : α} (ha : a ∈ as) : ∃ b ∈ bs, f a = some b := by
  induction as generalizing bs with
  | nil => exact absurd ha List.not_mem_nil
  | cons head rest ih =>
    rw [List.mapM_cons] at h
    obtain ⟨b, hb, h⟩ := Option.bind_eq_some_iff.1 h
    obtain ⟨bs', hbs, h⟩ := Option.bind_eq_some_iff.1 h
    cases h
    rcases List.mem_cons.1 ha with rfl | ha
    · exact ⟨b, List.mem_cons_self, hb⟩
    · obtain ⟨b', hb', hf⟩ := ih hbs ha
      exact ⟨b', List.mem_cons_of_mem _ hb', hf⟩

/-- A byte of ASCII is a character of the text that is decoded. -/
theorem mem_of_decode? {bs : Bytes} {s : List Char} (h : decode? bs = some s) {c : Char}
    (hc : c.toNat < 0x80) (hmem : UInt8.ofNat c.toNat ∈ bs) : c ∈ s := by
  have hnat : (UInt8.ofNat c.toNat).toNat = c.toNat := toNat_byte (by omega)
  have hbyte : UInt8.ofNat c.toNat < 0x80 := UInt8.lt_iff_toNat_lt.2 (by rwa [hnat])
  have hsymbol := @mem_symbols_of_ascii .ready trivial _ hbyte _ hmem
  rw [hnat, Char.ofNat_toNat] at hsymbol
  obtain ⟨d, hd, hsome⟩ := exists_of_mem_mapM h hsymbol
  cases hsome
  exact hd

/-- A character of ASCII is a byte of the text that is encoded. -/
theorem mem_encodeChars_of_ascii {s : List Char} {c : Char} (hc : c.toNat < 0x80) (h : c ∈ s) :
    UInt8.ofNat c.toNat ∈ encodeChars s := by
  refine List.mem_flatMap.2 ⟨c, h, ?_⟩
  rw [utf8EncodeChar_ascii hc]
  exact List.mem_cons_self

/-! ## Order -/

/-- A smaller first byte decides, and so do the rest behind equal ones. -/
theorem bytes_lt {a b : Nat} (hb : b < 256) (h : a ≤ b) {x y : Bytes} (hxy : a = b → x < y) :
    UInt8.ofNat a :: x < UInt8.ofNat b :: y := by
  rw [List.cons_lt_cons_iff, UInt8.lt_iff_toNat_lt, toNat_byte (by omega), toNat_byte hb]
  rcases Nat.lt_or_eq_of_le h with hlt | rfl
  · exact .inl hlt
  · exact .inr ⟨rfl, hxy rfl⟩

/-- The bytes of a character with a greater code point are greater, whatever follows. -/
theorem utf8EncodeChar_lt {c d : Char} (h : c < d) (x y : Bytes) :
    String.utf8EncodeChar c ++ x < String.utf8EncodeChar d ++ y := by
  have hd : d.toNat < 0x110000 := by
    rcases d.valid with hd | hd
    · exact Nat.lt_trans hd (by decide)
    · exact hd.2
  have hlt : c.toNat < d.toNat := h
  unfold String.utf8EncodeChar
  rw [show c.val.toNat = c.toNat from rfl, show d.val.toNat = d.toNat from rfl]
  generalize c.toNat = m at hlt ⊢
  generalize d.toNat = n at hlt hd ⊢
  -- characters of more bytes have a greater first byte, those of as many are compared byte by byte
  dsimp only
  split
  · split
    · exact bytes_lt (by omega) (by omega) (by omega)
    · split
      · exact bytes_lt (by omega) (by omega) (by omega)
      · split
        · exact bytes_lt (by omega) (by omega) (by omega)
        · exact bytes_lt (by omega) (by omega) (by omega)
  · rw [if_neg (show ¬n ≤ 127 by omega)]
    split
    · split
      · exact bytes_lt (by omega) (by omega) fun _ => bytes_lt (by omega) (by omega) (by omega)
      · split
        · exact bytes_lt (by omega) (by omega) (by omega)
        · exact bytes_lt (by omega) (by omega) (by omega)
    · rw [if_neg (show ¬n ≤ 2047 by omega)]
      split
      · split
        · exact bytes_lt (by omega) (by omega) fun _ => bytes_lt (by omega) (by omega) fun _ =>
            bytes_lt (by omega) (by omega) (by omega)
        · exact bytes_lt (by omega) (by omega) (by omega)
      · rw [if_neg (show ¬n ≤ 65535 by omega)]
        exact bytes_lt (by omega) (by omega) fun _ => bytes_lt (by omega) (by omega) fun _ =>
          bytes_lt (by omega) (by omega) fun _ => bytes_lt (by omega) (by omega) (by omega)

/-- Texts are in the order of their bytes. -/
theorem encodeChars_lt {s t : List Char} (h : s < t) : encodeChars s < encodeChars t := by
  induction s generalizing t with
  | nil =>
    cases t with
    | nil => exact absurd h (List.lt_irrefl [])
    | cons d t =>
      obtain ⟨b, bs, hbytes⟩ := List.exists_cons_of_ne_nil (String.utf8EncodeChar_ne_nil (c := d))
      rw [encodeChars_cons, hbytes]
      exact List.nil_lt_cons _ _
  | cons c s ih =>
    cases t with
    | nil => exact absurd h (List.not_lt_nil _)
    | cons d t =>
      rw [encodeChars_cons, encodeChars_cons]
      rcases List.cons_lt_cons_iff.1 h with hlt | ⟨rfl, hlt⟩
      · exact utf8EncodeChar_lt hlt _ _
      · exact List.append_left_lt (ih hlt)

/-- Texts are ordered as their bytes are. -/
theorem encode_lt {s t : String} (h : s < t) : encode s < encode t :=
  encodeChars_lt (String.lt_iff.1 h)

end Sidecar.Text.Utf8
