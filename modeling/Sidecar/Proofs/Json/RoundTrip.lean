import Sidecar.Json.Shape
import Sidecar.Proofs.Json.Scan

/-!
# Values are read back

What is written for a value with whole numbers is read as that value again, its members in order, by
every reader that goes deep enough.

The main results are `reads_bytes`, by induction on the value, and from it `readText_encode`.
-/

namespace Sidecar.Json

open Text.Utf8

variable {α β : Type} {rest : Bytes}

/-- The reader takes a text for `a`, whatever follows that does not go on with a number. -/
def Reads (reader : Reader α) (text : Bytes) (a : α) : Prop :=
  ∀ rest, Ends rest → reader (text ++ rest) = .ok (a, rest)

/-- A text that begins with a byte of a value. -/
def Begins (text : Bytes) : Prop :=
  ∃ b bs, text = b :: bs ∧ isBlank b = false ∧ b ≠ closeBracket

theorem skipBlanks_cons {b : UInt8} (h : isBlank b = false) (rest : Bytes) :
    skipBlanks (b :: rest) = b :: rest := List.dropWhile_cons_of_neg (ne_true_of_eq_false h)

/-! ## Items -/

section Items

variable {item : Reader α} {text : β → Bytes} {result : β → α}

/-- What stands behind an item: the others, each behind a comma, and the bracket. -/
def itemsBehind (text : β → Bytes) (xs : List β) (rest : Bytes) : Bytes :=
  xs.flatMap (fun x => comma :: text x) ++ closeBracket :: rest

theorem itemsBehind_cons (x : β) (xs : List β) (rest : Bytes) :
    itemsBehind text (x :: xs) rest = comma :: (text x ++ itemsBehind text xs rest) := by
  simp [itemsBehind]

theorem ends_itemsBehind (xs : List β) (rest : Bytes) : Ends (itemsBehind text xs rest) := by
  cases xs with
  | nil => exact ends_cons (by decide) (by decide) (by decide) _
  | cons x xs => exact ends_cons (by decide) (by decide) (by decide) _

/-- There are more bytes than items, so that the readers do not run out. -/
theorem length_lt_itemsBehind (text : β → Bytes) (xs : List β) (rest : Bytes) :
    xs.length < (itemsBehind text xs rest).length := by
  induction xs with
  | nil => exact Nat.succ_pos _
  | cons x xs ih =>
    rw [itemsBehind_cons, List.length_cons, List.length_cons, List.length_append]
    omega

/-- The first item stands behind no comma. -/
theorem readItems_first {bs : Bytes} (h : Begins bs) (fuel : Nat) (rest : Bytes) :
    readItems item (fuel + 1) true (bs ++ rest) = (do
      let (x, bs) ← item (bs ++ rest)
      let (xs, bs) ← readItems item fuel false bs
      .ok (x :: xs, bs)) := by
  obtain ⟨b, bs, rfl, hblank, hne⟩ := h
  rw [readItems, List.cons_append, skipBlanks_cons hblank]
  dsimp only
  rw [if_neg hne, if_pos rfl]
  rfl

/-- Every other item stands behind one. -/
theorem readItems_comma {bs : Bytes} (h : Begins bs) (fuel : Nat) (rest : Bytes) :
    readItems item (fuel + 1) false (comma :: (bs ++ rest)) = (do
      let (x, bs) ← item (bs ++ rest)
      let (xs, bs) ← readItems item fuel false bs
      .ok (x :: xs, bs)) := by
  obtain ⟨b, bs, rfl, hblank, hne⟩ := h
  rw [readItems, skipBlanks_cons (by decide)]
  dsimp only
  rw [List.cons_append, skipBlanks_cons hblank, if_neg (by decide), if_neg (by decide), if_pos rfl]
  dsimp only
  rw [if_neg hne]
  rfl

/-- The items behind the first are read, up to the bracket. -/
theorem readItems_behind {xs : List β} (hbegins : ∀ x ∈ xs, Begins (text x))
    (hreads : ∀ x ∈ xs, Reads item (text x) (result x)) {fuel : Nat} (hfuel : xs.length < fuel)
    (rest : Bytes) :
    readItems item fuel false (itemsBehind text xs rest) =
      .ok (xs.map result, closeBracket :: rest) := by
  induction xs generalizing fuel with
  | nil =>
    obtain ⟨fuel, rfl⟩ := Nat.exists_eq_succ_of_ne_zero (Nat.ne_of_gt hfuel)
    rfl
  | cons x xs ih =>
    obtain ⟨fuel, rfl⟩ := Nat.exists_eq_succ_of_ne_zero (Nat.ne_of_gt (Nat.zero_lt_of_lt hfuel))
    obtain ⟨hx, hxs⟩ := List.forall_mem_cons.1 hreads
    obtain ⟨hbegin, hbegins⟩ := List.forall_mem_cons.1 hbegins
    rw [itemsBehind_cons, readItems_comma hbegin, hx _ (ends_itemsBehind xs rest)]
    simp only [bind, Except.bind, ih hbegins hxs (Nat.lt_of_succ_lt_succ hfuel)]
    rfl

/-- Items and the bracket behind them. -/
def itemsText (text : β → Bytes) : List β → Bytes → Bytes
  | [], rest => closeBracket :: rest
  | x :: xs, rest => text x ++ itemsBehind text xs rest

/-- An array whose items are read is read. -/
theorem readArrayBody_itemsText {xs : List β} (hbegins : ∀ x ∈ xs, Begins (text x))
    (hreads : ∀ x ∈ xs, Reads item (text x) (result x)) (rest : Bytes) :
    readArrayBody item (itemsText text xs rest) = .ok (xs.map result, rest) := by
  have hitems : readItems item ((itemsText text xs rest).length + 1) true (itemsText text xs rest) =
      .ok (xs.map result, closeBracket :: rest) := by
    cases xs with
    | nil => rfl
    | cons x xs =>
      obtain ⟨hx, hxs⟩ := List.forall_mem_cons.1 hreads
      obtain ⟨hbegin, hbegins⟩ := List.forall_mem_cons.1 hbegins
      have hfuel : xs.length < (text x ++ itemsBehind text xs rest).length := by
        have hlength := length_lt_itemsBehind text xs rest
        rw [List.length_append]
        omega
      rw [itemsText, readItems_first hbegin, hx _ (ends_itemsBehind xs rest)]
      simp only [bind, Except.bind]
      rw [readItems_behind hbegins hxs hfuel]
      rfl
  rw [readArrayBody, hitems]
  rfl

end Items

/-! ## Members -/

section Members

variable {value : Reader α} {text : β → Bytes} {result : β → α}

/-- A name as it is written. -/
def nameText (name : String) : Bytes := encodeChars (name.toList.flatMap escapeChar)

/-- A member behind the quote of its name. -/
def memberText (text : β → Bytes) (m : String × β) (rest : Bytes) : Bytes :=
  nameText m.1 ++ quote :: colon :: (text m.2 ++ rest)

/-- What stands behind a member: the others, each behind a comma, and the brace. -/
def membersBehind (text : β → Bytes) : List (String × β) → Bytes → Bytes
  | [], rest => closeBrace :: rest
  | m :: ms, rest => comma :: quote :: memberText text m (membersBehind text ms rest)

theorem ends_membersBehind (ms : List (String × β)) (rest : Bytes) :
    Ends (membersBehind text ms rest) := by
  cases ms with
  | nil => exact ends_cons (by decide) (by decide) (by decide) _
  | cons m ms => exact ends_cons (by decide) (by decide) (by decide) _

theorem length_lt_membersBehind (text : β → Bytes) (ms : List (String × β)) (rest : Bytes) :
    ms.length < (membersBehind text ms rest).length := by
  induction ms with
  | nil => exact Nat.succ_pos _
  | cons m ms ih =>
    simp only [membersBehind, memberText, List.length_cons, List.length_append]
    omega

/-- The first member, or one behind a comma. -/
theorem readMembers_memberText {first : Bool} {bs : Bytes} {m : String × β} {tail : Bytes}
    (hnext : nextMember first bs = .ok (some (memberText text m tail), memberText text m tail))
    (hvalue : Reads value (text m.2) (result m.2)) (htail : Ends tail) (fuel : Nat) :
    readMembers value (fuel + 1) first bs = (do
      let (ms, bs) ← readMembers value fuel false tail
      .ok ((m.1, result m.2) :: ms, bs)) := by
  have hcolon : readColon (colon :: (text m.2 ++ tail)) = .ok ((), text m.2 ++ tail) := rfl
  rw [readMembers, hnext]
  simp only [bind, Except.bind]
  rw [memberText, nameText, readString_escaped]
  dsimp only
  rw [hcolon]
  dsimp only
  rw [hvalue tail htail]

/-- The members behind the first are read, up to the brace. -/
theorem readMembers_behind {ms : List (String × β)}
    (hreads : ∀ m ∈ ms, Reads value (text m.2) (result m.2)) {fuel : Nat}
    (hfuel : ms.length < fuel) (rest : Bytes) :
    readMembers value fuel false (membersBehind text ms rest) =
      .ok (mapMembers result ms, closeBrace :: rest) := by
  induction ms generalizing fuel with
  | nil =>
    obtain ⟨fuel, rfl⟩ := Nat.exists_eq_succ_of_ne_zero (Nat.ne_of_gt hfuel)
    rfl
  | cons m ms ih =>
    obtain ⟨fuel, rfl⟩ := Nat.exists_eq_succ_of_ne_zero (Nat.ne_of_gt (Nat.zero_lt_of_lt hfuel))
    obtain ⟨hm, hms⟩ := List.forall_mem_cons.1 hreads
    rw [membersBehind, readMembers_memberText rfl hm (ends_membersBehind ms rest),
      ih hms (Nat.lt_of_succ_lt_succ hfuel)]
    rfl

/-- Members and the brace behind them. -/
def membersText (text : β → Bytes) : List (String × β) → Bytes → Bytes
  | [], rest => closeBrace :: rest
  | m :: ms, rest => quote :: memberText text m (membersBehind text ms rest)

/-- An object whose values are read is read. -/
theorem readObjectBody_membersText {ms : List (String × β)}
    (hreads : ∀ m ∈ ms, Reads value (text m.2) (result m.2)) (rest : Bytes) :
    readObjectBody value (membersText text ms rest) =
      .ok (mapMembers result ms, rest) := by
  have hmembers : readMembers value ((membersText text ms rest).length + 1) true
      (membersText text ms rest) =
        .ok (mapMembers result ms, closeBrace :: rest) := by
    cases ms with
    | nil => rfl
    | cons m ms =>
      obtain ⟨hm, hms⟩ := List.forall_mem_cons.1 hreads
      have hfuel : ms.length <
          (quote :: memberText text m (membersBehind text ms rest)).length := by
        have hlength := length_lt_membersBehind text ms rest
        simp only [memberText, List.length_cons, List.length_append]
        omega
      rw [membersText, readMembers_memberText rfl hm (ends_membersBehind ms rest),
        readMembers_behind hms hfuel]
      rfl
  rw [readObjectBody, hmembers]
  rfl

end Members

/-! ## Values -/

/-- A value as it is written. -/
def bytes (v : Json) : Bytes := encodeChars (chars v)

theorem itemChars_cons (v : Json) (items : List Json) (rest : Bytes) :
    encodeChars (itemChars (v :: items)) ++ closeBracket :: rest =
      bytes v ++ itemsBehind bytes items rest := by
  induction items generalizing v with
  | nil => rfl
  | cons w items ih =>
    rw [itemChars, encodeChars_append, encodeChars_append, List.append_assoc, List.append_assoc,
      ih, itemsBehind_cons]
    rfl

theorem bytes_array (items : List Json) (rest : Bytes) :
    bytes (.array items) ++ rest = openBracket :: itemsText bytes items rest := by
  have hchars : bytes (.array items) ++ rest =
      openBracket :: (encodeChars (itemChars items) ++ closeBracket :: rest) := by
    rw [bytes, chars, encodeChars_append, encodeChars_append, List.append_assoc, List.append_assoc]
    rfl
  rw [hchars]
  cases items with
  | nil => rfl
  | cons v items => rw [itemChars_cons, itemsText]

theorem encodeChars_stringText (s : String) (rest : Bytes) :
    encodeChars (stringText s) ++ rest = quote :: (nameText s ++ quote :: rest) := by
  rw [stringText, encodeChars_append, encodeChars_append, List.append_assoc, List.append_assoc]
  rfl

theorem memberChars_cons (m : String × Json) (members : List (String × Json)) (rest : Bytes) :
    encodeChars (memberChars (m :: members)) ++ closeBrace :: rest =
      quote :: memberText bytes m (membersBehind bytes members rest) := by
  induction members generalizing m with
  | nil =>
    obtain ⟨k, v⟩ := m
    rw [memberChars, encodeChars_append, encodeChars_append, List.append_assoc, List.append_assoc,
      encodeChars_stringText]
    rfl
  | cons n members ih =>
    obtain ⟨k, v⟩ := m
    rw [memberChars, encodeChars_append, encodeChars_append, encodeChars_append,
      encodeChars_append, List.append_assoc, List.append_assoc, List.append_assoc,
      List.append_assoc, ih, encodeChars_stringText]
    rfl

theorem bytes_object (members : List (String × Json)) (rest : Bytes) :
    bytes (.object members) ++ rest = openBrace :: membersText bytes members rest := by
  have hchars : bytes (.object members) ++ rest =
      openBrace :: (encodeChars (memberChars members) ++ closeBrace :: rest) := by
    rw [bytes, chars, encodeChars_append, encodeChars_append, List.append_assoc, List.append_assoc]
    rfl
  rw [hchars]
  cases members with
  | nil => rfl
  | cons m members => rw [memberChars_cons, membersText]

/-! ### First bytes -/

theorem exists_digit (n : Nat) :
    ∃ b bs, encodeChars (Nat.toDigits 10 n) = b :: bs ∧ isDigit b := by
  induction n using Nat.strongRecOn with
  | ind n ih =>
    by_cases hn : n < 10
    · rw [Nat.toDigits_of_lt_base hn, encodeChars_digitChar hn]
      exact ⟨_, [], rfl, isDigit_digit hn⟩
    · obtain ⟨b, bs, hdigits, hb⟩ := ih (n / 10) (by omega)
      rw [Nat.toDigits_of_base_le (by decide) (Nat.le_of_not_lt hn), encodeChars_append, hdigits]
      exact ⟨b, bs ++ _, rfl, hb⟩

theorem bytes_ofNat (n : Nat) :
    bytes (.number (.whole (.ofNat n))) = encodeChars (Nat.toDigits 10 n) := by
  have htext : (toString (Int.ofNat n)).toList = Nat.toDigits 10 n := Nat.toList_repr
  rw [bytes, chars, Number.text, htext]

/-- A number below zero has a sign and the digits of its size. -/
theorem bytes_negSucc (n : Nat) :
    bytes (.number (.whole (.negSucc n))) = 45 :: encodeChars (Nat.toDigits 10 (n + 1)) := by
  have htext : (toString (Int.negSucc n)).toList = '-' :: Nat.toDigits 10 (n + 1) := by
    rw [← Nat.toList_repr]
    exact String.toList_append
  rw [bytes, chars, Number.text, htext]
  rfl

/-- A digit begins neither a literal nor a sign nor blanks. -/
theorem ne_of_isDigit {b c : UInt8} (hb : isDigit b) (hc : isDigit c = false) : b ≠ c :=
  fun h => absurd (h ▸ hb) (ne_true_of_eq_false hc)

theorem isBlank_of_isDigit {b : UInt8} (hb : isDigit b) : isBlank b = false := by
  have h32 : b ≠ 32 := ne_of_isDigit hb rfl
  have h10 : b ≠ 10 := ne_of_isDigit hb rfl
  have h9 : b ≠ 9 := ne_of_isDigit hb rfl
  have h13 : b ≠ 13 := ne_of_isDigit hb rfl
  simp [isBlank, h32, h10, h9, h13]

/-- Only `null` begins with the letter that it begins with. -/
theorem exists_first_byte {v : Json} (h : v.isWhole) :
    ∃ b bs, bytes v = b :: bs ∧ isBlank b = false ∧ b ≠ closeBracket ∧ (b = 110 → v = .null) := by
  cases v with
  | null => exact ⟨110, _, rfl, by decide, by decide, fun _ => rfl⟩
  | bool b =>
    cases b with
    | true => exact ⟨116, _, rfl, by decide, by decide, (absurd · (by decide))⟩
    | false => exact ⟨102, _, rfl, by decide, by decide, (absurd · (by decide))⟩
  | number n =>
    cases n with
    | whole n =>
      cases n with
      | ofNat n =>
        obtain ⟨b, bs, hdigits, hb⟩ := exists_digit n
        exact ⟨b, bs, (bytes_ofNat n).trans hdigits, isBlank_of_isDigit hb, ne_of_isDigit hb rfl,
          fun h => absurd h (ne_of_isDigit hb rfl)⟩
      | negSucc n => exact ⟨45, _, bytes_negSucc n, by decide, by decide, (absurd · (by decide))⟩
    | double x => cases h
  | string s => exact ⟨quote, _, rfl, by decide, by decide, (absurd · (by decide))⟩
  | array items => exact ⟨openBracket, _, rfl, by decide, by decide, (absurd · (by decide))⟩
  | object members => exact ⟨openBrace, _, rfl, by decide, by decide, (absurd · (by decide))⟩

/-- A value begins with a byte that is neither a blank nor a closing bracket. -/
theorem begins_bytes {v : Json} (h : v.isWhole) : Begins (bytes v) := by
  obtain ⟨b, bs, hbytes, hblank, hbracket, -⟩ := exists_first_byte h
  exact ⟨b, bs, hbytes, hblank, hbracket⟩

/-! ### Whole values -/

section Whole

variable {items : List Json} {members : List (String × Json)}

theorem isWhole_array : isWhole (.array items) ↔ ∀ v ∈ items, v.isWhole := by
  simp [isWhole, every, isWholeNumber, everyItem_iff]

/-- An object is whole if its values are. -/
theorem isWhole_object : isWhole (.object members) ↔ ∀ m ∈ members, m.2.isWhole := by
  simp [isWhole, every, isWholeNumber, everyMember_iff]

/-- A whole number has 64 bits, with a sign or without. -/
theorem isWhole_number {n : Int} :
    isWhole (.number (.whole n)) ↔ leastWhole ≤ n ∧ n ≤ greatestWhole := by
  simp [isWhole, every, isWholeNumber]

end Whole

/-- Only arrays and objects ask how deep a reader may go. -/
theorem exists_readValue_eq (depth : Nat) :
    ∃ array object, readValue depth = readValueWith array object := by
  cases depth with
  | zero => exact ⟨_, _, rfl⟩
  | succ depth => exact ⟨_, _, rfl⟩

variable {array object : Reader Json}

/-- A value that begins with a digit is a number. -/
theorem readValueWith_digit {b : UInt8} (hb : isDigit b) (bs : Bytes) :
    readValueWith array object (b :: bs) =
      (readNumber false (b :: bs)).map fun (n, bs) => (number n, bs) := by
  have hn : b ≠ 110 := ne_of_isDigit hb rfl
  have ht : b ≠ 116 := ne_of_isDigit hb rfl
  have hf : b ≠ 102 := ne_of_isDigit hb rfl
  have hminus : b ≠ 45 := ne_of_isDigit hb rfl
  rw [readValueWith, skipBlanks_cons (isBlank_of_isDigit hb)]
  dsimp only
  rw [if_neg hn, if_neg ht, if_neg hf, if_neg hminus, if_pos hb]

theorem reads_whole {n : Int} (h : leastWhole ≤ n ∧ n ≤ greatestWhole) :
    Reads (readValueWith array object) (bytes (.number (.whole n))) (.number (.whole n)) := by
  intro rest hrest
  cases n with
  | ofNat n =>
    obtain ⟨b, bs, hdigits, hb⟩ := exists_digit n
    have hread : readNumber false (b :: (bs ++ rest)) = .ok (.whole n, rest) := by
      rw [← List.cons_append, ← hdigits]
      exact readNumber_ofNat (Int.ofNat_le.1 h.2) hrest
    rw [bytes_ofNat, hdigits, List.cons_append, readValueWith_digit hb, hread]
    rfl
  | negSucc n =>
    have hbound : n < 9223372036854775808 := by
      have hleast : (-9223372036854775808 : Int) ≤ Int.negSucc n := h.1
      omega
    rw [bytes_negSucc]
    exact congrArg (Except.map fun p => (number p.1, p.2)) (readNumber_negSucc hbound hrest)

theorem reads_string (s : String) :
    Reads (readValueWith array object) (bytes (.string s)) (.string s) := by
  intro rest _
  rw [bytes, chars, encodeChars_stringText]
  exact congrArg (Except.map fun p => (string p.1, p.2)) (readString_escaped s rest)

/-- An array is read back one level deeper than its items. -/
theorem reads_array {items : List Json} {depth : Nat} (hwhole : ∀ v ∈ items, v.isWhole)
    (hreads : ∀ v ∈ items, Reads (readValue depth) (bytes v) v.sorted) :
    Reads (readValue (depth + 1)) (bytes (.array items)) (sorted (.array items)) := by
  intro rest _
  have hbody : readArrayBody (readValue depth) (itemsText bytes items rest) =
      .ok (items.map sorted, rest) :=
    readArrayBody_itemsText (fun v hv => begins_bytes (hwhole v hv)) hreads rest
  rw [bytes_array, sorted, sortedItems_eq_map]
  exact congrArg (Except.map fun p => (Json.array p.1, p.2)) hbody

/-- An object is read back with its members in order. -/
theorem reads_object {members : List (String × Json)} {depth : Nat}
    (hreads : ∀ m ∈ members, Reads (readValue depth) (bytes m.2) m.2.sorted) :
    Reads (readValue (depth + 1)) (bytes (.object members)) (sorted (.object members)) := by
  intro rest _
  have hbody : readObjectBody (readValue depth) (membersText bytes members rest) =
      .ok (mapMembers sorted members, rest) :=
    readObjectBody_membersText hreads rest
  rw [bytes_object, sorted, sortedMembers_eq_mapMembers]
  exact congrArg (Except.map fun p => (Json.object (sortMembers p.1), p.2)) hbody

/-- A value is read back by a reader that goes as deep as the value. -/
theorem reads_bytes {v : Json} {depth : Nat} (hwhole : v.isWhole) (hdepth : v.levels ≤ depth) :
    Reads (readValue depth) (bytes v) v.sorted := by
  obtain ⟨array, object, hreader⟩ := exists_readValue_eq depth
  induction v using inductionOn generalizing depth array object with
  | null =>
    rw [hreader]
    exact fun _ _ => rfl
  | bool b =>
    rw [hreader]
    cases b with
    | true => exact fun _ _ => rfl
    | false => exact fun _ _ => rfl
  | number n =>
    rw [hreader]
    cases n with
    | whole n => exact reads_whole (isWhole_number.1 hwhole)
    | double x => cases hwhole
  | string s =>
    rw [hreader]
    exact reads_string s
  | array items ih =>
    cases depth with
    | zero => exact absurd hdepth (Nat.not_succ_le_zero _)
    | succ depth =>
      obtain ⟨array, object, hreader⟩ := exists_readValue_eq depth
      have hwhole := isWhole_array.1 hwhole
      have hdepth := itemLevels_le_iff.1 (Nat.le_of_succ_le_succ hdepth)
      exact reads_array hwhole fun v hv => ih v hv (hwhole v hv) (hdepth v hv) array object hreader
  | object members ih =>
    cases depth with
    | zero => exact absurd hdepth (Nat.not_succ_le_zero _)
    | succ depth =>
      obtain ⟨array, object, hreader⟩ := exists_readValue_eq depth
      have hwhole := isWhole_object.1 hwhole
      have hdepth := memberLevels_le_iff.1 (Nat.le_of_succ_le_succ hdepth)
      exact reads_object fun m hm => ih m hm (hwhole m hm) (hdepth m hm) array object hreader

/-! ## Texts -/

/-- A value with nothing behind it is a document. -/
theorem readText_of_reads {reader : Reader α} {text : Bytes} {a : α} (h : Reads reader text a) :
    readText reader text = .ok a := by
  have hread : reader text = .ok (a, []) := by
    rw [← List.append_nil text]
    exact h [] ends_nil
  rw [readText, hread]
  rfl

/-- The bytes of a document are those of its value. -/
theorem encode_text (v : Json) : Text.Utf8.encode v.text = bytes v := encode_ofList (chars v)

/-- The text of a value gives that value, put in order. -/
theorem readText_encode {v : Json} {depth : Nat} (hwhole : v.isWhole) (hdepth : v.levels ≤ depth) :
    readText (readValue depth) (Text.Utf8.encode v.text) = .ok v.sorted := by
  rw [encode_text]
  exact readText_of_reads (reads_bytes hwhole hdepth)

/-- A client's view of a value: `null` is no value. -/
def unlessNull : Json → Option Json
  | .null => none
  | v => some v

/-- A reader that may be given `null` is given any other value as the reader below it. -/
theorem reads_nullable {v : Json} {depth : Nat} (hwhole : v.isWhole) (hdepth : v.levels ≤ depth) :
    Reads (nullable (readValue depth)) (bytes v) v.sorted.unlessNull := by
  intro rest hrest
  obtain ⟨b, bs, hbytes, hblank, -, hnull⟩ := exists_first_byte hwhole
  have hread := reads_bytes hwhole hdepth rest hrest
  by_cases hb : b = 110
  · cases hnull hb
    rfl
  · rw [hbytes, List.cons_append] at hread ⊢
    rw [nullable, skipBlanks_cons hblank]
    dsimp only
    rw [if_neg hb, hread]
    cases v with
    | null => cases hbytes; exact absurd rfl hb
    | bool | number | string | array | object => rfl

end Sidecar.Json
