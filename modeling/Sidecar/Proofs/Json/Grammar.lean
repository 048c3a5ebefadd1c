import Sidecar.Proofs.Json.RoundTrip

/-!
# Objects of strings

The texts of an object whose members are all strings, with blanks wherever they may stand and with
every way of writing a character.  Each of them is read as those members in that order, a repeated
name as often as it is written, and what is printed for such an object is one of them.

The main results are `readText_objectText`, that all of these texts are read as their members,
`objectText_pretty`, that the printed one is among them, and `readText_nullable_eq_none_iff`, on the
texts of a `null`.
-/

namespace Sidecar.Json

open Text.Utf8

variable {rest : Bytes}

/-! ## Texts -/

/-- The ways of writing a character in a string: an escape of one letter, a code unit, two code
units, or the character itself.  A surrogate without the other half of its pair writes nothing. -/
inductive Spells (c : Char) : Bytes → Prop
  | letter {b : UInt8} (h : escapedChar? b = some c) : Spells c [backslash, b]
  | unit {w x y z : UInt8} (h : hexValue? [w, x, y, z] = some c.toNat) :
      Spells c [backslash, 117, w, x, y, z]
  | pair {w x y z w' x' y' z' : UInt8} {high low : Nat}
      (hhigh : hexValue? [w, x, y, z] = some high) (hlow : hexValue? [w', x', y', z'] = some low)
      (leading : 0xD800 ≤ high ∧ high ≤ 0xDBFF) (trailing : 0xDC00 ≤ low ∧ low ≤ 0xDFFF)
      (h : 0x10000 + (high - 0xD800) * 0x400 + (low - 0xDC00) = c.toNat) :
      Spells c [backslash, 117, w, x, y, z, backslash, 117, w', x', y', z']
  | plain (h : ∀ b ∈ String.utf8EncodeChar c, IsPlainByte b) : Spells c (String.utf8EncodeChar c)

/-- Characters that are written one after the other. -/
inductive Spelt : List Char → Bytes → Prop
  | nil : Spelt [] []
  | cons {c : Char} {cs : List Char} {front bs : Bytes} (hc : Spells c front) (hcs : Spelt cs bs) :
      Spelt (c :: cs) (front ++ bs)

def Blanks (bs : Bytes) : Prop := ∀ b ∈ bs, isBlank b

instance (bs : Bytes) : Decidable (Blanks bs) := List.decidableBAll _ bs

/-- A string between blanks. -/
inductive StringText (s : String) : Bytes → Prop
  | mk {before spelt after : Bytes} (hbefore : Blanks before) (hspelt : Spelt s.toList spelt)
      (hafter : Blanks after) : StringText s (before ++ quote :: (spelt ++ quote :: after))

/-- A name, a colon and a value. -/
inductive MemberText (m : String × String) : Bytes → Prop
  | mk {name value : Bytes} (hname : StringText m.1 name) (hvalue : StringText m.2 value) :
      MemberText m (name ++ colon :: value)

/-- One member or several, with a comma between two. -/
inductive MembersText : List (String × String) → Bytes → Prop
  | single {m : String × String} {bs : Bytes} (h : MemberText m bs) : MembersText [m] bs
  | cons {m : String × String} {members : List (String × String)} {front bs : Bytes}
      (hm : MemberText m front) (hmembers : MembersText members bs) :
      MembersText (m :: members) (front ++ comma :: bs)

/-- A whole document that is an object with these members. -/
inductive ObjectText : List (String × String) → Bytes → Prop
  | empty {before inside after : Bytes} (hbefore : Blanks before) (hinside : Blanks inside)
      (hafter : Blanks after) :
      ObjectText [] (before ++ openBrace :: (inside ++ closeBrace :: after))
  | members {members : List (String × String)} {before inside after : Bytes}
      (hbefore : Blanks before) (hmembers : MembersText members inside) (hafter : Blanks after) :
      ObjectText members (before ++ openBrace :: (inside ++ closeBrace :: after))

/-! ## Reading strings -/

/-- Two escapes of a surrogate pair are read as one character. -/
theorem readStringFrom_pair {w x y z w' x' y' z' : UInt8} {high low : Nat} {c : Char}
    (hhigh : hexValue? [w, x, y, z] = some high) (hlow : hexValue? [w', x', y', z'] = some low)
    (leading : 0xD800 ≤ high ∧ high ≤ 0xDBFF) (trailing : 0xDC00 ≤ low ∧ low ≤ 0xDFFF)
    (h : 0x10000 + (high - 0xD800) * 0x400 + (low - 0xDC00) = c.toNat) (text : List Char)
    (rest : Bytes) :
    readStringFrom text .escape (117 :: w :: x :: y :: z :: backslash :: 117 :: w' :: x' :: y' ::
        z' :: rest) =
      readStringFrom (text ++ [c]) (.plain rest []) rest := by
  have hfirst (bs : Bytes) : endUnit none [z, y, x, w] bs = .ok (.inr high) := by
    unfold endUnit
    rw [show [z, y, x, w].reverse = [w, x, y, z] from rfl, hhigh]
    dsimp only
    rw [if_neg (by omega), if_pos leading]
  have hsecond (bs : Bytes) : endUnit (some high) [z', y', x', w'] bs = .ok (.inl c) := by
    unfold endUnit
    rw [show [z', y', x', w'].reverse = [w', x', y', z'] from rfl, hlow]
    dsimp only
    rw [if_pos trailing, h, Char.ofNat_toNat]
  change (endUnit none [z, y, x, w] _ >>= _) = _
  rw [hfirst]
  change (endUnit (some high) [z', y', x', w'] rest >>= _) = _
  rw [hsecond]
  rfl

/-- However a character is written, it is read as itself, behind the plain characters `cs` before
it. -/
theorem readStringFrom_spells {chunk : Bytes} {c : Char} {bs : Bytes} (hspells : Spells c bs)
    {cs : List Char} (h : chunk.reverse = encodeChars cs) (text : List Char) (start rest : Bytes) :
    ∃ text' cs' start' chunk', text' ++ cs' = text ++ cs ++ [c] ∧
      chunk'.reverse = encodeChars cs' ∧
      readStringFrom text (.plain start chunk) (bs ++ rest) =
        readStringFrom text' (.plain start' chunk') rest := by
  cases hspells with
  | @letter b hletter =>
    have hb : b ≠ 117 := by
      rintro rfl
      cases hletter
    exact readStringFrom_written (.letter hb hletter) h text start rest
  | unit hvalue =>
    refine ⟨text ++ cs ++ [c], [], rest, [], List.append_nil _, rfl, ?_⟩
    exact (readStringFrom_backslash h _).trans (readStringFrom_unit hvalue _)
  | pair hhigh hlow leading trailing hvalue =>
    refine ⟨text ++ cs ++ [c], [], rest, [], List.append_nil _, rfl, ?_⟩
    exact (readStringFrom_backslash h _).trans
      (readStringFrom_pair hhigh hlow leading trailing hvalue _ _)
  | plain hplain => exact readStringFrom_written (.plain hplain) h text start rest

/-- However its characters are spelt, a string is read as them, up to the quote behind. -/
theorem readStringFrom_spelt {s : List Char} {bs : Bytes} (hspelt : Spelt s bs) {chunk : Bytes}
    {cs : List Char} (h : chunk.reverse = encodeChars cs) (text : List Char) (start rest : Bytes) :
    readStringFrom text (.plain start chunk) (bs ++ quote :: rest) =
      .ok (String.ofList (text ++ cs ++ s), rest) := by
  induction hspelt generalizing text cs start chunk with
  | nil => exact readStringFrom_escaped [] cs h rest
  | @cons c s front bs hc hs ih =>
    obtain ⟨text', cs', start', chunk', htext, hchunk, hread⟩ :=
      readStringFrom_spells hc h text start (bs ++ quote :: rest)
    rw [List.append_assoc, hread, ih hchunk, htext, List.append_assoc _ [c]]
    rfl

/-- A string is read from every spelling of its characters. -/
theorem readString_spelt {s : String} {bs : Bytes} (h : Spelt s.toList bs) (rest : Bytes) :
    readString (bs ++ quote :: rest) = .ok (s, rest) := by
  have hnone : ([] : Bytes).reverse = encodeChars [] := rfl
  have hread := readStringFrom_spelt h hnone [] (bs ++ quote :: rest) rest
  rw [List.append_nil, List.nil_append, String.ofList_toList] at hread
  exact hread

/-! ## Reading members -/

theorem skipBlanks_append {bs : Bytes} (h : Blanks bs) (rest : Bytes) :
    skipBlanks (bs ++ rest) = skipBlanks rest := by
  induction bs with
  | nil => rfl
  | cons b bs ih =>
    obtain ⟨hb, hbs⟩ := List.forall_mem_cons.1 h
    rw [← ih hbs]
    exact List.dropWhile_cons_of_pos hb

/-- Skipping ends at the first byte that is no blank. -/
theorem skipBlanks_to {bs : Bytes} (h : Blanks bs) {b : UInt8} (hb : isBlank b = false)
    (rest : Bytes) : skipBlanks (bs ++ b :: rest) = b :: rest :=
  (skipBlanks_append h _).trans (skipBlanks_cons hb rest)

theorem skipBlanks_of_blanks {bs : Bytes} (h : Blanks bs) : skipBlanks bs = [] := by
  rw [← List.append_nil bs, skipBlanks_append h]
  rfl

/-- The blanks behind a string are left. -/
theorem stringShape_text {s : String} {bs : Bytes} (h : StringText s bs) :
    ∃ after, Blanks after ∧ ∀ rest, stringShape (bs ++ rest) = .ok (s, after ++ rest) := by
  obtain @⟨before, spelt, after, hbefore, hspelt, hafter⟩ := h
  refine ⟨after, hafter, fun rest => ?_⟩
  have hbytes : before ++ quote :: (spelt ++ quote :: after) ++ rest =
      before ++ quote :: (spelt ++ quote :: (after ++ rest)) := by simp
  rw [hbytes, stringShape, atValue, skipBlanks_to hbefore (by decide)]
  dsimp only
  rw [if_pos rfl, readString_spelt hspelt]

/-- What stands in front of a member: nothing, or the comma behind another one. -/
def Leads (first : Bool) (lead : Bytes) : Prop :=
  if first then lead = [] else ∃ blanks, Blanks blanks ∧ lead = blanks ++ [comma]

/-- The first member comes at once, and every other one behind a comma. -/
theorem nextMember_leads {first : Bool} {lead before : Bytes} (hlead : Leads first lead)
    (hbefore : Blanks before) (rest : Bytes) :
    nextMember first (lead ++ (before ++ quote :: rest)) = .ok (some rest, rest) := by
  unfold nextMember
  cases first with
  | true =>
    obtain rfl : lead = [] := hlead
    rw [List.nil_append, skipBlanks_to hbefore (by decide)]
    dsimp only
    rw [if_neg (by decide), if_pos rfl, if_pos rfl]
  | false =>
    obtain ⟨blanks, hblanks, rfl⟩ : ∃ blanks, Blanks blanks ∧ lead = blanks ++ [comma] := hlead
    rw [List.append_assoc, List.singleton_append, skipBlanks_to hblanks (by decide)]
    dsimp only
    rw [if_neg (by decide), if_neg Bool.false_ne_true, if_pos rfl,
      skipBlanks_to hbefore (by decide)]
    dsimp only
    rw [if_pos rfl]

/-- The closing brace ends the members, and is left. -/
theorem readMembers_close {α : Type} {value : Reader α} {blanks : Bytes} (h : Blanks blanks)
    (fuel : Nat) (first : Bool) (rest : Bytes) :
    readMembers value (fuel + 1) first (blanks ++ closeBrace :: rest) =
      .ok ([], closeBrace :: rest) := by
  have hnext : nextMember first (blanks ++ closeBrace :: rest) =
      .ok (none, closeBrace :: rest) := by
    rw [nextMember, skipBlanks_to h (by decide)]
    rfl
  rw [readMembers, hnext]
  rfl

/-- One member is read, and the blanks behind it are left. -/
theorem readMembers_member {m : String × String} {bs : Bytes} (h : MemberText m bs) :
    ∃ after, Blanks after ∧ ∀ (first : Bool) (lead rest : Bytes) (fuel : Nat), Leads first lead →
      readMembers stringShape (fuel + 1) first (lead ++ (bs ++ rest)) = (do
        let (members, bs) ← readMembers stringShape fuel false (after ++ rest)
        .ok (m :: members, bs)) := by
  obtain @⟨name, value, hname, hvalue⟩ := h
  obtain @⟨before, spelt, behind, hbefore, hspelt, hbehind⟩ := hname
  obtain ⟨after, hafter, hread⟩ := stringShape_text hvalue
  refine ⟨after, hafter, fun first lead rest fuel hlead => ?_⟩
  have hbytes : before ++ quote :: (spelt ++ quote :: behind) ++ colon :: value ++ rest =
      before ++ quote :: (spelt ++ quote :: (behind ++ colon :: (value ++ rest))) := by simp
  have hcolon : readColon (behind ++ colon :: (value ++ rest)) = .ok ((), value ++ rest) := by
    rw [readColon, skipBlanks_to hbehind (by decide)]
    rfl
  rw [readMembers, hbytes, nextMember_leads hlead hbefore]
  simp only [bind, Except.bind]
  rw [readString_spelt hspelt]
  dsimp only
  rw [hcolon]
  dsimp only
  rw [hread]

/-- The members are read in order, up to the brace behind them. -/
theorem readMembers_text {members : List (String × String)} {bs : Bytes}
    (h : MembersText members bs) {fuel : Nat} (hfuel : members.length < fuel) {first : Bool}
    {lead : Bytes} (hlead : Leads first lead) (rest : Bytes) :
    readMembers stringShape fuel first (lead ++ (bs ++ closeBrace :: rest)) =
      .ok (members, closeBrace :: rest) := by
  induction h generalizing fuel first lead with
  | @single m bs hm =>
    obtain ⟨fuel, rfl⟩ : ∃ n, fuel = n + 2 := Nat.exists_eq_add_of_le' hfuel
    obtain ⟨after, hafter, hread⟩ := readMembers_member hm
    rw [hread first lead _ _ hlead, readMembers_close hafter]
    rfl
  | @cons m members front bs hm hmembers ih =>
    obtain ⟨fuel, rfl⟩ := Nat.exists_eq_succ_of_ne_zero (Nat.ne_of_gt (Nat.zero_lt_of_lt hfuel))
    obtain ⟨after, hafter, hread⟩ := readMembers_member hm
    have hbytes : front ++ comma :: bs ++ closeBrace :: rest =
        front ++ comma :: (bs ++ closeBrace :: rest) := by simp
    have hbehind : after ++ comma :: (bs ++ closeBrace :: rest) =
        (after ++ [comma]) ++ (bs ++ closeBrace :: rest) := by simp
    have hcomma : Leads false (after ++ [comma]) := ⟨after, hafter, rfl⟩
    rw [hbytes, hread first lead _ _ hlead, hbehind, ih (Nat.lt_of_succ_lt_succ hfuel) hcomma]
    rfl

theorem MembersText.length_le {members : List (String × String)} {bs : Bytes}
    (h : MembersText members bs) : members.length ≤ bs.length := by
  induction h with
  | single hm =>
    cases hm
    rw [List.length_append, List.length_cons]
    exact Nat.le_add_left 1 _
  | cons hm hmembers ih =>
    rw [List.length_cons, List.length_append, List.length_cons]
    omega

/-! ## Reading documents -/

theorem readText_object {members : List (String × String)} {before inside after : Bytes}
    (hbefore : Blanks before) (hafter : Blanks after)
    (hread : readMembers stringShape ((inside ++ closeBrace :: after).length + 1) true
      (inside ++ closeBrace :: after) = .ok (members, closeBrace :: after)) :
    readText (membersShape stringShape)
      (before ++ openBrace :: (inside ++ closeBrace :: after)) = .ok members := by
  have hshape : membersShape stringShape (before ++ openBrace :: (inside ++ closeBrace :: after)) =
      .ok (members, after) := by
    rw [membersShape, atValue, skipBlanks_to hbefore (by decide)]
    dsimp only
    rw [if_pos rfl, readObjectBody, hread]
    rfl
  rw [readText, hshape]
  dsimp only
  rw [skipBlanks_of_blanks hafter]

/-- A document that is an object of strings is read as its members. -/
theorem readText_objectText {members : List (String × String)} {bs : Bytes}
    (h : ObjectText members bs) : readText (membersShape stringShape) bs = .ok members := by
  cases h with
  | empty hbefore hinside hafter =>
    exact readText_object hbefore hafter (readMembers_close hinside _ _ _)
  | @members members before inside after hbefore hmembers hafter =>
    have hfuel : members.length < (inside ++ closeBrace :: after).length + 1 := by
      have hlength := hmembers.length_le
      rw [List.length_append]
      omega
    have hlead : Leads true [] := rfl
    exact readText_object hbefore hafter (readMembers_text hmembers hfuel hlead after)

/-! ## Reading `null` -/

/-- The literal between blanks. -/
inductive NullText : Bytes → Prop
  | mk {before after : Bytes} (hbefore : Blanks before) (hafter : Blanks after) :
      NullText (before ++ (Text.Utf8.encode "null" ++ after))

section Null

variable {α : Type} {reader : Reader α} {bs rest : Bytes}

/-- A document is read if its value is, and nothing but blanks follows. -/
theorem readText_eq_ok_iff {x : α} :
    readText reader bs = .ok x ↔ ∃ rest, reader bs = .ok (x, rest) ∧ skipBlanks rest = [] := by
  constructor
  · intro h
    unfold readText at h
    split at h
    case h_1 => cases h
    case h_2 y rest hread =>
      split at h
      case h_1 hrest =>
        cases h
        exact ⟨rest, hread, hrest⟩
      case h_2 => cases h
  · rintro ⟨rest, hread, hrest⟩
    rw [readText, hread]
    dsimp only
    rw [hrest]

theorem readIdent_eq_ok_iff {letters : Bytes} :
    readIdent letters bs = .ok ((), rest) ↔ bs = letters ++ rest := by
  induction letters generalizing bs with
  | nil => simp [readIdent]
  | cons l letters ih =>
    cases bs with
    | nil => simp [readIdent, stop]
    | cons b bs =>
      rw [readIdent]
      by_cases hl : l = b
      · rw [if_pos hl, ih, hl]
        simp
      · rw [if_neg hl]
        simp [stop, Ne.symm hl]

theorem exists_blanks_append (bs : Bytes) : ∃ before, Blanks before ∧ bs = before ++ skipBlanks bs :=
  ⟨bs.takeWhile isBlank, fun _ hb => List.all_eq_true.1 List.all_takeWhile _ hb,
    List.takeWhile_append_dropWhile.symm⟩

/-- Whatever the reader, nothing but the literal is read as nothing. -/
theorem nullable_eq_none_iff :
    nullable reader bs = .ok (none, rest) ↔ skipBlanks bs = Text.Utf8.encode "null" ++ rest := by
  have hnull : Text.Utf8.encode "null" ++ rest = 110 :: (afterN ++ rest) := rfl
  rw [hnull, nullable]
  cases skipBlanks bs with
  | nil =>
    dsimp only
    cases reader [] <;> simp [Except.map]
  | cons b more =>
    dsimp only
    by_cases hb : b = 110
    · rw [if_pos hb, hb, List.cons_inj_right, ← readIdent_eq_ok_iff]
      cases readIdent afterN more <;> simp [Except.map, Prod.ext_iff]
    · rw [if_neg hb]
      cases reader (b :: more) <;> simp [Except.map, hb]

/-- There is no value in exactly the texts of a `null`. -/
theorem readText_nullable_eq_none_iff (reader : Reader α) :
    readText (nullable reader) bs = .ok none ↔ NullText bs := by
  rw [readText_eq_ok_iff]
  constructor
  · rintro ⟨rest, hread, hrest⟩
    obtain ⟨before, hbefore, hsplit⟩ := exists_blanks_append bs
    obtain ⟨after, hafter, hend⟩ := exists_blanks_append rest
    rw [hrest, List.append_nil] at hend
    rw [hsplit, nullable_eq_none_iff.1 hread, hend]
    exact .mk hbefore hafter
  · rintro @⟨before, after, hbefore, hafter⟩
    refine ⟨after, nullable_eq_none_iff.2 ?_, skipBlanks_of_blanks hafter⟩
    exact skipBlanks_to hbefore (by decide) _

end Null

/-! ## Printing -/

/-- What is printed for a character is one way of spelling it. -/
theorem Written.spells {c : Char} {bs : Bytes} (h : Written c bs) : Spells c bs := by
  cases h with
  | letter _ h => exact .letter h
  | unit h _ => exact .unit h
  | plain h => exact .plain h

/-- What is printed for a string is a spelling of it. -/
theorem spelt_escaped (s : List Char) : Spelt s (encodeChars (s.flatMap escapeChar)) := by
  induction s with
  | nil => exact .nil
  | cons c s ih =>
    rw [List.flatMap_cons, encodeChars_append]
    exact .cons (written_escapeChar c).spells ih

theorem blanks_append {front bs : Bytes} (hfront : Blanks front) (hbs : Blanks bs) :
    Blanks (front ++ bs) := List.forall_mem_append.2 ⟨hfront, hbs⟩

theorem blanks_nil : Blanks [] := List.forall_mem_nil _

theorem blanks_newline (depth : Nat) : Blanks (encodeChars (newline depth)) := by
  have hspaces (n : Nat) : Blanks (encodeChars (List.replicate n ' ')) := by
    induction n with
    | zero => exact blanks_nil
    | succ n ih =>
      have hspace : Blanks (String.utf8EncodeChar ' ') := by decide
      exact blanks_append hspace ih
  have hfeed : Blanks (String.utf8EncodeChar '\n') := by decide
  exact blanks_append hfeed (hspaces _)

theorem stringText_spaced {front : Bytes} (hfront : Blanks front) (s : String) :
    StringText s (front ++ encodeChars (stringText s)) := by
  have hbytes : encodeChars (stringText s) = quote :: (nameText s ++ [quote]) := by
    rw [← List.append_nil (encodeChars (stringText s)), encodeChars_stringText]
  rw [hbytes]
  exact .mk hfront (spelt_escaped s.toList) blanks_nil

/-- Blanks behind the last member belong to it. -/
theorem MembersText.append_blanks {members : List (String × String)} {bs blanks : Bytes}
    (h : MembersText members bs) (hblanks : Blanks blanks) :
    MembersText members (bs ++ blanks) := by
  induction h with
  | @single m bs hm =>
    obtain @⟨name, value, hname, hvalue⟩ := hm
    obtain @⟨before, spelt, after, hbefore, hspelt, hafter⟩ := hvalue
    have hbytes : name ++ colon :: (before ++ quote :: (spelt ++ quote :: after)) ++ blanks =
        name ++ colon :: (before ++ quote :: (spelt ++ quote :: (after ++ blanks))) := by simp
    rw [hbytes]
    exact .single (.mk hname (.mk hbefore hspelt (blanks_append hafter hblanks)))
  | cons hm hmembers ih =>
    rw [List.append_assoc, List.cons_append]
    exact .cons hm ih

/-- A member as it is printed on a line of its own. -/
def printedMember (depth : Nat) (m : String × String) : List Char :=
  newline depth ++ stringText m.1 ++ [':', ' '] ++ stringText m.2

theorem memberText_printed (depth : Nat) (m : String × String) :
    MemberText m (encodeChars (printedMember depth m)) := by
  have hbytes : encodeChars (printedMember depth m) =
      (encodeChars (newline depth) ++ encodeChars (stringText m.1)) ++
        colon :: ([32] ++ encodeChars (stringText m.2)) := by
    rw [printedMember, encodeChars_append, encodeChars_append, encodeChars_append,
      List.append_assoc _ (encodeChars [':', ' '])]
    rfl
  have hspace : Blanks [32] := by decide
  rw [hbytes]
  exact .mk (stringText_spaced (blanks_newline depth) _) (stringText_spaced hspace _)

/-- The members of `ofStrings`. -/
def stringMembers (members : List (String × String)) : List (String × Json) :=
  members.map fun m => (m.1, .string m.2)

theorem membersText_pretty (depth : Nat) (m : String × String) (members : List (String × String)) :
    MembersText (m :: members)
      (encodeChars (prettyMembers depth (stringMembers (m :: members)))) := by
  induction members generalizing m with
  | nil => exact .single (memberText_printed depth m)
  | cons n members ih =>
    have hbytes : encodeChars (prettyMembers depth (stringMembers (m :: n :: members))) =
        encodeChars (printedMember depth m) ++
          comma :: encodeChars (prettyMembers depth (stringMembers (n :: members))) := by
      change encodeChars (printedMember depth m ++ [','] ++ _) = _
      rw [encodeChars_append, encodeChars_append, List.append_assoc]
      rfl
    rw [hbytes]
    exact .cons (memberText_printed depth m) (ih n)

/-- What is printed for an object of strings is a document with its members in their order. -/
theorem objectText_pretty (members : List (String × String)) :
    ObjectText members (Text.Utf8.encode ((ofStrings members).pretty ++ "\n")) := by
  have hfeed : Blanks [10] := by decide
  have hencode : Text.Utf8.encode ((ofStrings members).pretty ++ "\n") =
      encodeChars (prettyChars 0 (ofStrings members)) ++ [10] := by
    have htext : (ofStrings members).pretty ++ "\n" =
        String.ofList (prettyChars 0 (ofStrings members) ++ ['\n']) := by
      rw [String.ofList_append]
      rfl
    rw [htext, encode_ofList, encodeChars_append]
    rfl
  rw [hencode]
  cases members with
  | nil => exact .empty blanks_nil blanks_nil hfeed
  | cons m members =>
    have hbytes : encodeChars (prettyChars 0 (ofStrings (m :: members))) ++ [10] =
        [] ++ openBrace :: (encodeChars (prettyMembers 1 (stringMembers (m :: members))) ++
          encodeChars (newline 0) ++ closeBrace :: [10]) := by
      change encodeChars (['\x7b'] ++ prettyMembers 1 (stringMembers (m :: members)) ++ newline 0 ++
        ['\x7d']) ++ [10] = _
      rw [encodeChars_append, encodeChars_append, encodeChars_append]
      simp only [List.append_assoc]
      rfl
    have hmembers := (membersText_pretty 1 m members).append_blanks (blanks_newline 0)
    rw [hbytes]
    exact .members blanks_nil hmembers hfeed

end Sidecar.Json
