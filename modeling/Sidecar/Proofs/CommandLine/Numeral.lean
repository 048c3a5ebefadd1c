import Sidecar.CommandLine.Reading
import Sidecar.Proofs.Action

/-!
# Numbers and words on the command line

A number is read from the decimal numerals for it, as far as it is in the range that is asked for,
and a word is read from its spelling.  Nothing else is read.

The main results are `readUInt64_eq_ok_iff`, `readUInt32_eq_ok_iff` and `readWord_eq_ok_iff`.
-/

namespace Sidecar.CommandLine

/-- Digits that stand for a number. -/
structure IsDecimal (digits : List Char) (n : Nat) : Prop where
  ne_nil : digits ≠ []
  all : digits.all (·.isDigit)
  value : Nat.ofDigitChars 10 digits 0 = n

/-- Digits that stand for a number, perhaps behind a plus sign. -/
def IsNumeral (s : String) (n : Nat) : Prop :=
  IsDecimal s.toList n ∨ ∃ digits, s.toList = '+' :: digits ∧ IsDecimal digits n

/-- A numeral; the one for zero may have a minus sign. -/
def IsSignedNumeral (s : String) (n : Nat) : Prop :=
  IsNumeral s n ∨ n = 0 ∧ ∃ digits, s.toList = '-' :: digits ∧ IsDecimal digits 0

variable {s : String} {digits : List Char} {greatest n m : Nat} {excess : String}

/-! ## Digits -/

theorem le_ofDigitChars (digits : List Char) (n : Nat) : n ≤ Nat.ofDigitChars 10 digits n := by
  induction digits generalizing n with
  | nil => exact Nat.le_refl n
  | cons c digits ih =>
    rw [Nat.ofDigitChars_cons]
    refine Nat.le_trans ?_ (ih _)
    omega

/-- The digits are in the range as soon as all of them together are. -/
theorem readDigits_eq_ok_iff (hn : n ≤ greatest) :
    readDigits greatest excess n digits = .ok m ↔
      digits.all (·.isDigit) ∧ Nat.ofDigitChars 10 digits n = m ∧ m ≤ greatest := by
  induction digits generalizing n with
  | nil =>
    rw [readDigits, Except.ok.injEq]
    constructor
    · rintro rfl
      exact ⟨rfl, rfl, hn⟩
    · exact fun h => h.2.1
  | cons c digits ih =>
    have hnext : n * 10 + (c.toNat - 48) = 10 * n + (c.toNat - '0'.toNat) := by
      rw [Nat.mul_comm]
      rfl
    rw [readDigits, List.all_cons, Bool.and_eq_true, Nat.ofDigitChars_cons, ← hnext]
    by_cases hc : c.isDigit
    · rw [if_pos hc]
      dsimp only
      split
      case isTrue hexcess =>
        -- more digits do not make a number smaller
        refine iff_of_false nofun ?_
        rintro ⟨-, hm, hle⟩
        have hge := le_ofDigitChars digits (n * 10 + (c.toNat - 48))
        omega
      case isFalse hexcess =>
        rw [ih (Nat.le_of_not_lt hexcess), and_iff_right hc]
    · rw [if_neg hc]
      exact iff_of_false nofun fun h => hc h.1.1

/-- Digits are read as the number that they stand for, if it is in the range. -/
theorem readDigits_zero_eq_ok_iff (hne : digits ≠ []) :
    readDigits greatest excess 0 digits = .ok m ↔ IsDecimal digits m ∧ m ≤ greatest := by
  rw [readDigits_eq_ok_iff (Nat.zero_le _)]
  exact ⟨fun ⟨hall, hvalue, hle⟩ => ⟨⟨hne, hall, hvalue⟩, hle⟩,
    fun ⟨h, hle⟩ => ⟨h.all, h.value, hle⟩⟩

/-! ## Numerals -/

/-- Signs are no digits. -/
theorem not_isDecimal_of_sign {c : Char} (hc : c.isDigit = false) : ¬IsDecimal (c :: digits) m := by
  intro h
  have hall := h.all
  rw [List.all_cons, hc] at hall
  cases hall

/-- A plus sign may stand in front of the digits. -/
theorem isNumeral_of_plus (h : s.toList = '+' :: digits) : IsNumeral s m ↔ IsDecimal digits m := by
  rw [IsNumeral, h, or_iff_right (not_isDecimal_of_sign rfl)]
  constructor
  · rintro ⟨_, ⟨⟩, hdigits⟩
    exact hdigits
  · exact fun hdigits => ⟨digits, rfl, hdigits⟩

theorem isNumeral_of_not_plus (h : ∀ digits, s.toList ≠ '+' :: digits) :
    IsNumeral s m ↔ IsDecimal s.toList m :=
  or_iff_left fun ⟨digits, hs, _⟩ => h digits hs

theorem not_isNumeral_of_minus (h : s.toList = '-' :: digits) : ¬IsNumeral s m := by
  rw [isNumeral_of_not_plus (by rw [h]; exact nofun), h]
  exact not_isDecimal_of_sign rfl

/-- A number is read from its numerals, and from nothing else. -/
theorem readNat_eq_ok_iff : readNat greatest s = .ok m ↔ IsNumeral s m ∧ m ≤ greatest := by
  rw [readNat]
  split
  case h_1 hs =>
    rw [isNumeral_of_not_plus (by rw [hs]; exact nofun), hs]
    exact iff_of_false nofun fun h => h.1.ne_nil rfl
  case h_2 hs =>
    rw [isNumeral_of_plus hs]
    exact iff_of_false nofun fun h => h.1.ne_nil rfl
  case h_3 digits hne hs =>
    rw [isNumeral_of_plus hs]
    exact readDigits_zero_eq_ok_iff hne
  case h_4 hnil _ hplus =>
    rw [isNumeral_of_not_plus hplus]
    exact readDigits_zero_eq_ok_iff hnil

/-- What is printed for a number is a numeral. -/
theorem isNumeral_toString (n : Nat) : IsNumeral (toString n) n := by
  rw [IsNumeral, Nat.toString_eq_ofList_toDigits, String.toList_ofList]
  have hall : (Nat.toDigits 10 n).all (·.isDigit) := List.all_eq_true.2 fun c hc =>
    Nat.isDigit_of_mem_toDigits (by decide) (by decide) hc
  exact .inl ⟨Nat.toDigits_ne_nil, hall, Nat.ofDigitChars_ten_toDigits⟩

/-- A text is the numeral of one number at most. -/
theorem IsNumeral.unique (h : IsNumeral s n) (hm : IsNumeral s m) : n = m := by
  have hread := readNat_eq_ok_iff.2 ⟨h, Nat.le_max_left n m⟩
  have hreadm := readNat_eq_ok_iff.2 ⟨hm, Nat.le_max_right n m⟩
  exact Except.ok.inj (hread.symm.trans hreadm)

/-! ## Numbers in their ranges -/

/-- A number with a sign is read if it has 64 bits. -/
theorem readInt_eq_ok_iff {k : Int} :
    readInt s = .ok k ↔
      (∃ n : Nat, k = n ∧ IsNumeral s n ∧ n ≤ 9223372036854775807) ∨
        ∃ (digits : List Char) (n : Nat), s.toList = '-' :: digits ∧ k = -n ∧
          IsDecimal digits n ∧ n ≤ 9223372036854775808 := by
  rw [readInt]
  split
  case h_1 hs =>
    refine iff_of_false nofun ?_
    rintro (⟨n, -, hnumeral, -⟩ | ⟨digits, n, hdigits, -, hdecimal, -⟩)
    · exact not_isNumeral_of_minus hs hnumeral
    · rw [hs] at hdigits
      cases hdigits
      exact hdecimal.ne_nil rfl
  case h_2 digits hne hs =>
    constructor
    · intro h
      obtain ⟨_, hread, rfl⟩ := Result.exists_of_map_eq_ok h
      obtain ⟨n, hn, hread⟩ := Result.exists_of_bind_eq_ok hread
      cases hread
      obtain ⟨hdecimal, hle⟩ := (readDigits_zero_eq_ok_iff hne).1 hn
      exact .inr ⟨digits, n, hs, rfl, hdecimal, hle⟩
    · rintro (⟨n, -, hnumeral, -⟩ | ⟨_, n, hdigits, rfl, hdecimal, hle⟩)
      · exact absurd hnumeral (not_isNumeral_of_minus hs)
      · rw [hs] at hdigits
        cases hdigits
        rw [(readDigits_zero_eq_ok_iff hne).2 ⟨hdecimal, hle⟩]
        rfl
  case h_3 _ hminus =>
    constructor
    · intro h
      obtain ⟨n, hn, rfl⟩ := Result.exists_of_map_eq_ok h
      obtain ⟨hnumeral, hle⟩ := readNat_eq_ok_iff.1 hn
      exact .inl ⟨n, rfl, hnumeral, hle⟩
    · rintro (⟨n, rfl, hnumeral, hle⟩ | ⟨digits, n, hdigits, -⟩)
      · rw [readNat_eq_ok_iff.2 ⟨hnumeral, hle⟩]
        rfl
      · exact absurd hdigits (hminus digits)

/-- The range is looked at behind the sign. -/
theorem readUpTo_of_readInt {k : Int} (h : readInt s = .ok k) :
    readUpTo greatest s =
      if 0 ≤ k ∧ k ≤ greatest then .ok k.toNat
      else .error (toString k ++ " is not in 0..=" ++ toString greatest) := by
  rw [readUpTo, h]
  rfl

/-- A number in a range is read from its numerals, with a minus sign for zero alone. -/
theorem readUpTo_eq_ok_iff (hgreatest : greatest ≤ 9223372036854775807) :
    readUpTo greatest s = .ok m ↔ IsSignedNumeral s m ∧ m ≤ greatest := by
  constructor
  · intro h
    obtain ⟨k, hk, -⟩ := Result.exists_of_bind_eq_ok h
    rw [readUpTo_of_readInt hk] at h
    split at h
    case isTrue hrange =>
      cases h
      obtain ⟨hzero, hle⟩ := hrange
      rcases readInt_eq_ok_iff.1 hk with ⟨n, rfl, hnumeral, -⟩ | ⟨digits, n, hs, rfl, hdecimal, -⟩
      · exact ⟨.inl hnumeral, Int.ofNat_le.1 hle⟩
      · obtain rfl : n = 0 := by omega
        exact ⟨.inr ⟨rfl, digits, hs, hdecimal⟩, Nat.zero_le _⟩
    case isFalse => cases h
  · rintro ⟨hnumeral | ⟨rfl, digits, hs, hdecimal⟩, hle⟩
    · have hread : readInt s = .ok (m : Int) :=
        readInt_eq_ok_iff.2 (.inl ⟨m, rfl, hnumeral, Nat.le_trans hle hgreatest⟩)
      have hrange : 0 ≤ (m : Int) ∧ (m : Int) ≤ greatest :=
        ⟨Int.natCast_nonneg m, Int.ofNat_le.2 hle⟩
      rw [readUpTo_of_readInt hread, if_pos hrange]
      rfl
    · have hread : readInt s = .ok 0 :=
        readInt_eq_ok_iff.2 (.inr ⟨digits, 0, hs, rfl, hdecimal, Nat.zero_le _⟩)
      have hrange : 0 ≤ (0 : Int) ∧ (0 : Int) ≤ greatest :=
        ⟨Int.le_refl 0, Int.natCast_nonneg greatest⟩
      rw [readUpTo_of_readInt hread, if_pos hrange]
      rfl

/-- Zero is zero, whatever its sign. -/
theorem IsSignedNumeral.unique (h : IsSignedNumeral s n) (hm : IsSignedNumeral s m) : n = m := by
  rcases h with h | ⟨rfl, digits, hs, -⟩
  · rcases hm with hm | ⟨-, digits, hs, -⟩
    · exact h.unique hm
    · exact absurd h (not_isNumeral_of_minus hs)
  · rcases hm with hm | ⟨rfl, -⟩
    · exact absurd hm (not_isNumeral_of_minus hs)
    · rfl

theorem readUInt64_eq_ok_iff {n : UInt64} : readUInt64 s = .ok n ↔ IsNumeral s n.toNat := by
  have hn := n.toNat_lt
  constructor
  · intro h
    obtain ⟨m, hm, rfl⟩ := Result.exists_of_map_eq_ok h
    obtain ⟨hs, hle⟩ := readNat_eq_ok_iff.1 hm
    rwa [UInt64.toNat_ofNat_of_lt' (Nat.lt_succ_of_le hle)]
  · intro h
    have hread := readNat_eq_ok_iff.2 ⟨h, (by omega : n.toNat ≤ 18446744073709551615)⟩
    rw [readUInt64, hread]
    exact congrArg Except.ok n.ofNat_toNat

/-- Every numeral for 32 bits is read, and a zero with a minus sign. -/
theorem readUInt32_eq_ok_iff {n : UInt32} : readUInt32 s = .ok n ↔ IsSignedNumeral s n.toNat := by
  have hn := n.toNat_lt
  have hrange : 4294967295 ≤ 9223372036854775807 := by decide
  constructor
  · intro h
    obtain ⟨m, hm, rfl⟩ := Result.exists_of_map_eq_ok h
    obtain ⟨hs, hle⟩ := (readUpTo_eq_ok_iff hrange).1 hm
    rwa [UInt32.toNat_ofNat_of_lt' (Nat.lt_succ_of_le hle)]
  · intro h
    have hread := (readUpTo_eq_ok_iff hrange).2 ⟨h, (by omega : n.toNat ≤ 4294967295)⟩
    rw [readUInt32, hread]
    exact congrArg Except.ok n.ofNat_toNat

/-! ## Words -/

section Words

variable {α : Type} [Vocabulary α]

/-- The words are all there and are spelled in different ways. -/
def IsSpelled (α : Type) [Vocabulary α] : Prop :=
  ∀ a : α, Vocabulary.all.find? (fun b => Vocabulary.word b == Vocabulary.word a) = some a

theorem isSpelled_consistency : IsSpelled Consistency := by
  intro a
  cases a <;> rfl

theorem isSpelled_concurrency : IsSpelled Concurrency := by
  intro a
  cases a <;> rfl

theorem isSpelled_retryPattern : IsSpelled RetryPattern := by
  intro a
  cases a <;> rfl

theorem readWord_eq_ok_iff (h : IsSpelled α) {a : α} :
    readWord s = .ok a ↔ s = Vocabulary.word a := by
  rw [readWord, Vocabulary.parse]
  constructor
  · intro hread
    split at hread
    case h_1 b hb =>
      cases hread
      exact (eq_of_beq (List.find?_some (p := fun b : α => Vocabulary.word b == s) hb)).symm
    case h_2 => cases hread
  · rintro rfl
    rw [h a]
    rfl

theorem word_mem_words (h : IsSpelled α) (a : α) :
    Vocabulary.word a ∈ (Vocabulary.all : List α).map Vocabulary.word :=
  List.mem_map_of_mem (List.mem_of_find?_eq_some (h a))

/-- Nothing but the words of a vocabulary is read. -/
theorem exists_readWord_iff (h : IsSpelled α) :
    (∃ a : α, readWord s = .ok a) ↔ s ∈ (Vocabulary.all : List α).map Vocabulary.word := by
  simp only [readWord_eq_ok_iff h]
  constructor
  · rintro ⟨a, rfl⟩
    exact word_mem_words h a
  · intro hs
    obtain ⟨a, -, rfl⟩ := List.mem_map.1 hs
    exact ⟨a, rfl⟩

end Words

end Sidecar.CommandLine
