import Sidecar.Proofs.Url.Host
import Sidecar.Proofs.Url.Path

/-!
# What is read from a URL

The path that is read can be read off the URL again.  A text of nothing but a host and a port is
read as these if the host can be read on its own.

The main results are `legible_of_parse` and `parseAddress_eq_ok_iff`.
-/

namespace Sidecar.Url

/-! ## Paths -/

theorem mem_of_mem_percentEncode {set : EscapeSet} {s : List Char} {d : Char}
    (hd : IsUnwritten d) (h : d ∈ percentEncode set s) : d ∈ s := by
  obtain ⟨c, hc, hmem⟩ := List.mem_flatMap.1 h
  unfold escapeChar at hmem
  split at hmem
  case isTrue =>
    obtain rfl := List.mem_singleton.1 hmem
    exact hc
  case isFalse =>
    obtain ⟨b, -, hb⟩ := List.mem_flatMap.1 hmem
    exact absurd hb (hd b)

theorem slash_not_mem_of_mem_slashPieces {s piece : List Char} (h : piece ∈ slashPieces s) :
    '/' ∉ piece := by
  induction s generalizing piece with
  | nil =>
    obtain rfl := List.mem_singleton.1 h
    exact List.not_mem_nil
  | cons c rest ih =>
    unfold slashPieces at h
    split at h
    case isTrue =>
      rcases List.mem_cons.1 h with rfl | h
      · exact List.not_mem_nil
      · exact ih h
    case isFalse hc =>
      have hne : '/' ≠ c := by
        rintro rfl
        exact hc rfl
      split at h
      case h_1 =>
        obtain rfl := List.mem_singleton.1 h
        simpa using hne
      case h_2 front more hpieces =>
        rcases List.mem_cons.1 h with rfl | h
        · rw [List.mem_cons, not_or]
          exact ⟨hne, ih (hpieces ▸ List.mem_cons_self)⟩
        · exact ih (hpieces ▸ List.mem_cons_of_mem _ h)

/-- A path stays legible when its last segment goes. -/
theorem Legible.parent {path : List String} (h : Legible path) : Legible (parent path) := by
  rcases parent_eq_or_dropLast path with hparent | hparent
  · rwa [hparent]
  · rw [hparent]
    exact fun written hwritten => h written (List.dropLast_subset _ hwritten)

theorem Legible.append_empty {path : List String} (h : Legible path) : Legible (path ++ [""]) :=
  fun written hwritten => (List.mem_append.1 hwritten).elim (h written) (legible_empty written)

/-- Only the segments that are kept are written, and those hold no slash. -/
theorem Legible.resolve {front : List String} (hfront : Legible front)
    {pieces : List (List Char)} (h : ∀ piece ∈ pieces, '/' ∉ piece) :
    Legible (resolve front pieces) := by
  induction pieces generalizing front with
  | nil => exact hfront
  | cons piece rest ih =>
    obtain ⟨hpiece, hrest⟩ := List.forall_mem_cons.1 h
    unfold Url.resolve
    dsimp only
    split
    case h_1 =>
      split
      · exact hfront.append_empty
      · exact ih hfront hrest
    case h_2 =>
      split
      · exact hfront.parent.append_empty
      · exact ih hfront.parent hrest
    case h_3 =>
      refine ih (fun written hwritten c hc => ?_) hrest
      rcases List.mem_append.1 hwritten with hwritten | hwritten
      · exact hfront written hwritten c hc
      · rw [List.mem_singleton.1 hwritten, String.toList_ofList] at hc
        rintro (rfl | rfl)
        · exact hpiece (mem_of_mem_percentEncode
            (isUnwritten_of_forall (by decide) (by decide)) hc)
        · exact not_mem_percentEncode rfl (isUnwritten_of_forall (by decide) (by decide)) piece hc

theorem legible_withPath (u : Url) (s : List Char) : Legible (withPath u [] s).path := by
  have hnil : Legible [] := fun written hwritten => absurd hwritten List.not_mem_nil
  exact hnil.resolve fun piece hpiece => slash_not_mem_of_mem_slashPieces hpiece

/-! ## Host and port -/

/-- The port starts with a colon. -/
theorem splitHost_eq_append (bracketed : Bool) (s : List Char) :
    s = (splitHost bracketed s).1 ++ (splitHost bracketed s).2 ∧
      ((splitHost bracketed s).2 = [] ∨ ∃ rest, (splitHost bracketed s).2 = ':' :: rest) := by
  induction s generalizing bracketed with
  | nil => exact ⟨rfl, .inl rfl⟩
  | cons c rest ih =>
    unfold splitHost
    split
    case isTrue hcolon => exact ⟨rfl, .inr ⟨rest, congrArg (· :: rest) hcolon.1⟩⟩
    case isFalse =>
      dsimp only
      generalize (if c = '[' then true else if c = ']' then false else bracketed) = inside
      exact ⟨congrArg (c :: ·) (ih inside).1, (ih inside).2⟩

theorem splitHost_cons {bracketed : Bool} {c : Char} (h : c ≠ ':' ∨ bracketed) (rest : List Char) :
    splitHost bracketed (c :: rest) =
      (c :: (splitHost (if c = '[' then true else if c = ']' then false else bracketed) rest).1,
        (splitHost (if c = '[' then true else if c = ']' then false else bracketed) rest).2) := by
  rw [splitHost, if_neg]
  rcases h with h | h
  · exact fun hc => h hc.1
  · rw [h]
    exact fun hc => absurd hc.2 (by decide)

/-- What holds no brackets, and no colon outside of them, belongs to the host. -/
theorem splitHost_append {bracketed : Bool} {s rest : List Char} (hleft : '[' ∉ s)
    (hright : ']' ∉ s) (hcolon : bracketed ∨ ':' ∉ s) :
    splitHost bracketed (s ++ rest) =
      (s ++ (splitHost bracketed rest).1, (splitHost bracketed rest).2) := by
  induction s with
  | nil => rfl
  | cons c tail ih =>
    rw [List.mem_cons, not_or] at hleft hright hcolon
    rw [List.cons_append, splitHost_cons (hcolon.elim .inr fun hc => .inl (Ne.symm hc.1)),
      if_neg (Ne.symm hleft.1), if_neg (Ne.symm hright.1),
      ih hleft.2 hright.2 (hcolon.imp_right And.right)]
    rfl

/-- A host that is read on its own is read in front of a port. -/
theorem splitHost_of_parseHost {host : List Char} {name : String} (h : parseHost host = .ok name)
    (rest : List Char) : splitHost false (host ++ ':' :: rest) = (host, ':' :: rest) := by
  rcases parseHost_forms h with ⟨inside, rfl, hinside⟩ | hhost
  · have hleft : '[' ∉ inside := hinside '[' (by decide) (by decide)
    have hright : ']' ∉ inside := hinside ']' (by decide) (by decide)
    rw [List.cons_append, splitHost_cons (.inl (by decide)), List.append_assoc, if_pos rfl,
      splitHost_append hleft hright (.inl rfl)]
    rfl
  · have hcolon : ':' ∉ host := hhost ':' (by decide)
    rw [splitHost_append (hhost '[' (by decide)) (hhost ']' (by decide)) (.inr hcolon)]
    exact congrArg (·, ':' :: rest) (List.append_nil host)

/-! ### Ports -/

theorem le_ofDigitChars (s : List Char) (n : Nat) : n ≤ Nat.ofDigitChars 10 s n := by
  induction s generalizing n with
  | nil => exact Nat.le_refl n
  | cons c rest ih =>
    rw [Nat.ofDigitChars_cons]
    exact Nat.le_trans (by omega) (ih _)

/-- Digits are read as their number, as long as that is a port. -/
theorem readPort_of_digits {s : List Char} {n : Nat} (h : ∀ c ∈ s, c.isDigit)
    (hn : Nat.ofDigitChars 10 s n ≤ greatestPort) :
    readPort n s = .ok (Nat.ofDigitChars 10 s n) := by
  induction s generalizing n with
  | nil => rfl
  | cons c rest ih =>
    obtain ⟨hc, hrest⟩ := List.forall_mem_cons.1 h
    have hvalue : 10 * n + (c.toNat - '0'.toNat) = n * 10 + (c.toNat - 48) := by
      rw [Nat.mul_comm]
      rfl
    rw [Nat.ofDigitChars_cons, hvalue] at hn ⊢
    have hfits : n * 10 + (c.toNat - 48) ≤ greatestPort := Nat.le_trans (le_ofDigitChars _ _) hn
    rw [readPort, if_pos hc]
    exact (if_neg (Nat.not_lt.2 hfits)).trans (ih hrest hn)

/-- A port that can be read is digits and nothing else. -/
theorem isDigit_of_readPort {s : List Char} {n port : Nat} (h : readPort n s = .ok port) :
    ∀ c ∈ s, c.isDigit := by
  induction s generalizing n with
  | nil => exact List.forall_mem_nil _
  | cons c rest ih =>
    unfold readPort at h
    split at h
    case isTrue hc =>
      dsimp only at h
      split at h
      · cases h
      · exact List.forall_mem_cons.2 ⟨hc, ih h⟩
    case isFalse => cases h

/-- What stands behind the colon is digits if it can be read as a port. -/
theorem isDigit_of_parsePort {s : List Char} {port : Option Nat}
    (h : parsePort (':' :: s) = .ok port) : ∀ c ∈ s, c.isDigit := by
  cases s with
  | nil => exact List.forall_mem_nil _
  | cons c rest =>
    obtain ⟨n, hn, -⟩ := Result.exists_of_bind_eq_ok h
    exact isDigit_of_readPort hn

/-- The default port is left out. -/
theorem parsePort_toDigits {n : Nat} (h : n ≤ greatestPort) :
    parsePort (':' :: Nat.toDigits 10 n) = .ok (if n = defaultPort then none else some n) := by
  have hdigits : ∀ c ∈ Nat.toDigits 10 n, c.isDigit := fun c hc =>
    Nat.isDigit_of_mem_toDigits (by decide) (by decide) hc
  have hvalue : Nat.ofDigitChars 10 (Nat.toDigits 10 n) 0 = n := Nat.ofDigitChars_ten_toDigits
  have hread := readPort_of_digits hdigits (hvalue.symm ▸ h)
  rw [hvalue] at hread
  obtain ⟨c, rest, hcons⟩ := List.exists_cons_of_ne_nil (@Nat.toDigits_ne_nil n 10)
  rw [hcons] at hread ⊢
  exact congrArg (· >>= fun port => .ok (if port = defaultPort then none else some port)) hread

/-! ## The whole -/

/-- The path and what is behind it are read last. -/
theorem exists_withPath_of_parseAuthority {s : List Char} {u : Url} (h : parseAuthority s = .ok u) :
    ∃ v rest, u = withPath v [] rest := by
  unfold parseAuthority at h
  dsimp only at h
  split at h
  case isTrue => cases h
  case isFalse =>
    obtain ⟨host, -, h⟩ := Result.exists_of_bind_eq_ok h
    obtain ⟨port, -, h⟩ := Result.exists_of_bind_eq_ok h
    exact ⟨_, _, (Except.ok.inj h).symm⟩

/-- Whatever URL is read, its path can be read off it once it is written. -/
theorem legible_of_parse {s : String} {u : Url} (h : parse s = .ok u) : Legible u.path := by
  obtain ⟨v, rest, rfl⟩ := exists_withPath_of_parseAuthority h
  exact legible_withPath v rest

/-! ### Nothing but a host and a port -/

/-- Host and port of what is in front of the path. -/
def parseAddress (authority : List Char) : Except ParseFault Url := do
  let (host, port) := splitHost false authority
  if host.isEmpty then throw .emptyHost
  let host ← parseHost host
  let port ← parsePort port
  return { host, port }

theorem splitUserInfo_of_not_mem {authority : List Char} (h : '@' ∉ authority) :
    splitUserInfo authority = ({}, authority) := by
  have hcut : Text.cutOnce '@' authority.reverse = none :=
    Text.cutOnce_eq_none_iff.2 (mt List.mem_reverse.1 h)
  rw [splitUserInfo, splitAtLast, hcut]
  rfl

theorem mem_separators_of_endsAuthority {c : Char} (h : endsAuthority c) : c ∈ separators := by
  simp only [endsAuthority, isSlash, Bool.or_eq_true, beq_iff_eq] at h
  rcases h with ((rfl | rfl) | rfl) | rfl
  all_goals decide

theorem mem_separators_of_isDropped {c : Char} (h : isDropped c) : c ∈ separators := by
  simp only [isDropped, Bool.or_eq_true, beq_iff_eq] at h
  rcases h with (rfl | rfl) | rfl
  all_goals decide

section Address

variable {authority : List Char} (h : ∀ c ∈ separators, c ∉ authority)
include h

theorem parseAuthority_append : parseAuthority (authority ++ ['/']) = parseAddress authority := by
  have hends : ∀ c ∈ authority, !endsAuthority c := by
    intro c hc
    rw [Bool.not_eq_true', Bool.eq_false_iff]
    exact fun hend => h c (mem_separators_of_endsAuthority hend) hc
  have htake : (authority ++ ['/']).takeWhile (!endsAuthority ·) = authority := by
    rw [List.takeWhile_append_of_pos hends]
    exact List.append_nil authority
  unfold parseAuthority
  rw [htake]
  dsimp only
  rw [List.drop_left, splitUserInfo_of_not_mem (h '@' (by decide))]
  rfl

/-- Nothing of the text is taken as anything but a host and a port. -/
theorem parse_of_toList {s : String} (hs : s.toList = "http://".toList ++ authority ++ ['/']) :
    parse s = parseAddress authority := by
  have hreadable : readable s.toList = s.toList := by
    refine List.filter_eq_self.2 fun c hc => ?_
    rw [Bool.not_eq_true', Bool.eq_false_iff]
    intro hdropped
    rw [hs, List.mem_append, List.mem_append] at hc
    rcases hc with (hc | hc) | hc
    · have hkept : ∀ c ∈ "http://".toList, ¬isDropped c :=
        List.all_iff_forall_prop.1 (by decide)
      exact hkept c hc hdropped
    · exact h c (mem_separators_of_isDropped hdropped) hc
    · rw [List.mem_singleton.1 hc] at hdropped
      exact absurd hdropped (by decide)
  rw [parse, hreadable, hs, List.append_assoc]
  change parseAuthority ((authority ++ ['/']).dropWhile isSlash) = _
  cases authority with
  | nil => rfl
  | cons c rest =>
    have hslash : ¬isSlash c := fun hslash =>
      h c (mem_separators_of_endsAuthority (by simp [endsAuthority, hslash])) List.mem_cons_self
    rw [List.cons_append, List.dropWhile_cons_of_neg hslash, ← List.cons_append]
    exact parseAuthority_append h

end Address

/-- What is read is a host and a port and nothing else. -/
theorem parseAddress_cases {authority : List Char} {u : Url} (h : parseAddress authority = .ok u) :
    ∃ host port, authority = host ++ port ∧ (port = [] ∨ ∃ rest, port = ':' :: rest) ∧
      parseHost host = .ok u.host ∧ parsePort port = .ok u.port ∧
      u = { host := u.host, port := u.port } := by
  have hsplit := splitHost_eq_append false authority
  unfold parseAddress at h
  dsimp only at h
  split at h
  case isTrue => cases h
  case isFalse =>
    obtain ⟨host, hhost, h⟩ := Result.exists_of_bind_eq_ok h
    obtain ⟨port, hport, h⟩ := Result.exists_of_bind_eq_ok h
    cases h
    exact ⟨_, _, hsplit.1, hsplit.2, hhost, hport, rfl⟩

/-- The last of all colons is found from behind. -/
theorem append_colon_inj {a b c d : List Char} (hb : ':' ∉ b) (hd : ':' ∉ d)
    (h : a ++ ':' :: b = c ++ ':' :: d) : a = c ∧ b = d := by
  have hcut (front : List Char) {back : List Char} (hback : ':' ∉ back) :
      Text.cutOnce ':' (front ++ ':' :: back).reverse = some (back.reverse, front.reverse) := by
    rw [List.reverse_append, List.reverse_cons, List.append_assoc]
    exact Text.cutOnce_append (mt List.mem_reverse.1 hback) _
  have heq := hcut a hb
  rw [h, hcut c hd, Option.some.injEq, Prod.mk.injEq, List.reverse_inj, List.reverse_inj] at heq
  exact ⟨heq.2.symm, heq.1.symm⟩

/-- Behind a host that cannot be read, no port is either. -/
theorem parseAddress_eq_ok_iff {host : List Char} {n : Nat} (hn : n ≤ greatestPort) {u : Url} :
    parseAddress (host ++ ':' :: Nat.toDigits 10 n) = .ok u ↔
      parseHost host = .ok u.host ∧
        u = { host := u.host, port := if n = defaultPort then none else some n } := by
  have hdigits : ∀ c ∈ Nat.toDigits 10 n, c.isDigit := fun c hc =>
    Nat.isDigit_of_mem_toDigits (by decide) (by decide) hc
  have hcolon {s : List Char} (hs : ∀ c ∈ s, c.isDigit) : ':' ∉ s := fun hmem =>
    absurd (hs ':' hmem) (by decide)
  constructor
  case mp =>
    intro h
    obtain ⟨front, port, happend, hport, hhost, hread, hu⟩ := parseAddress_cases h
    rcases hport with rfl | ⟨rest, rfl⟩
    · -- the host would end in a digit, or hold a colon
      rw [List.append_nil] at happend
      subst happend
      rcases parseHost_forms hhost with ⟨inside, hinside, -⟩ | hforms
      · obtain ⟨more, last, hlast⟩ :=
          (List.eq_nil_or_concat (Nat.toDigits 10 n)).resolve_left Nat.toDigits_ne_nil
        rw [hlast, List.concat_eq_append, ← List.cons_append, ← List.append_assoc,
          ← List.cons_append] at hinside
        obtain ⟨-, rfl⟩ := List.append_singleton_inj.1 hinside
        have hmem : ']' ∈ Nat.toDigits 10 n := by
          rw [hlast, List.concat_eq_append]
          exact List.mem_append_right _ List.mem_cons_self
        have hdigit := hdigits ']' hmem
        exact absurd hdigit (by decide)
      · exact absurd (List.mem_append_right _ List.mem_cons_self) (hforms ':' (by decide))
    · obtain ⟨rfl, rfl⟩ := append_colon_inj (hcolon hdigits)
        (hcolon (isDigit_of_parsePort hread)) happend
      rw [parsePort_toDigits hn, Except.ok.injEq] at hread
      exact ⟨hhost, hread ▸ hu⟩
  case mpr =>
    rintro ⟨hhost, hu⟩
    generalize u.host = name at hhost hu
    subst hu
    have hempty : ¬host.isEmpty := by
      intro hempty
      have hnone : parseHost [] = .error .emptyHost := rfl
      rw [List.isEmpty_iff.1 hempty, hnone] at hhost
      cases hhost
    unfold parseAddress
    rw [splitHost_of_parseHost hhost]
    dsimp only
    rw [if_neg hempty, hhost, parsePort_toDigits hn]
    rfl

end Sidecar.Url
