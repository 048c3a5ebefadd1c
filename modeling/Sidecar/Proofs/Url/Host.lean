import Mathlib.Data.Bool.AllAny
import Sidecar.Proofs.Action
import Sidecar.Proofs.Unicode.Composed
import Sidecar.Proofs.Url.Percent
import Sidecar.Url.Parser

/-!
# What a host is made of

A host that can be read holds none of the characters that part it from the rest of a URL.  Outside
of brackets such a character survives all that is done to a domain, down to the check that refuses
it; inside of them there is nothing but digits and separators.

The main result is `not_mem_separators_of_parseHost`.
-/

namespace Sidecar.Url

open Text.Utf8

variable {host inside : List Char} {name : String} {c : Char}

/-- The characters that end a host where a URL is read, that end what stands in front of it, or that
are dropped. -/
def separators : List Char := ['/', '\\', '?', '#', '@', '\t', '\n', '\r']

/-- Separators, and those that only addresses in brackets have. -/
def delimiters : List Char := separators ++ [':', '[', ']']

/-! ## Domains -/

namespace Domain

/-- A character that is still there when its text has been decoded, folded and composed, and is
refused then. -/
structure IsBarred (c : Char) : Prop where
  ascii : c.toNat < 0x80
  noEscape : UInt8.ofNat c.toNat ≠ 37 ∧ Hex.value? (UInt8.ofNat c.toNat) = none
  folded : ∀ image ∈ Unicode.foldChar? c, c ∈ image
  alone : Unicode.IsAlone c
  forbidden : isForbidden c

/-- Delimiters cannot come up in a domain in any other form. -/
theorem isBarred_of_mem (h : c ∈ delimiters) : IsBarred c := by
  have hall : ∀ c ∈ delimiters, c.toNat < 0x80 ∧
      (UInt8.ofNat c.toNat ≠ 37 ∧ Hex.value? (UInt8.ofNat c.toNat) = none) ∧
      (∀ image ∈ Unicode.foldChar? c, c ∈ image) ∧ Unicode.takesMarks c = false ∧
      isForbidden c :=
    List.all_iff_forall_prop.1 (by decide +kernel)
  obtain ⟨hascii, hescape, hfolded, halone, hforbidden⟩ := hall c h
  exact ⟨hascii, hescape, hfolded, Unicode.isAlone_of_ascii hascii halone, hforbidden⟩

/-- A domain that is barred for one character has no labels. -/
theorem IsBarred.labels?_eq_none (h : IsBarred c) {s : List Char} (hc : c ∈ s) :
    labels? s = none := by
  unfold labels?
  cases hs : s.mapM Unicode.foldChar? with
  | none => rfl
  | some images =>
    obtain ⟨image, himage, hfold⟩ := exists_of_mem_mapM hs hc
    have hflat : c ∈ images.flatten := List.mem_flatten.2 ⟨image, himage, h.folded image hfold⟩
    have hany : (Unicode.compose images.flatten).any isForbidden :=
      List.any_eq_true.2 ⟨c, Unicode.mem_compose h.alone hflat, h.forbidden⟩
    exact if_pos hany

/-- A barred character that is written as it is makes a domain invalid. -/
theorem IsBarred.toAscii?_eq_none (h : IsBarred c) (hc : c ∈ host) :
    toAscii? (percentDecode (encode (String.ofList host))) = none := by
  have hbyte : UInt8.ofNat c.toNat ∈ percentDecode (encode (String.ofList host)) := by
    rw [encode_ofList]
    exact mem_percentDecode h.noEscape.1 h.noEscape.2 (mem_encodeChars_of_ascii h.ascii hc)
  unfold toAscii?
  cases hs : decode? (percentDecode (encode (String.ofList host))) with
  | none => rfl
  | some s =>
    have hlabels := h.labels?_eq_none (mem_of_decode? hs h.ascii hbyte)
    simp only [bind, Option.bind, hlabels]

end Domain

/-! ## Addresses -/

namespace Ipv6

def isAddressChar (c : Char) : Bool :=
  (hexDigit? c).isSome || c.isDigit || c == ':' || c == '.'

theorem all_takeHex {s after : List Char} {limit value n : Nat}
    (h : takeHex limit value s = (n, after)) (hafter : after.all isAddressChar) :
    s.all isAddressChar := by
  fun_induction takeHex limit value s with
  | case1 => rfl
  | case2 value c rest limit d hd ih =>
    rw [List.all_cons, ih h, isAddressChar, hd]
    rfl
  | case3 =>
    cases h
    exact hafter

/-- One of the last four numbers is read off digits. -/
theorem all_takeByte {s after : List Char} {value : Option Nat} {n : Nat}
    (h : takeByte value s = some (n, after)) (hafter : after.all isAddressChar) :
    s.all isAddressChar := by
  have hdigit {c : Char} (hc : c.isDigit) : isAddressChar c := by
    simp [isAddressChar, hc]
  fun_induction takeByte value s with
  | case1 => rfl
  | case2 c rest hc d ih => rw [List.all_cons, hdigit hc, ih h]; rfl
  | case3 => cases h
  | case4 c rest hc d v _ _ ih => rw [List.all_cons, hdigit hc, ih h]; rfl
  | case5 => cases h
  | case6 value c rest hc =>
    obtain ⟨v, -, hv⟩ := Option.map_eq_some_iff.1 h
    cases hv
    exact hafter

theorem all_afterDot {s after : List Char} {n : Nat} (h : dotted?.afterDot s = some (n, after))
    (hafter : after.all isAddressChar) : s.all isAddressChar := by
  unfold dotted?.afterDot at h
  split at h
  case h_1 rest =>
    rw [List.all_cons, all_takeByte h hafter]
    rfl
  case h_2 => cases h

theorem all_dotted {s : List Char} {pieces : List Nat} (h : dotted? s = some pieces) :
    s.all isAddressChar := by
  obtain ⟨⟨a, s₁⟩, ha, h⟩ := Option.bind_eq_some_iff.1 h
  obtain ⟨⟨b, s₂⟩, hb, h⟩ := Option.bind_eq_some_iff.1 h
  obtain ⟨⟨c, s₃⟩, hc, h⟩ := Option.bind_eq_some_iff.1 h
  obtain ⟨⟨d, s₄⟩, hd, h⟩ := Option.bind_eq_some_iff.1 h
  obtain ⟨hempty, -⟩ := Option.ite_none_right_eq_some.1 h
  obtain rfl := List.isEmpty_iff.1 hempty
  exact all_takeByte ha (all_afterDot hb (all_afterDot hc (all_afterDot hd rfl)))

/-- Whatever pieces are taken, nothing but digits and separators is taken with them. -/
theorem all_takePieces {fuel : Nat} {p q : Pieces} {s : List Char}
    (h : takePieces fuel p s = some q) : s.all isAddressChar := by
  induction fuel generalizing p s with
  | zero =>
    cases s with
    | nil => rfl
    | cons c rest => cases h
  | succ fuel ih =>
    cases s with
    | nil => rfl
    | cons c rest =>
      unfold takePieces at h
      split at h
      case isTrue => cases h
      case isFalse =>
        split at h
        case isTrue hcolon =>
          obtain ⟨-, h⟩ := Option.ite_none_left_eq_some.1 h
          rw [List.all_cons, ih h, hcolon]
          rfl
        case isFalse =>
          rcases htake : takeHex 4 0 (c :: rest) with ⟨value, after⟩
          rw [htake] at h
          dsimp only at h
          split at h
          case h_1 => exact all_takeHex htake rfl
          case h_2 behind =>
            obtain ⟨-, h⟩ := Option.ite_none_left_eq_some.1 h
            obtain ⟨pieces, hpieces, -⟩ := Option.map_eq_some_iff.1 h
            exact all_dotted hpieces
          case h_3 next =>
            obtain ⟨-, h⟩ := Option.ite_none_left_eq_some.1 h
            refine all_takeHex htake ?_
            rw [List.all_cons, ih h]
            rfl
          case h_4 => cases h

theorem all_parse {s : List Char} {pieces : List Nat} (h : parse? s = some pieces) :
    s.all isAddressChar := by
  obtain ⟨p, hp, -⟩ := Option.bind_eq_some_iff.1 h
  split at hp
  case h_1 rest =>
    rw [List.all_cons, List.all_cons, all_takePieces hp]
    rfl
  case h_2 => cases hp
  case h_3 => cases hp
  case h_4 => cases hp
  case h_5 => exact all_takePieces hp

end Ipv6

/-! ## Hosts -/

/-- A host that is read stands in brackets and is an address, or it is a domain. -/
theorem parseHost_cases (h : parseHost host = .ok name) :
    (∃ inside pieces, host = '[' :: (inside ++ [']']) ∧ Ipv6.parse? inside = some pieces) ∨
      ∃ domain, Domain.toAscii? (percentDecode (encode (String.ofList host))) = some domain := by
  unfold parseHost at h
  split at h
  case h_1 inside =>
    split at h
    case isTrue hlast =>
      obtain ⟨front, rfl⟩ := List.getLast?_eq_some_iff.1 hlast
      rw [List.dropLast_concat] at h
      cases hpieces : Ipv6.parse? front with
      | none =>
        rw [hpieces] at h
        cases h
      | some pieces => exact .inl ⟨front, pieces, rfl, hpieces⟩
    case isFalse => cases h
  case h_2 =>
    cases hdomain : Domain.toAscii? (percentDecode (encode (String.ofList host))) with
    | none =>
      rw [hdomain] at h
      cases h
    | some domain => exact .inr ⟨domain, rfl⟩

/-- Only brackets and colons may stand in a host, and those only in an address. -/
theorem parseHost_forms (h : parseHost host = .ok name) :
    (∃ inside, host = '[' :: (inside ++ [']']) ∧ ∀ c ∈ delimiters, c ≠ ':' → c ∉ inside) ∨
      ∀ c ∈ delimiters, c ∉ host := by
  rcases parseHost_cases h with ⟨inside, pieces, rfl, hpieces⟩ | ⟨domain, hdomain⟩
  · refine .inl ⟨inside, rfl, fun c hc hne hmem => ?_⟩
    have hall : ∀ c ∈ delimiters, c ≠ ':' → ¬Ipv6.isAddressChar c :=
      List.all_iff_forall_prop.1 (by decide)
    exact hall c hc hne (List.all_eq_true.1 (Ipv6.all_parse hpieces) c hmem)
  · refine .inr fun c hc hmem => ?_
    rw [(Domain.isBarred_of_mem hc).toAscii?_eq_none hmem] at hdomain
    cases hdomain

theorem not_mem_separators_of_parseHost (h : parseHost host = .ok name) :
    ∀ c ∈ separators, c ∉ host := by
  have hall : ∀ c ∈ separators, c ∈ delimiters ∧ c ≠ ':' ∧ c ≠ '[' ∧ c ≠ ']' :=
    List.all_iff_forall_prop.1 (by decide)
  intro c hc hmem
  obtain ⟨hc, hcolon, hleft, hright⟩ := hall c hc
  rcases parseHost_forms h with ⟨inside, rfl, hinside⟩ | hhost
  · simp only [List.mem_cons, List.mem_append, List.not_mem_nil, or_false] at hmem
    rcases hmem with hmem | hmem | hmem
    · exact hleft hmem
    · exact hinside c hc hcolon hmem
    · exact hright hmem
  · exact hhost c hc hmem

end Sidecar.Url
