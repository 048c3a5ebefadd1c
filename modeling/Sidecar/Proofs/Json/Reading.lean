import Sidecar.Json.Reader
import Sidecar.Proofs.Action
import Sidecar.Proofs.Json.Value

/-!
# What readers give

A reader of values gives values whose members are in order, and none that is nested deeper than it
goes.

The main result is `isRead_of_ofBytes`.
-/

namespace Sidecar.Json

variable {α β : Type}

/-- Whatever the reader gives has the property. -/
def Yields (reader : Reader α) (p : α → Prop) : Prop :=
  ∀ ⦃bs rest a⦄, reader bs = .ok (a, rest) → p a

theorem yields_stop (cause : Cause) (p : α → Prop) : Yields (stop cause) p :=
  fun _ _ _ h => nomatch h

theorem Yields.map {reader : Reader α} {p : α → Prop} {q : β → Prop} {f : α → β}
    (h : Yields reader p) (hf : ∀ a, p a → q (f a)) :
    Yields (fun bs => (reader bs).map fun (a, bs) => (f a, bs)) q := by
  intro bs rest b hread
  obtain ⟨⟨a, rest'⟩, ha, hb⟩ := Result.exists_of_map_eq_ok hread
  cases hb
  exact hf a (h ha)

/-! ## Items and members -/

section Parts

variable {part : Reader α} {p : α → Prop}

/-- Items that are read are none, or one and those behind it. -/
theorem readItems_cases {fuel : Nat} {first : Bool} {bs rest : Bytes} {xs : List α}
    (h : readItems part (fuel + 1) first bs = .ok (xs, rest)) :
    xs = [] ∨ ∃ start x behind ys, part start = .ok (x, behind) ∧
      readItems part fuel false behind = .ok (ys, rest) ∧ xs = x :: ys := by
  have hitem {start : Bytes}
      (h : (do
        let p ← part start
        let q ← readItems part fuel false p.2
        .ok (p.1 :: q.1, q.2)) = Except.ok (xs, rest)) :
      ∃ start x behind ys, part start = .ok (x, behind) ∧
        readItems part fuel false behind = .ok (ys, rest) ∧ xs = x :: ys := by
    obtain ⟨⟨x, behind⟩, hx, h⟩ := Result.exists_of_bind_eq_ok h
    obtain ⟨⟨ys, bs⟩, hys, h⟩ := Result.exists_of_bind_eq_ok h
    cases h
    exact ⟨start, x, behind, ys, hx, hys, rfl⟩
  unfold readItems at h
  dsimp only at h
  split at h
  case h_1 => cases h
  case h_2 =>
    split at h
    case isTrue =>
      cases h
      exact .inl rfl
    case isFalse =>
      split at h
      case isTrue => exact .inr (hitem h)
      case isFalse =>
        split at h
        case isFalse => cases h
        case isTrue =>
          split at h
          case h_1 => cases h
          case h_2 =>
            split at h
            case isTrue => cases h
            case isFalse => exact .inr (hitem h)

theorem yields_readItems (h : Yields part p) (fuel : Nat) (first : Bool) :
    Yields (readItems part fuel first) fun xs => ∀ x ∈ xs, p x := by
  intro bs rest xs hread
  induction fuel generalizing first bs xs with
  | zero => cases hread
  | succ fuel ih =>
    rcases readItems_cases hread with rfl | ⟨start, x, behind, ys, hx, hys, rfl⟩
    · exact fun _ h => nomatch h
    · exact List.forall_mem_cons.2 ⟨h hx, ih _ hys⟩

/-- The items of an array are good if the reader of one gives good ones. -/
theorem yields_readArrayBody (h : Yields part p) :
    Yields (readArrayBody part) fun xs => ∀ x ∈ xs, p x := by
  intro bs rest xs hread
  obtain ⟨⟨xs, bs⟩, hxs, hread⟩ := Result.exists_of_bind_eq_ok hread
  cases hread
  exact yields_readItems h _ _ hxs

/-- Members have good values if the reader of values gives them. -/
theorem yields_readMembers (h : Yields part p) (fuel : Nat) (first : Bool) :
    Yields (readMembers part fuel first) fun members => ∀ m ∈ members, p m.2 := by
  intro bs rest members hread
  induction fuel generalizing first bs members with
  | zero => cases hread
  | succ fuel ih =>
    obtain ⟨⟨start, bs'⟩, -, hread⟩ := Result.exists_of_bind_eq_ok hread
    cases start with
    | none =>
      cases hread
      exact fun _ h => nomatch h
    | some start =>
      obtain ⟨⟨name, bs⟩, -, hread⟩ := Result.exists_of_bind_eq_ok hread
      obtain ⟨⟨⟨⟩, bs⟩, -, hread⟩ := Result.exists_of_bind_eq_ok hread
      obtain ⟨⟨v, bs⟩, hv, hread⟩ := Result.exists_of_bind_eq_ok hread
      obtain ⟨⟨members, bs⟩, hmembers, hread⟩ := Result.exists_of_bind_eq_ok hread
      cases hread
      exact List.forall_mem_cons.2 ⟨h hv, ih _ hmembers⟩

/-- The members of an object have good values if the reader of values gives them. -/
theorem yields_readObjectBody (h : Yields part p) :
    Yields (readObjectBody part) fun members => ∀ m ∈ members, p m.2 := by
  intro bs rest members hread
  obtain ⟨⟨members, bs⟩, hmembers, hread⟩ := Result.exists_of_bind_eq_ok hread
  cases hread
  exact yields_readMembers h _ _ hmembers

end Parts

/-! ## Values -/

/-- Values of the given depth, with their members in order. -/
def IsRead (depth : Nat) (v : Json) : Prop := v.isOrdered ∧ v.levels ≤ depth

theorem isRead_array {depth : Nat} {items : List Json} (h : ∀ v ∈ items, IsRead depth v) :
    IsRead (depth + 1) (.array items) :=
  ⟨isOrdered_array.2 fun v hv => (h v hv).1,
    Nat.succ_le_succ (itemLevels_le_iff.2 fun v hv => (h v hv).2)⟩

/-- An object is one level deeper than its values, and its members have been put in order. -/
theorem isRead_object {depth : Nat} {members : List (String × Json)}
    (h : ∀ m ∈ members, IsRead depth m.2) :
    IsRead (depth + 1) (.object (sortMembers members)) :=
  ⟨isOrdered_object.2 ⟨isAscending_sortMembers members,
    fun m hm => (h m (mem_of_mem_sortMembers hm)).1⟩,
    Nat.succ_le_succ (memberLevels_le_iff.2 fun m hm => (h m (mem_of_mem_sortMembers hm)).2)⟩

/-- What is read as a value is good if arrays and objects are. -/
theorem yields_readValueWith {depth : Nat} {array object : Reader Json}
    (harray : Yields array (IsRead depth)) (hobject : Yields object (IsRead depth)) :
    Yields (readValueWith array object) (IsRead depth) := by
  intro bs rest v h
  unfold readValueWith at h
  split at h
  case h_1 => cases h
  case h_2 =>
    -- the literals, the numbers and the strings
    iterate 6
      split at h
      case isTrue =>
        obtain ⟨⟨a, rest⟩, -, hv⟩ := Result.exists_of_map_eq_ok h
        cases hv
        exact ⟨rfl, Nat.zero_le depth⟩
    split at h
    case isTrue => exact harray h
    case isFalse =>
      split at h
      case isTrue => exact hobject h
      case isFalse => cases h

/-- A value that is read is no deeper than its reader goes, with its members in order. -/
theorem yields_readValue (depth : Nat) : Yields (readValue depth) (IsRead depth) := by
  induction depth with
  | zero => exact yields_readValueWith (yields_stop _ _) (yields_stop _ _)
  | succ depth ih =>
    exact yields_readValueWith ((yields_readArrayBody ih).map fun _ => isRead_array)
      ((yields_readObjectBody ih).map fun _ => isRead_object)

/-! ## Texts -/

theorem Yields.of_readText {reader : Reader α} {p : α → Prop} (h : Yields reader p) {bs : Bytes}
    {a : α} (hread : readText reader bs = .ok a) : p a := by
  unfold readText at hread
  split at hread
  case h_1 => cases hread
  case h_2 b rest hb =>
    split at hread
    case h_1 =>
      cases hread
      exact h hb
    case h_2 => cases hread

/-- A document that is read has its members in order and is no deeper than it may be. -/
theorem isRead_of_ofBytes {bs : Bytes} {v : Json} (h : ofBytes bs = .ok v) :
    IsRead depthLimit v := (yields_readValue depthLimit).of_readText h

end Sidecar.Json
