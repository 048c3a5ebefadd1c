import Sidecar.Json.Basic

/-!
# What is in a JSON value

Properties of a value with all that is in it: that its numbers are whole, that its members are in
order, how deep it is nested.  A value is put in order by sorting the members of all of its objects,
the last of a repeated name winning.

The main results are `lookup_sortMembers`, on the values that are left, and
`sorted_eq_of_isOrdered`.  Statements on all values are proved with `inductionOn`.
-/

namespace Sidecar.Json

/-! ## Members in order -/

section Members

variable {α : Type} {name k : String} {value v : α} {members : List (String × α)}

def IsAscending (members : List (String × α)) : Prop := members.Pairwise (·.1 < ·.1)

instance (members : List (String × α)) : Decidable (IsAscending members) :=
  inferInstanceAs (Decidable (members.Pairwise (·.1 < ·.1)))

theorem lt_of_not_lt_of_ne {a b : String} (h : ¬a < b) (hne : a ≠ b) : b < a := by
  by_cases hba : b < a
  · exact hba
  · exact absurd (String.le_antisymm (String.not_lt.1 hba) (String.not_lt.1 h)) hne

theorem mem_of_mem_insertMember {m : String × α} (h : m ∈ insertMember name value members) :
    m = (name, value) ∨ m ∈ members := by
  induction members with
  | nil => exact .inl (List.mem_singleton.1 h)
  | cons head rest ih =>
    obtain ⟨k, v⟩ := head
    unfold insertMember at h
    split at h
    · exact List.mem_cons.1 h
    · split at h
      · exact (List.mem_cons.1 h).imp_right (List.mem_cons_of_mem _)
      · rcases List.mem_cons.1 h with rfl | h
        · exact .inr List.mem_cons_self
        · exact (ih h).imp_right (List.mem_cons_of_mem _)

/-- A member goes to its place in the order. -/
theorem isAscending_insertMember (h : IsAscending members) (name : String) (value : α) :
    IsAscending (insertMember name value members) := by
  induction members with
  | nil => exact List.pairwise_singleton _ _
  | cons head rest ih =>
    obtain ⟨k, v⟩ := head
    obtain ⟨hhead, hrest⟩ := List.pairwise_cons.1 h
    unfold insertMember
    split
    case isTrue hlt =>
      refine List.pairwise_cons.2 ⟨fun m hm => ?_, h⟩
      rcases List.mem_cons.1 hm with rfl | hm
      · exact hlt
      · exact String.lt_trans hlt (hhead m hm)
    case isFalse hlt =>
      split
      case isTrue heq =>
        subst heq
        exact List.pairwise_cons.2 ⟨hhead, hrest⟩
      case isFalse hne =>
        refine List.pairwise_cons.2 ⟨fun m hm => ?_, ih hrest⟩
        rcases mem_of_mem_insertMember hm with rfl | hm
        · exact lt_of_not_lt_of_ne hlt hne
        · exact hhead m hm

theorem lookup_cons :
    ((name, value) :: members).lookup k = if k = name then some value else members.lookup k := by
  rw [List.lookup_cons]
  split <;> simp_all

/-- A value that is inserted replaces the one of its name, and no other. -/
theorem lookup_insertMember :
    (insertMember name value members).lookup k =
      if k = name then some value else members.lookup k := by
  induction members with
  | nil => exact lookup_cons
  | cons head rest ih =>
    obtain ⟨l, v⟩ := head
    unfold insertMember
    split
    case isTrue => exact lookup_cons
    case isFalse =>
      split
      case isTrue heq =>
        subst heq
        rw [lookup_cons, lookup_cons]
        split <;> rfl
      case isFalse hne =>
        rw [lookup_cons, lookup_cons, ih]
        split
        case isTrue h => rw [if_neg fun heq => hne (heq.symm.trans h)]
        case isFalse => rfl

/-- A member behind all others stays where it is. -/
theorem insertMember_of_forall_lt (h : ∀ m ∈ members, m.1 < name) :
    insertMember name value members = members ++ [(name, value)] := by
  induction members with
  | nil => rfl
  | cons head rest ih =>
    obtain ⟨k, v⟩ := head
    have hk : k < name := h (k, v) List.mem_cons_self
    have hlt : ¬name < k := fun hlt => String.lt_irrefl _ (String.lt_trans hlt hk)
    have hne : name ≠ k := fun heq => String.lt_irrefl _ (heq ▸ hk)
    rw [insertMember, if_neg hlt, if_neg hne, ih fun m hm => h m (List.mem_cons_of_mem _ hm)]
    rfl

/-! ### Sorting -/

/-- The members put in their places among others. -/
def mergeMembers (sorted members : List (String × α)) : List (String × α) :=
  members.foldl (fun sorted (k, v) => insertMember k v sorted) sorted

theorem mergeMembers_cons (sorted : List (String × α)) (m : String × α) :
    mergeMembers sorted (m :: members) = mergeMembers (insertMember m.1 m.2 sorted) members := rfl

/-- Nothing is there that was in neither. -/
theorem mem_of_mem_mergeMembers {m : String × α} {sorted : List (String × α)}
    (h : m ∈ mergeMembers sorted members) : m ∈ sorted ∨ m ∈ members := by
  induction members generalizing sorted with
  | nil => exact .inl h
  | cons head rest ih =>
    rcases ih h with hm | hm
    · rcases mem_of_mem_insertMember hm with rfl | hm
      · exact .inr List.mem_cons_self
      · exact .inl hm
    · exact .inr (List.mem_cons_of_mem _ hm)

theorem mem_of_mem_sortMembers {m : String × α} (h : m ∈ sortMembers members) : m ∈ members :=
  (mem_of_mem_mergeMembers h).resolve_left List.not_mem_nil

/-- Merging into members in order keeps them so. -/
theorem isAscending_mergeMembers {sorted : List (String × α)} (h : IsAscending sorted)
    (members : List (String × α)) : IsAscending (mergeMembers sorted members) := by
  induction members generalizing sorted with
  | nil => exact h
  | cons head rest ih => exact ih (isAscending_insertMember h _ _)

/-- Sorted members are in order, with one for each name. -/
theorem isAscending_sortMembers (members : List (String × α)) :
    IsAscending (sortMembers members) := isAscending_mergeMembers .nil members

theorem mergeMembers_eq_append {sorted : List (String × α)} (h : IsAscending (sorted ++ members)) :
    mergeMembers sorted members = sorted ++ members := by
  induction members generalizing sorted with
  | nil => exact (List.append_nil _).symm
  | cons head rest ih =>
    obtain ⟨-, -, hbehind⟩ := List.pairwise_append.1 h
    have hinsert : insertMember head.1 head.2 sorted = sorted ++ [head] :=
      insertMember_of_forall_lt fun m hm => hbehind m hm head List.mem_cons_self
    rw [mergeMembers_cons, hinsert, ih (by simpa using h), List.append_assoc]
    rfl

/-- Sorting leaves members in order as they are. -/
theorem IsAscending.sortMembers_eq (h : IsAscending members) : sortMembers members = members :=
  mergeMembers_eq_append h

/-! ### Members with other values -/

section Map

variable {β : Type} (f : α → β)

/-- Members with what becomes of their values. -/
def mapMembers (members : List (String × α)) : List (String × β) :=
  members.map fun m => (m.1, f m.2)

/-- Where a member goes does not depend on its value. -/
theorem insertMember_mapMembers (name : String) (value : α) (members : List (String × α)) :
    insertMember name (f value) (mapMembers f members) =
      mapMembers f (insertMember name value members) := by
  induction members with
  | nil => rfl
  | cons head rest ih =>
    change insertMember name (f value) ((head.1, f head.2) :: mapMembers f rest) = _
    rw [insertMember, insertMember, ih]
    split
    · rfl
    · split <;> rfl

/-- What is replaced in merging does not depend on the values. -/
theorem mergeMembers_mapMembers (sorted members : List (String × α)) :
    mergeMembers (mapMembers f sorted) (mapMembers f members) =
      mapMembers f (mergeMembers sorted members) := by
  induction members generalizing sorted with
  | nil => rfl
  | cons head rest ih => rw [mergeMembers_cons, ← ih, ← insertMember_mapMembers]; rfl

/-- Sorting may come before or behind a change of values. -/
theorem sortMembers_mapMembers (members : List (String × α)) :
    sortMembers (mapMembers f members) = mapMembers f (sortMembers members) :=
  mergeMembers_mapMembers f [] members

theorem lookup_mapMembers (members : List (String × α)) (k : String) :
    (mapMembers f members).lookup k = (members.lookup k).map f := by
  induction members with
  | nil => rfl
  | cons head rest ih =>
    change ((head.1, f head.2) :: mapMembers f rest).lookup k = _
    rw [lookup_cons, ih, lookup_cons]
    split <;> rfl

end Map

/-- The last of a repeated name is the one that is found. -/
theorem lookup_sortMembers (members : List (String × α)) (k : String) :
    (sortMembers members).lookup k = members.reverse.lookup k := by
  have hmerge (sorted : List (String × α)) :
      (mergeMembers sorted members).lookup k =
        (members.reverse.lookup k).or (sorted.lookup k) := by
    induction members generalizing sorted with
    | nil => rfl
    | cons head rest ih =>
      rw [mergeMembers_cons, ih, lookup_insertMember, List.reverse_cons, List.lookup_append,
        Option.or_assoc, lookup_cons]
      split <;> rfl
  exact (hmerge []).trans Option.or_none

end Members

/-! ## Values and what is in them -/

/-- A statement about all values holds if it holds of the ones without parts, and of arrays and
objects whenever it holds of what is in them. -/
@[elab_as_elim]
theorem inductionOn {motive : Json → Prop} (v : Json) (null : motive .null)
    (bool : ∀ b, motive (.bool b)) (number : ∀ n, motive (.number n))
    (string : ∀ s, motive (.string s))
    (array : ∀ items, (∀ v ∈ items, motive v) → motive (.array items))
    (object : ∀ members, (∀ m ∈ members, motive m.2) → motive (.object members)) : motive v :=
  @Json.rec motive (fun items => ∀ v ∈ items, motive v) (fun members => ∀ m ∈ members, motive m.2)
    (fun m => motive m.2) null bool number string array object (fun _ h => nomatch h)
    (fun _ _ hhead hrest => List.forall_mem_cons.2 ⟨hhead, hrest⟩) (fun _ h => nomatch h)
    (fun _ _ hhead hrest => List.forall_mem_cons.2 ⟨hhead, hrest⟩) (fun _ _ h => h) v

mutual

/-- Whether all is well with a value and all values in it. -/
def every (p : Json → Bool) : Json → Bool
  | .array items => p (.array items) && everyItem p items
  | .object members => p (.object members) && everyMember p members
  | .null => p .null
  | .bool b => p (.bool b)
  | .number n => p (.number n)
  | .string s => p (.string s)

def everyItem (p : Json → Bool) : List Json → Bool
  | [] => true
  | v :: rest => every p v && everyItem p rest

def everyMember (p : Json → Bool) : List (String × Json) → Bool
  | [] => true
  | (_, v) :: rest => every p v && everyMember p rest

end

mutual

/-- How deep arrays and objects are nested. -/
def levels : Json → Nat
  | .array items => itemLevels items + 1
  | .object members => memberLevels members + 1
  | _ => 0

def itemLevels : List Json → Nat
  | [] => 0
  | v :: rest => max (levels v) (itemLevels rest)

def memberLevels : List (String × Json) → Nat
  | [] => 0
  | (_, v) :: rest => max (levels v) (memberLevels rest)

end

mutual

/-- The value with the members of its objects in order. -/
def sorted : Json → Json
  | .array items => .array (sortedItems items)
  | .object members => .object (sortMembers (sortedMembers members))
  | v => v

def sortedItems : List Json → List Json
  | [] => []
  | v :: rest => sorted v :: sortedItems rest

def sortedMembers : List (String × Json) → List (String × Json)
  | [] => []
  | (k, v) :: rest => (k, sorted v) :: sortedMembers rest

end

theorem everyItem_iff {p : Json → Bool} {items : List Json} :
    everyItem p items ↔ ∀ v ∈ items, every p v := by
  induction items with
  | nil => simp [everyItem]
  | cons v rest ih => simp [everyItem, ih]

/-- Every value of an object is looked at. -/
theorem everyMember_iff {p : Json → Bool} {members : List (String × Json)} :
    everyMember p members ↔ ∀ m ∈ members, every p m.2 := by
  induction members with
  | nil => simp [everyMember]
  | cons m rest ih => simp [everyMember, ih]

/-- An array is as deep as its deepest item. -/
theorem itemLevels_le_iff {items : List Json} {n : Nat} :
    itemLevels items ≤ n ↔ ∀ v ∈ items, levels v ≤ n := by
  induction items with
  | nil => simp [itemLevels]
  | cons v rest ih => rw [itemLevels, Nat.max_le, ih, List.forall_mem_cons]

/-- An object is as deep as its deepest value. -/
theorem memberLevels_le_iff {members : List (String × Json)} {n : Nat} :
    memberLevels members ≤ n ↔ ∀ m ∈ members, levels m.2 ≤ n := by
  induction members with
  | nil => simp [memberLevels]
  | cons m rest ih => rw [memberLevels, Nat.max_le, ih, List.forall_mem_cons]

theorem sortedItems_eq_map (items : List Json) : sortedItems items = items.map sorted := by
  induction items with
  | nil => rfl
  | cons v rest ih => rw [sortedItems, ih, List.map_cons]

theorem sortedMembers_eq_mapMembers (members : List (String × Json)) :
    sortedMembers members = mapMembers sorted members := by
  induction members with
  | nil => rfl
  | cons m rest ih => rw [sortedMembers, ih]; rfl

/-! ## Whole numbers -/

def leastWhole : Int := -9223372036854775808

def greatestWhole : Int := 18446744073709551615

def isWholeNumber : Json → Bool
  | .number (.whole n) => leastWhole ≤ n && n ≤ greatestWhole
  | .number (.double _) => false
  | _ => true

/-- All numbers in the value are whole, and 64 bits hold them. -/
def isWhole (v : Json) : Bool := v.every isWholeNumber

/-! ## Ordered values -/

def isAscendingObject : Json → Bool
  | .object members => IsAscending members
  | _ => true

/-- The members of all objects in the value are in order. -/
def isOrdered (v : Json) : Bool := v.every isAscendingObject

theorem isOrdered_array {items : List Json} :
    isOrdered (.array items) ↔ ∀ v ∈ items, isOrdered v := by
  simp [isOrdered, every, isAscendingObject, everyItem_iff]

/-- An object has to have its own members in order as well. -/
theorem isOrdered_object {members : List (String × Json)} :
    isOrdered (.object members) ↔ IsAscending members ∧ ∀ m ∈ members, isOrdered m.2 := by
  simp [isOrdered, every, isAscendingObject, everyMember_iff]

/-- What is in order stays as it is. -/
theorem sorted_eq_of_isOrdered {v : Json} (h : v.isOrdered) : v.sorted = v := by
  induction v using inductionOn with
  | null | bool | number | string => rfl
  | array items ih =>
    rw [sorted, sortedItems_eq_map, List.map_congr_left fun v hv =>
      ih v hv (isOrdered_array.1 h v hv), List.map_id']
  | object members ih =>
    obtain ⟨hascending, hmembers⟩ := isOrdered_object.1 h
    have hmap : mapMembers sorted members = members :=
      (List.map_congr_left fun m hm => by rw [ih m hm (hmembers m hm)]).trans (List.map_id' _)
    rw [sorted, sortedMembers_eq_mapMembers, hmap, hascending.sortMembers_eq]

end Sidecar.Json
