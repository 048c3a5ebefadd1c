import Mathlib.Data.List.Dedup
import Mathlib.Data.List.Induction
import Sidecar.Json.Shape
import Sidecar.Proofs.Json.Value

/-!
# One member of each name

The members of an object come out in the order in which their names first occur, or in ascending
order of their names.  Either way there is one for each name that is written, with the last of the
values that are written for it.

The main results are `lookup_inOrder` and `perm_sortMembers`.
-/

namespace Sidecar.Json

variable {α : Type} {name k : String} {value : α} {members : List (String × α)}

/-! ## In order of occurrence -/

/-- A name that is there keeps its place, and a new one comes last. -/
theorem map_fst_upsert (name : String) (value : α) (members : List (String × α)) :
    (upsert name value members).map Prod.fst =
      if name ∈ members.map Prod.fst then members.map Prod.fst
      else members.map Prod.fst ++ [name] := by
  induction members with
  | nil => rfl
  | cons m rest ih =>
    obtain ⟨k, v⟩ := m
    unfold upsert
    by_cases hk : k = name
    · simp [hk]
    · rw [if_neg hk, List.map_cons, ih, List.map_cons]
      by_cases hname : name ∈ rest.map Prod.fst
      · rw [if_pos hname, if_pos (List.mem_cons_of_mem _ hname)]
      · have hnone : name ∉ k :: rest.map Prod.fst :=
          mt List.mem_cons.1 (not_or.2 ⟨Ne.symm hk, hname⟩)
        rw [if_neg hname, if_neg hnone]
        rfl

/-- The value is replaced under its name, and nowhere else. -/
theorem lookup_upsert :
    (upsert name value members).lookup k = if k = name then some value else members.lookup k := by
  induction members with
  | nil => exact lookup_cons
  | cons m rest ih =>
    obtain ⟨l, v⟩ := m
    unfold upsert
    by_cases hl : l = name
    · subst hl
      rw [if_pos rfl, lookup_cons, lookup_cons]
      split <;> rfl
    · rw [if_neg hl, lookup_cons, lookup_cons, ih]
      by_cases hk : k = l
      · rw [if_pos hk, if_pos hk, if_neg fun hname => hl (hk.symm.trans hname)]
      · rw [if_neg hk, if_neg hk]

theorem inOrder_append (members : List (String × α)) (m : String × α) :
    inOrder (members ++ [m]) = upsert m.1 m.2 (inOrder members) := by
  rw [inOrder, List.foldl_append]
  rfl

/-- The names in the order in which they first occur. -/
theorem map_fst_inOrder (members : List (String × α)) :
    (inOrder members).map Prod.fst = (members.map Prod.fst).reverse.dedup.reverse := by
  induction members using List.reverseRecOn with
  | nil => rfl
  | append_singleton members m ih =>
    rw [inOrder_append, map_fst_upsert, ih, List.map_append, List.reverse_append]
    simp only [List.mem_reverse, List.mem_dedup, List.map_cons, List.map_nil,
      List.reverse_singleton, List.singleton_append]
    by_cases hname : m.1 ∈ members.map Prod.fst
    · rw [if_pos hname, List.dedup_cons_of_mem (List.mem_reverse.2 hname)]
    · rw [if_neg hname, List.dedup_cons_of_notMem (mt List.mem_reverse.1 hname),
        List.reverse_cons]

theorem nodup_inOrder (members : List (String × α)) : ((inOrder members).map Prod.fst).Nodup := by
  rw [map_fst_inOrder, List.nodup_reverse]
  exact List.nodup_dedup _

/-- No name is added and none is lost. -/
theorem mem_map_fst_inOrder :
    name ∈ (inOrder members).map Prod.fst ↔ name ∈ members.map Prod.fst := by
  rw [map_fst_inOrder, List.mem_reverse, List.mem_dedup, List.mem_reverse]

/-- The last value that is written for a name wins. -/
theorem lookup_inOrder (members : List (String × α)) (k : String) :
    (inOrder members).lookup k = members.reverse.lookup k := by
  induction members using List.reverseRecOn with
  | nil => rfl
  | append_singleton members m ih =>
    obtain ⟨name, value⟩ := m
    rw [inOrder_append, lookup_upsert, ih, List.reverse_append]
    exact lookup_cons.symm

/-! ## In ascending order -/

theorem perm_insertMember (h : name ∉ members.map Prod.fst) :
    (insertMember name value members).Perm ((name, value) :: members) := by
  induction members with
  | nil => exact .refl _
  | cons m rest ih =>
    obtain ⟨k, v⟩ := m
    obtain ⟨hk, hrest⟩ : name ≠ k ∧ name ∉ rest.map Prod.fst := not_or.1 (mt List.mem_cons.2 h)
    rw [insertMember, if_neg hk]
    split
    · exact .refl _
    · exact ((ih hrest).cons (k, v)).trans (.swap _ _ _)

theorem perm_mergeMembers {sorted : List (String × α)}
    (h : ((sorted ++ members).map Prod.fst).Nodup) :
    (mergeMembers sorted members).Perm (sorted ++ members) := by
  induction members generalizing sorted with
  | nil =>
    rw [List.append_nil]
    exact .refl _
  | cons m rest ih =>
    have hmiddle : (sorted ++ m :: rest).Perm (m :: (sorted ++ rest)) := List.perm_middle
    have hnodup : ((m :: (sorted ++ rest)).map Prod.fst).Nodup := (hmiddle.map _).nodup_iff.1 h
    have hnew : m.1 ∉ sorted.map Prod.fst := by
      have hhead : m.1 ∉ (sorted ++ rest).map Prod.fst := (List.nodup_cons.1 hnodup).1
      rw [List.map_append] at hhead
      exact mt (List.mem_append_left _) hhead
    have hinsert : (insertMember m.1 m.2 sorted ++ rest).Perm (m :: (sorted ++ rest)) :=
      (perm_insertMember hnew).append_right rest
    rw [mergeMembers_cons]
    exact ((ih ((hinsert.map _).nodup_iff.2 hnodup)).trans hinsert).trans hmiddle.symm

/-- Members of different names are all kept. -/
theorem perm_sortMembers (h : (members.map Prod.fst).Nodup) :
    (sortMembers members).Perm members := by
  have hmerge : (mergeMembers [] members).Perm ([] ++ members) := perm_mergeMembers h
  exact hmerge

end Sidecar.Json
