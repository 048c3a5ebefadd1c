import Sidecar.Proofs.State.Ledger

/-!
# When an etag is still accepted

Versions count how often an item was written since it was last absent.  So an item that is not
removed never has the same version twice, but one that is removed goes through all of its versions
again: an etag is accepted if nothing happened to the item since it was read, and also if the item
was removed and has been written just as often since then.

The main result is `Memory.tryEntry_accepted_iff`.
-/

namespace Sidecar.State

/-! ## Versions -/

/-- Data that is put counts one up. -/
theorem foldl_apply_of_kept {changes : List Change} (h : .remove ∉ changes) (item : Versioned) :
    ∃ data, changes.foldl (fun item c => c.apply item) (some item) =
      some ⟨data, item.version + changes.length⟩ := by
  induction changes generalizing item with
  | nil => exact ⟨item.data, rfl⟩
  | cons change rest ih =>
    obtain ⟨hhead, hrest⟩ := not_or.1 (mt List.mem_cons.2 h)
    cases change with
    | remove => exact absurd rfl hhead
    | put data =>
      obtain ⟨last, hlast⟩ := ih hrest ⟨data, item.version + 1⟩
      refine ⟨last, hlast.trans ?_⟩
      rw [List.length_cons, Nat.add_assoc, Nat.add_comm 1]

/-- An item that was removed is counted from one again. -/
theorem foldl_apply_of_removed {changes : List Change} (h : .remove ∉ changes)
    (hne : changes ≠ []) :
    ∃ data, changes.foldl (fun item c => c.apply item) none = some ⟨data, changes.length⟩ := by
  cases changes with
  | nil => exact absurd rfl hne
  | cons change rest =>
    obtain ⟨hhead, hrest⟩ := not_or.1 (mt List.mem_cons.2 h)
    cases change with
    | remove => exact absurd rfl hhead
    | put data =>
      obtain ⟨last, hlast⟩ := foldl_apply_of_kept hrest ⟨data, 1⟩
      refine ⟨last, hlast.trans ?_⟩
      rw [List.length_cons, Nat.add_comm]

/-- The changes remove the item, and after the last removal they write it `n` times. -/
def Restores (changes : List Change) (n : Nat) : Prop :=
  ∃ before after, changes = before ++ .remove :: after ∧ .remove ∉ after ∧ after.length = n

theorem exists_restores {changes : List Change} (h : .remove ∈ changes) :
    ∃ n, Restores changes n := by
  obtain ⟨after, before, hsplit, hafter⟩ :=
    List.eq_append_cons_of_mem (List.mem_reverse.2 h)
  refine ⟨_, before.reverse, after.reverse, ?_, by simpa using hafter, rfl⟩
  rw [← List.reverse_reverse changes, hsplit]
  simp

theorem foldl_apply_of_restores {changes : List Change} {n : Nat} (h : Restores changes n)
    (item : Option Versioned) :
    (changes.foldl (fun item c => c.apply item) item).map (·.version) =
      if n = 0 then none else some n := by
  obtain ⟨before, after, rfl, hafter, rfl⟩ := h
  rw [List.foldl_append, List.foldl_cons]
  by_cases hnil : after = []
  · subst hnil
    rfl
  · obtain ⟨data, hdata⟩ := foldl_apply_of_removed hafter hnil
    rw [if_neg (mt List.length_eq_zero_iff.1 hnil)]
    exact congrArg (Option.map (·.version)) hdata

/-- Whether an item has the version again that it had before changes. -/
theorem version_foldl_apply_eq_iff (changes : List Change) (item : Versioned) :
    (changes.foldl (fun item c => c.apply item) (some item)).map (·.version) =
        some item.version ↔
      changes = [] ∨ 0 < item.version ∧ Restores changes item.version := by
  by_cases hmem : .remove ∈ changes
  · have hne : changes ≠ [] := List.ne_nil_of_mem hmem
    constructor
    · intro hversion
      obtain ⟨n, hn⟩ := exists_restores hmem
      rw [foldl_apply_of_restores hn] at hversion
      split at hversion
      · cases hversion
      · cases hversion
        exact .inr ⟨Nat.pos_of_ne_zero ‹_›, hn⟩
    · rintro (hnil | ⟨hpos, hrestores⟩)
      · exact absurd hnil hne
      · rw [foldl_apply_of_restores hrestores, if_neg (Nat.ne_of_gt hpos)]
  · obtain ⟨data, hdata⟩ := foldl_apply_of_kept hmem item
    have hnone : ¬(0 < item.version ∧ Restores changes item.version) := by
      rintro ⟨-, before, after, rfl, -⟩
      simp at hmem
    rw [hdata]
    simp [hnone]

/-! ## Etags -/

def Items.version? (items : Items) (a : Address) : Option Nat :=
  (items.find? a).map (·.version)

theorem Items.read_etag (items : Items) (a : Address) :
    (items.read a).etag = (items.version? a).map toString := by
  unfold read version?
  cases items.find? a <;> rfl

/-- The etag that is accepted is the one that a read brings. -/
theorem Items.accepts_some_iff {items : Items} {a : Address} {etag : String} :
    items.accepts a (some etag) ↔ (items.read a).etag = some etag := by
  unfold accepts read
  cases items.find? a with
  | none => exact iff_of_false Bool.false_ne_true (by simp [GetResponse.absent])
  | some item => exact beq_iff_eq.trans (Iff.trans eq_comm Option.some_inj.symm)

theorem toString_inj {m n : Nat} : toString m = toString n ↔ m = n := by
  refine ⟨fun h => ?_, congrArg toString⟩
  rw [Nat.toString_eq_ofList_toDigits, Nat.toString_eq_ofList_toDigits, String.ofList_inj] at h
  rw [← Nat.ofDigitChars_ten_toDigits (n := m), h, Nat.ofDigitChars_ten_toDigits]

theorem map_toString_eq_iff {version : Option Nat} {n : Nat} :
    version.map toString = some (toString n) ↔ version = some n := by
  rw [← Option.map_some]
  exact Option.map_inj_right fun _ _ => toString_inj.1

namespace Memory

variable {m : Memory}

/-- A conditional save is accepted if no fault answers it and the etag is current. -/
theorem save_single_eq_ok_iff (store : String) (item : Item) :
    (save ⟨store, [item]⟩ m).1 = .ok () ↔
      m.faults = [] ∧ m.items.accepts ⟨store, item.key⟩ item.etag := by
  cases hfaults : m.faults with
  | cons status faults =>
    rw [save, Action.bind_of_error (record_of_fault hfaults _)]
    simp
  | nil =>
    rw [save_of_faults_eq_nil hfaults, Items.writeAll]
    by_cases haccepts : m.items.accepts ⟨store, item.key⟩ item.etag
    · rw [Items.write_of_accepts haccepts]
      simp [Items.writeAll, haccepts]
    · rw [Items.write_of_not_accepts haccepts]
      simp [haccepts]

theorem delete_eq_ok_iff (request : DeleteRequest) :
    (delete request m).1 = .ok () ↔
      m.faults = [] ∧ m.items.accepts ⟨request.store, request.key⟩ request.etag := by
  cases hfaults : m.faults with
  | cons status faults =>
    rw [delete, Action.bind_of_error (record_of_fault hfaults _)]
    simp
  | nil =>
    by_cases haccepts : m.items.accepts ⟨request.store, request.key⟩ request.etag
    · rw [delete_of_accepts hfaults haccepts]
      simp [haccepts]
    · rw [delete_of_not_accepts hfaults haccepts]
      simp [haccepts]

/-- Reading an item leaves it as it is, and brings its current etag. -/
theorem items_of_getEntry {α : Type} {reader : Json.Reader α} {store key : String}
    {consistency : Option Consistency} {entry : Entry α} {after : Memory}
    (h : transport.getEntry reader store key consistency m = (.ok entry, after)) :
    requireAddress entry.store entry.key = .ok () ∧ after.items = m.items ∧
      entry.etag = (m.items.read ⟨entry.store, entry.key⟩).etag := by
  obtain ⟨rfl, rfl, hget⟩ := Transport.exists_of_getEntry_eq_ok h
  obtain ⟨haddress, response, hcall, -, hetag⟩ := Transport.exists_of_getWithEtag_eq_ok hget
  have hcall : get ⟨entry.store, entry.key, consistency⟩ m = (.ok response, after) := hcall
  cases hfaults : m.faults with
  | cons status faults =>
    rw [get, Action.bind_of_error (record_of_fault hfaults _)] at hcall
    cases hcall
  | nil =>
    rw [get_of_faults_eq_nil hfaults] at hcall
    cases hcall
    exact ⟨haddress, rfl, hetag.symm⟩

/-- An item is counted up to the same etag again, or was never touched. -/
def Recurs (changes : List Change) (etag : String) : Prop :=
  changes = [] ∨ ∃ n, 0 < n ∧ etag = toString n ∧ Restores changes n

/-- Whether an etag that an item had before a run is accepted after it. -/
theorem accepts_run_iff {a : Address} {etag : String} (hetag : (m.items.read a).etag = some etag)
    (events : List Event) :
    (m.run events).items.accepts a (some etag) ↔ Recurs ((m.ledger events).changesAt a) etag := by
  rw [Items.read_etag, Items.version?, Option.map_map, Option.map_eq_some_iff] at hetag
  obtain ⟨item, hitem, rfl⟩ := hetag
  have hversion := version_foldl_apply_eq_iff ((m.ledger events).changesAt a) item
  rw [Items.accepts_some_iff, Items.read_etag, Function.comp_apply, map_toString_eq_iff,
    Items.version?, find?_run, hitem, hversion]
  refine or_congr_right ⟨fun ⟨hpos, h⟩ => ⟨_, hpos, rfl, h⟩, fun ⟨n, hpos, hn, h⟩ => ?_⟩
  rw [toString_inj.1 hn]
  exact ⟨hpos, h⟩

/-! ## Entries -/

variable {α : Type} {reader : Json.Reader α} {store key etag : String}
variable {consistency : Option Consistency} {entry : Entry α} {read : Memory}

/-- An entry is saved exactly if no fault is in the queue and its etag is current by then. -/
theorem trySaveEntry_eq_true_iff
    (hread : transport.getEntry reader store key consistency m = (.ok entry, read))
    (value : Option Json) (options : Option StateOptions) (now : Memory) :
    (transport.trySaveEntry ⟨entry.store, entry.key, value, entry.etag⟩ options now).1 =
        .ok true ↔
      now.faults = [] ∧ now.items.accepts ⟨entry.store, entry.key⟩ entry.etag := by
  obtain ⟨haddress, -⟩ := items_of_getEntry hread
  rw [Transport.trySaveEntry, soften_eq_true_iff, Transport.saveEntry,
    Transport.write_eq_save haddress]
  exact save_single_eq_ok_iff _ _

theorem tryDeleteEntry_eq_true_iff
    (hread : transport.getEntry reader store key consistency m = (.ok entry, read))
    (options : Option StateOptions) (now : Memory) :
    (transport.tryDeleteEntry entry options now).1 = .ok true ↔
      now.faults = [] ∧ now.items.accepts ⟨entry.store, entry.key⟩ entry.etag := by
  obtain ⟨haddress, -⟩ := items_of_getEntry hread
  rw [Transport.tryDeleteEntry, soften_eq_true_iff, Transport.deleteEntry,
    Transport.remove_eq_delete haddress]
  exact delete_eq_ok_iff _

/-- A conditional write of an entry is accepted exactly if no fault answers it and, since the entry
was read, nothing was done to its item, or the item was removed and, after the last removal, written
just as often as its etag says.  What clients do in between are events. -/
theorem tryEntry_accepted_iff
    (hread : transport.getEntry reader store key consistency m = (.ok entry, read))
    (hetag : entry.etag = some etag) :
    (∀ (events : List Event) (value : Option Json) (options : Option StateOptions),
      (transport.trySaveEntry ⟨entry.store, entry.key, value, entry.etag⟩ options
          (read.run events)).1 = .ok true ↔
        (read.run events).faults = [] ∧
          Recurs ((read.ledger events).changesAt ⟨entry.store, entry.key⟩) etag) ∧
    (∀ (events : List Event) (options : Option StateOptions),
      (transport.tryDeleteEntry entry options (read.run events)).1 = .ok true ↔
        (read.run events).faults = [] ∧
          Recurs ((read.ledger events).changesAt ⟨entry.store, entry.key⟩) etag) ∧
    ∀ {β : Type} {action : Action Memory β}, transport.Operation action → ∀ now : Memory,
      ∃ events : List Event, events.length ≤ 1 ∧ (action now).2 = now.run events := by
  obtain ⟨-, hitems, hentry⟩ := items_of_getEntry hread
  rw [hetag, ← hitems] at hentry
  refine ⟨fun events value options => ?_, fun events options => ?_, exists_run_of_operation⟩
  · rw [trySaveEntry_eq_true_iff hread, hetag, accepts_run_iff hentry.symm]
  · rw [tryDeleteEntry_eq_true_iff hread, hetag, accepts_run_iff hentry.symm]

/-- What is done to another item is no reason to refuse an etag. -/
theorem tryEntry_accepted_iff_elsewhere :
    ∃ entry read,
      transport.getEntry Json.readAny "s" "k" none (({} : Memory).putRaw ⟨"s", "k"⟩ [49]) =
        (.ok entry, read) ∧
      entry.etag = some "1" ∧
      (transport.tryDeleteEntry entry none (read.run [.putRaw ⟨"s", "l"⟩ [50]])).1 =
        .ok true := by
  have hread : transport.getEntry Json.readAny "s" "k" none
      (({} : Memory).putRaw ⟨"s", "k"⟩ [49]) =
        (.ok ⟨"s", "k", some (.whole 1), some "1"⟩,
          (({} : Memory).putRaw ⟨"s", "k"⟩ [49]).recorded (.get ⟨"s", "k", none⟩)) := rfl
  obtain ⟨-, hdelete, -⟩ := tryEntry_accepted_iff hread rfl
  exact ⟨_, _, hread, rfl, (hdelete [.putRaw ⟨"s", "l"⟩ [50]] none).2 ⟨rfl, .inl rfl⟩⟩

/-- An item of the version `1` that is deleted and put back is taken for the item that was read. -/
theorem tryEntry_accepted_recreated :
    ∃ entry read,
      transport.getEntry Json.readAny "s" "k" none (({} : Memory).putRaw ⟨"s", "k"⟩ [49]) =
        (.ok entry, read) ∧
      entry.etag = some "1" ∧
      (transport.trySaveEntry entry none
        (read.run [.call (.delete ⟨"s", "k", none, none⟩), .putRaw ⟨"s", "k"⟩ [50]])).1 =
          .ok true ∧
      (read.ledger [.call (.delete ⟨"s", "k", none, none⟩),
        .putRaw ⟨"s", "k"⟩ [50]]).changesAt ⟨"s", "k"⟩ = [.remove, .put [50]] :=
  ⟨_, _, rfl, rfl, rfl, rfl⟩

end Memory

end Sidecar.State
