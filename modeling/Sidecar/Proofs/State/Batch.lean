import Sidecar.Proofs.State.Instruction

/-!
# Batches

A batch is written item by item: each item meets what the items before it have left, its etag is
compared with the versions that these have made, and the first item that is refused ends the batch.
So one request with all items comes to the same as a request for each item, one after the other.

The main result is `Memory.saveItems_one_by_one`.
-/

namespace Sidecar.State

variable {σ : Type}

/-- Saves the items in order, each in a request of its own, up to the first that is refused. -/
def Transport.saveEach (t : Transport σ) (store : String) (items : List Item) : Action σ Unit :=
  items.forM fun item => t.saveItems store [item]

/-! ## Items -/

namespace Items

variable {items : Items} {store : String} {item : Item}

theorem writeAll_of_accepts (h : items.accepts ⟨store, item.key⟩ item.etag) (rest : List Item) :
    items.writeAll store (item :: rest) =
      (items.change ⟨store, item.key⟩ item.change).writeAll store rest := by
  rw [writeAll, write_of_accepts h]

theorem writeAll_of_not_accepts (h : ¬items.accepts ⟨store, item.key⟩ item.etag)
    (rest : List Item) : items.writeAll store (item :: rest) = (.error mismatch, items) := by
  rw [writeAll, write_of_not_accepts h]

/-- Either all items are written, or those before the first that is refused. -/
theorem writeAll_cases (items : Items) (store : String) (batch : List Item) :
    (items.writeAll store batch).1 = .ok () ∨
      ∃ before item after, batch = before ++ item :: after ∧
        (items.writeAll store before).1 = .ok () ∧
        ¬(items.writeAll store before).2.accepts ⟨store, item.key⟩ item.etag ∧
        items.writeAll store batch = (.error mismatch, (items.writeAll store before).2) := by
  induction batch generalizing items with
  | nil => exact .inl rfl
  | cons item rest ih =>
    by_cases h : items.accepts ⟨store, item.key⟩ item.etag
    · rw [writeAll_of_accepts h]
      rcases ih (items.change ⟨store, item.key⟩ item.change) with
        hall | ⟨before, refused, after, rfl, hbefore, hrefused, hrest⟩
      · exact .inl hall
      · refine .inr ⟨item :: before, refused, after, rfl, ?_⟩
        rw [writeAll_of_accepts h]
        exact ⟨hbefore, hrefused, hrest⟩
    · exact .inr ⟨[], item, rest, rfl, rfl, h, writeAll_of_not_accepts h rest⟩

end Items

/-! ## Requests -/

theorem emptyName?_eq_none {store : String} {keys : List String} (hstore : store ≠ "")
    (hkeys : "" ∉ keys) : emptyName? store keys = none := by
  rw [emptyName?, if_neg hstore, if_neg hkeys]

namespace Memory

variable {m : Memory} {store : String} {items : List Item}

/-- What becomes of the items when they are written is all that a batch comes to. -/
theorem saveItems_eq_writeAll (hfaults : m.faults = []) (hstore : store ≠ "")
    (hkeys : ∀ item ∈ items, item.key ≠ "") :
    transport.saveItems store items m =
      ((m.items.writeAll store items).1,
        { m.recorded (.save ⟨store, items⟩) with items := (m.items.writeAll store items).2 }) := by
  have hnames : "" ∉ items.map (·.key) := by
    intro hmem
    obtain ⟨item, hitem, hkey⟩ := List.mem_map.1 hmem
    exact hkeys item hitem hkey
  rw [Transport.saveItems_eq, guarded, emptyName?_eq_none hstore hnames, Items.items_writeAll]
  exact save_of_faults_eq_nil hfaults ⟨store, items⟩

/-- A request for one item fails when the store does not accept the item's etag. -/
theorem saveItems_of_not_accepts {item : Item} (hfaults : m.faults = []) (hstore : store ≠ "")
    (hkey : item.key ≠ "") (h : ¬m.items.accepts ⟨store, item.key⟩ item.etag) :
    (transport.saveItems store [item] m).1 = .error Items.mismatch := by
  rw [saveItems_eq_writeAll hfaults hstore (List.forall_mem_singleton.2 hkey),
    Items.writeAll_of_not_accepts h]

/-- Requests for one item after the other write the same items as one request for all of them. -/
theorem saveEach_eq_writeAll (hfaults : m.faults = []) (hstore : store ≠ "")
    (hkeys : ∀ item ∈ items, item.key ≠ "") :
    (transport.saveEach store items m).1 = (m.items.writeAll store items).1 ∧
      (transport.saveEach store items m).2.items = (m.items.writeAll store items).2 := by
  induction items generalizing m with
  | nil => exact ⟨rfl, rfl⟩
  | cons item rest ih =>
    obtain ⟨hkey, hrest⟩ := List.forall_mem_cons.1 hkeys
    have hfirst := saveItems_eq_writeAll hfaults hstore (List.forall_mem_singleton.2 hkey)
    have hstep : transport.saveEach store (item :: rest) =
        transport.saveItems store [item] >>= fun _ => transport.saveEach store rest := rfl
    rw [hstep]
    by_cases h : m.items.accepts ⟨store, item.key⟩ item.etag
    · rw [Items.writeAll_of_accepts h, Items.writeAll] at hfirst
      rw [Items.writeAll_of_accepts h, Action.bind_of_ok hfirst]
      exact ih hfaults hrest
    · rw [Items.writeAll_of_not_accepts h] at hfirst
      rw [Items.writeAll_of_not_accepts h, Action.bind_of_error hfirst]
      exact ⟨rfl, rfl⟩

/-- A batch comes to the same as requests for its items one after the other, up to the first that is
refused.  The items before that one are written, and none from it on. -/
theorem saveItems_one_by_one (hfaults : m.faults = []) (hstore : store ≠ "")
    (hkeys : ∀ item ∈ items, item.key ≠ "") :
    let batch := transport.saveItems store items m
    let singles := transport.saveEach store items m
    (batch.1 = singles.1 ∧ batch.2.items = singles.2.items) ∧
      (batch.1 = .ok () ∨
        ∃ before item after, items = before ++ item :: after ∧
          let applied := transport.saveItems store before m
          applied.1 = .ok () ∧
          (transport.saveItems store [item] applied.2).1 = .error Items.mismatch ∧
          batch.1 = .error Items.mismatch ∧ batch.2.items = applied.2.items) := by
  intro batch singles
  obtain ⟨hresult, hitems⟩ := saveEach_eq_writeAll hfaults hstore hkeys
  have hbatch : batch = _ := saveItems_eq_writeAll hfaults hstore hkeys
  refine ⟨by rw [hbatch]; exact ⟨hresult.symm, hitems.symm⟩, ?_⟩
  rcases m.items.writeAll_cases store items with
    hall | ⟨before, item, after, hsplit, hbefore, hrefused, hwritten⟩
  · exact .inl (by rw [hbatch, hall])
  · subst hsplit
    obtain ⟨hkeysBefore, hkeysRest⟩ := List.forall_mem_append.1 hkeys
    obtain ⟨hkey, -⟩ := List.forall_mem_cons.1 hkeysRest
    refine .inr ⟨before, item, after, rfl, ?_⟩
    rw [saveItems_eq_writeAll hfaults hstore hkeysBefore, hbatch, hwritten]
    exact ⟨hbefore, saveItems_of_not_accepts hfaults hstore hkey hrefused, rfl, rfl⟩

/-- A key that is created, written again with its new etag, cleared and then asked for once more:
the last etag is refused, and what stands behind it is not written. -/
theorem saveItems_one_by_one_repeated_key :
    let items : List Item :=
      [⟨"k", some [49], none, none, none⟩, ⟨"k", some [50], some "1", none, none⟩,
        ⟨"k", none, some "2", none, none⟩, ⟨"l", some [51], none, none, none⟩,
        ⟨"k", some [52], some "2", none, none⟩, ⟨"l", none, none, none, none⟩]
    let batch := transport.saveItems "s" items {}
    let singles := transport.saveEach "s" items {}
    (∀ item ∈ items, item.key ≠ "") ∧ batch.1 = .error Items.mismatch ∧
      singles.1 = .error Items.mismatch ∧
      singles.2.items = batch.2.items ∧
      batch.2.items.find? ⟨"s", "k"⟩ = none ∧
      batch.2.items.find? ⟨"s", "l"⟩ = some ⟨[51], 1⟩ := by
  intro items batch singles
  have hkeys : ∀ item ∈ items, item.key ≠ "" := by decide
  obtain ⟨⟨hresult, hitems⟩, -⟩ :=
    @saveItems_one_by_one {} "s" items rfl (by decide) hkeys
  have hbatch : batch.1 = .error Items.mismatch ∧ batch.2.items.find? ⟨"s", "k"⟩ = none ∧
      batch.2.items.find? ⟨"s", "l"⟩ = some ⟨[51], 1⟩ := by
    rw [show batch = _ from saveItems_eq_writeAll rfl (by decide) hkeys]
    exact ⟨rfl, rfl, rfl⟩
  exact ⟨hkeys, hbatch.1, hresult.symm.trans hbatch.1, hitems.symm, hbatch.2⟩

end Memory

end Sidecar.State
