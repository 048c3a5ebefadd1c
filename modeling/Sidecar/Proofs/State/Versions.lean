import Sidecar.Proofs.State.Staleness

/-!
# What versions count

In every run the version of an item is the number of times that it was written since it was last
absent.  An etag is accepted exactly if it spells that number, and accepting it changes the number:
the same etag is good once, until the item is counted from one again.

The main result is `Memory.run_versions`.
-/

namespace Sidecar.State

/-! ## Counting -/

/-- How often an item was written after it was last removed. -/
def writesSinceAbsent (changes : List Change) : Nat :=
  (changes.reverse.takeWhile (· ≠ .remove)).length

theorem writesSinceAbsent_append (before : List Change) {after : List Change}
    (h : .remove ∉ after) :
    writesSinceAbsent (before ++ after) = writesSinceAbsent before + after.length := by
  have hafter : ∀ c ∈ after.reverse, decide (c ≠ .remove) := fun c hc =>
    decide_eq_true fun heq => h (heq ▸ List.mem_reverse.1 hc)
  rw [writesSinceAbsent, List.reverse_append, List.takeWhile_append_of_pos hafter,
    List.length_append, List.length_reverse, Nat.add_comm]
  rfl

theorem writesSinceAbsent_remove (before : List Change) :
    writesSinceAbsent (before ++ [.remove]) = 0 := by
  rw [writesSinceAbsent, List.reverse_append]
  rfl

theorem writesSinceAbsent_of_kept {changes : List Change} (h : .remove ∉ changes) :
    writesSinceAbsent changes = changes.length :=
  (writesSinceAbsent_append [] h).trans (Nat.zero_add _)

theorem writesSinceAbsent_of_restores {changes : List Change} {n : Nat}
    (h : Restores changes n) : writesSinceAbsent changes = n := by
  obtain ⟨before, after, rfl, hafter, rfl⟩ := h
  rw [← List.singleton_append, ← List.append_assoc, writesSinceAbsent_append _ hafter,
    writesSinceAbsent_remove, Nat.zero_add]

/-- The version of an item that was absent at first is the number of writes. -/
theorem version_foldl_apply (changes : List Change) :
    (changes.foldl (fun item c => c.apply item) none).map (·.version) =
      if writesSinceAbsent changes = 0 then none else some (writesSinceAbsent changes) := by
  by_cases hmem : .remove ∈ changes
  · obtain ⟨n, hn⟩ := exists_restores hmem
    rw [writesSinceAbsent_of_restores hn]
    exact foldl_apply_of_restores hn none
  · rw [writesSinceAbsent_of_kept hmem]
    by_cases hnil : changes = []
    · subst hnil
      rfl
    · obtain ⟨data, hdata⟩ := foldl_apply_of_removed hmem hnil
      rw [hdata, if_neg (mt List.length_eq_zero_iff.1 hnil)]
      rfl

/-! ## Conditional writes -/

/-- A call that writes or removes one item if the etag is current. -/
inductive IsConditional (a : Address) (etag : String) : Call → Prop
  | save (value metadata options) :
      IsConditional a etag (.save ⟨a.store, [⟨a.key, value, some etag, metadata, options⟩]⟩)
  | delete (options) : IsConditional a etag (.delete ⟨a.store, a.key, some etag, options⟩)

namespace Memory

variable {m : Memory} {a : Address} {etag : String} {c d : Call}

/-- The call succeeds. -/
def Accepts (m : Memory) : Call → Prop
  | .get request => ∃ response, (get request m).1 = .ok response
  | .save request => (save request m).1 = .ok ()
  | .delete request => (delete request m).1 = .ok ()

/-- A conditional write is accepted exactly if its etag is the one that a read would give. -/
theorem accepts_iff (hc : IsConditional a etag c) :
    m.Accepts c ↔ m.faults = [] ∧ (m.items.read a).etag = some etag := by
  rw [← Items.accepts_some_iff]
  cases hc with
  | save value metadata options => exact save_single_eq_ok_iff a.store _
  | delete options => exact delete_eq_ok_iff _

/-- A conditional write that is accepted changes its item. -/
theorem changesAt_ledger_ne_nil (hc : IsConditional a etag c) (h : m.Accepts c)
    (events : List Event) : (m.ledger (.call c :: events)).changesAt a ≠ [] := by
  obtain ⟨hfaults, hetag⟩ := (accepts_iff hc).1 h
  have haccepts := Items.accepts_some_iff.2 hetag
  have hchanges : ∃ change, (Event.call c).changes m = [(a, change)] := by
    rw [Event.changes, if_pos hfaults]
    cases hc with
    | save value metadata options =>
      rw [Call.changes, Items.writeChanges, if_pos haccepts]
      exact ⟨_, rfl⟩
    | delete options =>
      rw [Call.changes, if_pos haccepts]
      exact ⟨_, rfl⟩
  obtain ⟨change, hchange⟩ := hchanges
  rw [ledger, hchange, List.singleton_append, Ledger.changesAt_cons, if_pos rfl]
  exact List.cons_ne_nil _ _

/-- After a conditional write was accepted, another one with its etag is accepted only if the item
was removed and counted up to the same version again. -/
theorem accepts_again_iff (hc : IsConditional a etag c) (hd : IsConditional a etag d)
    (h : m.Accepts c) (between : List Event) :
    (m.run (.call c :: between)).Accepts d ↔
      (m.run (.call c :: between)).faults = [] ∧ ∃ n, 0 < n ∧ etag = toString n ∧
        Restores ((m.ledger (.call c :: between)).changesAt a) n := by
  have hetag := ((accepts_iff hc).1 h).2
  rw [accepts_iff hd, ← Items.accepts_some_iff, accepts_run_iff hetag, Recurs,
    or_iff_right (changesAt_ledger_ne_nil hc h between)]

/-! ## From the start -/

/-- How often a run of an empty sidecar wrote an item since it was last absent. -/
def writesAt (events : List Event) (a : Address) : Nat :=
  writesSinceAbsent ((({} : Memory).ledger events).changesAt a)

/-- Started empty, a sidecar has the number of writes since the last absence as the version of an
item. -/
theorem version?_run (events : List Event) (a : Address) :
    (({} : Memory).run events).items.version? a =
      if writesAt events a = 0 then none else some (writesAt events a) := by
  rw [Items.version?, find?_run]
  exact version_foldl_apply _

theorem etag_run (events : List Event) (a : Address) :
    ((({} : Memory).run events).items.read a).etag =
      if writesAt events a = 0 then none else some (toString (writesAt events a)) := by
  rw [Items.read_etag, version?_run, apply_ite (Option.map toString)]
  rfl

/-- In every run of an empty sidecar the version of an item counts the writes since it was last
absent, a read brings its text as the etag, and a conditional write is accepted exactly with that
etag.  Once one was accepted, another one with the same etag is accepted only if the item was
removed, by the first one or behind it, and then written until it had the version again. -/
theorem run_versions (events : List Event) (a : Address) :
    let m := ({} : Memory).run events
    let n := writesAt events a
    m.items.version? a = (if n = 0 then none else some n) ∧
    (m.faults = [] →
      (∀ consistency, ∃ response, (get ⟨a.store, a.key, consistency⟩ m).1 = .ok response ∧
        response.etag = if n = 0 then none else some (toString n)) ∧
      ∀ etag c, IsConditional a etag c → (m.Accepts c ↔ 0 < n ∧ etag = toString n)) ∧
    ∀ etag c d between, IsConditional a etag c → IsConditional a etag d → m.Accepts c →
      let later := m.run (.call c :: between)
      let changes := (m.ledger (.call c :: between)).changesAt a
      (later.Accepts d ↔
        later.faults = [] ∧ ∃ k, 0 < k ∧ etag = toString k ∧ Restores changes k) ∧
      (.remove ∉ changes → ¬later.Accepts d) := by
  intro m n
  refine ⟨version?_run events a, fun hfaults => ⟨fun consistency => ?_, fun etag c hc => ?_⟩,
    fun etag c d between hc hd h => ⟨accepts_again_iff hc hd h between, fun hkept => ?_⟩⟩
  · rw [get_of_faults_eq_nil hfaults]
    exact ⟨_, rfl, etag_run events a⟩
  · rw [accepts_iff hc, and_iff_right hfaults, etag_run events a]
    split
    case isTrue hzero => exact iff_of_false nofun fun h => Nat.ne_of_gt h.1 hzero
    case isFalse hne =>
      rw [Option.some_inj, eq_comm, and_iff_right (Nat.pos_of_ne_zero hne)]
  · rw [accepts_again_iff hc hd h between]
    rintro ⟨-, k, -, -, before, after, hchanges, -⟩
    exact hkept (hchanges ▸ by simp)

/-- Two writes after a delete make the version `2`, and a save with it makes it the last one. -/
theorem run_versions_rewritten :
    let m := ({} : Memory).run [.putRaw ⟨"s", "k"⟩ [49],
      .call (.delete ⟨"s", "k", none, none⟩), .putRaw ⟨"s", "k"⟩ [50], .putRaw ⟨"s", "k"⟩ [51]]
    let c : Call := .save ⟨"s", [⟨"k", some [52], some "2", none, none⟩]⟩
    m.faults = [] ∧ m.items.version? ⟨"s", "k"⟩ = some 2 ∧ m.Accepts c ∧
      ¬(m.run [.call c]).Accepts (.delete ⟨"s", "k", some "2", none⟩) := by
  intro m c
  obtain ⟨hversion, hnow, hlater⟩ := run_versions [.putRaw ⟨"s", "k"⟩ [49],
    .call (.delete ⟨"s", "k", none, none⟩), .putRaw ⟨"s", "k"⟩ [50], .putRaw ⟨"s", "k"⟩ [51]]
    ⟨"s", "k"⟩
  have haccepted : m.Accepts c :=
    ((hnow rfl).2 "2" c (.save (some [52]) none none)).2 (by decide)
  have hagain := hlater "2" c (.delete ⟨"s", "k", some "2", none⟩) []
    (.save (some [52]) none none) (.delete none) haccepted
  exact ⟨rfl, hversion, haccepted, hagain.2 (by decide)⟩

/-- An item of the version `1` that a delete with its etag removed may be deleted with the same etag
again once it was put back, though nothing but that happened in between. -/
theorem accepts_recreated :
    let m := ({} : Memory).run [.putRaw ⟨"s", "k"⟩ [49]]
    let c : Call := .delete ⟨"s", "k", some "1", none⟩
    IsConditional ⟨"s", "k"⟩ "1" c ∧ m.Accepts c ∧
      .remove ∉ ((m.run [.call c]).ledger [.putRaw ⟨"s", "k"⟩ [50]]).changesAt ⟨"s", "k"⟩ ∧
      (m.run [.call c, .putRaw ⟨"s", "k"⟩ [50]]).Accepts c :=
  ⟨.delete none, rfl, by decide, rfl⟩

end Memory

end Sidecar.State
