import Sidecar.Proofs.State.Client

/-!
# What happens to the items of a sidecar in memory

An event is a call of a client, data put in place behind the clients' backs, or a fault that is
queued.  The changes that events make to single items stand in a ledger, and the items after a run
are those before it with the changes made one after the other.  What becomes of an item depends only
on the changes at its own address.

The main results are `Memory.items_run` and `Memory.find?_run`.
-/

namespace Sidecar.State

/-! ## Changes -/

inductive Change where
  | put (data : Bytes)
  | remove
deriving DecidableEq, Repr

/-- What becomes of an item, if there is one. -/
def Change.apply : Change → Option Versioned → Option Versioned
  | .put data, none => some ⟨data, 1⟩
  | .put data, some item => some ⟨data, item.version + 1⟩
  | .remove, _ => none

/-- Changes where they were made, oldest first. -/
abbrev Ledger := List (Address × Change)

/-- The changes at an address. -/
def Ledger.changesAt (l : Ledger) (a : Address) : List Change :=
  (l.filter fun change => change.1 = a).map (·.2)

namespace Ledger

variable (l : Ledger) (a b : Address) (change : Change)

theorem changesAt_cons :
    changesAt ((b, change) :: l) a = if b = a then change :: l.changesAt a else l.changesAt a := by
  by_cases h : b = a <;> simp [changesAt, h]

end Ledger

namespace Items

def change (items : Items) (a : Address) (change : Change) : Items :=
  items.set a (change.apply (items.find? a))

def changeAll (items : Items) (l : Ledger) : Items :=
  l.foldl (fun items c => items.change c.1 c.2) items

/-- Data put in place are a change like any other. -/
theorem put_eq_change (items : Items) (a : Address) (data : Bytes) :
    items.put a data = items.change a (.put data) := by
  unfold put change nextVersion
  cases items.find? a <;> rfl

/-- A change is seen at its own address, and nowhere else. -/
theorem find?_change (items : Items) (a b : Address) (c : Change) :
    (items.change a c).find? b = if b = a then c.apply (items.find? a) else items.find? b :=
  find?_set items a b _

/-- Only the changes at its own address matter to an item. -/
theorem find?_changeAll (items : Items) (l : Ledger) (a : Address) :
    (items.changeAll l).find? a =
      (l.changesAt a).foldl (fun item c => c.apply item) (items.find? a) := by
  induction l generalizing items with
  | nil => rfl
  | cons head rest ih =>
    obtain ⟨b, c⟩ := head
    rw [changeAll, List.foldl_cons, ← changeAll, ih, find?_change, Ledger.changesAt_cons]
    by_cases h : b = a
    · subst h
      simp
    · rw [if_neg (Ne.symm h), if_neg h]

end Items

/-! ## Events -/

def Item.change (item : Item) : Change :=
  match item.value with
  | some data => .put data
  | none => .remove

/-- The changes that writing items makes, up to the first that is refused. -/
def Items.writeChanges (store : String) : Items → List Item → Ledger
  | _, [] => []
  | items, item :: rest =>
    let a : Address := ⟨store, item.key⟩
    if items.accepts a item.etag then
      (a, item.change) :: (items.change a item.change).writeChanges store rest
    else []

def Call.changes (items : Items) : Call → Ledger
  | .get _ => []
  | .save request => items.writeChanges request.store request.items
  | .delete request =>
    if items.accepts ⟨request.store, request.key⟩ request.etag then
      [(⟨request.store, request.key⟩, .remove)]
    else []

/-- What is done to a sidecar in one go. -/
inductive Event where
  | call (c : Call)
  | putRaw (a : Address) (data : Bytes)
  | failNext (status : Nat)
deriving DecidableEq, Repr

namespace Event

def perform (m : Memory) : Event → Memory
  | .call (.get request) => (Memory.get request m).2
  | .call (.save request) => (Memory.save request m).2
  | .call (.delete request) => (Memory.delete request m).2
  | .putRaw a data => m.putRaw a data
  | .failNext status => m.failNext status

/-- A call that a queued fault answers changes nothing. -/
def changes (m : Memory) : Event → Ledger
  | .call c => if m.faults = [] then c.changes m.items else []
  | .putRaw a data => [(a, .put data)]
  | .failNext _ => []

end Event

namespace Items

variable {items : Items} {store : String} {item : Item} {rest : List Item}

theorem write_of_accepts (h : items.accepts ⟨store, item.key⟩ item.etag) :
    items.write store item = .ok (items.change ⟨store, item.key⟩ item.change) := by
  unfold write Item.change
  rw [if_pos h]
  cases item.value with
  | none => rfl
  | some data => exact congrArg Except.ok (put_eq_change _ _ _)

theorem write_of_not_accepts (h : ¬items.accepts ⟨store, item.key⟩ item.etag) :
    items.write store item = .error mismatch := if_neg h

/-- A batch makes the changes of the items before the first that is refused. -/
theorem items_writeAll (items : Items) (store : String) (batch : List Item) :
    (items.writeAll store batch).2 = items.changeAll (items.writeChanges store batch) := by
  induction batch generalizing items with
  | nil => rfl
  | cons item rest ih =>
    unfold writeAll writeChanges
    by_cases h : items.accepts ⟨store, item.key⟩ item.etag
    · rw [write_of_accepts h, if_pos h]
      exact ih _
    · rw [write_of_not_accepts h, if_neg h]
      rfl

end Items

namespace Memory

variable {m : Memory}

/-- The sidecar once it has recorded a call. -/
def recorded (m : Memory) (c : Call) : Memory := { m with calls := c :: m.calls }

theorem record_of_faults_eq_nil (h : m.faults = []) (c : Call) :
    record c m = (.ok (), m.recorded c) := by
  obtain ⟨items, faults, calls⟩ := m
  subst h
  rfl

/-- A fault in the queue answers the call, which is recorded all the same. -/
theorem record_of_fault {status : Nat} {faults : List Nat} (h : m.faults = status :: faults)
    (c : Call) :
    record c m = (.error (.remoteFault status "injected"), { m.recorded c with faults }) := by
  obtain ⟨items, queue, calls⟩ := m
  subst h
  rfl

theorem perform_call_of_fault {status : Nat} {faults : List Nat}
    (h : m.faults = status :: faults) (c : Call) :
    (Event.call c).perform m = { m.recorded c with faults } := by
  have hrecord := record_of_fault h c
  cases c with
  | get request => rw [Event.perform, get, Action.bind_of_error hrecord]
  | save request => rw [Event.perform, save, Action.bind_of_error hrecord]
  | delete request => rw [Event.perform, delete, Action.bind_of_error hrecord]

/-! ## Calls that no fault answers -/

theorem get_of_faults_eq_nil (h : m.faults = []) (request : GetRequest) :
    get request m =
      (.ok (m.items.read ⟨request.store, request.key⟩), m.recorded (.get request)) :=
  Action.bind_of_ok (record_of_faults_eq_nil h _)

theorem save_of_faults_eq_nil (h : m.faults = []) (request : SaveRequest) :
    save request m =
      ((m.items.writeAll request.store request.items).1,
        { m.recorded (.save request) with
          items := m.items.changeAll (m.items.writeChanges request.store request.items) }) := by
  rw [← Items.items_writeAll]
  exact Action.bind_of_ok (record_of_faults_eq_nil h _)

/-- A delete with a current etag, or with none, removes the item. -/
theorem delete_of_accepts (h : m.faults = []) {request : DeleteRequest}
    (haccepts : m.items.accepts ⟨request.store, request.key⟩ request.etag) :
    delete request m =
      (.ok (), { m.recorded (.delete request) with
        items := m.items.change ⟨request.store, request.key⟩ .remove }) := by
  rw [delete, Action.bind_of_ok (record_of_faults_eq_nil h _), recorded, Items.delete,
    if_pos haccepts]
  rfl

/-- A delete with a stale etag is refused, and nothing is removed. -/
theorem delete_of_not_accepts (h : m.faults = []) {request : DeleteRequest}
    (haccepts : ¬m.items.accepts ⟨request.store, request.key⟩ request.etag) :
    delete request m = (.error Items.mismatch, m.recorded (.delete request)) := by
  rw [delete, Action.bind_of_ok (record_of_faults_eq_nil h _), recorded, Items.delete,
    if_neg haccepts]

/-! ## Runs -/

theorem items_perform_call (h : m.faults = []) (c : Call) :
    ((Event.call c).perform m).items = m.items.changeAll (c.changes m.items) := by
  cases c with
  | get request => rw [Event.perform, get_of_faults_eq_nil h]; rfl
  | save request => rw [Event.perform, save_of_faults_eq_nil h]; rfl
  | delete request =>
    by_cases haccepts : m.items.accepts ⟨request.store, request.key⟩ request.etag
    · rw [Event.perform, delete_of_accepts h haccepts, Call.changes, if_pos haccepts]
      rfl
    · rw [Event.perform, delete_of_not_accepts h haccepts, Call.changes, if_neg haccepts]
      rfl

/-- The ledger of an event says what it does to the items. -/
theorem items_perform (m : Memory) (e : Event) :
    (e.perform m).items = m.items.changeAll (e.changes m) := by
  cases e with
  | failNext => rfl
  | putRaw a data => exact Items.put_eq_change _ _ _
  | call c =>
    cases hfaults : m.faults with
    | nil => rw [items_perform_call hfaults, Event.changes, if_pos hfaults]
    | cons status faults =>
      rw [perform_call_of_fault hfaults, Event.changes, hfaults, if_neg (List.cons_ne_nil _ _)]
      rfl

def run (m : Memory) (events : List Event) : Memory := events.foldl Event.perform m

/-- The changes of all events of a run. -/
def ledger : Memory → List Event → Ledger
  | _, [] => []
  | m, e :: events => e.changes m ++ (e.perform m).ledger events

/-- After a run the items are those before it with all changes of the ledger, in order. -/
theorem items_run (m : Memory) (events : List Event) :
    (m.run events).items = m.items.changeAll (m.ledger events) := by
  induction events generalizing m with
  | nil => rfl
  | cons e events ih =>
    rw [run, List.foldl_cons, ← run, ih, items_perform, ledger, Items.changeAll, Items.changeAll,
      Items.changeAll, List.foldl_append]

/-- What becomes of one item is said by the changes at its address. -/
theorem find?_run (m : Memory) (events : List Event) (a : Address) :
    (m.run events).items.find? a =
      ((m.ledger events).changesAt a).foldl (fun item c => c.apply item) (m.items.find? a) := by
  rw [items_run, Items.find?_changeAll]

/-- What a client does is an event at most. -/
theorem exists_run_of_operation {α : Type} {action : Action Memory α}
    (h : transport.Operation action) (m : Memory) :
    ∃ events : List Event, events.length ≤ 1 ∧ (action m).2 = m.run events := by
  rcases h.calls m with hnone | ⟨c, hcall⟩
  · exact ⟨[], Nat.zero_le _, hnone⟩
  · refine ⟨[.call c], Nat.le_refl _, hcall.trans ?_⟩
    cases c <;> rfl

end Memory

end Sidecar.State
