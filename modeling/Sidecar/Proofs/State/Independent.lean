import Sidecar.Proofs.State.Atomic
import Sidecar.Proofs.State.Batch

/-!
# Operations on different items

What is done to one item depends on that item alone, and all other items stay as they are.  So two
operations on different items do not see each other: each of them comes to the same whichever is
first, and so do the items, be they accepted or refused.

The main result is `Single.perform_comm`.
-/

namespace Sidecar.State

variable {β γ : Type} {a b : Address} {key : String}

/-- Two operations one after the other. -/
def inTurn (first : StateM Memory β) (second : StateM Memory γ) : StateM Memory (β × γ) := do
  let x ← first
  let y ← second
  return (x, y)

/-- While no fault is queued, the action depends on the item at the address alone and changes no
other item.  It queues no fault itself. -/
structure Confined (a : Address) (action : StateM Memory β) : Prop where
  faults (m : Memory) (h : m.faults = []) : (action m).2.faults = []
  result {m n : Memory} (hm : m.faults = []) (hn : n.faults = [])
    (h : m.items.find? a = n.items.find? a) : (action m).1 = (action n).1
  here {m n : Memory} (hm : m.faults = []) (hn : n.faults = [])
    (h : m.items.find? a = n.items.find? a) :
    (action m).2.items.find? a = (action n).2.items.find? a
  elsewhere (m : Memory) (hm : m.faults = []) {b : Address} (h : b ≠ a) :
    (action m).2.items.find? b = m.items.find? b

/-- Doing nothing is confined to any item. -/
theorem confined_idle (a : Address) (x : β) :
    Confined a (fun m => (x, m) : StateM Memory β) where
  faults _ hm := hm
  result _ _ _ := rfl
  here _ _ h := h
  elsewhere _ _ _ _ := rfl

/-- What is made of the result does not matter. -/
theorem Confined.map {action : StateM Memory β} (h : Confined a action) (f : β → γ) :
    Confined a (fun m => (f (action m).1, (action m).2) : StateM Memory γ) where
  faults := h.faults
  result hm hn hitem := congrArg f (h.result hm hn hitem)
  here := h.here
  elsewhere := h.elsewhere

/-! ## Changing places -/

section Confined

variable {m : Memory} {first : StateM Memory β} {second : StateM Memory γ}

/-- An action does not see what was done to another item before. -/
theorem Confined.after (hfirst : Confined a first) (hsecond : Confined b second) (h : a ≠ b)
    (hm : m.faults = []) :
    (first (second m).2).1 = (first m).1 ∧
      (first (second m).2).2.items.find? a = (first m).2.items.find? a := by
  have hfaults := hsecond.faults m hm
  have hitem := hsecond.elsewhere m hm h
  exact ⟨hfirst.result hfaults hm hitem, hfirst.here hfaults hm hitem⟩

/-- Two actions on different items leave the same items in either order. -/
theorem Confined.find?_comm (hfirst : Confined a first) (hsecond : Confined b second) (h : a ≠ b)
    (hm : m.faults = []) (c : Address) :
    (second (first m).2).2.items.find? c = (first (second m).2).2.items.find? c := by
  have hfaults := hfirst.faults m hm
  have hfaults' := hsecond.faults m hm
  by_cases hca : c = a
  · subst hca
    rw [hsecond.elsewhere _ hfaults h, (hfirst.after hsecond h hm).2]
  · rw [hfirst.elsewhere _ hfaults' hca]
    by_cases hcb : c = b
    · subst hcb
      exact (hsecond.after hfirst h.symm hm).2
    · rw [hsecond.elsewhere _ hfaults hcb, hfirst.elsewhere m hm hca, hsecond.elsewhere m hm hcb]

/-- Two actions on different items come to the same in either order, with their results changed
around. -/
theorem Confined.inTurn_comm (hfirst : Confined a first) (hsecond : Confined b second)
    (h : a ≠ b) (hm : m.faults = []) :
    (inTurn first second m).1 = (inTurn second first m).1.swap ∧
      ∀ c, (inTurn first second m).2.items.find? c = (inTurn second first m).2.items.find? c := by
  constructor
  · apply Prod.ext
    · exact (hfirst.after hsecond h hm).1.symm
    · exact (hsecond.after hfirst h.symm hm).1
  · exact hfirst.find?_comm hsecond h hm

end Confined

/-! ## Calls for one item -/

namespace Items

variable {items others : Items}

theorem accepts_congr (h : items.find? a = others.find? a) (etag : Option String) :
    items.accepts a etag = others.accepts a etag := by
  cases etag with
  | none => rfl
  | some etag => rw [accepts, accepts, h]

theorem read_congr (h : items.find? a = others.find? a) : items.read a = others.read a := by
  rw [read, read, h]

end Items

/-- What a call changes depends on its item. -/
theorem Call.changes_congr {c : Call} {items others : Items} (hkey : c.keys = [key])
    (h : items.find? ⟨c.store, key⟩ = others.find? ⟨c.store, key⟩) :
    c.changes items = c.changes others := by
  cases c with
  | get => rfl
  | save request =>
    obtain ⟨store, batch⟩ := request
    obtain ⟨item, rfl, rfl⟩ := List.map_eq_singleton_iff.1 hkey
    have haccepts : items.accepts ⟨store, item.key⟩ item.etag =
        others.accepts ⟨store, item.key⟩ item.etag := Items.accepts_congr h _
    simp only [changes, Items.writeChanges, haccepts]
  | delete request =>
    obtain rfl := List.singleton_inj.1 hkey
    have haccepts : items.accepts ⟨request.store, request.key⟩ request.etag =
        others.accepts ⟨request.store, request.key⟩ request.etag := Items.accepts_congr h _
    simp only [changes, haccepts]

namespace Memory

variable {m n : Memory} {c : Call}

theorem make_fst_congr (hkey : c.keys = [key]) (hm : m.faults = []) (hn : n.faults = [])
    (h : m.items.find? ⟨c.store, key⟩ = n.items.find? ⟨c.store, key⟩) :
    (transport.make c m).1 = (transport.make c n).1 := by
  cases c with
  | get request =>
    obtain rfl := List.singleton_inj.1 hkey
    have hread : m.items.read ⟨request.store, request.key⟩ =
        n.items.read ⟨request.store, request.key⟩ := Items.read_congr h
    change (get request m).1 = (get request n).1
    rw [get_of_faults_eq_nil hm, get_of_faults_eq_nil hn, hread]
  | save request =>
    obtain ⟨store, batch⟩ := request
    obtain ⟨item, rfl, rfl⟩ := List.map_eq_singleton_iff.1 hkey
    change (save ⟨store, [item]⟩ m).1 = (save ⟨store, [item]⟩ n).1
    rw [save_of_faults_eq_nil hm, save_of_faults_eq_nil hn]
    by_cases haccepts : m.items.accepts ⟨store, item.key⟩ item.etag
    · rw [Items.writeAll_of_accepts haccepts,
        Items.writeAll_of_accepts (Items.accepts_congr h item.etag ▸ haccepts)]
      rfl
    · rw [Items.writeAll_of_not_accepts haccepts,
        Items.writeAll_of_not_accepts (Items.accepts_congr h item.etag ▸ haccepts)]
  | delete request =>
    obtain rfl := List.singleton_inj.1 hkey
    change (delete request m).1 = (delete request n).1
    by_cases haccepts : m.items.accepts ⟨request.store, request.key⟩ request.etag
    · rw [delete_of_accepts hm haccepts,
        delete_of_accepts hn (Items.accepts_congr h request.etag ▸ haccepts)]
    · rw [delete_of_not_accepts hm haccepts,
        delete_of_not_accepts hn (Items.accepts_congr h request.etag ▸ haccepts)]

theorem faults_make (hm : m.faults = []) (c : Call) : (transport.make c m).2.faults = [] := by
  cases c with
  | get request =>
    change (get request m).2.faults = []
    rw [get_of_faults_eq_nil hm]
    exact hm
  | save request =>
    change (save request m).2.faults = []
    rw [save_of_faults_eq_nil hm]
    exact hm
  | delete request =>
    change (delete request m).2.faults = []
    by_cases haccepts : m.items.accepts ⟨request.store, request.key⟩ request.etag
    · rw [delete_of_accepts hm haccepts]
      exact hm
    · rw [delete_of_not_accepts hm haccepts]
      exact hm

theorem confined_make (hkey : c.keys = [key]) :
    Confined ⟨c.store, key⟩ (transport.make c : Memory → Except Error c.Answer × Memory) where
  faults m hm := faults_make hm c
  result hm hn h := make_fst_congr hkey hm hn h
  here {m n} hm hn h := by
    rw [items_make, items_make, Event.changes, Event.changes, if_pos hm, if_pos hn,
      Call.changes_congr hkey h, Items.find?_changeAll, Items.find?_changeAll, h]
  elsewhere m hm b hb := by
    rw [items_make]
    rcases changes_of_key hkey m with hnone | ⟨-, change, hchange⟩
    · rw [hnone]
      rfl
    · rw [hchange]
      exact (Items.find?_change _ _ _ _).trans (if_neg hb)

/-- Data put in place are confined to their address. -/
theorem confined_putRaw (a : Address) (data : Bytes) :
    Confined a (fun m => ((), m.putRaw a data) : StateM Memory Unit) where
  faults _ hm := hm
  result _ _ _ := rfl
  here {m n} _ _ h := by
    change (m.items.put a data).find? a = (n.items.put a data).find? a
    rw [Items.put_eq_change, Items.put_eq_change, Items.find?_change, Items.find?_change, h]
  elsewhere m _ b hb := by
    change (m.items.put a data).find? b = _
    rw [Items.put_eq_change, Items.find?_change, if_neg hb]

end Memory

/-- An instruction for one item does what its call does, unless there is an empty name. -/
theorem Instruction.confined_perform {i : Instruction β} (hkey : i.call.keys = [key]) :
    Confined ⟨i.call.store, key⟩
      (i.perform Memory.transport : Memory → Except Error β × Memory) := by
  cases hname : emptyName? i.call.store i.call.keys with
  | some name =>
    have hperform := funext (perform_of_emptyName? hname Memory.transport)
    rw [hperform]
    exact confined_idle _ _
  | none =>
    have hperform := funext (perform_of_names hname Memory.transport)
    rw [hperform]
    exact (Memory.confined_make hkey).map i.outcome

/-! ## All operations on one item -/

/-- What can be done to one item of a sidecar in memory, and the type of what comes of it. -/
inductive Single : Type → Type 1 where
  | get (request : GetRequest) : Single (Except Error GetResponse)
  /-- Without a value the item is cleared. -/
  | save (store : String) (item : Item) : Single (Except Error Unit)
  | delete (request : DeleteRequest) : Single (Except Error Unit)
  | putRaw (a : Address) (data : Bytes) : Single Unit
  /-- What a client is told to do, if that is not a save of several items. -/
  | instruct {β : Type} (i : Instruction β) (key : String) (h : i.call.keys = [key]) :
      Single (Except Error β)

namespace Single

def address : Single β → Address
  | .get request => ⟨request.store, request.key⟩
  | .save store item => ⟨store, item.key⟩
  | .delete request => ⟨request.store, request.key⟩
  | .putRaw a _ => a
  | .instruct i key _ => ⟨i.call.store, key⟩

def perform : Single β → StateM Memory β
  | .get request => Memory.get request
  | .save store item => Memory.save ⟨store, [item]⟩
  | .delete request => Memory.delete request
  | .putRaw a data => fun m => ((), m.putRaw a data)
  | .instruct i _ _ => i.perform Memory.transport

theorem confined_perform (s : Single β) : Confined s.address s.perform := by
  cases s with
  | get request => exact Memory.confined_make (c := .get request) rfl
  | save store item => exact Memory.confined_make (c := .save ⟨store, [item]⟩) rfl
  | delete request => exact Memory.confined_make (c := .delete request) rfl
  | putRaw a data => exact Memory.confined_putRaw a data
  | instruct i key h => exact Instruction.confined_perform h

/-- Two operations on different items may change places: each of them comes to the same, and every
item has the same data and version in the end.  Nothing is said of which of them are accepted. -/
theorem perform_comm (first : Single β) (second : Single γ) (h : first.address ≠ second.address)
    {m : Memory} (hm : m.faults = []) :
    let forth := inTurn first.perform second.perform m
    let back := inTurn second.perform first.perform m
    forth.1 = back.1.swap ∧ ∀ a, forth.2.items.find? a = back.2.items.find? a :=
  first.confined_perform.inTurn_comm second.confined_perform h hm

/-- A save that is refused and a delete that is not, in one store. -/
theorem perform_comm_refused :
    let m := (({} : Memory).putRaw ⟨"s", "k"⟩ [49]).putRaw ⟨"s", "l"⟩ [50]
    let first : Single (Except Error Unit) := .save "s" ⟨"k", some [51], some "7", none, none⟩
    let second : Single (Except Error Unit) := .delete ⟨"s", "l", some "1", none⟩
    let forth := inTurn first.perform second.perform m
    let back := inTurn second.perform first.perform m
    first.address ≠ second.address ∧ m.faults = [] ∧
      back.1 = (.ok (), .error Items.mismatch) ∧ forth.1 = (.error Items.mismatch, .ok ()) ∧
      forth.2.items.find? ⟨"s", "k"⟩ = back.2.items.find? ⟨"s", "k"⟩ ∧
      forth.2.items.find? ⟨"s", "l"⟩ = back.2.items.find? ⟨"s", "l"⟩ := by
  intro m first second forth back
  have haddress : first.address ≠ second.address := by decide
  obtain ⟨hresults, hitems⟩ := perform_comm first second haddress (m := m) rfl
  exact ⟨haddress, rfl, rfl, hresults, hitems _, hitems _⟩

end Single

end Sidecar.State
