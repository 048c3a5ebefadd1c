import Sidecar.Proofs.State.Instruction
import Sidecar.Proofs.State.Versions

/-!
# All or nothing

An instruction for one item makes one change at most, at its own address, and makes it only if it
reports success.  Whatever goes wrong on the way, from an empty name to a payload that cannot be
read, the stored items are those that were there before.

The main result is `Instruction.single_all_or_nothing`.
-/

namespace Sidecar.State

variable {σ β : Type} {key : String}

/-! ## Calls for one item -/

namespace Memory

variable {c : Call}

theorem changes_get (request : GetRequest) (m : Memory) :
    (Event.call (.get request)).changes m = [] := by
  rw [Event.changes]
  split
  · rfl
  · rfl

/-- A call for one item that changes anything succeeds, and changes that item once. -/
theorem changes_of_key (h : c.keys = [key]) (m : Memory) :
    (Event.call c).changes m = [] ∨
      m.Accepts c ∧ ∃ change, (Event.call c).changes m = [(⟨c.store, key⟩, change)] := by
  by_cases hfaults : m.faults = []
  case neg => exact .inl (if_neg hfaults)
  case pos =>
    rw [Event.changes, if_pos hfaults]
    cases c with
    | get => exact .inl rfl
    | save request =>
      obtain ⟨store, items⟩ := request
      obtain ⟨item, rfl, rfl⟩ := List.map_eq_singleton_iff.1 h
      rw [Call.changes, Items.writeChanges]
      split
      case isTrue haccepts =>
        exact .inr ⟨(save_single_eq_ok_iff store item).2 ⟨hfaults, haccepts⟩, item.change, rfl⟩
      case isFalse => exact .inl rfl
    | delete request =>
      obtain rfl := List.singleton_inj.1 h
      rw [Call.changes]
      split
      case isTrue haccepts =>
        exact .inr ⟨(delete_eq_ok_iff request).2 ⟨hfaults, haccepts⟩, .remove, rfl⟩
      case isFalse => exact .inl rfl

theorem items_make (m : Memory) (c : Call) :
    (transport.make c m).2.items = m.items.changeAll ((Event.call c).changes m) := by
  rw [make_snd, items_perform]

end Memory

/-! ## Results -/

def Failed (result : Except Error β) : Prop := ∃ e, result = .error e

/-- A failure, or the answer that the etag was refused. -/
def Refused (result : Except Error Bool) : Prop := Failed result ∨ result = .ok false

theorem not_failed_of_ok {result : Except Error β} {b : β} (h : result = .ok b) :
    ¬Failed result := by
  rintro ⟨e, he⟩
  cases h.symm.trans he

/-- Only a failure is softened to a refusal, or stays one. -/
theorem refused_softened_iff {result : Except Error Unit} :
    Refused (softened result) ↔ Failed result := by
  cases result with
  | ok =>
    refine iff_of_false ?_ (not_failed_of_ok rfl)
    rintro (hfailed | hrefused)
    · exact not_failed_of_ok rfl hfailed
    · cases hrefused
  | error e =>
    refine iff_of_true ?_ ⟨e, rfl⟩
    rw [softened]
    split
    · exact .inr rfl
    · exact .inl ⟨e, rfl⟩

namespace Instruction

/-- Several items in one request. -/
def isBulk : Instruction β → Bool
  | .saveItems .. => true
  | _ => false

theorem exists_key {i : Instruction β} (h : i.isBulk = false) : ∃ key, i.call.keys = [key] := by
  cases i with
  | saveItems => cases h
  | _ => exact ⟨_, rfl⟩

/-- The results by which an instruction reports that nothing was done. -/
def undone : Instruction β → Except Error β → Prop
  | .trySaveValue .. | .tryDeleteValue .. | .trySaveEntry .. | .tryDeleteEntry .. => Refused
  | _ => Failed

/-- A write that is accepted is not reported as undone. -/
theorem not_undone_outcome (i : Instruction β) {m : Memory} (h : m.Accepts i.call)
    (hwrites : ∀ request, i.call ≠ .get request) :
    ¬i.undone (i.outcome (Memory.transport.make i.call m).1) := by
  cases i with
  | getValue | getWithEtag | getEntry => exact absurd rfl (hwrites _)
  | saveValue | saveItems | saveEntry | deleteValue | deleteEntry => exact not_failed_of_ok h
  | trySaveValue | trySaveEntry | tryDeleteValue | tryDeleteEntry =>
    exact mt refused_softened_iff.1 (not_failed_of_ok h)

end Instruction

/-! ## Actions -/

/-- The action changes nothing unless it succeeds, and then only the item at the address; `undone`
are the results by which it reports that nothing was done. -/
structure AllOrNothing (a : Address) (undone : Except Error β → Prop)
    (action : Action Memory β) : Prop where
  nothing (m : Memory) (h : undone (action m).1) : (action m).2.items = m.items
  elsewhere (m : Memory) {b : Address} (h : b ≠ a) :
    (action m).2.items.find? b = m.items.find? b

namespace Instruction

/-- An instruction for one item does nothing to the items, or it changes that item and reports
success. -/
theorem items_perform_cases {i : Instruction β} (h : i.call.keys = [key]) (m : Memory) :
    (i.perform Memory.transport m).2.items = m.items ∨
      ¬i.undone (i.perform Memory.transport m).1 ∧
        ∃ change, (i.perform Memory.transport m).2.items =
          m.items.change ⟨i.call.store, key⟩ change := by
  cases hname : emptyName? i.call.store i.call.keys with
  | some name =>
    rw [perform_of_emptyName? hname]
    exact .inl rfl
  | none =>
    rw [perform_of_names hname, Memory.items_make]
    rcases Memory.changes_of_key h m with hnone | ⟨haccepts, change, hchange⟩
    · rw [hnone]
      exact .inl rfl
    · refine .inr ⟨not_undone_outcome i haccepts fun request hget => ?_, change, ?_⟩
      · rw [hget, Memory.changes_get] at hchange
        cases hchange
      · rw [hchange]
        rfl

theorem allOrNothing_perform {i : Instruction β} (h : i.call.keys = [key]) :
    AllOrNothing ⟨i.call.store, key⟩ i.undone (i.perform Memory.transport) where
  nothing m hundone := by
    rcases items_perform_cases h m with hitems | ⟨hdone, -⟩
    · exact hitems
    · exact absurd hundone hdone
  elsewhere m b hb := by
    rcases items_perform_cases h m with hitems | ⟨-, change, hitems⟩
    · rw [hitems]
    · rw [hitems, Items.find?_change, if_neg hb]

/-- A read changes nothing, even if the payload cannot be read. -/
theorem items_perform_read {i : Instruction β} {request : GetRequest} (h : i.call = .get request)
    (m : Memory) : (i.perform Memory.transport m).2.items = m.items := by
  cases hname : emptyName? i.call.store i.call.keys with
  | some name => rw [perform_of_emptyName? hname]
  | none =>
    rw [perform_of_names hname, Memory.items_make, h, Memory.changes_get]
    rfl

end Instruction

/-! ## Values of any type -/

theorem AllOrNothing.soften {a : Address} {action : Action Memory Unit}
    (h : AllOrNothing a Failed action) : AllOrNothing a Refused (soften action) where
  nothing m hrefused := by
    rw [soften_eq] at hrefused ⊢
    exact h.nothing m (refused_softened_iff.1 hrefused)
  elsewhere m b hb := by
    rw [soften_snd]
    exact h.elsewhere m hb

/-- What is encoded is saved as an item of its own. -/
theorem Transport.writeEncoded_of_ok (t : Transport σ) (store key : String) (data : Option Bytes)
    (etag : Option String) (options : Option StateOptions) (metadata : Option Metadata) :
    t.writeEncoded store key (data.map .ok) etag options metadata =
      t.saveItems store [⟨key, data, etag, metadata, options⟩] := by
  unfold writeEncoded
  rw [encodedData_map_ok, saveItems_eq]
  exact requireAddress_bind _ store key

/-- A save of a value of any type does nothing unless it succeeds, also where the value cannot be
encoded. -/
theorem allOrNothing_writeEncoded (store key : String) (value : Option (Except Error Bytes))
    (etag : Option String) (options : Option StateOptions) (metadata : Option Metadata) :
    AllOrNothing ⟨store, key⟩ Failed
      (Memory.transport.writeEncoded store key value etag options metadata) := by
  have hsaved (data : Option Bytes) : AllOrNothing ⟨store, key⟩ Failed
      (Memory.transport.writeEncoded store key (data.map .ok) etag options metadata) := by
    rw [Transport.writeEncoded_of_ok]
    exact Instruction.allOrNothing_perform
      (i := .saveItems store [⟨key, data, etag, metadata, options⟩]) rfl
  match value with
  | none => exact hsaved none
  | some (.ok bytes) => exact hsaved (some bytes)
  | some (.error e) =>
    rw [Transport.writeEncoded_of_error]
    have hsame (m : Memory) : (guarded store [key] (fun s => (.error e, s)) m :
        Except Error Unit × Memory).2 = m := by
      unfold guarded
      split
      · rfl
      · rfl
    exact ⟨fun m _ => congrArg Memory.items (hsame m), fun m b _ => by rw [hsame]⟩

/-! ## Single operations -/

namespace Instruction

/-- Every instruction but a save of several items is for one item.  If it fails or says that an etag
was refused, all items are as they were, data and versions; if it succeeds, all but that one are.
Reads change nothing in any case.  The same goes for writes of values of any type, which may also
fail because a value cannot be encoded. -/
theorem single_all_or_nothing :
    (∀ {β : Type} (i : Instruction β), i.isBulk = false →
      ∃ key, i.call.keys = [key] ∧
        AllOrNothing ⟨i.call.store, key⟩ i.undone (i.perform Memory.transport)) ∧
    (∀ {β : Type} (i : Instruction β) (request : GetRequest), i.call = .get request →
      ∀ m : Memory, (i.perform Memory.transport m).2.items = m.items) ∧
    ∀ store key etag options metadata,
      (∀ value, Memory.transport.write store key value etag options metadata =
        Memory.transport.writeEncoded store key (value.map fun v => .ok (encodeValue v))
          etag options metadata) ∧
      ∀ value,
        let write := Memory.transport.writeEncoded store key value etag options metadata
        AllOrNothing ⟨store, key⟩ Failed write ∧
          AllOrNothing ⟨store, key⟩ Refused (soften write) := by
  refine ⟨fun i hsingle => ?_, fun i request hget => items_perform_read hget,
    fun store key etag options metadata => ⟨fun value => ?_, fun value => ?_⟩⟩
  · obtain ⟨key, hkey⟩ := exists_key hsingle
    exact ⟨key, hkey, allOrNothing_perform hkey⟩
  · rfl
  · have hwrite := allOrNothing_writeEncoded store key value etag options metadata
    exact ⟨hwrite, hwrite.soften⟩

/-- A save with the etag of an earlier version is refused, and a payload that breaks off cannot be
read; the item stays what it is, and so it does where a value cannot be encoded. -/
theorem single_all_or_nothing_refused :
    let m := (({} : Memory).putRaw ⟨"s", "k"⟩ [91]).putRaw ⟨"s", "k"⟩ [123]
    let save : Instruction Bool := .trySaveValue "s" "k" (some .null) (some "1") none none
    let read : Instruction (Option Json) := .getValue Json.readAny "s" "k" none
    let write := Memory.transport.writeEncoded "s" "k"
      (some (.error (.serialization ⟨.keyMustBeString, 0, 0⟩))) none none none
    (save.isBulk = false ∧ (save.perform Memory.transport m).1 = .ok false ∧
      (save.perform Memory.transport m).2.items = m.items) ∧
    (Failed (read.perform Memory.transport m).1 ∧
      (read.perform Memory.transport m).2.items = m.items) ∧
    Failed (write m).1 ∧ (write m).2.items = m.items := by
  intro m save read write
  obtain ⟨hsingle, hread, hencoded⟩ := single_all_or_nothing
  have hrefused : (save.perform Memory.transport m).1 = .ok false := rfl
  obtain ⟨key, hkey, hsave⟩ := hsingle save rfl
  have hfailed : Failed (read.perform Memory.transport m).1 := ⟨_, rfl⟩
  have hunencoded : Failed (write m).1 := ⟨_, rfl⟩
  exact ⟨⟨rfl, hrefused, hsave.nothing m (.inr hrefused)⟩,
    ⟨hfailed, hread read ⟨"s", "k", none⟩ rfl m⟩,
    hunencoded, ((hencoded "s" "k" none none none).2 _).1.nothing m hunencoded⟩

end Instruction

end Sidecar.State
