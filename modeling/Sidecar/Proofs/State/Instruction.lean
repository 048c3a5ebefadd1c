import Sidecar.Proofs.State.Ledger

/-!
# One call for each operation

What a client can be told to do is an instruction, and every instruction stands for one call.  The
names in it are looked at first.  If none of them is empty the call is made, and what comes of it is
made of the result of the call alone.

The main result is `Instruction.perform_calls_once`; it comes from `Instruction.perform_eq`, which
brings every instruction into that form.
-/

namespace Sidecar.State

variable {σ β : Type}

/-! ## Calls -/

namespace Call

def store : Call → String
  | .get request => request.store
  | .save request => request.store
  | .delete request => request.store

/-- The keys of its items, in order. -/
def keys : Call → List String
  | .get request => [request.key]
  | .save request => request.items.map (·.key)
  | .delete request => [request.key]

/-- What a transport answers. -/
abbrev Answer : Call → Type
  | .get _ => GetResponse
  | .save _ => Unit
  | .delete _ => Unit

end Call

namespace Transport

def make (t : Transport σ) : (c : Call) → Action σ c.Answer
  | .get request => t.get request
  | .save request => t.save request
  | .delete request => t.delete request

/-- The same action, after which a call has been added to the record. -/
def noting {α : Type} (c : Call) (action : Action σ α) : Action (σ × List Call) α :=
  fun s => ((action s.1).1, (action s.1).2, s.2 ++ [c])

/-- The same transport, with a record of the calls that are made, oldest first. -/
def recorded (t : Transport σ) : Transport (σ × List Call) where
  get request := noting (.get request) (t.get request)
  save request := noting (.save request) (t.save request)
  delete request := noting (.delete request) (t.delete request)

theorem make_recorded (t : Transport σ) (c : Call) (s : σ) (calls : List Call) :
    t.recorded.make c (s, calls) = ((t.make c s).1, (t.make c s).2, calls ++ [c]) := by
  cases c with
  | get | save | delete => rfl

end Transport

/-! ## Instructions -/

/-- What a client is told to do, and the type of what comes of it. -/
inductive Instruction : Type → Type 1 where
  | getValue {α : Type} (reader : Json.Reader α) (store key : String)
      (consistency : Option Consistency) : Instruction (Option α)
  | getWithEtag {α : Type} (reader : Json.Reader α) (store key : String)
      (consistency : Option Consistency) : Instruction (Option α × Option String)
  | getEntry {α : Type} (reader : Json.Reader α) (store key : String)
      (consistency : Option Consistency) : Instruction (Entry α)
  | saveValue (store key : String) (value : Option Json) (options : Option StateOptions)
      (metadata : Option Metadata) : Instruction Unit
  | trySaveValue (store key : String) (value : Option Json) (etag : Option String)
      (options : Option StateOptions) (metadata : Option Metadata) : Instruction Bool
  | saveItems (store : String) (items : List Item) : Instruction Unit
  | deleteValue (store key : String) (options : Option StateOptions) : Instruction Unit
  | tryDeleteValue (store key : String) (etag : Option String) (options : Option StateOptions) :
      Instruction Bool
  | saveEntry (entry : Entry Json) (options : Option StateOptions) : Instruction Unit
  | trySaveEntry (entry : Entry Json) (options : Option StateOptions) : Instruction Bool
  | deleteEntry {α : Type} (entry : Entry α) (options : Option StateOptions) : Instruction Unit
  | tryDeleteEntry {α : Type} (entry : Entry α) (options : Option StateOptions) : Instruction Bool

namespace Instruction

/-- What a client does. -/
def perform (t : Transport σ) : Instruction β → Action σ β
  | .getValue reader store key consistency => t.getValue reader store key consistency
  | .getWithEtag reader store key consistency => t.getWithEtag reader store key consistency
  | .getEntry reader store key consistency => t.getEntry reader store key consistency
  | .saveValue store key value options metadata => t.saveValue store key value options metadata
  | .trySaveValue store key value etag options metadata =>
    t.trySaveValue store key value etag options metadata
  | .saveItems store items => t.saveItems store items
  | .deleteValue store key options => t.deleteValue store key options
  | .tryDeleteValue store key etag options => t.tryDeleteValue store key etag options
  | .saveEntry entry options => t.saveEntry entry options
  | .trySaveEntry entry options => t.trySaveEntry entry options
  | .deleteEntry entry options => t.deleteEntry entry options
  | .tryDeleteEntry entry options => t.tryDeleteEntry entry options

/-- The one call, with everything in it as it was given; values are encoded. -/
def call : Instruction β → Call
  | .getValue _ store key consistency => .get ⟨store, key, consistency⟩
  | .getWithEtag _ store key consistency => .get ⟨store, key, consistency⟩
  | .getEntry _ store key consistency => .get ⟨store, key, consistency⟩
  | .saveValue store key value options metadata =>
    .save ⟨store, [⟨key, value.map encodeValue, none, metadata, options⟩]⟩
  | .trySaveValue store key value etag options metadata =>
    .save ⟨store, [⟨key, value.map encodeValue, etag, metadata, options⟩]⟩
  | .saveItems store items => .save ⟨store, items⟩
  | .deleteValue store key options => .delete ⟨store, key, none, options⟩
  | .tryDeleteValue store key etag options => .delete ⟨store, key, etag, options⟩
  | .saveEntry entry options | .trySaveEntry entry options =>
    .save ⟨entry.store, [⟨entry.key, entry.value.map encodeValue, entry.etag, none, options⟩]⟩
  | .deleteEntry entry options | .tryDeleteEntry entry options =>
    .delete ⟨entry.store, entry.key, entry.etag, options⟩

end Instruction

/-- A refused etag as an answer. -/
def softened : Except Error Unit → Except Error Bool
  | .ok () => .ok true
  | .error e => if e.isStaleEtag then .ok false else .error e

/-- The value and the etag of a response. -/
def decoded {α : Type} (reader : Json.Reader α) (answer : Except Error GetResponse) :
    Except Error (Option α × Option String) :=
  answer.bind fun response =>
    (decodeValue reader response.data).map fun value => (value, response.etag)

/-- What an instruction makes of the result of its call. -/
def Instruction.outcome : (i : Instruction β) → Except Error i.call.Answer → Except Error β
  | .getValue reader _ _ _, answer => (decoded reader answer).map (·.1)
  | .getWithEtag reader _ _ _, answer => decoded reader answer
  | .getEntry reader store key _, answer =>
    (decoded reader answer).map fun (value, etag) => ⟨store, key, value, etag⟩
  | .saveValue .., answer => answer
  | .trySaveValue .., answer => softened answer
  | .saveItems .., answer => answer
  | .deleteValue .., answer => answer
  | .tryDeleteValue .., answer => softened answer
  | .saveEntry .., answer => answer
  | .trySaveEntry .., answer => softened answer
  | .deleteEntry .., answer => answer
  | .tryDeleteEntry .., answer => softened answer

/-! ## Names come first -/

/-- What is empty although it must not be; the store is looked at before the keys. -/
def emptyName? (store : String) (keys : List String) : Option String :=
  if store = "" then some "store"
  else if "" ∈ keys then some "key"
  else none

/-- An action that is only begun if none of the names is empty. -/
def guarded {α : Type} (store : String) (keys : List String) (action : Action σ α) : Action σ α :=
  fun s =>
    match emptyName? store keys with
    | some name => (.error (.emptyArgument name), s)
    | none => action s

theorem requireName_eq (name value : String) :
    requireName name value = if value = "" then .error (.emptyArgument name) else .ok () := by
  unfold requireName
  simp only [String.isEmpty_iff]

/-- Keys are all there, or the failure is that one is empty. -/
theorem forM_requireName (keys : List String) :
    keys.forM (requireName "key") =
      if "" ∈ keys then .error (.emptyArgument "key") else .ok () := by
  induction keys with
  | nil => rfl
  | cons key rest ih =>
    change (requireName "key" key >>= fun _ => rest.forM (requireName "key")) = _
    rw [requireName_eq, ih]
    by_cases hkey : key = ""
    · subst hkey
      rw [if_pos rfl, if_pos List.mem_cons_self]
      rfl
    · have hmem : "" ∈ key :: rest ↔ "" ∈ rest := by simp [Ne.symm hkey]
      simp only [if_neg hkey, hmem]
      rfl

section Checks

variable {α : Type} (action : Action σ α)

/-- The checks that come first say which name is empty. -/
theorem requireNames_bind (store : String) (keys : List String) :
    (do
      liftM (requireName "store" store)
      liftM (keys.forM (requireName "key"))
      action) = guarded store keys action := by
  funext s
  rw [requireName_eq, forM_requireName, guarded, emptyName?]
  by_cases hstore : store = ""
  · rw [if_pos hstore, if_pos hstore]
    rfl
  · rw [if_neg hstore, if_neg hstore]
    by_cases hkeys : "" ∈ keys
    · rw [if_pos hkeys, if_pos hkeys]
      rfl
    · rw [if_neg hkeys, if_neg hkeys]
      rfl

/-- For a single item the names are checked in the same way. -/
theorem requireAddress_bind (store key : String) :
    (do
      liftM (requireAddress store key)
      action) = guarded store [key] action := by
  rw [← requireNames_bind]
  unfold requireAddress
  cases requireName "store" store with
  | error => rfl
  | ok =>
    change _ = (do
      liftM (requireName "key" key >>= fun _ => .ok ())
      action)
    cases requireName "key" key with
    | error => rfl
    | ok => rfl

theorem soften_eq (action : Action σ Unit) (s : σ) :
    soften action s = (softened (action s).1, (action s).2) := by
  unfold soften
  rcases action s with ⟨result, t⟩
  cases result with
  | ok => rfl
  | error => rfl

end Checks

/-! ## Operations -/

namespace Transport

variable (t : Transport σ)

theorem getWithEtag_eq {α : Type} (reader : Json.Reader α) (store key : String)
    (consistency : Option Consistency) :
    t.getWithEtag reader store key consistency = guarded store [key] fun s =>
      (decoded reader (t.get ⟨store, key, consistency⟩ s).1,
        (t.get ⟨store, key, consistency⟩ s).2) := by
  unfold getWithEtag
  rw [requireAddress_bind]
  congr 1
  funext s
  rcases hget : t.get ⟨store, key, consistency⟩ s with ⟨answer, s'⟩
  cases answer with
  | error e => exact Action.bind_of_error hget
  | ok response =>
    rw [Action.bind_of_ok hget]
    change _ = ((decodeValue reader response.data).map fun value => (value, response.etag), s')
    cases decodeValue reader response.data with
    | error e => rfl
    | ok value => rfl

/-- What cannot be encoded is not even asked about. -/
theorem writeEncoded_of_error (store key : String) (e : Error) (etag : Option String)
    (options : Option StateOptions) (metadata : Option Metadata) :
    t.writeEncoded store key (some (.error e)) etag options metadata =
      guarded store [key] fun s => (.error e, s) :=
  requireAddress_bind _ store key

/-- A save of JSON is the call for its one item, with the value encoded. -/
theorem write_eq (store key : String) (value : Option Json) (etag : Option String)
    (options : Option StateOptions) (metadata : Option Metadata) :
    t.write store key value etag options metadata = guarded store [key]
      (t.save ⟨store, [⟨key, value.map encodeValue, etag, metadata, options⟩]⟩) := by
  rw [write_eq_bind]
  exact requireAddress_bind _ store key

theorem remove_eq (store key : String) (etag : Option String) (options : Option StateOptions) :
    t.remove store key etag options =
      guarded store [key] (t.delete ⟨store, key, etag, options⟩) :=
  requireAddress_bind _ store key

/-- A save of many items is one call with all of them as they were given. -/
theorem saveItems_eq (store : String) (items : List Item) :
    t.saveItems store items =
      guarded store (items.map (·.key)) (t.save ⟨store, items⟩) := by
  have hkeys : (items.map (·.key)).forM (requireName "key") =
      items.forM fun item => requireName "key" item.key := List.forM_map
  rw [← requireNames_bind, hkeys, ← Action.forM_lift]
  rfl

end Transport

theorem soften_guarded (store : String) (keys : List String) (action : Action σ Unit) :
    soften (guarded store keys action) = guarded store keys fun s =>
      (softened (action s).1, (action s).2) := by
  funext s
  rw [soften_eq, guarded, guarded]
  cases emptyName? store keys with
  | none => rfl
  | some name => rfl

theorem guarded_map {α : Type} (store : String) (keys : List String) (action : Action σ α)
    (f : α → β) :
    (guarded store keys action >>= fun a => pure (f a)) = guarded store keys fun s =>
      ((action s).1.map f, (action s).2) := by
  funext s
  cases hname : emptyName? store keys with
  | some name =>
    have hguarded : guarded store keys action s = (.error (.emptyArgument name), s) := by
      rw [guarded, hname]
    rw [Action.bind_of_error hguarded, guarded, hname]
  | none =>
    have hguarded : guarded store keys action s = action s := by rw [guarded, hname]
    rw [guarded, hname]
    rcases haction : action s with ⟨result, s'⟩
    cases result with
    | ok a => exact Action.bind_of_ok (hguarded.trans haction)
    | error e => exact Action.bind_of_error (hguarded.trans haction)

/-- An instruction with an empty name does nothing.  Any other makes its call, and what comes of it
is made of the result of the call. -/
theorem Instruction.perform_eq (i : Instruction β) (t : Transport σ) :
    i.perform t = guarded i.call.store i.call.keys fun s =>
      (i.outcome (t.make i.call s).1, (t.make i.call s).2) := by
  cases i with
  | getValue reader store key consistency =>
    change (t.getWithEtag reader store key consistency >>= fun x => pure x.1) = _
    rw [t.getWithEtag_eq]
    exact guarded_map store [key] _ _
  | getWithEtag => exact t.getWithEtag_eq _ _ _ _
  | getEntry reader store key consistency =>
    change (t.getWithEtag reader store key consistency >>= fun x =>
      pure (Entry.mk store key x.1 x.2)) = _
    rw [t.getWithEtag_eq]
    exact guarded_map store [key] _ _
  | saveValue => exact t.write_eq _ _ _ _ _ _
  | trySaveValue =>
    change soften (t.write _ _ _ _ _ _) = _
    rw [t.write_eq, soften_guarded]
    rfl
  | saveItems => exact t.saveItems_eq _ _
  | deleteValue => exact t.remove_eq _ _ _ _
  | tryDeleteValue =>
    change soften (t.remove _ _ _ _) = _
    rw [t.remove_eq, soften_guarded]
    rfl
  | saveEntry => exact t.write_eq _ _ _ _ _ _
  | trySaveEntry =>
    change soften (t.write _ _ _ _ _ _) = _
    rw [t.write_eq, soften_guarded]
    rfl
  | deleteEntry => exact t.remove_eq _ _ _ _
  | tryDeleteEntry =>
    change soften (t.remove _ _ _ _) = _
    rw [t.remove_eq, soften_guarded]
    rfl

theorem Memory.make_snd (m : Memory) (c : Call) :
    (transport.make c m).2 = (Event.call c).perform m := by
  cases c with
  | get | save | delete => rfl

/-- The sidecar in memory keeps a record itself. -/
theorem Memory.calls_make (m : Memory) (c : Call) :
    (transport.make c m).2.calls = c :: m.calls := by
  cases hfaults : m.faults with
  | cons status faults =>
    rw [make_snd, perform_call_of_fault hfaults]
    rfl
  | nil =>
    cases c with
    | get request => exact congrArg (·.2.calls) (get_of_faults_eq_nil hfaults request)
    | save request => exact congrArg (·.2.calls) (save_of_faults_eq_nil hfaults request)
    | delete request =>
      by_cases haccepts : m.items.accepts ⟨request.store, request.key⟩ request.etag
      · exact congrArg (·.2.calls) (delete_of_accepts hfaults haccepts)
      · exact congrArg (·.2.calls) (delete_of_not_accepts hfaults haccepts)

namespace Instruction

variable {i : Instruction β} {name : String}

/-- With an empty name nothing is done, and the failure says which. -/
theorem perform_of_emptyName? (h : emptyName? i.call.store i.call.keys = some name)
    (t : Transport σ) (s : σ) : i.perform t s = (.error (.emptyArgument name), s) := by
  rw [i.perform_eq, guarded, h]

/-- With all names there, what comes of an instruction is made of the result of its call. -/
theorem perform_of_names (h : emptyName? i.call.store i.call.keys = none) (t : Transport σ)
    (s : σ) : i.perform t s = (i.outcome (t.make i.call s).1, (t.make i.call s).2) := by
  rw [i.perform_eq, guarded, h]

/-- A record of the calls is all that is added to what the transport does. -/
theorem perform_recorded (h : emptyName? i.call.store i.call.keys = none) (t : Transport σ) (s : σ)
    (calls : List Call) :
    i.perform t.recorded (s, calls) =
      ((i.perform t s).1, (i.perform t s).2, calls ++ [i.call]) := by
  rw [perform_of_names h, perform_of_names h, t.make_recorded]

/-- If the store of an instruction is empty, or else one of its keys, it is refused for that name:
no call is made and nothing is changed, in memory neither items nor queued faults.  Otherwise it
makes one call, which has everything in it as it was given, and leaves what the call leaves; what
comes of it is made of the result of the call.  The sidecar in memory records the same call. -/
theorem perform_calls_once (i : Instruction β) (t : Transport σ) (s : σ) (calls : List Call)
    (m : Memory) :
    (∀ name, emptyName? i.call.store i.call.keys = some name →
      i.perform t s = (.error (.emptyArgument name), s) ∧
      i.perform t.recorded (s, calls) = (.error (.emptyArgument name), s, calls) ∧
      i.perform Memory.transport m = (.error (.emptyArgument name), m)) ∧
    (emptyName? i.call.store i.call.keys = none →
      i.perform t s = (i.outcome (t.make i.call s).1, (t.make i.call s).2) ∧
      i.perform t.recorded (s, calls) =
        ((i.perform t s).1, (i.perform t s).2, calls ++ [i.call]) ∧
      (i.perform Memory.transport m).2.calls = i.call :: m.calls) := by
  constructor
  · intro name h
    exact ⟨perform_of_emptyName? h t s, perform_of_emptyName? h _ _, perform_of_emptyName? h _ _⟩
  · intro h
    refine ⟨perform_of_names h t s, perform_recorded h t s calls, ?_⟩
    rw [perform_of_names h]
    exact Memory.calls_make m i.call

/-- Two items of which the second has no key are refused while a fault is queued, and the fault
stays; a conditional delete takes it as the answer to its one call. -/
theorem perform_calls_once_fault :
    let m : Memory := { faults := [500] }
    let batch : Instruction Unit :=
      .saveItems "s" [⟨"k", some [49], none, none, none⟩, ⟨"", none, none, none, none⟩]
    let delete : Instruction Bool := .tryDeleteValue "s" "k" (some "7") none
    emptyName? batch.call.store batch.call.keys = some "key" ∧
      batch.perform Memory.transport m = (.error (.emptyArgument "key"), m) ∧
      emptyName? delete.call.store delete.call.keys = none ∧
      (delete.perform Memory.transport m).2.calls = [.delete ⟨"s", "k", some "7", none⟩] := by
  intro m batch delete
  have hbatch : emptyName? batch.call.store batch.call.keys = some "key" := by decide
  have hdelete : emptyName? delete.call.store delete.call.keys = none := by decide
  exact ⟨hbatch, ((perform_calls_once batch Memory.transport m [] m).1 "key" hbatch).1,
    hdelete, ((perform_calls_once delete Memory.transport m [] m).2 hdelete).2.2⟩

end Instruction

end Sidecar.State
