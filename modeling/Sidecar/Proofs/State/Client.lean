import Sidecar.Proofs.Action
import Sidecar.State.Entry
import Sidecar.State.Memory

/-!
# What operations on state stores come to

With a store and a key an operation is a single call; a read decodes what the call brings.

The main result is `Transport.Operation.calls`: whatever a client is told to do, it does nothing to
the sidecar, or just what one call does.
-/

namespace Sidecar.State

variable {σ α : Type} {store key : String}

/-! ## Names -/

theorem requireName_of_ne (name : String) {value : String} (h : value ≠ "") :
    requireName name value = .ok () := by
  unfold requireName
  rw [if_neg (by simpa using h)]

/-- A store and a key that are not empty are all that is asked for. -/
theorem requireAddress_of_ne (hstore : store ≠ "") (hkey : key ≠ "") :
    requireAddress store key = .ok () := by
  unfold requireAddress
  rw [requireName_of_ne "store" hstore]
  exact requireName_of_ne "key" hkey

/-! ## Refused etags -/

/-- A soft write is done exactly where the write is. -/
theorem soften_eq_true_iff (action : Action σ Unit) (s : σ) :
    (soften action s).1 = .ok true ↔ (action s).1 = .ok () := by
  unfold soften
  rcases action s with ⟨result, t⟩
  cases result with
  | ok => simp
  | error e => cases h : e.isStaleEtag <;> simp [h]

theorem soften_snd (action : Action σ Unit) (s : σ) : (soften action s).2 = (action s).2 := by
  unfold soften
  rcases action s with ⟨result, t⟩
  cases result with
  | ok => rfl
  | error => rfl

/-- What is done stays done, and where it left off. -/
theorem soften_of_ok {action : Action σ Unit} {s t : σ} (h : action s = (.ok (), t)) :
    soften action s = (.ok true, t) := by
  rw [soften, h]

theorem soften_eq_ok_true_iff (action : Action σ Unit) (s t : σ) :
    soften action s = (.ok true, t) ↔ action s = (.ok (), t) := by
  rw [Prod.ext_iff, Prod.ext_iff, soften_eq_true_iff, soften_snd]

/-! ## Operations -/

/-- What is encoded is the data. -/
theorem encodedData_map_ok (data : Option Bytes) : encodedData (data.map .ok) = .ok data := by
  cases data with
  | none => rfl
  | some bytes => rfl

namespace Transport

variable {t : Transport σ} {reader : Json.Reader α} {consistency : Option Consistency}
variable {etag : Option String} {s s' : σ}

/-- A read is one call, and what that brings is decoded. -/
theorem getWithEtag_of_get {response : GetResponse} {value : Option α}
    (haddress : requireAddress store key = .ok ())
    (hget : t.get ⟨store, key, consistency⟩ s = (.ok response, s'))
    (hvalue : decodeValue reader response.data = .ok value) :
    t.getWithEtag reader store key consistency s = (.ok (value, response.etag), s') := by
  unfold getWithEtag
  rw [Action.bind_lift_of_ok haddress, Action.bind_of_ok hget, Action.bind_lift_of_ok hvalue]
  rfl

/-- A read that succeeds had names to go by, got a response, and could decode it. -/
theorem exists_of_getWithEtag_eq_ok {value : Option α}
    (h : t.getWithEtag reader store key consistency s = (.ok (value, etag), s')) :
    requireAddress store key = .ok () ∧
      ∃ response, t.get ⟨store, key, consistency⟩ s = (.ok response, s') ∧
        decodeValue reader response.data = .ok value ∧ response.etag = etag := by
  unfold getWithEtag at h
  obtain ⟨⟨⟩, haddress, h⟩ := Action.exists_of_bind_lift_eq_ok h
  obtain ⟨response, s'', hget, h⟩ := Action.exists_of_bind_eq_ok h
  obtain ⟨value', hvalue, h⟩ := Action.exists_of_bind_lift_eq_ok h
  cases h
  exact ⟨haddress, response, hget, hvalue, rfl⟩

/-- What a client gets depends on what the call brings alone. -/
theorem getWithEtag_fst_congr
    (h : (t.get ⟨store, key, consistency⟩ s).1 = (t.get ⟨store, key, consistency⟩ s').1) :
    (t.getWithEtag reader store key consistency s).1 =
      (t.getWithEtag reader store key consistency s').1 := by
  unfold getWithEtag
  cases haddress : requireAddress store key with
  | error => rfl
  | ok =>
    rw [Action.bind_lift_of_ok rfl, Action.bind_lift_of_ok rfl]
    refine Action.bind_fst_congr h fun response s s' => ?_
    cases decodeValue reader response.data with
    | error => rfl
    | ok => rfl

theorem getEntry_of_getWithEtag {value : Option α}
    (h : t.getWithEtag reader store key consistency s = (.ok (value, etag), s')) :
    t.getEntry reader store key consistency s = (.ok ⟨store, key, value, etag⟩, s') := by
  unfold getEntry
  rw [Action.bind_of_ok h]
  rfl

/-- An entry is at the address that was asked for, with the value and the etag that were read. -/
theorem exists_of_getEntry_eq_ok {entry : Entry α}
    (h : t.getEntry reader store key consistency s = (.ok entry, s')) :
    entry.store = store ∧ entry.key = key ∧
      t.getWithEtag reader store key consistency s = (.ok (entry.value, entry.etag), s') := by
  unfold getEntry at h
  obtain ⟨⟨value, etag⟩, s'', hget, h⟩ := Action.exists_of_bind_eq_ok h
  cases h
  exact ⟨rfl, rfl, hget⟩

/-- A save of JSON is a call as soon as store and key are there. -/
theorem write_eq_bind (t : Transport σ) (store key : String) (value : Option Json)
    (etag : Option String) (options : Option StateOptions) (metadata : Option Metadata) :
    t.write store key value etag options metadata = (do
      requireAddress store key
      t.save ⟨store, [⟨key, value.map encodeValue, etag, metadata, options⟩]⟩) := by
  have hdata : encodedData (value.map fun v => .ok (encodeValue v)) =
      .ok (value.map encodeValue) := by
    rw [← encodedData_map_ok, Option.map_map]
    rfl
  unfold write writeEncoded
  rw [hdata]
  rfl

theorem write_eq_save (haddress : requireAddress store key = .ok ()) (value : Option Json)
    (options : Option StateOptions) (metadata : Option Metadata) :
    t.write store key value etag options metadata s =
      t.save ⟨store, [⟨key, value.map encodeValue, etag, metadata, options⟩]⟩ s := by
  rw [write_eq_bind, Action.bind_lift_of_ok haddress]

theorem remove_eq_delete (haddress : requireAddress store key = .ok ())
    (options : Option StateOptions) :
    t.remove store key etag options s = t.delete ⟨store, key, etag, options⟩ s :=
  Action.bind_lift_of_ok haddress

/-! ## One call at most -/

/-- What a call leaves behind. -/
def after (t : Transport σ) : Call → σ → σ
  | .get request, s => (t.get request s).2
  | .save request, s => (t.save request s).2
  | .delete request, s => (t.delete request s).2

/-- An action that does nothing, or what one call does. -/
def Calls (t : Transport σ) (action : Action σ α) : Prop :=
  ∀ s, (action s).2 = s ∨ ∃ c, (action s).2 = t.after c s

variable {β : Type} {action : Action σ α}

/-- What follows a call may look at its answer, as long as it is silent. -/
theorem Calls.bind (h : t.Calls action) {next : α → Action σ β}
    (hnext : ∀ a s, (next a s).2 = s) : t.Calls (action >>= next) := by
  intro s
  rw [Action.bind_snd hnext]
  exact h s

/-- Checks come before the call and leave no trace. -/
theorem Calls.check {check : Action σ β} (hcheck : ∀ s, (check s).2 = s)
    {next : β → Action σ α} (hnext : ∀ b, t.Calls (next b)) : t.Calls (check >>= next) := by
  intro s
  have hs := hcheck s
  rcases h : check s with ⟨result, s'⟩
  obtain rfl : s' = s := by rw [← hs, h]
  cases result with
  | ok b =>
    rw [Action.bind_of_ok h]
    exact hnext b s'
  | error e =>
    rw [Action.bind_of_error h]
    exact .inl rfl

theorem Calls.soften {action : Action σ Unit} (h : t.Calls action) :
    t.Calls (State.soften action) := by
  intro s
  rw [soften_snd]
  exact h s

/-- A read is a call or nothing, and it is nothing without store and key. -/
theorem calls_getWithEtag (reader : Json.Reader α) (store key : String)
    (consistency : Option Consistency) :
    t.Calls (t.getWithEtag reader store key consistency) := by
  refine Calls.check Action.lift_snd fun _ =>
    Calls.bind (fun s => .inr ⟨.get _, rfl⟩) fun response s => ?_
  cases decodeValue reader response.data with
  | ok => rfl
  | error => rfl

theorem calls_write (store key : String) (value : Option Json) (etag : Option String)
    (options : Option StateOptions) (metadata : Option Metadata) :
    t.Calls (t.write store key value etag options metadata) := by
  rw [write_eq_bind]
  exact Calls.check Action.lift_snd fun _ _ => .inr ⟨.save _, rfl⟩

/-- However many items there are, they are saved by one call. -/
theorem calls_saveItems (store : String) (items : List Item) : t.Calls (t.saveItems store items) :=
  Calls.check Action.lift_snd fun _ =>
    Calls.check (Action.forM_snd fun _ => Action.lift_snd) fun _ _ => .inr ⟨.save _, rfl⟩

theorem calls_remove (store key : String) (etag : Option String)
    (options : Option StateOptions) : t.Calls (t.remove store key etag options) :=
  Calls.check Action.lift_snd fun _ _ => .inr ⟨.delete _, rfl⟩

/-- The operations that clients have. -/
inductive Operation (t : Transport σ) : {β : Type} → Action σ β → Prop
  | getValue {β : Type} (reader : Json.Reader β) (store key consistency) :
      Operation t (t.getValue reader store key consistency)
  | getWithEtag {β : Type} (reader : Json.Reader β) (store key consistency) :
      Operation t (t.getWithEtag reader store key consistency)
  | getEntry {β : Type} (reader : Json.Reader β) (store key consistency) :
      Operation t (t.getEntry reader store key consistency)
  | saveValue (store key value options metadata) :
      Operation t (t.saveValue store key value options metadata)
  | trySaveValue (store key value etag options metadata) :
      Operation t (t.trySaveValue store key value etag options metadata)
  | saveItems (store items) : Operation t (t.saveItems store items)
  | deleteValue (store key options) : Operation t (t.deleteValue store key options)
  | tryDeleteValue (store key etag options) : Operation t (t.tryDeleteValue store key etag options)
  | saveEntry (entry options) : Operation t (t.saveEntry entry options)
  | trySaveEntry (entry options) : Operation t (t.trySaveEntry entry options)
  | deleteEntry {β : Type} (entry : Entry β) (options) : Operation t (t.deleteEntry entry options)
  | tryDeleteEntry {β : Type} (entry : Entry β) (options) :
      Operation t (t.tryDeleteEntry entry options)

/-- No operation of a client does more than one call does. -/
theorem Operation.calls (h : t.Operation action) : t.Calls action := by
  cases h with
  | getValue | getEntry => exact (calls_getWithEtag _ _ _ _).bind fun _ _ => rfl
  | getWithEtag => exact calls_getWithEtag _ _ _ _
  | saveValue | saveEntry => exact calls_write _ _ _ _ _ _
  | trySaveValue | trySaveEntry => exact (calls_write _ _ _ _ _ _).soften
  | saveItems => exact calls_saveItems _ _
  | deleteValue | deleteEntry => exact calls_remove _ _ _ _
  | tryDeleteValue | tryDeleteEntry => exact (calls_remove _ _ _ _).soften

end Transport

end Sidecar.State
