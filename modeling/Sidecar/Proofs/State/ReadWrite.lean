import Sidecar.Proofs.Json.RoundTrip
import Sidecar.Proofs.State.Ledger

/-!
# What is written is read

A sidecar in memory that no fault is queued in gives a client the value it was last given, and what
is written at one address is not seen at any other.

The main result is `Memory.serves_saveValue`.
-/

namespace Sidecar.State

/-! ## Items -/

namespace Items

variable (items : Items) (a : Address)

/-- Data that were put are read, with the next version as their etag. -/
theorem read_put (data : Bytes) :
    (items.change a (.put data)).read a = ⟨some data, some (toString (items.nextVersion a))⟩ := by
  rw [← put_eq_change, put, read, find?_set, if_pos rfl]

theorem read_remove : (items.change a .remove).read a = .absent := by
  rw [read, find?_change, if_pos rfl]
  rfl

theorem read_change_of_ne {b : Address} (h : b ≠ a) (c : Change) :
    (items.change a c).read b = items.read b := by
  rw [read, read, find?_change, if_neg h]

/-- The etag that a read brings is accepted, and so is that of no item. -/
theorem accepts_read : items.accepts a (items.read a).etag := by
  unfold read
  cases h : items.find? a with
  | none => rfl
  | some item => simp [accepts, h]

end Items

/-! ## Values -/

/-- What a write of a value, or of none, does to an item. -/
def Change.ofValue : Option Json → Change
  | some v => .put (encodeValue v)
  | none => .remove

/-- A value that is encoded and decoded is the value, and `null` is no value. -/
theorem decodeValue_encodeValue {v : Json} (hwhole : v.isWhole) (hordered : v.isOrdered)
    (hdepth : v.levels ≤ Json.depthLimit) :
    decodeValue Json.readAny (some (encodeValue v)) = .ok v.unlessNull := by
  obtain ⟨b, bs, hbytes, -⟩ := Json.exists_first_byte hwhole
  have hread := Json.readText_of_reads (Json.reads_nullable hwhole hdepth)
  rw [Json.sorted_eq_of_isOrdered hordered] at hread
  rw [encodeValue, Json.encode_text]
  rw [hbytes] at hread ⊢
  exact congrArg (Except.mapError Error.serialization) hread

namespace Memory

variable {α : Type} {m now : Memory} {store key : String}

/-! ## Reading -/

theorem getWithEtag_of_faults_eq_nil (h : m.faults = [])
    (haddress : requireAddress store key = .ok ()) {reader : Json.Reader α} {value : Option α}
    (hvalue : decodeValue reader (m.items.read ⟨store, key⟩).data = .ok value)
    (consistency : Option Consistency) :
    transport.getWithEtag reader store key consistency m =
      (.ok (value, (m.items.read ⟨store, key⟩).etag),
        m.recorded (.get ⟨store, key, consistency⟩)) :=
  Transport.getWithEtag_of_get haddress (get_of_faults_eq_nil h _) hvalue

/-- What a client gets depends on the item at the address alone. -/
theorem getWithEtag_of_read_eq (h : m.faults = []) (hnow : now.faults = [])
    (hread : now.items.read ⟨store, key⟩ = m.items.read ⟨store, key⟩) (reader : Json.Reader α)
    (consistency : Option Consistency) :
    (transport.getWithEtag reader store key consistency now).1 =
      (transport.getWithEtag reader store key consistency m).1 := by
  refine Transport.getWithEtag_fst_congr ?_
  change (get _ now).1 = (get _ m).1
  rw [get_of_faults_eq_nil h, get_of_faults_eq_nil hnow, hread]

/-! ## Writing -/

/-- With an etag that is accepted, or with none, a write changes the item. -/
theorem write_of_accepts (h : m.faults = []) (haddress : requireAddress store key = .ok ())
    (etag : Option String) (haccepts : m.items.accepts ⟨store, key⟩ etag) (value : Option Json)
    (options : Option StateOptions) (metadata : Option Metadata) :
    ∃ written, transport.write store key value etag options metadata m = (.ok (), written) ∧
      written.faults = [] ∧
      written.items = m.items.change ⟨store, key⟩ (.ofValue value) := by
  let item : Item := ⟨key, value.map encodeValue, etag, metadata, options⟩
  have hchange : item.change = .ofValue value := by cases value <;> rfl
  have hresult : (m.items.writeAll store [item]).1 = .ok () := by
    rw [Items.writeAll, Items.write_of_accepts haccepts]
    rfl
  have hchanges : m.items.writeChanges store [item] = [(⟨store, key⟩, .ofValue value)] := by
    rw [Items.writeChanges, if_pos haccepts, hchange]
    rfl
  have hsave := save_of_faults_eq_nil h ⟨store, [item]⟩
  rw [hresult, hchanges] at hsave
  exact ⟨_, (Transport.write_eq_save haddress value options metadata).trans hsave, h, rfl⟩

/-- What a client is given once a value is written at an address: it and its etag there, and
everywhere else what it was given before. -/
structure Serves (before : Memory) (a : Address) (value : Option Json) (etag : Option String)
    (now : Memory) : Prop where
  here (consistency : Option Consistency) :
    (transport.getWithEtag Json.readAny a.store a.key consistency now).1 = .ok (value, etag)
  elsewhere {β : Type} (reader : Json.Reader β) (store key : String)
      (consistency : Option Consistency) (h : ⟨store, key⟩ ≠ a) :
    (transport.getWithEtag reader store key consistency now).1 =
      (transport.getWithEtag reader store key consistency before).1

/-- Once the change is made, the value and its etag are served, and all other items are as
before. -/
theorem serves_of_change (h : m.faults = []) (hnow : now.faults = [])
    (haddress : requireAddress store key = .ok ()) {c : Change}
    (hitems : now.items = m.items.change ⟨store, key⟩ c) {data : Option Bytes}
    {etag : Option String}
    (hread : (m.items.change ⟨store, key⟩ c).read ⟨store, key⟩ = ⟨data, etag⟩)
    {value : Option Json} (hvalue : decodeValue Json.readAny data = .ok value) :
    Serves m ⟨store, key⟩ value etag now where
  here consistency := by
    rw [← hitems] at hread
    have hdata : decodeValue Json.readAny (now.items.read ⟨store, key⟩).data = .ok value := by
      rw [hread, hvalue]
    rw [getWithEtag_of_faults_eq_nil hnow haddress hdata, hread]
  elsewhere reader store key consistency hne := by
    refine getWithEtag_of_read_eq h hnow ?_ reader consistency
    rw [hitems, Items.read_change_of_ne _ _ hne]

theorem serves_put (h : m.faults = []) (hnow : now.faults = [])
    (haddress : requireAddress store key = .ok ()) {v : Json} (hwhole : v.isWhole)
    (hordered : v.isOrdered) (hdepth : v.levels ≤ Json.depthLimit)
    (hitems : now.items = m.items.change ⟨store, key⟩ (.ofValue (some v))) :
    Serves m ⟨store, key⟩ v.unlessNull (some (toString (m.items.nextVersion ⟨store, key⟩))) now :=
  serves_of_change h hnow haddress hitems (Items.read_put _ _ _)
    (decodeValue_encodeValue hwhole hordered hdepth)

theorem serves_remove (h : m.faults = []) (hnow : now.faults = [])
    (haddress : requireAddress store key = .ok ())
    (hitems : now.items = m.items.change ⟨store, key⟩ (.ofValue none)) :
    Serves m ⟨store, key⟩ none none now :=
  serves_of_change h hnow haddress hitems (Items.read_remove _ _) rfl

/-- A value that is saved is read, whether it is written over whatever is there or put into an entry
that was read; one that is cleared is gone. -/
theorem serves_saveValue (hfaults : m.faults = []) (hstore : store ≠ "") (hkey : key ≠ "")
    {v : Json} (hwhole : v.isWhole) (hordered : v.isOrdered) (hdepth : v.levels ≤ Json.depthLimit)
    (options : Option StateOptions) (metadata : Option Metadata) :
    (∃ saved, transport.saveValue store key (some v) options metadata m = (.ok (), saved) ∧
      Serves m ⟨store, key⟩ v.unlessNull (some (toString (m.items.nextVersion ⟨store, key⟩)))
        saved ∧
      ∀ {α : Type} {reader : Json.Reader α} {value : Option α},
        decodeValue reader (m.items.read ⟨store, key⟩).data = .ok value →
          ∀ consistency, ∃ entry read resaved,
            transport.getEntry reader store key consistency m = (.ok entry, read) ∧
            entry.value = value ∧
            transport.saveEntry ⟨entry.store, entry.key, some v, entry.etag⟩ options read =
              (.ok (), resaved) ∧
            resaved.items = saved.items ∧ resaved.faults = saved.faults ∧
            Serves m ⟨store, key⟩ v.unlessNull
              (some (toString (m.items.nextVersion ⟨store, key⟩))) resaved) ∧
    ∃ cleared, transport.saveValue store key none options metadata m = (.ok (), cleared) ∧
      Serves m ⟨store, key⟩ none none cleared := by
  have haddress := requireAddress_of_ne hstore hkey
  obtain ⟨saved, hsaved, hsavedFaults, hsavedItems⟩ :=
    write_of_accepts hfaults haddress none rfl (some v) options metadata
  obtain ⟨cleared, hcleared, hclearedFaults, hclearedItems⟩ :=
    write_of_accepts hfaults haddress none rfl none options metadata
  refine ⟨⟨saved, hsaved, serves_put hfaults hsavedFaults haddress hwhole hordered hdepth
    hsavedItems, fun {α reader value} hvalue consistency => ?_⟩, cleared, hcleared,
    serves_remove hfaults hclearedFaults haddress hclearedItems⟩
  have hread := Transport.getEntry_of_getWithEtag
    (getWithEtag_of_faults_eq_nil hfaults haddress hvalue consistency)
  obtain ⟨resaved, hresaved, hresavedFaults, hresavedItems⟩ :=
    write_of_accepts (m := m.recorded (.get ⟨store, key, consistency⟩)) hfaults haddress
      _ (Items.accepts_read m.items ⟨store, key⟩) (some v) options none
  exact ⟨_, _, resaved, hread, rfl, hresaved, hresavedItems.trans hsavedItems.symm,
    hresavedFaults.trans hsavedFaults.symm,
    serves_put hfaults hresavedFaults haddress hwhole hordered hdepth hresavedItems⟩

/-- An item that is there already, and a value with what has to be escaped. -/
theorem serves_saveValue_over_one :
    ∃ entry read resaved,
      transport.getEntry Json.readAny "s" "k" none (({} : Memory).putRaw ⟨"s", "k"⟩ [49]) =
        (.ok entry, read) ∧
      entry.value = some (.whole 1) ∧
      transport.saveEntry ⟨entry.store, entry.key,
        some (.object [("a", .null), ("b", .string "\"\n")]), entry.etag⟩ none read =
          (.ok (), resaved) ∧
      Serves (({} : Memory).putRaw ⟨"s", "k"⟩ [49]) ⟨"s", "k"⟩
        (some (.object [("a", .null), ("b", .string "\"\n")])) (some "2") resaved := by
  have hfaults : (({} : Memory).putRaw ⟨"s", "k"⟩ [49]).faults = [] := rfl
  have hstore : "s" ≠ "" := by decide
  have hkey : "k" ≠ "" := by decide
  have hwhole : (Json.object [("a", .null), ("b", .string "\"\n")]).isWhole := rfl
  have hordered : (Json.object [("a", .null), ("b", .string "\"\n")]).isOrdered := by decide
  have hdepth : (Json.object [("a", .null), ("b", .string "\"\n")]).levels ≤ Json.depthLimit := by
    decide
  have hvalue : decodeValue Json.readAny
      ((({} : Memory).putRaw ⟨"s", "k"⟩ [49]).items.read ⟨"s", "k"⟩).data =
        .ok (some (.whole 1)) := rfl
  obtain ⟨⟨saved, -, -, hentry⟩, -⟩ :=
    serves_saveValue hfaults hstore hkey hwhole hordered hdepth none none
  obtain ⟨entry, read, resaved, hread, hentryValue, hsave, -, -, hserves⟩ := hentry hvalue none
  exact ⟨entry, read, resaved, hread, hentryValue, hsave, hserves⟩

end Memory

end Sidecar.State
