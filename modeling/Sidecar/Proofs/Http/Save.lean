import Sidecar.Proofs.Http.Ask
import Sidecar.Proofs.Json.Reading
import Sidecar.Proofs.Json.RoundTrip

/-!
# What a save carries

The body of a save, read as JSON, is a list of objects, one for each item, and each of them holds
what its item does.  A save that cannot be written down is not sent.

The main result is `saveState_carries`.
-/

namespace Sidecar.Http

open Json (IsAscending depthLimit)

/-! ## Members -/

/-- The members that an item with a value, or without one, is written as. -/
def itemMembers (item : State.Item) (value : Option Json) : List (String × Json) :=
  [("key", .string item.key)] ++ value.toList.map (fun value => ("value", value)) ++
    item.etag.toList.map (fun etag => ("etag", .string etag)) ++
    item.metadata.toList.map (fun metadata => ("metadata", Json.ofStrings metadata)) ++
    item.options.toList.map fun options => ("options", options.json)

variable {item : State.Item} {value : Option Json}

/-- An item whose value is a document is written as its members. -/
theorem itemJson_of_ofBytes (h : item.value.map Json.ofBytes = value.map .ok) :
    itemJson item = .ok (.object (itemMembers item value)) := by
  unfold itemJson itemMembers
  cases hvalue : item.value with
  | none =>
    obtain rfl : value = none := by simpa [hvalue] using h.symm
    rfl
  | some bytes =>
    rw [hvalue] at h
    cases value with
    | none => cases h
    | some v =>
      have hbytes : Json.ofBytes bytes = .ok v := Option.some.inj h
      simp only [hbytes]
      rfl

theorem itemJson_of_error {bytes : Bytes} {fault : Json.Fault} (hvalue : item.value = some bytes)
    (h : Json.ofBytes bytes = .error fault) : itemJson item = .error (.serialization fault) := by
  unfold itemJson
  rw [hvalue]
  simp only [h]
  rfl

/-- What holds of each of the five kinds of members holds of all members. -/
theorem forall_mem_itemMembers {p : String × Json → Prop} (hkey : p ("key", .string item.key))
    (hvalue : ∀ v ∈ value, p ("value", v)) (hetag : ∀ etag, p ("etag", .string etag))
    (hmetadata : ∀ metadata, p ("metadata", Json.ofStrings metadata))
    (hoptions : ∀ options : StateOptions, p ("options", options.json)) :
    ∀ m ∈ itemMembers item value, p m := by
  intro m hm
  simp only [itemMembers, List.mem_append, List.mem_map, List.mem_singleton, Option.mem_toList]
    at hm
  rcases hm with (((rfl | ⟨v, hv, rfl⟩) | ⟨etag, -, rfl⟩) | ⟨metadata, -, rfl⟩) | ⟨options, -, rfl⟩
  · exact hkey
  · exact hvalue v hv
  · exact hetag etag
  · exact hmetadata metadata
  · exact hoptions options

/-- An object holds what an item does and has no other members.  Its value is the document that the
item's bytes hold; metadata and options are compared as objects with their members in order. -/
structure Carries (item : State.Item) (members : List (String × Json)) : Prop where
  ascending : IsAscending members
  names : ∀ m ∈ members, m.1 ∈ ["key", "value", "etag", "metadata", "options"]
  key : members.lookup "key" = some (.string item.key)
  value : (members.lookup "value").map .ok = item.value.map Json.ofBytes
  etag : members.lookup "etag" = item.etag.map .string
  metadata : members.lookup "metadata" =
    item.metadata.map fun metadata => Json.ofStrings (Json.sortMembers metadata)
  options : members.lookup "options" = item.options.map fun options => options.json.sorted

/-! ### Looking members up -/

theorem lookup_optional {α : Type} (name k : String) (f : α → Json) (x : Option α) :
    (x.toList.map fun a => (name, f a)).lookup k = if k = name then x.map f else none := by
  cases x with
  | none => exact (ite_self none).symm
  | some a => exact Json.lookup_cons

theorem lookup_reverse_optional {α : Type} (name k : String) (f : α → Json) (x : Option α) :
    (x.toList.map fun a => (name, f a)).reverse.lookup k = if k = name then x.map f else none := by
  rw [← lookup_optional]
  cases x with
  | none => rfl
  | some a => rfl

theorem lookup_reverse_itemMembers (k : String) :
    (itemMembers item value).reverse.lookup k =
      (if k = "options" then item.options.map (·.json) else none).or
        ((if k = "metadata" then item.metadata.map Json.ofStrings else none).or
          ((if k = "etag" then item.etag.map .string else none).or
            ((if k = "value" then value else none).or
              (if k = "key" then some (.string item.key) else none)))) := by
  have hvalue : (value.toList.map fun value => ("value", value)).reverse.lookup k =
      if k = "value" then value else none := by
    simpa using lookup_reverse_optional "value" k id value
  unfold itemMembers
  rw [List.reverse_append, List.reverse_append, List.reverse_append, List.reverse_append,
    List.lookup_append, List.lookup_append, List.lookup_append, List.lookup_append,
    lookup_reverse_optional, lookup_reverse_optional, lookup_reverse_optional,
    hvalue]
  exact congrArg _ (congrArg _ (congrArg _ (congrArg _ Json.lookup_cons)))

/-- The members as they are read. -/
def readMembers (item : State.Item) (value : Option Json) : List (String × Json) :=
  Json.sortMembers (Json.mapMembers Json.sorted (itemMembers item value))

/-- What is read again is put in order, and found under the same name. -/
theorem lookup_readMembers (k : String) :
    (readMembers item value).lookup k =
      ((itemMembers item value).reverse.lookup k).map Json.sorted := by
  have hreverse : (Json.mapMembers Json.sorted (itemMembers item value)).reverse =
      Json.mapMembers Json.sorted (itemMembers item value).reverse := List.map_reverse.symm
  rw [readMembers, Json.lookup_sortMembers, hreverse, Json.lookup_mapMembers]

/-- An object of strings is put in order by its names. -/
theorem sorted_ofStrings (pairs : List (String × String)) :
    (Json.ofStrings pairs).sorted = Json.ofStrings (Json.sortMembers pairs) := by
  have hmembers : Json.sortedMembers (Json.mapMembers .string pairs) =
      Json.mapMembers .string pairs := by
    rw [Json.sortedMembers_eq_mapMembers]
    exact List.map_map
  change Json.object (Json.sortMembers (Json.sortedMembers (Json.mapMembers .string pairs))) =
    .object (Json.mapMembers .string (Json.sortMembers pairs))
  rw [hmembers, Json.sortMembers_mapMembers]

/-- Documents that were read are in order already. -/
theorem map_sorted_of_ofBytes {bytes : Option Bytes}
    (h : bytes.map Json.ofBytes = value.map .ok) : value.map Json.sorted = value := by
  cases value with
  | none => rfl
  | some v =>
    obtain ⟨bytes, -, hv⟩ := Option.map_eq_some_iff.1 h
    exact congrArg some (Json.sorted_eq_of_isOrdered (Json.isRead_of_ofBytes hv).1)

theorem carries_readMembers (h : item.value.map Json.ofBytes = value.map .ok) :
    Carries item (readMembers item value) where
  ascending := Json.isAscending_sortMembers _
  names m hm := by
    obtain ⟨n, hn, rfl⟩ := List.mem_map.1 (Json.mem_of_mem_sortMembers hm)
    refine forall_mem_itemMembers (p := fun m => m.1 ∈ _) ?_ (fun _ _ => ?_) (fun _ => ?_)
      (fun _ => ?_) (fun _ => ?_) n hn
    all_goals simp
  key := by rw [lookup_readMembers, lookup_reverse_itemMembers]; rfl
  value := by
    have hlookup : (itemMembers item value).reverse.lookup "value" = value :=
      (lookup_reverse_itemMembers "value").trans Option.or_none
    rw [lookup_readMembers, hlookup, map_sorted_of_ofBytes h, h]
  etag := by
    have hlookup : (itemMembers item value).reverse.lookup "etag" = item.etag.map .string :=
      (lookup_reverse_itemMembers "etag").trans Option.or_none
    rw [lookup_readMembers, hlookup, Option.map_map]
    rfl
  metadata := by
    have hlookup : (itemMembers item value).reverse.lookup "metadata" =
        item.metadata.map Json.ofStrings :=
      (lookup_reverse_itemMembers "metadata").trans Option.or_none
    rw [lookup_readMembers, hlookup, Option.map_map]
    exact congrArg (item.metadata.map ·) (funext sorted_ofStrings)
  options := by
    have hlookup : (itemMembers item value).reverse.lookup "options" =
        item.options.map (·.json) :=
      (lookup_reverse_itemMembers "options").trans Option.or_none
    rw [lookup_readMembers, hlookup, Option.map_map]
    rfl

/-! ## Objects -/

theorem isWhole_ofStrings (pairs : List (String × String)) : (Json.ofStrings pairs).isWhole := by
  refine Json.isWhole_object.2 fun m hm => ?_
  obtain ⟨pair, -, rfl⟩ := List.mem_map.1 hm
  rfl

theorem levels_ofStrings_le (pairs : List (String × String)) :
    (Json.ofStrings pairs).levels ≤ 1 := by
  refine Nat.succ_le_succ (Json.memberLevels_le_iff.2 fun m hm => ?_)
  obtain ⟨pair, -, rfl⟩ := List.mem_map.1 hm
  exact Nat.le_refl 0

/-- An interval is capped so that 64 bits hold it. -/
theorem isWhole_retryPolicy (p : RetryPolicy) : p.json.isWhole := by
  have hthreshold : p.threshold.toNat < 4294967296 := p.threshold.toNat_lt
  refine Json.isWhole_object.2 fun m hm => ?_
  simp only [List.mem_cons, List.not_mem_nil, or_false] at hm
  rcases hm with rfl | rfl | rfl
  · rfl
  · refine Json.isWhole_number.2 ?_
    simp only [Json.leastWhole, Json.greatestWhole, RetryPolicy.greatestInterval]
    omega
  · refine Json.isWhole_number.2 ?_
    simp only [Json.leastWhole, Json.greatestWhole]
    omega

theorem isWhole_options (o : StateOptions) : o.json.isWhole := by
  refine Json.isWhole_object.2 fun m hm => ?_
  simp only [List.mem_append, List.mem_cons, List.not_mem_nil, or_false, List.mem_map] at hm
  rcases hm with (rfl | rfl) | ⟨p, -, rfl⟩
  · rfl
  · rfl
  · exact isWhole_retryPolicy p

/-- Options are not nested deeper than a retry policy. -/
theorem levels_options_le (o : StateOptions) : o.json.levels ≤ 2 := by
  unfold StateOptions.json
  cases o.retry with
  | none => exact Nat.le_succ 1
  | some p => exact Nat.le_refl 2

theorem isWhole_itemMembers (h : ∀ v ∈ value, v.isWhole) :
    (Json.object (itemMembers item value)).isWhole :=
  Json.isWhole_object.2 <| forall_mem_itemMembers (p := fun m => m.2.isWhole) rfl h (fun _ => rfl)
    isWhole_ofStrings isWhole_options

/-- An item is one level deeper than its value may be. -/
theorem levels_itemMembers_le (h : ∀ v ∈ value, v.levels ≤ depthLimit) :
    (Json.object (itemMembers item value)).levels ≤ depthLimit + 1 := by
  have hmembers : ∀ m ∈ itemMembers item value, m.2.levels ≤ depthLimit :=
    forall_mem_itemMembers (p := fun m => m.2.levels ≤ depthLimit) (Nat.zero_le _) h
      (fun _ => Nat.zero_le _) (fun pairs => Nat.le_trans (levels_ofStrings_le pairs) (by decide))
      (fun o => Nat.le_trans (levels_options_le o) (by decide))
  exact Nat.succ_le_succ (Json.memberLevels_le_iff.2 hmembers)

/-! ## Batches -/

/-- The value of an item is a document whose numbers are whole. -/
def IsDocument (item : State.Item) : Prop :=
  ∀ bytes ∈ item.value, ∃ v, Json.ofBytes bytes = .ok v ∧ v.isWhole

/-- A document is written in such a way that it can be read again. -/
theorem exists_itemJson (h : IsDocument item) :
    ∃ v members, itemJson item = .ok v ∧ v.isWhole ∧ v.levels ≤ depthLimit + 1 ∧
      v.sorted = .object members ∧ Carries item members := by
  obtain ⟨value, hvalue, hwhole⟩ :
      ∃ value : Option Json, item.value.map Json.ofBytes = value.map .ok ∧
        ∀ v ∈ value, v.isWhole := by
    cases hvalue : item.value with
    | none => exact ⟨none, rfl, fun _ h => nomatch h⟩
    | some bytes =>
      obtain ⟨v, hv, hwhole⟩ := h bytes hvalue
      refine ⟨some v, congrArg some hv, fun w hw => ?_⟩
      cases hw
      exact hwhole
  have hlevels : ∀ v ∈ value, v.levels ≤ depthLimit := by
    intro v hv
    rw [Option.mem_def.1 hv] at hvalue
    obtain ⟨bytes, -, hbytes⟩ := Option.map_eq_some_iff.1 hvalue
    exact (Json.isRead_of_ofBytes hbytes).2
  refine ⟨_, readMembers item value, itemJson_of_ofBytes hvalue, isWhole_itemMembers hwhole,
    levels_itemMembers_le hlevels, ?_, carries_readMembers hvalue⟩
  rw [Json.sorted, Json.sortedMembers_eq_mapMembers]
  rfl

/-- Each item becomes an object, in order. -/
theorem exists_mapM_itemJson {items : List State.Item} (h : ∀ item ∈ items, IsDocument item) :
    ∃ vs objects, items.mapM itemJson = .ok vs ∧
      (∀ v ∈ vs, v.isWhole ∧ v.levels ≤ depthLimit + 1) ∧
      vs.map Json.sorted = objects.map .object ∧ objects.length = items.length ∧
      ∀ pair ∈ items.zip objects, Carries pair.1 pair.2 := by
  induction items with
  | nil => exact ⟨[], [], rfl, List.forall_mem_nil _, rfl, rfl, List.forall_mem_nil _⟩
  | cons item rest ih =>
    obtain ⟨hitem, hrest⟩ := List.forall_mem_cons.1 h
    obtain ⟨v, members, hv, hwhole, hlevels, hsorted, hcarries⟩ := exists_itemJson hitem
    obtain ⟨vs, objects, hvs, hall, hmap, hlength, hzip⟩ := ih hrest
    refine ⟨v :: vs, members :: objects, ?_, List.forall_mem_cons.2 ⟨⟨hwhole, hlevels⟩, hall⟩, ?_,
      congrArg (· + 1) hlength, List.forall_mem_cons.2 ⟨hcarries, hzip⟩⟩
    · rw [List.mapM_cons, hv, hvs]
      rfl
    · rw [List.map_cons, List.map_cons, hsorted, hmap]

/-- Documents make a body that is read as the list of them. -/
theorem exists_saveBody {items : List State.Item} (h : ∀ item ∈ items, IsDocument item) :
    ∃ body objects, saveBody items = .ok body ∧
      (∀ depth ≥ depthLimit + 2,
        Json.readText (Json.readValue depth) body = .ok (.array (objects.map .object))) ∧
      objects.length = items.length ∧ ∀ pair ∈ items.zip objects, Carries pair.1 pair.2 := by
  obtain ⟨vs, objects, hvs, hall, hmap, hlength, hzip⟩ := exists_mapM_itemJson h
  have hwhole : (Json.array vs).isWhole := Json.isWhole_array.2 fun v hv => (hall v hv).1
  have hlevels : (Json.array vs).levels ≤ depthLimit + 2 :=
    Nat.succ_le_succ (Json.itemLevels_le_iff.2 fun v hv => (hall v hv).2)
  have hsorted : (Json.array vs).sorted = .array (objects.map .object) := by
    rw [Json.sorted, Json.sortedItems_eq_map, hmap]
  refine ⟨_, objects, by rw [saveBody, hvs]; rfl, fun depth hdepth => ?_, hlength, hzip⟩
  rw [Json.readText_encode hwhole (Nat.le_trans hlevels hdepth), hsorted]

/-! ### Items that are no documents -/

/-- An item is written down with its value, or its value cannot be read. -/
theorem itemJson_cases (item : State.Item) :
    (∃ value, item.value.map Json.ofBytes = value.map .ok ∧
      itemJson item = .ok (.object (itemMembers item value))) ∨
    ∃ fault, itemJson item = .error (.serialization fault) := by
  obtain hvalue | ⟨bytes, hvalue⟩ := Option.eq_none_or_eq_some item.value
  · have hnone : item.value.map Json.ofBytes = (none : Option Json).map .ok := by
      rw [hvalue]
      rfl
    exact .inl ⟨none, hnone, itemJson_of_ofBytes hnone⟩
  · cases hbytes : Json.ofBytes bytes with
    | ok v =>
      have hsome : item.value.map Json.ofBytes = (some v).map .ok := by
        rw [hvalue]
        exact congrArg some hbytes
      exact .inl ⟨some v, hsome, itemJson_of_ofBytes hsome⟩
    | error fault => exact .inr ⟨fault, itemJson_of_error hvalue hbytes⟩

theorem exists_fault_of_itemJson {e : Error} (h : itemJson item = .error e) :
    ∃ fault, e = .serialization fault := by
  rcases itemJson_cases item with ⟨value, -, hitem⟩ | ⟨fault, hitem⟩
  · rw [hitem] at h
    cases h
  · exact ⟨fault, Except.error.inj (h.symm.trans hitem)⟩

/-- One item that is no document fails the batch. -/
theorem exists_mapM_itemJson_error {items : List State.Item}
    (h : ∃ item ∈ items, ∃ bytes ∈ item.value, ∀ v, Json.ofBytes bytes ≠ .ok v) :
    ∃ fault, items.mapM itemJson = .error (.serialization fault) := by
  obtain ⟨bad, hbad, bytes, hbytes, hnone⟩ := h
  induction items with
  | nil => exact absurd hbad List.not_mem_nil
  | cons item rest ih =>
    rw [List.mapM_cons]
    cases hitem : itemJson item with
    | error e =>
      obtain ⟨fault, rfl⟩ := exists_fault_of_itemJson hitem
      exact ⟨fault, rfl⟩
    | ok v =>
      rcases List.mem_cons.1 hbad with rfl | hbad
      · cases hread : Json.ofBytes bytes with
        | ok v => exact absurd hread (hnone v)
        | error fault =>
          rw [itemJson_of_error hbytes hread] at hitem
          cases hitem
      · obtain ⟨fault, hfault⟩ := ih hbad
        rw [hfault]
        exact ⟨fault, rfl⟩

/-! ## Saves -/

/-- The request that a save comes to. -/
def saveMessage (base : Url) (store : String) (body : Bytes) : Request :=
  { method := .post, url := resource base ["state", store] [], body := some body }

section Saves

variable [Redirection] {base : Url} {request : State.SaveRequest}

theorem saveState_snd {body : Bytes} (h : saveBody request.items = .ok body) (w : Wire) :
    (saveState base request w).2 = (send (saveMessage base request.store body) w).2 := by
  unfold saveState
  rw [Action.bind_lift_of_ok h, Action.bind_snd fun _ _ => rfl]
  exact ask_snd _ w

/-- A save whose items cannot be written down sends nothing. -/
theorem saveState_of_error {e : Error} (h : saveBody request.items = .error e) (w : Wire) :
    saveState base request w = (.error e, w) := by
  unfold saveState
  exact Action.bind_lift_of_error h

/-- A save sends one message, whose body is read as a list of objects that carry the items, if the
items are documents; otherwise it sends nothing. -/
theorem saveState_carries (base : Url) (request : State.SaveRequest) :
    ((∀ item ∈ request.items, IsDocument item) →
      ∃ post body objects, post.method = .post ∧ post.body = some body ∧
        Asks post (saveState base request) ∧
        (∀ depth ≥ depthLimit + 2,
          Json.readText (Json.readValue depth) body = .ok (.array (objects.map .object))) ∧
        objects.length = request.items.length ∧
        ∀ pair ∈ request.items.zip objects, Carries pair.1 pair.2) ∧
    ((∃ item ∈ request.items, ∃ bytes ∈ item.value, ∀ v, Json.ofBytes bytes ≠ .ok v) →
      ∃ fault, ∀ w, saveState base request w = (.error (.serialization fault), w)) := by
  constructor
  case left =>
    intro h
    obtain ⟨body, objects, hbody, hread, hlength, hzip⟩ := exists_saveBody h
    exact ⟨saveMessage base request.store body, body, objects, rfl, rfl,
      asks_of_snd (saveState_snd hbody) rfl, hread, hlength, hzip⟩
  case right =>
    intro h
    obtain ⟨fault, hfault⟩ := exists_mapM_itemJson_error h
    have hbody : saveBody request.items = .error (.serialization fault) := by
      rw [saveBody, hfault]
      rfl
    exact ⟨fault, saveState_of_error hbody⟩

end Saves

/-- A sidecar at the usual address. -/
def usual : Url := { host := "127.0.0.1", port := some 3500 }

/-- An item with `null` and an etag, and one without a value but with metadata and options. -/
def nullAndNone : List State.Item :=
  [⟨"k", some [110, 117, 108, 108], some "7", none, none⟩,
    ⟨"l", none, none, some [("ttl", "1")], some {}⟩]

/-- A stored `null` is carried, an item without a value carries none, and half a document is not
sent. -/
theorem saveState_carries_null :
    (∃ (post : Request) (body : Bytes) (objects : List (List (String × Json))),
      post.method = .post ∧ post.body = some body ∧
      (∀ depth ≥ depthLimit + 2,
        Json.readText (Json.readValue depth) body = .ok (.array (objects.map .object))) ∧
      objects.length = 2 ∧ ∀ pair ∈ nullAndNone.zip objects, Carries pair.1 pair.2) ∧
    ∃ fault, ∀ w, saveState usual ⟨"s", [⟨"k", some [91], none, none, none⟩]⟩ w =
      (.error (.serialization fault), w) := by
  have hdocument : ∀ item ∈ nullAndNone, IsDocument item := by
    refine List.forall_mem_cons.2 ⟨fun bytes hbytes => ?_, List.forall_mem_singleton.2 ?_⟩
    · cases hbytes
      exact ⟨.null, rfl, rfl⟩
    · exact fun _ h => nomatch h
  have hbad : ∃ item ∈ [(⟨"k", some [91], none, none, none⟩ : State.Item)],
      ∃ bytes ∈ item.value, ∀ v, Json.ofBytes bytes ≠ .ok v :=
    ⟨_, List.mem_singleton.2 rfl, _, rfl, fun _ h => nomatch h⟩
  obtain ⟨post, body, objects, hmethod, hbody, -, hread, hlength, hzip⟩ :=
    (saveState_carries usual ⟨"s", nullAndNone⟩).1 hdocument
  exact ⟨⟨post, body, objects, hmethod, hbody, hread, hlength, hzip⟩,
    (saveState_carries usual ⟨"s", _⟩).2 hbad⟩

/-- Arrays in arrays. -/
def nestedArrays (depth : Nat) : Bytes :=
  List.replicate depth Json.openBracket ++ List.replicate depth Json.closeBracket

set_option maxRecDepth 20000 in
/-- Arrays nested 128 deep are JSON, but are not sent. -/
theorem saveState_too_deep :
    (∃ v, Json.readText (Json.readValue 128) (nestedArrays 128) = .ok v ∧ v.isWhole ∧
      v.levels = 128) ∧
    saveState usual ⟨"s", [⟨"k", some (nestedArrays 128), none, none, none⟩]⟩
        { replies := [.response {}], otherwise := .unreachable } =
      (.error (.serialization ⟨.recursionLimit, 1, 128⟩),
        { replies := [.response {}], otherwise := .unreachable }) :=
  ⟨⟨_, rfl, rfl, rfl⟩, rfl⟩

end Sidecar.Http
