import Sidecar.State.Transport

/-!
# A sidecar in memory

Each item has a version, counted from one since the item was last absent; its decimal text is the
item's etag.  Calls are recorded, and queued faults answer the next calls.
-/

namespace Sidecar.State

structure Address where
  store : String
  key : String
deriving DecidableEq, Repr

structure Versioned where
  data : Bytes
  version : Nat
deriving DecidableEq, Repr

/-- The stored items, the last written first. -/
structure Items where
  cells : List (Address × Versioned) := []
deriving DecidableEq, Repr

inductive Call where
  | get (request : GetRequest)
  | save (request : SaveRequest)
  | delete (request : DeleteRequest)
deriving DecidableEq, Repr

structure Memory where
  items : Items := {}
  /-- Statuses of the queued faults, oldest first. -/
  faults : List Nat := []
  /-- Newest first. -/
  calls : List Call := []

namespace Items

def find? (items : Items) (a : Address) : Option Versioned := items.cells.lookup a

/-- Stores an item in the place of the one that is there, or removes that. -/
def set (items : Items) (a : Address) (item : Option Versioned) : Items :=
  ⟨item.toList.map (a, ·) ++ items.cells.filter (·.1 != a)⟩

theorem lookup_cons {cells : List (Address × Versioned)} {a b : Address} {item : Versioned} :
    ((a, item) :: cells).lookup b = if b = a then some item else cells.lookup b := by
  rw [List.lookup_cons]
  split <;> simp_all

theorem lookup_filter_ne {cells : List (Address × Versioned)} {a b : Address} :
    (cells.filter (·.1 != a)).lookup b = if b = a then none else cells.lookup b := by
  induction cells with
  | nil => simp
  | cons cell rest ih =>
    obtain ⟨c, item⟩ := cell
    by_cases hc : c = a
    · simp_all [lookup_cons]
    · simp_all [lookup_cons]
      grind

@[simp]
theorem find?_set (items : Items) (a b : Address) (item : Option Versioned) :
    (items.set a item).find? b = if b = a then item else items.find? b := by
  cases item <;> by_cases h : b = a <;> simp [find?, set, lookup_cons, lookup_filter_ne, h]

def nextVersion (items : Items) (a : Address) : Nat :=
  match items.find? a with
  | some item => item.version + 1
  | none => 1

/-- Stores data as the next version. -/
def put (items : Items) (a : Address) (data : Bytes) : Items :=
  items.set a (some ⟨data, items.nextVersion a⟩)

/-- No etag is always accepted. -/
def accepts (items : Items) (a : Address) : Option String → Bool
  | none => true
  | some etag => match items.find? a with
    | some item => etag == toString item.version
    | none => false

def mismatch : Error := .remoteFault 409 "possible etag mismatch"

def write (items : Items) (store : String) (item : Item) : Except Error Items :=
  let a := ⟨store, item.key⟩
  if items.accepts a item.etag then
    match item.value with
    | some data => .ok (items.put a data)
    | none => .ok (items.set a none)
  else .error mismatch

/-- Writes items in order up to the first that is refused. -/
def writeAll (items : Items) (store : String) : List Item → Except Error Unit × Items
  | [] => (.ok (), items)
  | item :: rest =>
    match items.write store item with
    | .ok items => items.writeAll store rest
    | .error e => (.error e, items)

def delete (items : Items) (a : Address) (etag : Option String) : Except Error Items :=
  if items.accepts a etag then .ok (items.set a none) else .error mismatch

def read (items : Items) (a : Address) : GetResponse :=
  match items.find? a with
  | some item => ⟨some item.data, some (toString item.version)⟩
  | none => .absent

end Items

namespace Memory

/-- Records a call, which fails if a fault is queued. -/
def record (call : Call) : Action Memory Unit := fun m =>
  let m := { m with calls := call :: m.calls }
  match m.faults with
  | [] => (.ok (), m)
  | status :: faults => (.error (.remoteFault status "injected"), { m with faults })

def failNext (status : Nat) (m : Memory) : Memory := { m with faults := m.faults ++ [status] }

def putRaw (a : Address) (data : Bytes) (m : Memory) : Memory :=
  { m with items := m.items.put a data }

def get (request : GetRequest) : Action Memory GetResponse := do
  record (.get request)
  fun m => (.ok (m.items.read ⟨request.store, request.key⟩), m)

def save (request : SaveRequest) : Action Memory Unit := do
  record (.save request)
  fun m =>
    let (result, items) := m.items.writeAll request.store request.items
    (result, { m with items })

def delete (request : DeleteRequest) : Action Memory Unit := do
  record (.delete request)
  fun m =>
    match m.items.delete ⟨request.store, request.key⟩ request.etag with
    | .ok items => (.ok (), { m with items })
    | .error e => (.error e, m)

def transport : Transport Memory := ⟨get, save, delete⟩

end Memory

end Sidecar.State
