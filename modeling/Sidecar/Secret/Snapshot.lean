import Sidecar.Text.Pieces
import Sidecar.Unicode.Lowercase

/-!
# Configurations

A snapshot is a flat map whose keys are compared without regard to case.  Its entries are held in
ascending order of their folded keys, which are therefore distinct.  Keys are paths, and the entries
below a section form a snapshot again.
-/

namespace Sidecar.Secret

def delimiter : Char := ':'

/-- Keys with the same folding are one. -/
def fold (key : String) : String := Unicode.lowercase key

namespace Snapshot

structure Entry where
  folded : String
  /-- As it was inserted. -/
  key : String
  value : String
deriving DecidableEq, Repr

/-- The entries with one more; `none` if there is one with its folded key. -/
def insertNew? (e : Entry) : List Entry → Option (List Entry)
  | [] => some [e]
  | f :: rest =>
    if e.folded < f.folded then some (e :: f :: rest)
    else if e.folded = f.folded then none
    else (insertNew? e rest).map (f :: ·)

/-- The entries with one more, in place of the one with its folded key if there is one. -/
def replace (e : Entry) : List Entry → List Entry
  | [] => [e]
  | f :: rest =>
    if e.folded < f.folded then e :: f :: rest
    else if e.folded = f.folded then e :: rest
    else f :: replace e rest

/-- Entries that come in any order, put in order; of those with one folded key the last is kept. -/
def collect (entries : List Entry) : List Entry :=
  entries.foldl (fun held e => replace e held) []

def Entry.startsWith (front : String) (e : Entry) : Bool :=
  front.toList.isPrefixOf e.folded.toList

/-- The entry without the sections in front of it.  The folded key is cut behind the folded front,
the key behind as many delimiters, because folding may change the length. -/
def Entry.strip (front : String) (depth : Nat) (e : Entry) : Entry :=
  { e with
    folded := String.ofList (e.folded.toList.drop front.length)
    key := String.ofList (Text.dropPieces delimiter depth e.key.toList) }

/-- The entries from the first that is not less than `front` on, as long as they start with it. -/
def scan (front : String) (entries : List Entry) : List Entry :=
  (entries.dropWhile (·.folded < front)).takeWhile (Entry.startsWith front)

/-- In ascending order of folded keys. -/
def Ascending (entries : List Entry) : Prop := entries.Pairwise (·.folded < ·.folded)

theorem mem_of_insertNew? {e g : Entry} {entries inserted : List Entry}
    (h : insertNew? e entries = some inserted) (hg : g ∈ inserted) : g = e ∨ g ∈ entries := by
  induction entries generalizing inserted with
  | nil =>
    obtain rfl := Option.some.inj h
    simpa using hg
  | cons f rest ih =>
    unfold insertNew? at h
    split at h
    · obtain rfl := Option.some.inj h
      simpa using hg
    · split at h
      · simp at h
      · obtain ⟨more, hmore, rfl⟩ := Option.map_eq_some_iff.1 h
        rcases List.mem_cons.1 hg with rfl | hg
        · simp
        · rcases ih hmore hg with rfl | hg <;> simp [*]

theorem Ascending.insertNew? {e : Entry} {entries inserted : List Entry}
    (hs : Ascending entries) (h : insertNew? e entries = some inserted) : Ascending inserted := by
  induction entries generalizing inserted with
  | nil =>
    obtain rfl := Option.some.inj h
    exact List.pairwise_singleton _ _
  | cons f rest ih =>
    obtain ⟨hf, hrest⟩ := List.pairwise_cons.1 hs
    unfold Snapshot.insertNew? at h
    split at h
    case isTrue hlt =>
      obtain rfl := Option.some.inj h
      refine List.pairwise_cons.2 ⟨fun g hg => ?_, hs⟩
      rcases List.mem_cons.1 hg with rfl | hg
      · exact hlt
      · exact String.lt_trans hlt (hf g hg)
    case isFalse hlt =>
      split at h
      case isTrue => simp at h
      case isFalse hne =>
        obtain ⟨more, hmore, rfl⟩ := Option.map_eq_some_iff.1 h
        refine List.pairwise_cons.2 ⟨fun g hg => ?_, ih hrest hmore⟩
        rcases mem_of_insertNew? hmore hg with rfl | hg
        · exact Std.lt_of_le_of_ne hlt (Ne.symm hne)
        · exact hf g hg

theorem mem_of_replace {e g : Entry} {entries : List Entry} (hg : g ∈ replace e entries) :
    g = e ∨ g ∈ entries := by
  induction entries with
  | nil => simpa [replace] using hg
  | cons f rest ih =>
    unfold replace at hg
    split at hg
    · simpa using hg
    · split at hg
      · rcases List.mem_cons.1 hg with rfl | hg <;> simp [*]
      · rcases List.mem_cons.1 hg with rfl | hg
        · simp
        · rcases ih hg with rfl | hg <;> simp [*]

theorem Ascending.replace {e : Entry} {entries : List Entry} (hs : Ascending entries) :
    Ascending (replace e entries) := by
  induction entries with
  | nil => exact List.pairwise_singleton _ _
  | cons f rest ih =>
    obtain ⟨hf, hrest⟩ := List.pairwise_cons.1 hs
    unfold Snapshot.replace
    split
    case isTrue hlt =>
      refine List.pairwise_cons.2 ⟨fun g hg => ?_, hs⟩
      rcases List.mem_cons.1 hg with rfl | hg
      · exact hlt
      · exact String.lt_trans hlt (hf g hg)
    case isFalse hlt =>
      split
      case isTrue heq =>
        exact List.pairwise_cons.2 ⟨fun g hg => heq ▸ hf g hg, hrest⟩
      case isFalse hne =>
        refine List.pairwise_cons.2 ⟨fun g hg => ?_, ih hrest⟩
        rcases mem_of_replace hg with rfl | hg
        · exact Std.lt_of_le_of_ne hlt (Ne.symm hne)
        · exact hf g hg

/-- Whatever is added to ascending entries, they stay ascending. -/
theorem Ascending.collect (entries : List Entry) : Ascending (collect entries) := by
  suffices h : ∀ held, Ascending held →
      Ascending (entries.foldl (fun held e => Snapshot.replace e held) held) from h [] .nil
  induction entries with
  | nil => exact fun _ h => h
  | cons e rest ih => exact fun _ h => ih _ h.replace

end Snapshot

structure Snapshot where
  entries : List Snapshot.Entry
  ascending : Snapshot.Ascending entries
deriving DecidableEq

namespace Snapshot

def empty : Snapshot := ⟨[], .nil⟩

instance : Inhabited Snapshot := ⟨empty⟩

def ofEntries (entries : List Entry) : Snapshot := ⟨collect entries, .collect entries⟩

/-- `none` if there is an entry with the same folded key. -/
def insert? (s : Snapshot) (key value : String) : Option Snapshot :=
  match h : insertNew? ⟨fold key, key, value⟩ s.entries with
  | some entries => some ⟨entries, s.ascending.insertNew? h⟩
  | none => none

def find? (s : Snapshot) (key : String) : Option Entry :=
  s.entries.find? fun e => e.folded == fold key

def get? (s : Snapshot) (key : String) : Option String := (s.find? key).map (·.value)

def contains (s : Snapshot) (key : String) : Bool := (s.find? key).isSome

def size (s : Snapshot) : Nat := s.entries.length

def isEmpty (s : Snapshot) : Bool := s.entries.isEmpty

/-- Keys as they were inserted, and values. -/
def toList (s : Snapshot) : List (String × String) := s.entries.map fun e => (e.key, e.value)

/-! ## Sections -/

/-- Delimiters around the name of a section are ignored. -/
def sectionName (name : String) : List Char := Text.trim delimiter name.toList

/-- What the folded keys below a section start with. -/
def sectionFront (name : List Char) : String :=
  fold (String.ofList (name ++ [delimiter]))

/-- The entries below a section, without its name; all of them if the name is empty. -/
def within (s : Snapshot) (name : String) : Snapshot :=
  let name := sectionName name
  if name.isEmpty then s
  else
    let front := sectionFront name
    let depth := (Text.pieces delimiter name).length
    ofEntries ((scan front s.entries).map (Entry.strip front depth))

/-- Several sections, outermost first. -/
def withinAll (s : Snapshot) (names : List String) : Snapshot := names.foldl within s

/-- The first piece of a key. -/
def firstPiece (key : String) : String :=
  String.ofList (key.toList.takeWhile (· != delimiter))

/-- Keeps the first of the names with the same folding. -/
def distinctNames (seen : List String) : List String → List String
  | [] => []
  | name :: rest =>
    if fold name ∈ seen then distinctNames seen rest
    else name :: distinctNames (fold name :: seen) rest

/-- The first pieces of all keys. -/
def children (s : Snapshot) : List String :=
  distinctNames [] (s.entries.map fun e => firstPiece e.key)

end Snapshot

end Sidecar.Secret
