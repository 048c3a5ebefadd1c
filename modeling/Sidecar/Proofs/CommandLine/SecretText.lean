import Sidecar.CommandLine.Reading
import Sidecar.Proofs.Action
import Sidecar.Proofs.Json.Members
import Sidecar.Proofs.Text.Pieces

/-!
# Texts of secrets

A text falls into a name and pieces of metadata in exactly one way.  It is read if there is a name
and all pieces but the empty ones have a key; then the secret has the name and the metadata that
stand there, the last value of a repeated key.  In particular, a secret that is written down is read
back, in whatever order its metadata are written.

The main result is `readSecret_grammar`.
-/

namespace Sidecar.CommandLine

open Json (IsAscending sortMembers)
open Secret (Descriptor)

/-- A text is a name alone, or a name, an equals sign and pieces with commas between them. -/
inductive SecretParts : String → String → List String → Prop
  | alone {name : String} (h : '=' ∉ name.toList) : SecretParts name name []
  | assigned {s name : String} {pieces : List String} (hname : '=' ∉ name.toList)
      (hne : pieces ≠ []) (hpieces : ∀ piece ∈ pieces, ',' ∉ piece.toList)
      (hs : s = name ++ "=" ++ ",".intercalate pieces) : SecretParts s name pieces

/-- A piece is what stands before its first colon, that colon and the rest. -/
def IsMetadatum (piece : String) (m : String × String) : Prop :=
  piece = m.1 ++ ":" ++ m.2 ∧ ':' ∉ m.1.toList

/-- Metadata as they are written. -/
def metadatumText (m : String × String) : String := m.1 ++ ":" ++ m.2

/-- A secret with its metadata in the given order. -/
def secretText (name : String) (metadata : List (String × String)) : String :=
  name ++ "=" ++ ",".intercalate (metadata.map metadatumText)

/-- The secrets that can be written down: no delimiter stands where it would be taken for one. -/
structure IsWritable (d : Descriptor) : Prop where
  name_ne : d.name ≠ ""
  name : '=' ∉ d.name.toList
  ascending : IsAscending d.metadata
  key_ne (m : String × String) (h : m ∈ d.metadata) : m.1 ≠ ""
  key_colon (m : String × String) (h : m ∈ d.metadata) : ':' ∉ m.1.toList
  key_comma (m : String × String) (h : m ∈ d.metadata) : ',' ∉ m.1.toList
  value_comma (m : String × String) (h : m ∈ d.metadata) : ',' ∉ m.2.toList

variable {s name piece : String} {pieces : List String} {m : String × String} {d : Descriptor}

/-! ## Pieces of metadata -/

theorem isMetadatum_iff : IsMetadatum piece m ↔ Text.cutText ':' piece = some m := by
  obtain ⟨key, value⟩ := m
  rw [Text.cutText_eq_some_iff, IsMetadatum, ← String.toList_inj]
  simp

theorem readMetadatum_eq_ok_iff :
    readMetadatum piece = .ok m ↔ IsMetadatum piece m ∧ m.1 ≠ "" := by
  rw [isMetadatum_iff, readMetadatum]
  cases Text.cutText ':' piece with
  | none => simp
  | some pair =>
    obtain ⟨key, value⟩ := pair
    simp only [String.isEmpty_iff, Option.some.injEq]
    split
    case isTrue hkey =>
      refine iff_of_false nofun ?_
      rintro ⟨rfl, hne⟩
      exact hne hkey
    case isFalse hkey =>
      constructor
      · rintro ⟨⟩
        exact ⟨rfl, hkey⟩
      · rintro ⟨rfl, -⟩
        rfl

/-- A piece of metadata can be read if there is a colon in it that is not its first character. -/
theorem exists_readMetadatum_iff :
    (∃ m, readMetadatum piece = .ok m) ↔
      ':' ∈ piece.toList ∧ piece.toList.head? ≠ some ':' := by
  simp only [readMetadatum_eq_ok_iff]
  constructor
  · rintro ⟨⟨key, value⟩, ⟨rfl, hcolon⟩, hkey⟩
    refine ⟨by simp, ?_⟩
    obtain ⟨c, cs, hcs⟩ := List.exists_cons_of_ne_nil (mt String.toList_eq_nil_iff.1 hkey)
    rw [hcs, List.mem_cons, not_or] at hcolon
    simpa [hcs] using Ne.symm hcolon.1
  · rintro ⟨hmem, hhead⟩
    cases hcut : Text.cutText ':' piece with
    | none => exact absurd hmem (Text.cutText_eq_none_iff.1 hcut)
    | some m =>
      refine ⟨m, isMetadatum_iff.2 hcut, fun hkey => hhead ?_⟩
      rw [(Text.cutText_eq_some_iff.1 hcut).1, hkey]
      rfl

/-! ## Parts of a text -/

theorem secretParts_of_none (hcut : Text.cutText '=' s = none) :
    SecretParts s name pieces ↔ name = s ∧ pieces = [] := by
  have hs := Text.cutText_eq_none_iff.1 hcut
  constructor
  · rintro (- | ⟨-, -, -, rfl⟩)
    · exact ⟨rfl, rfl⟩
    · simp at hs
  · rintro ⟨rfl, rfl⟩
    exact .alone hs

/-- The name ends at the first equals sign, and commas part the metadata. -/
theorem secretParts_of_some {before after : String}
    (hcut : Text.cutText '=' s = some (before, after)) :
    SecretParts s name pieces ↔ name = before ∧ pieces = Text.textPieces ',' after := by
  obtain ⟨hs, hbefore⟩ := Text.cutText_eq_some_iff.1 hcut
  constructor
  · rintro (hname | ⟨hname, hne, hpieces, rfl⟩)
    · rw [hs] at hname
      simp at hname
    · have hcut' : Text.cutText '=' (name ++ "=" ++ ",".intercalate pieces) =
          some (name, ",".intercalate pieces) := Text.cutText_eq_some_iff.2 ⟨by simp, hname⟩
      obtain ⟨rfl, rfl⟩ := Prod.mk.inj (Option.some.inj (hcut.symm.trans hcut'))
      exact ⟨rfl, (Text.textPieces_eq_iff.2 ⟨hne, hpieces, by simp⟩).symm⟩
  · rintro ⟨rfl, rfl⟩
    obtain ⟨hne, hpieces, hafter⟩ := Text.textPieces_eq_iff.1 (rfl : Text.textPieces ',' after = _)
    refine .assigned hbefore hne hpieces ?_
    rw [← String.toList_inj, hs, hafter]
    simp

/-- A text has a name and pieces, and no others. -/
theorem exists_secretParts (s : String) :
    ∃ name pieces, SecretParts s name pieces ∧
      ∀ name' pieces', SecretParts s name' pieces' → name' = name ∧ pieces' = pieces := by
  cases hcut : Text.cutText '=' s with
  | none =>
    have hparts {name : String} {pieces : List String} :=
      @secretParts_of_none s name pieces hcut
    exact ⟨s, [], hparts.2 ⟨rfl, rfl⟩, fun _ _ => hparts.1⟩
  | some pair =>
    have hparts {name : String} {pieces : List String} :=
      @secretParts_of_some s name pieces _ _ hcut
    exact ⟨_, _, hparts.2 ⟨rfl, rfl⟩, fun _ _ => hparts.1⟩

/-- The pieces that are not passed over. -/
def keptPieces (pieces : List String) : List String := pieces.filter (!·.isEmpty)

theorem forall_mem_keptPieces {P : String → Prop} :
    (∀ piece ∈ keptPieces pieces, P piece) ↔ ∀ piece ∈ pieces, piece ≠ "" → P piece := by
  simp [keptPieces]

/-- A secret is read from its name and the pieces that are not empty. -/
theorem readSecret_eq_of_parts (h : SecretParts s name pieces) :
    readSecret s =
      if name = "" then .error "secret name must not be empty"
      else ((keptPieces pieces).mapM readMetadatum).map fun m => ⟨name, sortMembers m⟩ := by
  have hread (metadata : String) (hpieces : keptPieces (Text.textPieces ',' metadata) =
      keptPieces pieces) (hcut : (Text.cutText '=' s).getD (s, "") = (name, metadata)) :
      readSecret s =
        if name = "" then .error "secret name must not be empty"
        else ((keptPieces pieces).mapM readMetadatum).map fun m => ⟨name, sortMembers m⟩ := by
    rw [readSecret, hcut, ← hpieces]
    simp only [String.isEmpty_iff]
    split
    · rfl
    · change ((keptPieces _).mapM readMetadatum >>= _) = _
      cases (keptPieces (Text.textPieces ',' metadata)).mapM readMetadatum with
      | ok => rfl
      | error => rfl
  cases hcut : Text.cutText '=' s with
  | none =>
    obtain ⟨rfl, rfl⟩ := (secretParts_of_none hcut).1 h
    exact hread "" (by decide) (by rw [hcut]; rfl)
  | some pair =>
    obtain ⟨before, after⟩ := pair
    obtain ⟨rfl, rfl⟩ := (secretParts_of_some hcut).1 h
    exact hread after rfl (by rw [hcut]; rfl)

/-! ## Secrets that are read -/

/-- A secret is read as its name with the metadata in order. -/
theorem readSecret_eq_ok_iff (h : SecretParts s name pieces) :
    readSecret s = .ok d ↔ name ≠ "" ∧
      ∃ pairs, List.Forall₂ (fun piece m => readMetadatum piece = .ok m) (keptPieces pieces) pairs ∧
        d = ⟨name, sortMembers pairs⟩ := by
  rw [readSecret_eq_of_parts h]
  simp only [← Result.mapM_eq_ok_iff]
  split
  case isTrue hname => exact iff_of_false nofun fun h => h.1 hname
  case isFalse hname =>
    rw [ne_eq, and_iff_right hname]
    constructor
    · intro hd
      obtain ⟨pairs, hpairs, rfl⟩ := Result.exists_of_map_eq_ok hd
      exact ⟨pairs, hpairs, rfl⟩
    · rintro ⟨pairs, hpairs, rfl⟩
      rw [hpairs]
      rfl

/-- A secret can be read if there is a name, and a key in every piece that is not empty. -/
theorem exists_readSecret_iff (h : SecretParts s name pieces) :
    (∃ d, readSecret s = .ok d) ↔ name ≠ "" ∧ ∀ piece ∈ pieces, piece ≠ "" →
      ':' ∈ piece.toList ∧ piece.toList.head? ≠ some ':' := by
  simp only [readSecret_eq_ok_iff h, ← Result.mapM_eq_ok_iff]
  rw [← @forall_mem_keptPieces pieces]
  simp only [← exists_readMetadatum_iff]
  rw [← Result.exists_mapM_eq_ok_iff]
  constructor
  · rintro ⟨_, hname, pairs, hpairs, -⟩
    exact ⟨hname, pairs, hpairs⟩
  · rintro ⟨hname, pairs, hpairs⟩
    exact ⟨_, hname, pairs, hpairs, rfl⟩

/-! ## Secrets that are written -/

/-- Metadata come out in their order however they are written. -/
theorem sortMembers_eq_of_perm {pairs members : List (String × String)} (h : pairs.Perm members)
    (hmembers : IsAscending members) : sortMembers pairs = members := by
  have hnodup : (members.map Prod.fst).Nodup := by
    refine List.pairwise_map.2 (hmembers.imp fun {a b} hab heq => ?_)
    exact String.lt_irrefl b.1 (heq ▸ hab)
  have hsorted := (Json.perm_sortMembers ((h.map _).nodup_iff.2 hnodup)).trans h
  have hascending := Json.isAscending_sortMembers pairs
  refine hsorted.eq_of_pairwise (fun a b _ _ hab hba => ?_) hascending hmembers
  exact absurd (String.lt_trans hab hba) (String.lt_irrefl a.1)

theorem readMetadatum_metadatumText (hkey : m.1 ≠ "") (hcolon : ':' ∉ m.1.toList) :
    readMetadatum (metadatumText m) = .ok m :=
  readMetadatum_eq_ok_iff.2 ⟨⟨rfl, hcolon⟩, hkey⟩

theorem metadatumText_ne_empty (m : String × String) : metadatumText m ≠ "" := by
  rw [metadatumText, ne_eq, ← String.toList_inj]
  simp

/-- Metadata that is written may also be none at all, and then there is one empty piece. -/
theorem secretParts_secretText {pairs : List (String × String)} (hname : '=' ∉ name.toList)
    (hpairs : ∀ m ∈ pairs, ',' ∉ (metadatumText m).toList) :
    ∃ pieces, SecretParts (secretText name pairs) name pieces ∧
      keptPieces pieces = pairs.map metadatumText := by
  cases pairs with
  | nil =>
    refine ⟨[""], .assigned hname (List.cons_ne_nil _ _) ?_ ?_, rfl⟩
    · simp
    · simp [secretText]
  | cons m rest =>
    refine ⟨(m :: rest).map metadatumText, .assigned hname ?_ ?_ rfl, ?_⟩
    · simp
    · exact List.forall_mem_map.2 hpairs
    · rw [keptPieces, List.filter_eq_self]
      refine List.forall_mem_map.2 fun m _ => ?_
      simpa using metadatumText_ne_empty m

theorem readSecret_secretText (hd : IsWritable d) {pairs : List (String × String)}
    (hperm : pairs.Perm d.metadata) : readSecret (secretText d.name pairs) = .ok d := by
  have hcomma : ∀ m ∈ pairs, ',' ∉ (metadatumText m).toList := by
    intro m hm
    have hmem := hperm.mem_iff.1 hm
    simp [metadatumText, hd.key_comma m hmem, hd.value_comma m hmem]
  obtain ⟨pieces, hparts, hkept⟩ := secretParts_secretText hd.name hcomma
  refine (readSecret_eq_ok_iff hparts).2 ⟨hd.name_ne, pairs, ?_, ?_⟩
  · rw [hkept, List.forall₂_map_left_iff, List.forall₂_same]
    intro m hm
    have hmem := hperm.mem_iff.1 hm
    exact readMetadatum_metadatumText (hd.key_ne m hmem) (hd.key_colon m hmem)
  · rw [sortMembers_eq_of_perm hperm hd.ascending]

/-- A text has one name and its pieces.  It is read just if the name is not empty and each piece
that is not empty has a colon in it but not in front.  The secret has the name, and for each key in
front of the first colon of a piece what follows that colon, in the last piece with the key.  So a
secret that can be written down is what is read from its text. -/
theorem readSecret_grammar :
    (∀ s, ∃ name pieces, SecretParts s name pieces ∧
      ∀ name' pieces', SecretParts s name' pieces' → name' = name ∧ pieces' = pieces) ∧
    (∀ s name pieces, SecretParts s name pieces →
      ((∃ d, readSecret s = .ok d) ↔ name ≠ "" ∧ ∀ piece ∈ pieces, piece ≠ "" →
        ':' ∈ piece.toList ∧ piece.toList.head? ≠ some ':') ∧
      ∀ d, readSecret s = .ok d → d.name = name ∧ IsAscending d.metadata ∧
        ∃ pairs, List.Forall₂ IsMetadatum (pieces.filter (!·.isEmpty)) pairs ∧
          ∀ key, d.metadata.lookup key = pairs.reverse.lookup key) ∧
    ∀ d, IsWritable d →
      (d.metadata = [] → readSecret d.name = .ok d) ∧
      ∀ pairs : List (String × String), pairs.Perm d.metadata →
        readSecret (secretText d.name pairs) = .ok d := by
  refine ⟨exists_secretParts, fun s name pieces h => ⟨exists_readSecret_iff h, ?_⟩,
    fun d hd => ⟨?_, fun pairs => readSecret_secretText hd⟩⟩
  · intro d hread
    obtain ⟨-, pairs, hpairs, rfl⟩ := (readSecret_eq_ok_iff h).1 hread
    refine ⟨rfl, Json.isAscending_sortMembers pairs, pairs, ?_, Json.lookup_sortMembers pairs⟩
    exact hpairs.imp fun piece m hm => (readMetadatum_eq_ok_iff.1 hm).1
  · intro hmetadata
    obtain ⟨name, metadata⟩ := d
    cases hmetadata
    exact (readSecret_eq_ok_iff (.alone hd.name)).2 ⟨hd.name_ne, [], .nil, rfl⟩

/-- An empty piece, a colon in a value and a repeated key. -/
theorem readSecret_grammar_repeated_key :
    SecretParts "db=b:1,,a:x:y,b:" "db" ["b:1", "", "a:x:y", "b:"] ∧
      IsWritable ⟨"db", [("a", "x:y"), ("b", "")]⟩ ∧
      (∃ d, readSecret "db=b:1,,a:x:y,b:" = .ok d ∧ d.name = "db") ∧
      readSecret "db=b:,a:x:y" = .ok ⟨"db", [("a", "x:y"), ("b", "")]⟩ := by
  obtain ⟨-, hreads, hwritten⟩ := readSecret_grammar
  have hparts : SecretParts "db=b:1,,a:x:y,b:" "db" ["b:1", "", "a:x:y", "b:"] :=
    .assigned (by decide) (by decide) (by decide) (by decide)
  have hwritable : IsWritable ⟨"db", [("a", "x:y"), ("b", "")]⟩ :=
    ⟨by decide, by decide, by decide, by decide, by decide, by decide, by decide⟩
  obtain ⟨hiff, hread⟩ := hreads _ _ _ hparts
  obtain ⟨d, hd⟩ := hiff.2 ⟨by decide, by decide⟩
  refine ⟨hparts, hwritable, ⟨d, hd, (hread d hd).1⟩, ?_⟩
  exact (hwritten _ hwritable).2 [("b", ""), ("a", "x:y")] (.swap _ _ _)

/-- A piece with a colon that is not its first character is refused if its first character is one
too: its key would be empty. -/
theorem readSecret_empty_key :
    SecretParts "x=:a:b" "x" [":a:b"] ∧ "x" ≠ "" ∧
      (∀ piece ∈ [":a:b"], piece ≠ "" → ':' ∈ piece.toList.tail) ∧
      ¬∃ d, readSecret "x=:a:b" = .ok d := by
  refine ⟨.assigned (by decide) (by decide) (by decide) (by decide), by decide, by decide, ?_⟩
  rintro ⟨d, hd⟩
  cases hd

end Sidecar.CommandLine
