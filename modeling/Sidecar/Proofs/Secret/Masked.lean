import Sidecar.Proofs.Http.Alike
import Sidecar.Proofs.Secret.Load

/-!
# Configurations without their values

Which keys are accepted, and where they stand, does not depend on values.  A load over alike wires
ends in the same way, and what it comes to has the same keys.

The main result is `Provider.related_load`.
-/

namespace Sidecar.Secret

open Http

namespace Snapshot

def Entry.hidden (e : Entry) : Entry := { e with value := "" }

/-- The same entries but for their values. -/
def SameKeys (s t : Snapshot) : Prop :=
  s.entries.map Entry.hidden = t.entries.map Entry.hidden

/-- Values are not looked at when an entry is put in its place. -/
theorem insertNew?_hidden (e : Entry) (entries : List Entry) :
    insertNew? e.hidden (entries.map Entry.hidden) =
      (insertNew? e entries).map (·.map Entry.hidden) := by
  induction entries with
  | nil => rfl
  | cons f rest ih =>
    rw [List.map_cons, insertNew?, insertNew?]
    by_cases hlt : e.folded < f.folded
    · rw [if_pos hlt]
      exact if_pos hlt
    · rw [if_neg hlt]
      refine (if_neg hlt).trans ?_
      by_cases heq : e.folded = f.folded
      · rw [if_pos heq]
        exact if_pos heq
      · rw [if_neg heq]
        refine (if_neg heq).trans ?_
        rw [ih, Option.map_map, Option.map_map]
        rfl

theorem map_entries_insert? (s : Snapshot) (key value : String) :
    (s.insert? key value).map (·.entries) = insertNew? ⟨fold key, key, value⟩ s.entries := by
  unfold insert?
  split
  case h_1 entries h => exact h.symm
  case h_2 h => exact h.symm

theorem SameKeys.insert? {s t : Snapshot} (h : s.SameKeys t) (key value other : String) :
    Option.Rel SameKeys (s.insert? key value) (t.insert? key other) := by
  have hhidden (s : Snapshot) (value : String) :
      (s.insert? key value).map (·.entries.map Entry.hidden) =
        insertNew? ⟨fold key, key, ""⟩ (s.entries.map Entry.hidden) := by
    have hinsert := insertNew?_hidden ⟨fold key, key, value⟩ s.entries
    rw [← map_entries_insert?, Option.map_map] at hinsert
    exact hinsert.symm
  have heq : (s.insert? key value).map (·.entries.map Entry.hidden) =
      (t.insert? key other).map (·.entries.map Entry.hidden) := by
    rw [hhidden, hhidden, h]
  generalize s.insert? key value = added at heq
  generalize t.insert? key other = further at heq
  cases added with
  | none =>
    cases further with
    | none => exact .none
    | some => cases heq
  | some =>
    cases further with
    | none => cases heq
    | some => exact .some (Option.some.inj heq)

end Snapshot

open Snapshot

/-- Adding values fails at the same key, or not at all. -/
theorem Selection.addValues_sameKeys (s : Selection) (name : String) {values others : Values}
    (hnames : SameNames values others) {data further : Snapshot} (h : data.SameKeys further) :
    SameOr SameKeys (s.addValues name data values) (s.addValues name further others) := by
  induction values generalizing others data further with
  | nil =>
    cases others with
    | nil => exact .ok h
    | cons => cases hnames
  | cons pair values ih =>
    cases others with
    | nil => cases hnames
    | cons pair' others =>
      obtain ⟨key, value⟩ := pair
      obtain ⟨key', other⟩ := pair'
      obtain ⟨hkey, hrest⟩ := List.cons.inj hnames
      cases hkey
      simp only [addValues]
      have hinsert := h.insert? (s.entryKey name key) value other
      generalize data.insert? (s.entryKey name key) value = added at hinsert
      generalize further.insert? (s.entryKey name key) other = further at hinsert
      cases hinsert with
      | none => exact .error _
      | some hmore => exact ih hrest hmore

/-! ## Loads -/

/-- Answers that come later and differ in values. -/
inductive Answer.Alike : Answer → Answer → Prop
  | delayed {x y : Except Error Values} (h : SameOr SameNames x y) :
      Alike (.delayed x) (.delayed y)

section Loads

variable [Redirection]

/-- A secret that is fetched over alike wires has the same names, or fails in the same way. -/
theorem related_fetch (base : Url) (request : Request) :
    Related Answer.Alike ((secrets base).fetch request) ((secrets base).fetch request) :=
  Related.bind (matched_getSecret base request) fun _ _ h => related_pure (.delayed h)

namespace Provider

variable {p : Provider Wire} {base : Url}

theorem related_fetchAll (hapi : p.api = secrets base) (patience : Patience)
    (ds : List Descriptor) {data further : Snapshot} (h : data.SameKeys further) :
    Related (Option.Rel (SameOr SameKeys)) (p.fetchAll patience data ds)
      (p.fetchAll patience further ds) := by
  induction ds generalizing data further with
  | nil => exact related_pure (.some (.ok h))
  | cons d rest ih =>
    unfold fetchAll
    rw [hapi]
    refine (related_fetch base _).bind fun answer other hanswer => ?_
    cases hanswer with
    | delayed hresult =>
      cases patience with
      | untilWait => exact related_pure .none
      | toTheEnd =>
        cases hresult with
        | error e => exact related_pure (.some (.error _))
        | ok hvalues =>
          dsimp only [Patience.result?]
          have hadd := p.selection.addValues_sameKeys d.name hvalues h
          generalize p.selection.addValues d.name data _ = added at hadd
          generalize p.selection.addValues d.name further _ = others at hadd
          cases hadd with
          | error e => exact related_pure (.some (.error e))
          | ok hmore => exact ih hmore

/-- The results of a load have the same keys. -/
theorem related_load (hapi : p.api = secrets base) (patience : Patience) :
    Related (fun x y => Option.Rel (SameOr SameKeys) x.1 y.1) (p.load patience)
      (p.load patience) := by
  unfold load
  cases p.progress with
  | unloaded =>
    refine (related_fetchAll hapi patience _ rfl).bind fun x y h => ?_
    exact related_pure h
  | loading | loaded | failed => exact related_pure (.some (.error _))

end Provider

end Loads

end Sidecar.Secret
