import Sidecar.Proofs.CommandLine.Setting

/-!
# Settings that may be left out

What a command line comes to without the settings for some parameters is what it comes to with them,
less what has been read for these parameters.  So whatever is accepted without them is accepted with
them, as long as each of them can be read and they go together.

The main results are `Level.exists_recordAll` and `exists_extends`.
-/

namespace Sidecar.CommandLine

variable {p q : Parameter} {ps : List Parameter} {l m idle : Level} {above : List Level}
  {text : String} {texts : List String} {origin : Origin} {s : Setting} {settings : List Setting}

/-! ## Leaving parameters out -/

namespace Level

/-- The level as it is if nothing has been found for these parameters. -/
def without (l : Level) (ps : List Parameter) : Level :=
  { l with found := l.found.filter (·.parameter ∉ ps) }

theorem has_without (hq : q ∉ ps) : (l.without ps).has q = l.has q := by
  rw [Bool.eq_iff_iff, has_iff, has_iff]
  constructor
  · rintro ⟨f, hf, hfq⟩
    exact ⟨f, (List.mem_filter.1 hf).1, hfq⟩
  · rintro ⟨f, hf, rfl⟩
    exact ⟨f, List.mem_filter.2 ⟨hf, decide_eq_true hq⟩, rfl⟩

theorem valuesOf_filter (hq : q ∉ ps) (found : List Found) :
    (found.filter (·.parameter ∉ ps)).flatMap (Found.valuesOf q) =
      found.flatMap (Found.valuesOf q) := by
  induction found with
  | nil => rfl
  | cons f found ih =>
    rw [List.filter_cons, List.flatMap_cons]
    split
    case isTrue => rw [List.flatMap_cons, ih]
    case isFalse hf =>
      have hne : f.parameter ≠ q := by
        rintro rfl
        exact hf (decide_eq_true hq)
      rw [ih, Found.valuesOf, dif_neg hne, List.nil_append]

/-- Parameters that are not left out have the same values. -/
theorem values_without (hq : q ∉ ps) : (l.without ps).values q = l.values q :=
  valuesOf_filter hq l.found

theorem record_without (hq : q ∉ ps) :
    (l.without ps).record q texts origin = (l.record q texts origin).map (·.without ps) := by
  rw [record, record, has_without hq]
  split
  · rfl
  · cases texts.mapM (readValue q) with
    | error => rfl
    | ok values =>
      have hkept : (l.found ++ [(⟨q, values, origin⟩ : Found)]).filter (·.parameter ∉ ps) =
          l.found.filter (·.parameter ∉ ps) ++ [⟨q, values, origin⟩] := by
        simp [hq]
      exact congrArg (fun found => Except.ok { l with found }) hkept.symm

/-- Recording a parameter that is left out changes nothing else. -/
theorem without_of_record (hq : q ∈ ps) (h : l.record q texts origin = .ok m) :
    m.without ps = l.without ps := by
  obtain ⟨-, values, -, rfl⟩ := record_eq_ok h
  have hdropped : (l.found ++ [(⟨q, values, origin⟩ : Found)]).filter (·.parameter ∉ ps) =
      l.found.filter (·.parameter ∉ ps) := by
    simp [hq]
  exact congrArg (fun found => { l with found }) hdropped

theorem command_without (l : Level) (ps : List Parameter) :
    (l.without ps).command = l.command := rfl

/-- The environment has nothing for a parameter that is only given on the command line. -/
theorem addVariables_without (hps : ∀ p ∈ ps, p.environmentName? = none)
    (environment : String → Option String) :
    (l.without ps).addVariables environment =
      (l.addVariables environment).map (·.without ps) := by
  rw [addVariables, addVariables, command_without]
  generalize l.command.parameters = parameters
  induction parameters generalizing l with
  | nil => rfl
  | cons q parameters ih =>
    rw [List.foldlM_cons, List.foldlM_cons]
    by_cases hq : q ∈ ps
    · simp only [hps q hq, Option.bind_none, ite_self]
      exact ih
    · rw [has_without hq]
      split
      case isTrue => exact ih
      case isFalse =>
        cases q.environmentName?.bind environment with
        | none => exact ih
        | some value =>
          dsimp only
          rw [record_without hq]
          cases l.record q [value] .environment with
          | error => rfl
          | ok m => exact ih

/-! ### Settings without some of them -/

theorem texts_cons (p : Parameter) (s : Setting) (settings : List Setting) :
    Setting.texts p (s :: settings) =
      (if s.parameter = p then [s.text] else []) ++ Setting.texts p settings := by
  rw [Setting.texts, List.filter_cons]
  by_cases hp : s.parameter = p
  · rw [if_pos (beq_iff_eq.2 hp), if_pos hp]
    rfl
  · rw [if_neg (mt beq_iff_eq.1 hp), if_neg hp]
    rfl

/-- Each parameter gains the texts of its settings, in order. -/
theorem gains_recordAll (hl : l.Proper)
    (hknown : ∀ s ∈ settings, s.parameter ∈ l.command.parameters)
    (h : l.recordAll settings = .ok m) (p : Parameter) :
    Gains p (Setting.texts p settings) l m := by
  induction settings generalizing l with
  | nil =>
    cases h
    exact .refl hl
  | cons s settings ih =>
    obtain ⟨middle, hrecord, h⟩ := recordAll_cons_eq_ok_iff.1 h
    obtain ⟨hs, hrest⟩ := List.forall_mem_cons.1 hknown
    have hgains := gains_record hl hs (Parameter.fits_singleton _ s.text) hrecord p
    rw [← command_record hrecord] at hrest
    rw [texts_cons]
    exact hgains.trans (ih hgains.proper hrest h)

/-- What is recorded without some settings is what is recorded with them, less these. -/
theorem recordAll_without (h : l.recordAll settings = .ok m) (ps : List Parameter) :
    (l.without ps).recordAll (settings.filter (·.parameter ∉ ps)) = .ok (m.without ps) := by
  induction settings generalizing l with
  | nil =>
    cases h
    rfl
  | cons s settings ih =>
    obtain ⟨middle, hrecord, h⟩ := recordAll_cons_eq_ok_iff.1 h
    rw [List.filter_cons]
    by_cases hs : s.parameter ∈ ps
    · rw [if_neg (by simpa using hs), ← without_of_record hs hrecord]
      exact ih h
    · rw [if_pos (decide_eq_true hs)]
      refine recordAll_cons_eq_ok_iff.2 ⟨middle.without ps, ?_, ih h⟩
      rw [record_without hs, hrecord]
      rfl

/-- One text at most, which can be read, and none if there is a value already. -/
structure Admits (l : Level) (p : Parameter) (texts : List String) : Prop where
  readable : ∃ values, Reads p texts values
  once : texts.length ≤ 1
  absent : l.has p → texts = []

theorem Admits.exists_record (h : l.Admits p (text :: texts)) :
    ∃ m, l.record p [text] .commandLine = .ok m := by
  obtain ⟨_, hread⟩ := h.readable
  cases hread with
  | @cons _ value _ _ hvalue _ =>
    have hagain : ¬(l.has p ∧ !mayRepeat p) := fun hp => List.cons_ne_nil _ _ (h.absent hp.1)
    have hvalues : [text].mapM (readValue p) = .ok [value] :=
      Result.mapM_eq_ok_iff.2 (.cons hvalue .nil)
    rw [record, if_neg hagain, hvalues]
    exact ⟨_, rfl⟩

theorem has_of_record (h : l.record q texts origin = .ok m) (hp : q ≠ p) : m.has p = l.has p := by
  obtain ⟨-, values, -, rfl⟩ := record_eq_ok h
  simp [has, hp]

/-- What was admitted still is, behind any other setting. -/
theorem Admits.of_record (h : l.Admits p (Setting.texts p (s :: settings)))
    (hrecord : l.record s.parameter [s.text] .commandLine = .ok m) :
    m.Admits p (Setting.texts p settings) := by
  rw [texts_cons] at h
  by_cases hp : s.parameter = p
  · rw [if_pos hp] at h
    have hnil : Setting.texts p settings = [] :=
      List.length_eq_zero_iff.1 (Nat.le_zero.1 (Nat.le_of_succ_le_succ h.once))
    rw [hnil]
    exact ⟨⟨[], .nil⟩, Nat.zero_le _, fun _ => rfl⟩
  · rw [if_neg hp, List.nil_append] at h
    exact ⟨h.readable, h.once, fun hm => h.absent (has_of_record hrecord hp ▸ hm)⟩

/-- Settings can be recorded if the others can and there is nothing wrong with these. -/
theorem exists_recordAll
    (hrest : (l.without ps).recordAll (settings.filter (·.parameter ∉ ps)) = .ok m)
    (hps : ∀ p ∈ ps, l.Admits p (Setting.texts p settings)) :
    ∃ full, l.recordAll settings = .ok full ∧ full.without ps = m := by
  induction settings generalizing l with
  | nil =>
    cases hrest
    exact ⟨l, rfl, rfl⟩
  | cons s settings ih =>
    have hfirst : ∃ middle, l.record s.parameter [s.text] .commandLine = .ok middle ∧
        (middle.without ps).recordAll (settings.filter (·.parameter ∉ ps)) = .ok m := by
      rw [List.filter_cons] at hrest
      by_cases hs : s.parameter ∈ ps
      · rw [if_neg (by simpa using hs)] at hrest
        have hadmits := hps s.parameter hs
        rw [texts_cons, if_pos rfl] at hadmits
        obtain ⟨middle, hmiddle⟩ := hadmits.exists_record
        rw [← without_of_record hs hmiddle] at hrest
        exact ⟨middle, hmiddle, hrest⟩
      · rw [if_pos (decide_eq_true hs)] at hrest
        obtain ⟨_, hrecord, hrest⟩ := recordAll_cons_eq_ok_iff.1 hrest
        rw [record_without hs] at hrecord
        obtain ⟨middle, hmiddle, rfl⟩ := Result.exists_of_map_eq_ok hrecord
        exact ⟨middle, hmiddle, hrest⟩
    obtain ⟨middle, hrecord, hrest⟩ := hfirst
    obtain ⟨full, hfull, hwithout⟩ := ih hrest fun p hp => (hps p hp).of_record hrecord
    exact ⟨full, recordAll_cons_eq_ok_iff.2 ⟨middle, hrecord, hfull⟩, hwithout⟩

theorem command_recordAll (h : l.recordAll settings = .ok m) : m.command = l.command := by
  induction settings generalizing l with
  | nil =>
    cases h
    rfl
  | cons s settings ih =>
    obtain ⟨middle, hrecord, h⟩ := recordAll_cons_eq_ok_iff.1 h
    exact (ih h).trans (command_record hrecord)

theorem command_addVariables {environment : String → Option String}
    (h : l.addVariables environment = .ok m) : m.command = l.command := by
  unfold addVariables at h
  generalize l.command.parameters = parameters at h
  induction parameters generalizing l with
  | nil =>
    cases h
    rfl
  | cons q parameters ih =>
    rw [List.foldlM_cons] at h
    obtain ⟨middle, hmiddle, h⟩ := Result.exists_of_bind_eq_ok h
    refine (ih h).trans ?_
    split at hmiddle
    · cases hmiddle
      rfl
    · split at hmiddle
      · cases hmiddle
        rfl
      · exact command_record hmiddle

/-- Only flags are found without a value. -/
theorem Proper.has_iff (hl : l.Proper) (hp : p.arity ≠ .flag) : l.has p ↔ l.values p ≠ [] := by
  constructor
  · intro hhas
    obtain ⟨f, hf, rfl⟩ := Level.has_iff.1 hhas
    obtain ⟨value, hvalue⟩ := List.exists_mem_of_ne_nil _ (hl.filled f hf hp)
    have hmem : value ∈ Found.valuesOf f.parameter f := by
      rw [Found.valuesOf, dif_pos rfl]
      exact hvalue
    exact List.ne_nil_of_mem (List.mem_flatMap.2 ⟨f, hf, hmem⟩)
  · intro hne
    by_contra hhas
    exact hne (values_eq_nil_of_not_has hhas)

/-- Leaving out parameters that have no values changes nothing. -/
theorem Proper.without_eq (hl : l.Proper) (hps : ∀ p ∈ ps, p.arity ≠ .flag)
    (hnone : ∀ p ∈ ps, l.values p = []) : l.without ps = l := by
  have hkept : l.found.filter (·.parameter ∉ ps) = l.found := by
    refine List.filter_eq_self.2 fun f hf => decide_eq_true fun hmem => ?_
    have hhas := Level.has_iff.2 ⟨f, hf, rfl⟩
    exact (hl.has_iff (hps _ hmem)).1 hhas (hnone _ hmem)
  exact congrArg (fun found => { l with found }) hkept

end Level

/-! ## Whole command lines -/

section Levels

variable {environment : String → Option String} {front : List String} {base last : Level}
  {upper : List Level}

/-- The settings at the end all go to the last level, and the others are completed without them. -/
theorem levels_settings_eq_ok_iff (hfront : "--" ∉ front) :
    levels environment (front ++ settings.flatMap Setting.args) = .ok (l :: upper) ↔
      ∃ m above idle last, scan ⟨.root, [], none⟩ [] front = .ok (m :: above) ∧
        (∀ s ∈ settings, s.parameter ∈ m.command.parameters) ∧ m.settle = .ok idle ∧
        idle.recordAll settings = .ok last ∧ last.addVariables environment = .ok l ∧
        l.check true = .ok l ∧ completeAll environment false above = .ok upper := by
  rw [Level.levels_eq_ok_iff]
  constructor
  · rintro ⟨scanned, above, hscan, hcomplete, hupper⟩
    obtain ⟨last, hlast, hadd, hcheck⟩ := Level.complete_eq_ok_iff.1 hcomplete
    obtain ⟨m, above', hm, hscan⟩ := (scan_append_eq_ok_iff hfront).1 hscan
    obtain ⟨rfl, hknown, idle, hidle, hall⟩ := scan_settings_eq_ok_iff.1 ⟨scanned, hscan, hlast⟩
    exact ⟨m, above, idle, last, hm, hknown, hidle, hall, hadd, hcheck, hupper⟩
  · rintro ⟨m, above, idle, last, hm, hknown, hidle, hall, hadd, hcheck, hupper⟩
    obtain ⟨scanned, hscan, hlast⟩ := scan_settings_eq_ok_iff.2 ⟨rfl, hknown, idle, hidle, hall⟩
    exact ⟨scanned, above, (scan_append_eq_ok_iff hfront).2 ⟨m, above, hm, hscan⟩,
      Level.complete_eq_ok_iff.2 ⟨last, hlast, hadd, hcheck⟩, hupper⟩

/-- The level has what is set for these parameters and is the base otherwise. -/
structure Level.Extends (l base : Level) (ps : List Parameter) (settings : List Setting) :
    Prop where
  without : l.without ps = base
  proper : l.Proper
  values : ∀ p ∈ ps, Level.Reads p (Setting.texts p settings) (l.values p)

/-- A level with more settings extends the one without them. -/
theorem Level.extends_of_recordAll (hlocal : ∀ p ∈ ps, p.IsLocal) (hidle : idle.Proper)
    (hnone : ∀ p ∈ ps, idle.values p = [])
    (hknown : ∀ s ∈ settings, s.parameter ∈ idle.command.parameters)
    (hall : idle.recordAll settings = .ok last) (hadd : last.addVariables environment = .ok l)
    (hbase : idle.recordAll (settings.filter (·.parameter ∉ ps)) = .ok m)
    (haddBase : m.addVariables environment = .ok base) : l.Extends base ps settings where
  without := by
    have hself := hidle.without_eq (fun p hp => arity_ne_flag (hlocal p hp).arity) hnone
    have hrest := recordAll_without hall ps
    rw [hself, hbase] at hrest
    obtain rfl := Except.ok.inj hrest
    rw [addVariables_without (fun p hp => (hlocal p hp).environment), hadd] at haddBase
    exact Except.ok.inj haddBase
  proper := by
    have hgains := gains_recordAll hidle hknown hall .etag
    exact (gains_addVariables isLocal_etag hgains.proper hadd).proper
  values p hp := by
    have hgains := gains_recordAll hidle hknown hall p
    obtain ⟨new, hnew, hvalues⟩ :=
      (hgains.trans (gains_addVariables (hlocal p hp) hgains.proper hadd)).values
    rw [hnone p hp, List.nil_append] at hvalues
    rw [List.append_nil] at hnew
    exact hvalues ▸ hnew

section Others

-- the settings that are left out are for parameters that are given nowhere else
variable (hlocal : ∀ p ∈ ps, p.IsLocal) (hgiven : ∀ p ∈ ps, given p front = [])

include hlocal hgiven

/-- What is given in front has none of the parameters that are left out. -/
theorem proper_of_scan (hscan : scan ⟨.root, [], none⟩ [] front = .ok (m :: above))
    (hidle : m.settle = .ok idle) : idle.Proper ∧ ∀ p ∈ ps, idle.values p = [] := by
  refine ⟨(Level.values_of_scan isLocal_etag hscan hidle).2, fun p hp => ?_⟩
  obtain ⟨hreads, -⟩ := Level.values_of_scan (hlocal p hp) hscan hidle
  rw [hgiven p hp] at hreads
  exact List.forall₂_nil_left_iff.1 hreads

variable (hfront : "--" ∉ front)
  (hbase : levels environment
    (front ++ (settings.filter (·.parameter ∉ ps)).flatMap Setting.args) = .ok (base :: upper))

include hfront hbase

/-- A command line that is accepted with the settings extends the one without. -/
theorem extends_of_levels {above : List Level}
    (h : levels environment (front ++ settings.flatMap Setting.args) = .ok (l :: above)) :
    above = upper ∧ l.Extends base ps settings ∧ l.check true = .ok l := by
  obtain ⟨m, between, idle, last, hscan, hknown, hidle, hall, hadd, hcheck, habove⟩ :=
    (levels_settings_eq_ok_iff hfront).1 h
  obtain ⟨m', between', idle', rest, hscan', -, hidle', hrest, haddRest, -, hupper⟩ :=
    (levels_settings_eq_ok_iff hfront).1 hbase
  cases hscan.symm.trans hscan'
  cases hidle.symm.trans hidle'
  cases habove.symm.trans hupper
  obtain ⟨hproper, hnone⟩ := proper_of_scan hlocal hgiven hscan hidle
  rw [← Level.command_settle hidle] at hknown
  exact ⟨rfl, Level.extends_of_recordAll hlocal hproper hnone hknown hall hadd hrest haddRest,
    hcheck⟩

/-- Settings that can be read are read, and then it is checked that they go together. -/
theorem exists_extends (hps : ∀ p ∈ ps, p ∈ base.command.parameters ∧
      (∃ values, Level.Reads p (Setting.texts p settings) values) ∧
      (Setting.texts p settings).length ≤ 1) :
    ∃ l : Level, l.Extends base ps settings ∧ (l.check true = .ok l →
      levels environment (front ++ settings.flatMap Setting.args) = .ok (l :: upper)) := by
  obtain ⟨m, between, idle, rest, hscan, hknownRest, hidle, hrest, haddRest, -, hupper⟩ :=
    (levels_settings_eq_ok_iff hfront).1 hbase
  obtain ⟨hproper, hnone⟩ := proper_of_scan hlocal hgiven hscan hidle
  have hflag (p : Parameter) (hp : p ∈ ps) : p.arity ≠ .flag :=
    Level.arity_ne_flag (hlocal p hp).arity
  have hadmits : ∀ p ∈ ps, idle.Admits p (Setting.texts p settings) := fun p hp =>
    ⟨(hps p hp).2.1, (hps p hp).2.2, fun hhas =>
      absurd (hnone p hp) ((hproper.has_iff (hflag p hp)).1 hhas)⟩
  have hwithout : (idle.without ps).recordAll (settings.filter (·.parameter ∉ ps)) = .ok rest := by
    rw [hproper.without_eq hflag hnone, hrest]
  obtain ⟨full, hall, hfull⟩ := Level.exists_recordAll hwithout hadmits
  have hadd : ∃ l, full.addVariables environment = .ok l := by
    rw [← hfull, Level.addVariables_without fun p hp => (hlocal p hp).environment] at haddRest
    obtain ⟨l, hl, -⟩ := Result.exists_of_map_eq_ok haddRest
    exact ⟨l, hl⟩
  obtain ⟨l, hadd⟩ := hadd
  have hcommand : base.command = m.command :=
    ((Level.command_addVariables haddRest).trans (Level.command_recordAll hrest)).trans
      (Level.command_settle hidle)
  have hknown : ∀ s ∈ settings, s.parameter ∈ m.command.parameters := by
    intro s hs
    by_cases hmem : s.parameter ∈ ps
    · rw [← hcommand]
      exact (hps _ hmem).1
    · exact hknownRest s (List.mem_filter.2 ⟨hs, decide_eq_true hmem⟩)
  refine ⟨l, ?_, fun hcheck => (levels_settings_eq_ok_iff hfront).2
    ⟨m, between, idle, full, hscan, hknown, hidle, hall, hadd, hcheck, hupper⟩⟩
  rw [← Level.command_settle hidle] at hknown
  exact Level.extends_of_recordAll hlocal hproper hnone hknown hall hadd hrest haddRest

end Others

theorem commonValue?_without (hp : p ∉ ps) :
    commonValue? (l.without ps :: upper) p = commonValue? (l :: upper) p := by
  have hgiven : (l.without ps).found.filter (·.origin == .commandLine) =
      (l.found.filter (·.origin == .commandLine)).filter (·.parameter ∉ ps) :=
    List.filter_comm _ _ _
  rw [commonValue?, commonValue?]
  simp only [List.flatMap_cons, List.filter_append, List.flatMap_append, hgiven,
    Level.valuesOf_filter hp]
  rw [Level.without, Level.valuesOf_filter hp]

/-- The endpoint is the same without parameters that the environment has nothing for. -/
theorem endpoint_without (hps : ∀ p ∈ ps, p.environmentName? = none) :
    endpoint (l.without ps :: upper) = endpoint (l :: upper) := by
  have hmem {p : Parameter} (hp : p.environmentName? ≠ none) : p ∉ ps := fun hmem => hp (hps p hmem)
  rw [endpoint, endpoint, commonValue?_without (@hmem .host nofun),
    commonValue?_without (@hmem .port nofun), commonValue?_without (@hmem .timeout nofun)]

end Levels

end Sidecar.CommandLine
