import Sidecar.Proofs.CommandLine.Given

/-!
# Settings at the end of a command line

A setting is the name of a parameter with its text.  Settings at the end of a command line are
scanned if and only if they can be recorded on the last level, one after the other, and the levels
above stay as they are.

The main result is `scan_settings_eq_ok_iff`.
-/

namespace Sidecar.CommandLine

/-- A parameter with its text, in one argument or in two.  Behind a name, a text must not look like
a name itself. -/
structure Setting where
  parameter : Parameter
  text : String
  isJoined : Bool
  takesText : parameter.arity = .single ∨ parameter.arity = .repeated
  isPlain : isJoined ∨ ∀ c rest, text.toList ≠ '-' :: c :: rest

namespace Setting

def args (s : Setting) : List String :=
  if s.isJoined then ["--" ++ (s.parameter.name ++ "=" ++ s.text)]
  else ["--" ++ s.parameter.name, s.text]

/-- The texts for a parameter. -/
def texts (p : Parameter) (settings : List Setting) : List String :=
  (settings.filter (·.parameter == p)).map (·.text)

end Setting

variable {p : Parameter} {l m idle next : Level} {above : List Level} {text arg : String}
  {s : Setting} {settings : List Setting}

/-! ## Arguments -/

namespace Level

/-- A parameter of the command is found by its name. -/
theorem parameterNamed?_name (h : p ∈ l.command.parameters) :
    l.parameterNamed? p.name = some p := by
  cases hfind : l.parameterNamed? p.name with
  | none =>
    have hnone := List.find?_eq_none.1 hfind p h
    exact absurd (beq_self_eq_true p.name) hnone
  | some q =>
    obtain ⟨-, hname⟩ := parameterNamed?_eq_some hfind
    rw [Parameter.name_inj.1 hname]

theorem arity_ne_flag (hp : p.arity = .single ∨ p.arity = .repeated) : p.arity ≠ .flag := by
  rcases hp with hp | hp <;> rw [hp] <;> exact nofun

/-- A name settles what waits; then it waits for its text, or records the assigned one. -/
theorem takeLong_of_settle (hp : p.arity = .single ∨ p.arity = .repeated)
    (hmem : p ∈ l.command.parameters) (hidle : l.settle = .ok idle) (text : Option String) :
    l.takeLong p.name text =
      match text with
      | none => .ok { idle with pending := some ⟨p, []⟩ }
      | some text => (idle.record p [text] .commandLine).mapError .fault := by
  rw [takeLong, parameterNamed?_name hmem]
  rcases hp with hp | hp <;> cases text <;> simp only [hp, hidle] <;> rfl

/-- A name on its own is taken if the command has the parameter. -/
theorem takeLong_name_eq_ok_iff (hp : p.arity = .single ∨ p.arity = .repeated) :
    l.takeLong p.name none = .ok next ↔
      p ∈ l.command.parameters ∧ ∃ idle, l.settle = .ok idle ∧
        next = { idle with pending := some ⟨p, []⟩ } := by
  constructor
  · intro h
    obtain ⟨q, hq, hcases⟩ := takeLong_eq_ok h
    obtain ⟨hmem, hname⟩ := parameterNamed?_eq_some hq
    obtain rfl := Parameter.name_inj.1 hname
    obtain ⟨hflag, -⟩ | ⟨idle, hidle, ⟨-, hnext⟩ | ⟨_, ⟨⟩, _⟩⟩ := hcases
    · exact absurd hflag (arity_ne_flag hp)
    · exact ⟨hmem, idle, hidle, hnext⟩
  · rintro ⟨hmem, idle, hidle, rfl⟩
    exact takeLong_of_settle hp hmem hidle none

theorem takeLong_assigned_eq_ok_iff (hp : p.arity = .single ∨ p.arity = .repeated) :
    l.takeLong p.name (some text) = .ok next ↔
      p ∈ l.command.parameters ∧ ∃ idle, l.settle = .ok idle ∧
        idle.record p [text] .commandLine = .ok next := by
  constructor
  · intro h
    obtain ⟨q, hq, hcases⟩ := takeLong_eq_ok h
    obtain ⟨hmem, hname⟩ := parameterNamed?_eq_some hq
    obtain rfl := Parameter.name_inj.1 hname
    obtain ⟨-, ⟨⟩, -⟩ | ⟨idle, hidle, ⟨⟨⟩, -⟩ | ⟨_, ⟨⟩, hrecord⟩⟩ := hcases
    exact ⟨hmem, idle, hidle, hrecord⟩
  · rintro ⟨hmem, idle, hidle, hrecord⟩
    rw [takeLong_of_settle hp hmem hidle]
    dsimp only
    rw [hrecord]
    rfl

theorem cutOnce_name (p : Parameter) : Text.cutOnce '=' p.name.toList = none := by
  cases p <;> decide

/-- An argument of two dashes and a name is that name on its own. -/
theorem take_name (p : Parameter) : l.take ("--" ++ p.name) = l.takeLong p.name none := by
  simp only [take, toList_long, cutOnce_name, String.ofList_toList]

/-- An argument with an equals sign is a name with its text. -/
theorem take_assigned (p : Parameter) (text : String) :
    l.take ("--" ++ (p.name ++ "=" ++ text)) = l.takeLong p.name (some text) := by
  have hlist : ("--" ++ (p.name ++ "=" ++ text)).toList =
      '-' :: '-' :: (p.name.toList ++ '=' :: text.toList) := by
    simp
  have hcut : Text.cutOnce '=' (p.name.toList ++ '=' :: text.toList) =
      some (p.name.toList, text.toList) :=
    Text.cutOnce_append (Text.cutOnce_eq_none_iff.1 (cutOnce_name p)) text.toList
  simp only [take, hlist, hcut, String.ofList_toList]

end Level

/-! ## Scanning -/

/-- What comes of a level at a setting.  What is pending is read; a text behind an equals sign is
read as well, and any other text becomes pending. -/
structure Level.Takes (l : Level) (s : Setting) (next : Level) : Prop where
  known : s.parameter ∈ l.command.parameters
  taken : ∃ idle, l.settle = .ok idle ∧
    if s.isJoined then idle.record s.parameter [s.text] .commandLine = .ok next
    else next = { idle with pending := some ⟨s.parameter, [s.text]⟩ }

/-- Records one setting after the other. -/
def Level.recordAll (l : Level) (settings : List Setting) : Except Fault Level :=
  settings.foldlM (fun l s => l.record s.parameter [s.text] .commandLine) l

theorem Level.recordAll_cons_eq_ok_iff :
    l.recordAll (s :: settings) = .ok m ↔
      ∃ middle, l.record s.parameter [s.text] .commandLine = .ok middle ∧
        middle.recordAll settings = .ok m :=
  Result.bind_eq_ok_iff

section Scan

variable {front back rest : List String} {out : List Level}

/-- An argument with two dashes is taken on the level where it stands. -/
theorem scan_long {name : String} (hname : name ≠ "") :
    scan l above (("--" ++ name) :: rest) =
      l.take ("--" ++ name) >>= fun next => scan next above rest := by
  have hnone : l.command.subcommand? ("--" ++ name) = none := by
    refine List.find?_eq_none.2 fun c _ hc => Level.toList_name_ne c ('-' :: name.toList) ?_
    rw [eq_of_beq hc, toList_long]
  have hne : "--" ++ name ≠ "--" := fun h => by
    have hlist := congrArg String.toList h
    rw [toList_long] at hlist
    exact hname (String.toList_eq_nil_iff.1 (List.cons_eq_cons.1 (List.cons_eq_cons.1 hlist).2).2)
  rw [scan.eq_def]
  dsimp only
  rw [hnone, ite_self]
  exact if_neg hne

/-- Without a double dash, the arguments behind are scanned where the ones in front have led. -/
theorem scan_append_eq_ok_iff (h : "--" ∉ front) :
    scan l above (front ++ back) = .ok out ↔
      ∃ m upper, scan l above front = .ok (m :: upper) ∧ scan m upper back = .ok out := by
  -- what is done with an argument does not depend on the arguments behind it
  induction front generalizing l above with
  | nil =>
    constructor
    · exact fun hback => ⟨l, above, rfl, hback⟩
    · rintro ⟨m, upper, hfront, hback⟩
      cases hfront
      exact hback
  | cons arg rest ih =>
    obtain ⟨harg, hrest⟩ := not_or.1 (mt List.mem_cons.2 h)
    rw [List.cons_append, scan.eq_def, scan.eq_def l above (arg :: rest)]
    dsimp only
    split
    case h_1 => exact iff_of_false nofun (by rintro ⟨_, _, ⟨⟩, _⟩)
    case h_2 => exact ih hrest
    case h_3 =>
      rw [if_neg (Ne.symm harg), if_neg (Ne.symm harg)]
      cases l.take arg with
      | error => exact iff_of_false nofun (by rintro ⟨_, _, ⟨⟩, _⟩)
      | ok next => exact ih hrest

/-- An argument behind a name is its text, unless it looks like a name itself. -/
theorem scan_text (hp : p.arity = .single ∨ p.arity = .repeated)
    (hplain : ∀ c rest, text.toList ≠ '-' :: c :: rest) :
    scan { l with pending := some ⟨p, []⟩ } above (text :: rest) =
      scan { l with pending := some ⟨p, [text]⟩ } above rest := by
  have hopen : ({ l with pending := some ⟨p, []⟩ } : Level).isOpen := by
    rcases hp with hp | hp <;> simp [Level.isOpen, Pending.isOpen, hp]
  have hpending : Pending.isOpen ⟨p, []⟩ := hopen
  have htake : ({ l with pending := some ⟨p, []⟩ } : Level).take text =
      .ok { l with pending := some ⟨p, [text]⟩ } := by
    rw [Level.take]
    split
    case h_1 body htext => exact absurd htext (hplain '-' body)
    case h_2 c letters _ htext => exact absurd htext (hplain c letters)
    case h_3 => exact if_pos hpending
  have hne : text ≠ "--" := by
    rintro rfl
    exact hplain '-' [] rfl
  rw [scan.eq_def]
  dsimp only
  rw [if_pos hopen]
  dsimp only
  rw [if_neg hne, htake]
  rfl

/-- A setting is one step of the scan, in either way of writing. -/
theorem scan_setting_eq_ok_iff :
    scan l above (s.args ++ rest) = .ok out ↔
      ∃ next, l.Takes s next ∧ scan next above rest = .ok out := by
  have hname : s.parameter.name ≠ "" := by cases s.parameter <;> decide
  rw [Setting.args]
  cases hjoined : s.isJoined with
  | true =>
    have hassigned : s.parameter.name ++ "=" ++ s.text ≠ "" := by simp
    rw [if_pos rfl, List.singleton_append, scan_long hassigned, Level.take_assigned,
      Result.bind_eq_ok_iff]
    refine exists_congr fun next => and_congr_left fun _ => ?_
    rw [Level.takeLong_assigned_eq_ok_iff s.takesText]
    exact ⟨fun ⟨hknown, htaken⟩ => ⟨hknown, by simpa [hjoined] using htaken⟩,
      fun h => ⟨h.known, by simpa [hjoined] using h.taken⟩⟩
  | false =>
    have hplain := s.isPlain.resolve_left (by simp [hjoined])
    rw [if_neg Bool.false_ne_true, List.cons_append, List.singleton_append, scan_long hname,
      Level.take_name, Result.bind_eq_ok_iff]
    simp only [Level.takeLong_name_eq_ok_iff s.takesText]
    constructor
    · rintro ⟨_, ⟨hknown, idle, hidle, rfl⟩, h⟩
      rw [scan_text s.takesText hplain] at h
      exact ⟨_, ⟨hknown, idle, hidle, by simp [hjoined]⟩, h⟩
    · rintro ⟨next, ⟨hknown, idle, hidle, hnext⟩, h⟩
      obtain rfl : next = { idle with pending := some ⟨s.parameter, [s.text]⟩ } := by
        simpa [hjoined] using hnext
      exact ⟨_, ⟨hknown, idle, hidle, rfl⟩, (scan_text s.takesText hplain).trans h⟩

theorem Level.Takes.settle_eq_ok_iff (h : l.Takes s next) :
    next.settle = .ok m ↔
      ∃ idle, l.settle = .ok idle ∧ idle.record s.parameter [s.text] .commandLine = .ok m := by
  obtain ⟨idle, hidle, hnext⟩ := h.taken
  have hpending := Level.pending_settle hidle
  simp only [hidle, Except.ok.injEq, exists_eq_left']
  cases hjoined : s.isJoined with
  | true =>
    rw [hjoined, if_pos rfl] at hnext
    have hnone := (Level.pending_record hnext).trans hpending
    rw [hnext, Level.settle, hnone]
  | false =>
    rw [hjoined, if_neg Bool.false_ne_true] at hnext
    have hself : ({ idle with pending := none } : Level) = idle := by rw [← hpending]
    rw [hnext, Level.settle]
    dsimp only
    rw [hself]

theorem Level.Takes.command_eq (h : l.Takes s next) : next.command = l.command := by
  obtain ⟨idle, hidle, hnext⟩ := h.taken
  rw [← command_settle hidle]
  split at hnext
  · exact command_record hnext
  · rw [hnext]

theorem Level.exists_takes (hknown : s.parameter ∈ l.command.parameters)
    (hidle : l.settle = .ok idle)
    (hrecord : idle.record s.parameter [s.text] .commandLine = .ok m) : ∃ next, l.Takes s next := by
  cases hjoined : s.isJoined with
  | true => exact ⟨m, hknown, idle, hidle, by rwa [hjoined, if_pos rfl]⟩
  | false => exact ⟨_, hknown, idle, hidle, by rw [hjoined, if_neg Bool.false_ne_true]⟩

/-- Settings are scanned and settled if and only if they are known and can be recorded. -/
theorem scan_settings_eq_ok_iff {upper : List Level} :
    (∃ last, scan l above (settings.flatMap Setting.args) = .ok (last :: upper) ∧
        last.settle = .ok m) ↔
      upper = above ∧ (∀ s ∈ settings, s.parameter ∈ l.command.parameters) ∧
        ∃ idle, l.settle = .ok idle ∧ idle.recordAll settings = .ok m := by
  induction settings generalizing l with
  | nil =>
    constructor
    · rintro ⟨last, hscan, hlast⟩
      cases hscan
      exact ⟨rfl, List.forall_mem_nil _, m, hlast, rfl⟩
    · rintro ⟨rfl, -, idle, hidle, hm⟩
      cases hm
      exact ⟨l, rfl, hidle⟩
  | cons s settings ih =>
    simp only [List.flatMap_cons, scan_setting_eq_ok_iff, List.forall_mem_cons]
    constructor
    · rintro ⟨last, ⟨next, htakes, hscan⟩, hlast⟩
      obtain ⟨hupper, hknown, middle, hmiddle, hall⟩ := ih.1 ⟨last, hscan, hlast⟩
      obtain ⟨idle, hidle, hrecord⟩ := htakes.settle_eq_ok_iff.1 hmiddle
      rw [htakes.command_eq] at hknown
      exact ⟨hupper, ⟨htakes.known, hknown⟩, idle, hidle,
        Level.recordAll_cons_eq_ok_iff.2 ⟨middle, hrecord, hall⟩⟩
    · rintro ⟨hupper, ⟨hknown, hrest⟩, idle, hidle, hall⟩
      obtain ⟨middle, hrecord, hall⟩ := Level.recordAll_cons_eq_ok_iff.1 hall
      obtain ⟨next, htakes⟩ := Level.exists_takes hknown hidle hrecord
      have hmiddle := htakes.settle_eq_ok_iff.2 ⟨idle, hidle, hrecord⟩
      rw [← htakes.command_eq] at hrest
      obtain ⟨last, hscan, hlast⟩ := ih.2 ⟨hupper, hrest, middle, hmiddle, hall⟩
      exact ⟨last, ⟨next, htakes, hscan⟩, hlast⟩

end Scan

end Sidecar.CommandLine
