import Mathlib.Data.List.Forall2
import Sidecar.CommandLine.Invocation
import Sidecar.Proofs.Action
import Sidecar.Proofs.Text.Pieces

/-!
# Values come from the arguments

The arguments are gone through once, and each of them counts for a parameter at the place where it
stands.  In the end a command has for its parameter what is read from the texts behind the name of
the parameter, in their order, and nothing else.

The main results are `Level.moves_scan`, by induction on the arguments, and
`Level.values_of_levels`.
-/

namespace Sidecar.CommandLine

/-- The texts behind the name of a parameter: the next argument, or what follows an equals sign. -/
def given (p : Parameter) : List String → List String
  | [] => []
  | arg :: rest =>
    match Text.cutText '=' arg with
    | none => (if arg = "--" ++ p.name then rest.take 1 else []) ++ given p rest
    | some (name, text) => (if name = "--" ++ p.name then [text] else []) ++ given p rest

/-- A parameter of commands that have no subcommands.  It is followed by one text each time, and it
is given on the command line or not at all. -/
structure Parameter.IsLocal (p : Parameter) : Prop where
  last (c : Command) (h : p ∈ c.parameters) : c.subcommands = []
  arity : p.arity = .single ∨ p.arity = .repeated
  environment : p.environmentName? = none

variable {p q : Parameter} {l m : Level} {texts : List String} {origin : Origin}

/-! ## Names -/

namespace Parameter

def all : List Parameter :=
  [.verbose, .host, .port, .timeout, .store, .key, .consistency, .valueJson, .etag, .concurrency,
    .retryPattern, .retryInterval, .retryThreshold, .metadata, .secret, .names, .showValues, .shell,
    .help, .version]

/-- A parameter is the only one with its name. -/
theorem find?_name (p : Parameter) : all.find? (·.name == p.name) = some p := by
  cases p <;> decide

theorem name_inj : p.name = q.name ↔ p = q := by
  refine ⟨fun h => ?_, congrArg name⟩
  have hfind := find?_name p
  rw [h, find?_name q] at hfind
  exact (Option.some.inj hfind).symm

/-- As many texts as the parameter has each time it is given. -/
structure Fits (p : Parameter) (texts : List String) : Prop where
  most (h : p.arity = .single) : texts.length ≤ 1
  least (h : p.arity ≠ .flag) : texts ≠ []

theorem fits_nil (h : p.arity = .flag) : p.Fits [] where
  most _ := Nat.zero_le _
  least hne := absurd h hne

theorem fits_singleton (p : Parameter) (text : String) : p.Fits [text] where
  most _ := Nat.le_of_eq List.length_singleton
  least _ := List.cons_ne_nil _ _

theorem arity_of_letter? {c : Char} (h : p.letter? = some c) : p.arity = .flag := by
  cases p <;> first | rfl | cases h

/-- A flag is none of the parameters that belong to one command. -/
theorem IsLocal.ne_of_flag (h : p.IsLocal) (hq : q.arity = .flag) : q ≠ p := by
  rintro rfl
  rcases h.arity with hp | hp <;> rw [hq] at hp <;> cases hp

end Parameter

section Given

variable {arg : String} {body : List Char} {rest : List String}

theorem toList_long (name : String) : ("--" ++ name).toList = '-' :: '-' :: name.toList :=
  String.toList_append

theorem given_of_not_long (h : ∀ body, arg.toList ≠ '-' :: '-' :: body) :
    given p (arg :: rest) = given p rest := by
  rw [given]
  cases hcut : Text.cutText '=' arg with
  | none =>
    dsimp only
    rw [if_neg, List.nil_append]
    intro harg
    exact h p.name.toList (by rw [harg, toList_long])
  | some pair =>
    obtain ⟨⟨name, text⟩, hfront, rfl⟩ := Option.map_eq_some_iff.1 hcut
    dsimp only
    rw [if_neg, List.nil_append]
    intro hname
    refine h (p.name.toList ++ '=' :: text) ?_
    rw [(Text.cutOnce_eq_some hfront).1, ← String.toList_ofList (l := name), hname, toList_long]
    rfl

/-- The name of a parameter stands behind two dashes. -/
theorem ofList_long_eq_iff {name : List Char} :
    String.ofList ('-' :: '-' :: name) = "--" ++ p.name ↔ String.ofList name = p.name := by
  rw [← String.toList_inj, ← String.toList_inj, toList_long]
  simp only [String.toList_ofList]
  exact List.append_right_inj ['-', '-']

/-- An assigned text stands behind the first equals sign. -/
theorem cutText_of_long (h : arg.toList = '-' :: '-' :: body) :
    Text.cutText '=' arg = (Text.cutOnce '=' body).map fun (name, text) =>
      (String.ofList ('-' :: '-' :: name), String.ofList text) := by
  rw [Text.cutText, h, Text.cutOnce, if_neg (by decide), Text.cutOnce, if_neg (by decide),
    Option.map_map, Option.map_map]
  rfl

/-- Behind a name on its own, the next argument is given. -/
theorem given_of_name (h : arg.toList = '-' :: '-' :: body) (hcut : Text.cutOnce '=' body = none) :
    given p (arg :: rest) =
      (if String.ofList body = p.name then rest.take 1 else []) ++ given p rest := by
  rw [given, cutText_of_long h, hcut, ← String.ofList_toList (s := arg), h]
  exact congrArg (· ++ _) (if_congr ofList_long_eq_iff rfl rfl)

/-- Behind a name with an equals sign, the rest of the argument is given. -/
theorem given_of_assignment {name text : List Char} (h : arg.toList = '-' :: '-' :: body)
    (hcut : Text.cutOnce '=' body = some (name, text)) :
    given p (arg :: rest) =
      (if String.ofList name = p.name then [String.ofList text] else []) ++ given p rest := by
  rw [given, cutText_of_long h, hcut]
  exact congrArg (· ++ _) (if_congr ofList_long_eq_iff rfl rfl)

end Given

namespace Level

/-! ## Values of a level -/

/-- The values are read from the texts, one from each. -/
def Reads (p : Parameter) : List String → List p.Value → Prop :=
  List.Forall₂ fun text value => readValue p text = .ok value

theorem values_append (values : List q.Value) :
    ({ l with found := l.found ++ [⟨q, values, origin⟩] } : Level).values p =
      l.values p ++ Found.valuesOf p ⟨q, values, origin⟩ := by
  rw [Level.values, List.flatMap_append, List.flatMap_singleton]
  rfl

theorem valuesOf_self (values : List p.Value) : Found.valuesOf p ⟨p, values, origin⟩ = values :=
  dif_pos rfl

/-- What is found for a parameter counts for no other. -/
theorem valuesOf_of_ne (h : q ≠ p) (values : List q.Value) :
    Found.valuesOf p ⟨q, values, origin⟩ = [] :=
  dif_neg h

/-- A parameter is there if something was found for it. -/
theorem has_iff : l.has p ↔ ∃ f ∈ l.found, f.parameter = p := by
  simp [has]

theorem values_eq_nil_of_not_has (h : ¬l.has p) : l.values p = [] :=
  List.flatMap_eq_nil_iff.2 fun f hf => dif_neg fun hfp => h (has_iff.2 ⟨f, hf, hfp⟩)

/-- What is on a level belongs to its command, a parameter that is given at most once has no more
than one value, and only a flag is found without a value. -/
structure Proper (l : Level) : Prop where
  found : ∀ f ∈ l.found, f.parameter ∈ l.command.parameters
  filled : ∀ f ∈ l.found, f.parameter.arity ≠ .flag → f.values ≠ []
  pending : ∀ q ∈ l.pending, q.parameter ∈ l.command.parameters
  waiting : ∀ q ∈ l.pending, q.parameter.arity = .single → q.values.length ≤ 1
  once : ∀ p, p.arity = .single → (l.values p).length ≤ 1

theorem proper_nil (c : Command) : (⟨c, [], none⟩ : Level).Proper where
  found := nofun
  filled := nofun
  pending := nofun
  waiting := nofun
  once _ _ := Nat.zero_le _

theorem Proper.values_eq_nil (hl : l.Proper) (h : p ∉ l.command.parameters) : l.values p = [] := by
  refine values_eq_nil_of_not_has fun hhas => ?_
  obtain ⟨f, hf, rfl⟩ := has_iff.1 hhas
  exact h (hl.found f hf)

/-! ## Texts that are read -/

/-- The texts that a pending parameter comes to if these arguments are next. -/
def awaited (l : Level) (p : Parameter) (rest : List String) : List String :=
  match l.pending with
  | none => []
  | some ⟨q, texts⟩ => if q = p then if texts = [] then rest.take 1 else texts else []

/-- Without a parameter that waits for its text, none is awaited. -/
theorem awaited_of_none (h : l.pending = none) (rest : List String) : l.awaited p rest = [] := by
  rw [awaited, h]

theorem Proper.awaited_eq_nil (hl : l.Proper) (h : p ∉ l.command.parameters)
    (rest : List String) : l.awaited p rest = [] := by
  rw [awaited]
  split
  case h_1 => rfl
  case h_2 q texts hpending =>
    refine if_neg fun hq => h ?_
    rw [← hq]
    exact hl.pending _ (Option.mem_def.2 hpending)

/-- Behind the values of `l`, there are those that are read from the texts. -/
structure Gains (p : Parameter) (texts : List String) (l m : Level) : Prop where
  proper : m.Proper
  values : ∃ new, Reads p texts new ∧ m.values p = l.values p ++ new

theorem Gains.refl (h : l.Proper) : Gains p [] l l where
  proper := h
  values := ⟨[], .nil, (List.append_nil _).symm⟩

/-- Values that are gained in two steps are those of the first and then of the second. -/
theorem Gains.trans {n : Level} {first second : List String} (h : Gains p first l m)
    (hnext : Gains p second m n) : Gains p (first ++ second) l n where
  proper := hnext.proper
  values := by
    obtain ⟨new, hnew, hm⟩ := h.values
    obtain ⟨more, hmore, hn⟩ := hnext.values
    exact ⟨new ++ more, List.rel_append hnew hmore, by rw [hn, hm, List.append_assoc]⟩

/-! ## Reading values -/

/-- A record adds the values that are read, if the parameter is new or may repeat. -/
theorem record_eq_ok (h : l.record q texts origin = .ok m) :
    (l.has q → mayRepeat q) ∧ ∃ values, Reads q texts values ∧
      m = { l with found := l.found ++ [⟨q, values, origin⟩] } := by
  rw [record] at h
  split at h
  · cases h
  case isFalse hagain =>
    obtain ⟨values, hvalues, h⟩ := Result.exists_of_bind_eq_ok h
    cases h
    refine ⟨fun hhas => ?_, values, Result.mapM_eq_ok_iff.1 hvalues, rfl⟩
    simpa [hhas] using hagain

theorem command_record (h : l.record q texts origin = .ok m) : m.command = l.command := by
  obtain ⟨-, values, -, rfl⟩ := record_eq_ok h
  rfl

theorem pending_record (h : l.record q texts origin = .ok m) : m.pending = l.pending := by
  obtain ⟨-, values, -, rfl⟩ := record_eq_ok h
  rfl

/-- A value is recorded for a parameter that has none, unless there may be several. -/
theorem proper_record (hl : l.Proper) (hq : q ∈ l.command.parameters) (hfits : q.Fits texts)
    (h : l.record q texts origin = .ok m) : m.Proper := by
  obtain ⟨hagain, values, hvalues, rfl⟩ := record_eq_ok h
  refine ⟨?_, ?_, hl.pending, hl.waiting, fun p hp => ?_⟩
  · intro f hf
    rcases List.mem_append.1 hf with hf | hf
    · exact hl.found f hf
    · rw [List.mem_singleton.1 hf]
      exact hq
  · intro f hf hflag
    rcases List.mem_append.1 hf with hf | hf
    · exact hl.filled f hf hflag
    · rw [List.mem_singleton.1 hf] at hflag ⊢
      intro hnil
      refine hfits.least hflag (List.length_eq_zero_iff.1 ?_)
      rw [hvalues.length_eq, List.length_eq_zero_iff]
      exact hnil
  · rw [values_append]
    by_cases hqp : q = p
    · subst hqp
      have hnone : l.values q = [] := by
        refine values_eq_nil_of_not_has fun hhas => ?_
        have hrepeat := hagain hhas
        rw [mayRepeat, hp] at hrepeat
        cases hrepeat
      rw [hnone, valuesOf_self, List.nil_append, ← hvalues.length_eq]
      exact hfits.most hp
    · rw [valuesOf_of_ne hqp, List.append_nil]
      exact hl.once p hp

theorem gains_record (hl : l.Proper) (hq : q ∈ l.command.parameters) (hfits : q.Fits texts)
    (h : l.record q texts origin = .ok m) (p : Parameter) :
    Gains p (if q = p then texts else []) l m := by
  refine ⟨proper_record hl hq hfits h, ?_⟩
  obtain ⟨-, values, hvalues, rfl⟩ := record_eq_ok h
  rw [values_append]
  by_cases hqp : q = p
  · subst hqp
    rw [if_pos rfl, valuesOf_self]
    exact ⟨values, hvalues, rfl⟩
  · rw [if_neg hqp, valuesOf_of_ne hqp]
    exact ⟨[], .nil, rfl⟩

/-- Settling records what waits, if there is anything. -/
theorem settle_eq_ok (h : l.settle = .ok m) :
    l.pending = none ∧ m = l ∨ ∃ q text more, l.pending = some ⟨q, text :: more⟩ ∧
      { l with pending := none }.record q (text :: more) .commandLine = .ok m := by
  rw [settle] at h
  split at h
  case h_1 hpending =>
    cases h
    exact .inl ⟨hpending, rfl⟩
  case h_2 => cases h
  case h_3 q values hne hpending =>
    cases values with
    | nil => exact absurd rfl hne
    | cons text more => exact .inr ⟨q, text, more, hpending, h⟩

theorem command_settle (h : l.settle = .ok m) : m.command = l.command := by
  obtain ⟨-, rfl⟩ | ⟨q, text, more, -, h⟩ := settle_eq_ok h
  · rfl
  · exact (command_record h).trans rfl

theorem pending_settle (h : l.settle = .ok m) : m.pending = none := by
  obtain ⟨hnone, rfl⟩ | ⟨q, text, more, -, h⟩ := settle_eq_ok h
  · exact hnone
  · exact (pending_record h).trans rfl

/-- The parameter that waits gains the texts that it has got. -/
theorem gains_settle (hl : l.Proper) (h : l.settle = .ok m) (p : Parameter) (rest : List String) :
    Gains p (l.awaited p rest) l m := by
  obtain ⟨hnone, rfl⟩ | ⟨q, text, more, hpending, h⟩ := settle_eq_ok h
  · rw [awaited_of_none hnone]
    exact .refl hl
  · have hidle : ({ l with pending := none } : Level).Proper :=
      ⟨hl.found, hl.filled, nofun, nofun, hl.once⟩
    have hmem := Option.mem_def.2 hpending
    have hfits : q.Fits (text :: more) := ⟨hl.waiting _ hmem, fun _ => List.cons_ne_nil _ _⟩
    have hgains := gains_record hidle (hl.pending _ hmem) hfits h p
    rw [awaited, hpending]
    exact ⟨hgains.proper, hgains.values⟩

/-- What is pending has all its texts when it is settled. -/
theorem awaited_of_settle (h : l.settle = .ok m) (p : Parameter) (rest : List String) :
    l.awaited p rest = l.awaited p [] := by
  obtain ⟨hnone, -⟩ | ⟨q, text, more, hpending, -⟩ := settle_eq_ok h
  · rw [awaited_of_none hnone, awaited_of_none hnone]
  · rw [awaited, awaited, hpending]
    rfl

/-! ## One argument -/

/-- A flag settles what waits and is recorded without a text. -/
theorem takeFlag_eq_ok (h : l.takeFlag q = .ok m) :
    ∃ idle, l.settle = .ok idle ∧ idle.record q [] .commandLine = .ok m := by
  obtain ⟨idle, hidle, h⟩ := Result.exists_of_bind_eq_ok h
  refine ⟨idle, Result.eq_ok_of_mapError hidle, ?_⟩
  split at h
  · cases h
  · cases h
  · exact Result.eq_ok_of_mapError h

/-- A long name is a flag, or else it settles what is pending; then it is pending itself or has its
text behind it. -/
theorem takeLong_eq_ok {name : String} {text : Option String} (h : l.takeLong name text = .ok m) :
    ∃ q, l.parameterNamed? name = some q ∧
      (q.arity = .flag ∧ text = none ∧ l.takeFlag q = .ok m ∨
        ∃ idle, l.settle = .ok idle ∧
          (text = none ∧ m = { idle with pending := some ⟨q, []⟩ } ∨
            ∃ t, text = some t ∧ idle.record q [t] .commandLine = .ok m)) := by
  rw [takeLong] at h
  cases hq : l.parameterNamed? name with
  | none =>
    rw [hq] at h
    cases h
  | some q =>
    rw [hq] at h
    dsimp only at h
    refine ⟨q, rfl, ?_⟩
    split at h
    case h_1 hflag => exact .inl ⟨hflag, rfl, h⟩
    case h_2 => cases h
    case h_3 =>
      obtain ⟨idle, hidle, h⟩ := Result.exists_of_bind_eq_ok h
      cases h
      exact .inr ⟨idle, Result.eq_ok_of_mapError hidle, .inl ⟨rfl, rfl⟩⟩
    case h_4 t _ =>
      obtain ⟨idle, hidle, h⟩ := Result.exists_of_bind_eq_ok h
      exact .inr ⟨idle, Result.eq_ok_of_mapError hidle,
        .inr ⟨t, rfl, Result.eq_ok_of_mapError h⟩⟩

/-- A parameter that takes one text, and still waits for it, has none. -/
theorem values_eq_nil_of_isOpen {q : Pending} (h : q.isOpen)
    (hq : q.parameter.arity = .single ∨ q.parameter.arity = .repeated) : q.values = [] := by
  rw [Pending.isOpen] at h
  rcases hq with hq | hq <;> rw [hq] at h <;> exact List.isEmpty_iff.1 h

theorem takeValue_eq_ok {arg : String} (h : l.takeValue arg = .ok m) :
    ∃ q, l.pending = some q ∧ q.isOpen ∧
      m = { l with pending := some { q with values := q.values ++ [arg] } } := by
  rw [takeValue] at h
  split at h
  case h_1 q hpending =>
    split at h
    case isTrue hopen =>
      cases h
      exact ⟨q, hpending, hopen, rfl⟩
    case isFalse => cases h
  case h_2 => cases h

/-- A name is looked up among the parameters of the command. -/
theorem parameterNamed?_eq_some {name : String} (h : l.parameterNamed? name = some q) :
    q ∈ l.command.parameters ∧ name = q.name := by
  have hname := List.find?_some (p := fun q : Parameter => q.name == name) h
  exact ⟨List.mem_of_find?_eq_some h, (eq_of_beq hname).symm⟩

/-- A letter is looked up among the flags of the command. -/
theorem parameterLettered?_eq_some {c : Char} (h : l.parameterLettered? c = some q) :
    q ∈ l.command.parameters ∧ q.arity = .flag := by
  have hletter := List.find?_some (p := fun q : Parameter => q.letter? == some c) h
  exact ⟨List.mem_of_find?_eq_some h, Parameter.arity_of_letter? (eq_of_beq hletter)⟩

/-- A flag gives no texts, and what waited gets those that it has. -/
theorem gains_takeFlag (hl : l.Proper) (hq : q ∈ l.command.parameters) (hflag : q.arity = .flag)
    (h : l.takeFlag q = .ok m) (p : Parameter) (rest : List String) :
    Gains p (l.awaited p rest) l m ∧ m.pending = none := by
  obtain ⟨idle, hidle, hrecord⟩ := takeFlag_eq_ok h
  have hsettle := gains_settle hl hidle p rest
  rw [← command_settle hidle] at hq
  have hgains := gains_record hsettle.proper hq (Parameter.fits_nil hflag) hrecord p
  rw [ite_self] at hgains
  refine ⟨?_, (pending_record hrecord).trans (pending_settle hidle)⟩
  simpa using hsettle.trans hgains

/-- The first letter settles what is pending, and the others find nothing pending. -/
theorem gains_takeLetters {letters : List Char} {c : Char} (hl : l.Proper)
    (h : l.takeLetters (c :: letters) = .ok m) (p : Parameter) (rest : List String) :
    Gains p (l.awaited p rest) l m ∧ m.pending = none := by
  induction letters generalizing l c with
  | nil =>
    rw [takeLetters] at h
    split at h
    · cases h
    case h_2 q hq =>
      obtain ⟨next, hnext, h⟩ := Result.exists_of_bind_eq_ok h
      cases h
      obtain ⟨hmem, hflag⟩ := parameterLettered?_eq_some hq
      exact gains_takeFlag hl hmem hflag hnext p rest
  | cons d letters ih =>
    rw [takeLetters] at h
    split at h
    · cases h
    case h_2 q hq =>
      obtain ⟨next, hnext, h⟩ := Result.exists_of_bind_eq_ok h
      obtain ⟨hmem, hflag⟩ := parameterLettered?_eq_some hq
      obtain ⟨hfirst, hidle⟩ := gains_takeFlag hl hmem hflag hnext p rest
      obtain ⟨hletters, hpending⟩ := ih hfirst.proper h
      rw [awaited_of_none hidle] at hletters
      exact ⟨by simpa using hfirst.trans hletters, hpending⟩

/-- The texts for a parameter that lie ahead. -/
def ahead (l : Level) (p : Parameter) (args : List String) : List String :=
  l.awaited p args ++ given p args

/-- On the way from `l` to `m`, the arguments `before` become `after`, and the texts that do not lie
ahead any more have been read. -/
def Moves (p : Parameter) (before after : List String) (l m : Level) : Prop :=
  ∃ texts, Gains p texts l m ∧ l.ahead p before = texts ++ m.ahead p after

theorem Moves.proper {before after : List String} (h : Moves p before after l m) : m.Proper := by
  obtain ⟨_, hgains, -⟩ := h
  exact hgains.proper

theorem Moves.trans {n : Level} {before between after : List String}
    (h : Moves p before between l m) (hnext : Moves p between after m n) :
    Moves p before after l n := by
  obtain ⟨first, hfirst, hbefore⟩ := h
  obtain ⟨second, hsecond, hbetween⟩ := hnext
  refine ⟨first ++ second, hfirst.trans hsecond, ?_⟩
  rw [hbefore, hbetween, List.append_assoc]

section Take

variable {arg : String} {rest : List String}

/-- An argument without a text that settles what is pending. -/
theorem moves_of_gains (h : Gains p (l.awaited p (arg :: rest)) l m) (hpending : m.pending = none)
    (hgiven : given p (arg :: rest) = given p rest) : Moves p (arg :: rest) rest l m := by
  refine ⟨_, h, ?_⟩
  rw [ahead, ahead, hgiven, awaited_of_none hpending, List.nil_append]

/-- An argument that is taken as a text counts for the parameter that waited. -/
theorem moves_takeValue (hp : p.IsLocal) (hl : l.Proper)
    (hgiven : given p (arg :: rest) = given p rest) (h : l.takeValue arg = .ok m) :
    Moves p (arg :: rest) rest l m := by
  obtain ⟨q, hpending, hopen, rfl⟩ := takeValue_eq_ok h
  have hmem := Option.mem_def.2 hpending
  have hproper : ({ l with pending := some { q with values := q.values ++ [arg] } } :
      Level).Proper := by
    refine ⟨hl.found, hl.filled, ?_, ?_, hl.once⟩
    · rintro _ ⟨⟩
      exact hl.pending q hmem
    · rintro _ ⟨⟩ hsingle
      rw [values_eq_nil_of_isOpen hopen (.inl hsingle)]
      exact Nat.le_refl 1
  refine ⟨[], ⟨hproper, (Gains.refl hl).values⟩, ?_⟩
  rw [ahead, ahead, hgiven, List.nil_append]
  congr 1
  rw [awaited, awaited, hpending]
  obtain ⟨q, texts⟩ := q
  by_cases hq : q = p
  · subst hq
    obtain rfl := values_eq_nil_of_isOpen hopen hp.arity
    rfl
  · exact (if_neg hq).trans (if_neg hq).symm

/-- A name becomes pending, and its text lies ahead. -/
theorem moves_pending {idle : Level} (hl : l.Proper) (hq : q ∈ l.command.parameters)
    (hidle : l.settle = .ok idle)
    (hgiven : given p (arg :: rest) = (if q = p then rest.take 1 else []) ++ given p rest) :
    Moves p (arg :: rest) rest l { idle with pending := some ⟨q, []⟩ } := by
  have hsettle := gains_settle hl hidle p (arg :: rest)
  rw [← command_settle hidle] at hq
  have hproper : ({ idle with pending := some ⟨q, []⟩ } : Level).Proper := by
    refine ⟨hsettle.proper.found, hsettle.proper.filled, ?_, ?_, hsettle.proper.once⟩
    · rintro _ ⟨⟩
      exact hq
    · rintro _ ⟨⟩ -
      exact Nat.zero_le 1
  exact ⟨_, ⟨hproper, hsettle.values⟩, congrArg _ hgiven⟩

/-- A name has its text behind it. -/
theorem moves_assigned {idle : Level} {text : String} (hl : l.Proper)
    (hq : q ∈ l.command.parameters) (hidle : l.settle = .ok idle)
    (h : idle.record q [text] .commandLine = .ok m)
    (hgiven : given p (arg :: rest) = (if q = p then [text] else []) ++ given p rest) :
    Moves p (arg :: rest) rest l m := by
  have hsettle := gains_settle hl hidle p (arg :: rest)
  rw [← command_settle hidle] at hq
  have hgains := gains_record hsettle.proper hq (Parameter.fits_singleton q text) h p
  refine ⟨_, hsettle.trans hgains, ?_⟩
  rw [ahead, ahead, awaited_of_none ((pending_record h).trans (pending_settle hidle)), hgiven,
    List.nil_append, List.append_assoc]

/-- An argument is read at its place. -/
theorem moves_take (hp : p.IsLocal) (hl : l.Proper) (h : l.take arg = .ok m) :
    Moves p (arg :: rest) rest l m := by
  rw [take] at h
  split at h
  case h_1 body hlong =>
    split at h
    case h_1 hcut =>
      have hgiven : given p (arg :: rest) = _ := given_of_name hlong hcut
      obtain ⟨q, hq, hcases⟩ := takeLong_eq_ok h
      obtain ⟨hmem, hname⟩ := parameterNamed?_eq_some hq
      simp only [hname, Parameter.name_inj] at hgiven
      obtain ⟨hflag, -, h⟩ | ⟨idle, hidle, ⟨-, rfl⟩ | ⟨_, ⟨⟩, _⟩⟩ := hcases
      · obtain ⟨hgains, hpending⟩ := gains_takeFlag hl hmem hflag h p (arg :: rest)
        rw [if_neg (hp.ne_of_flag hflag)] at hgiven
        exact moves_of_gains hgains hpending hgiven
      · exact moves_pending hl hmem hidle hgiven
    case h_2 name text hcut =>
      have hgiven : given p (arg :: rest) = _ := given_of_assignment hlong hcut
      obtain ⟨q, hq, ⟨-, ⟨⟩, _⟩ | ⟨idle, hidle, ⟨⟨⟩, _⟩ | ⟨_, ⟨⟩, h⟩⟩⟩ := takeLong_eq_ok h
      obtain ⟨hmem, hname⟩ := parameterNamed?_eq_some hq
      simp only [hname, Parameter.name_inj] at hgiven
      exact moves_assigned hl hmem hidle h hgiven
  case h_2 c letters hdash hletters =>
    have hshort (body : List Char) : arg.toList ≠ '-' :: '-' :: body := by
      rw [hletters]
      rintro ⟨⟩
      exact hdash rfl
    obtain ⟨hgains, hpending⟩ := gains_takeLetters hl h p (arg :: rest)
    exact moves_of_gains hgains hpending (given_of_not_long hshort)
  case h_3 hlong hletters =>
    exact moves_takeValue hp hl (given_of_not_long hlong) h

end Take

/-! ## Completing a level -/

section Complete

variable {environment : String → Option String}

/-- What the environment adds is not for this parameter. -/
theorem gains_addVariables (hp : p.IsLocal) (hl : l.Proper)
    (h : l.addVariables environment = .ok m) : Gains p [] l m := by
  unfold addVariables at h
  generalize hps : l.command.parameters = ps at h
  have hparameters : ∀ q ∈ ps, q ∈ l.command.parameters := fun q hq => hps.symm ▸ hq
  clear hps
  induction ps generalizing l with
  | nil =>
    cases h
    exact .refl hl
  | cons q ps ih =>
    rw [List.foldlM_cons] at h
    obtain ⟨next, hnext, h⟩ := Result.exists_of_bind_eq_ok h
    obtain ⟨hq, hrest⟩ := List.forall_mem_cons.1 hparameters
    have hadd : Gains p [] l next ∧ next.command = l.command := by
      split at hnext
      case isTrue =>
        cases hnext
        exact ⟨.refl hl, rfl⟩
      case isFalse =>
        split at hnext
        case h_1 =>
          cases hnext
          exact ⟨.refl hl, rfl⟩
        case h_2 value hvalue =>
          have hgains := gains_record hl hq (Parameter.fits_singleton q value) hnext p
          rw [if_neg] at hgains
          · exact ⟨hgains, command_record hnext⟩
          · rintro rfl
            rw [hp.environment] at hvalue
            cases hvalue
    obtain ⟨hgains, hcommand⟩ := hadd
    exact hgains.trans (ih hgains.proper h (hcommand ▸ hrest))

theorem check_eq_ok {isLast : Bool} (h : l.check isLast = .ok m) : m = l := by
  rw [check] at h
  split at h
  · cases h
  · dsimp only at h
    split at h
    · cases h
    · split at h
      · cases h
        rfl
      · cases h

/-- A level is complete once it is settled, has its variables, and passes its checks. -/
theorem complete_eq_ok_iff {isLast : Bool} :
    l.complete environment isLast = .ok m ↔
      ∃ idle, l.settle = .ok idle ∧ idle.addVariables environment = .ok m ∧
        m.check isLast = .ok m := by
  constructor
  · intro h
    obtain ⟨idle, hidle, h⟩ := Result.exists_of_bind_eq_ok h
    obtain ⟨full, hfull, h⟩ := Result.exists_of_bind_eq_ok h
    obtain rfl := check_eq_ok h
    exact ⟨idle, Result.eq_ok_of_mapError hidle, Result.eq_ok_of_mapError hfull, h⟩
  · rintro ⟨idle, hidle, hfull, hcheck⟩
    rw [complete, hidle]
    refine Result.bind_eq_ok_iff.2 ⟨idle, rfl, ?_⟩
    rw [hfull]
    exact hcheck

end Complete

/-! ## All arguments -/

section Scan

variable {arg : String} {rest : List String} {child : Command}

theorem toList_name_ne (c : Command) (body : List Char) : c.name.toList ≠ '-' :: body := by
  have hfirst : c.name.toList.head? ≠ some '-' := by cases c <;> decide
  intro h
  rw [h] at hfirst
  exact hfirst rfl

/-- A command with subcommands has nothing for the parameter, and its subcommand has nothing yet. -/
theorem moves_subcommand (hp : p.IsLocal) (hl : l.Proper)
    (h : l.command.subcommand? arg = some child) :
    l.Moves p (arg :: rest) rest ⟨child, [], none⟩ := by
  have hmem := List.mem_of_find?_eq_some h
  have hname := List.find?_some (p := fun c : Command => c.name == arg) h
  have hlacks : p ∉ l.command.parameters := fun hmine => by
    rw [hp.last _ hmine] at hmem
    cases hmem
  have hgiven : given p (arg :: rest) = given p rest := by
    refine given_of_not_long fun body => ?_
    rw [← eq_of_beq hname]
    exact toList_name_ne child _
  refine ⟨[], ⟨proper_nil child, [], .nil, ?_⟩, ?_⟩
  · rw [hl.values_eq_nil hlacks]
    rfl
  · rw [ahead, hl.awaited_eq_nil hlacks, hgiven]
    rfl

/-- Along all arguments, what is read is what is given. -/
theorem moves_scan (hp : p.IsLocal) {args : List String} {above upper : List Level} {idle : Level}
    (hl : l.Proper) (h : scan l above args = .ok (m :: upper)) (hm : m.settle = .ok idle) :
    l.Moves p args [] m := by
  induction args generalizing l above with
  | nil =>
    cases h
    exact ⟨[], .refl hl, rfl⟩
  | cons arg rest ih =>
    unfold scan at h
    split at h
    case h_1 => cases h
    case h_2 child _ hchild =>
      have hmoves : l.Moves p (arg :: rest) rest ⟨child, [], none⟩ := by
        split at hchild
        · cases hchild
        · exact moves_subcommand hp hl hchild
      exact hmoves.trans (ih hmoves.proper h)
    case h_3 =>
      split at h
      case isTrue hdash =>
        -- the double dash is no text, and it may only come last
        cases rest with
        | cons => cases h
        | nil =>
          cases h
          have hcut : Text.cutText '=' "--" = none := by decide
          have hgiven : given p ["--"] = [] := by
            rw [given, hcut]
            simp only [List.take_nil, ite_self]
            rfl
          refine ⟨[], .refl hl, ?_⟩
          rw [ahead, ahead, awaited_of_settle hm, hdash, hgiven]
          rfl
      case isFalse =>
        obtain ⟨next, hnext, h⟩ := Result.exists_of_bind_eq_ok h
        have hmoves : l.Moves p (arg :: rest) rest next := moves_take hp hl hnext
        exact hmoves.trans (ih hmoves.proper h)

end Scan

/-- The first level is completed as the last one. -/
theorem levels_eq_ok_iff {environment : String → Option String} {args : List String}
    {above : List Level} :
    levels environment args = .ok (l :: above) ↔
      ∃ last upper, scan ⟨.root, [], none⟩ [] args = .ok (last :: upper) ∧
        last.complete environment true = .ok l ∧
        completeAll environment false upper = .ok above := by
  constructor
  · intro h
    obtain ⟨scanned, hscan, h⟩ := Result.exists_of_bind_eq_ok h
    cases scanned with
    | nil => cases h
    | cons last upper =>
      obtain ⟨final, hfinal, h⟩ := Result.exists_of_bind_eq_ok h
      obtain ⟨rest, hrest, h⟩ := Result.exists_of_bind_eq_ok h
      cases h
      exact ⟨last, upper, hscan, hfinal, hrest⟩
  · rintro ⟨last, upper, hscan, hfinal, hrest⟩
    rw [levels, hscan]
    refine Result.bind_eq_ok_iff.2 ⟨_, rfl, ?_⟩
    rw [completeAll, hfinal]
    refine Result.bind_eq_ok_iff.2 ⟨l, rfl, ?_⟩
    rw [hrest]
    rfl

/-- What a level has after the scan is read from what the arguments give. -/
theorem values_of_scan (hp : p.IsLocal) {args : List String} {upper : List Level} {idle : Level}
    (h : scan ⟨.root, [], none⟩ [] args = .ok (m :: upper)) (hidle : m.settle = .ok idle) :
    Reads p (given p args) (idle.values p) ∧ idle.Proper := by
  obtain ⟨texts, hread, hahead⟩ := moves_scan hp (proper_nil .root) h hidle
  have hgains := hread.trans (gains_settle hread.proper hidle p [])
  have hgiven : given p args = texts ++ m.awaited p [] := by
    rw [← List.append_nil (m.awaited p [])]
    exact hahead
  rw [← hgiven] at hgains
  obtain ⟨values, hvalues, heq⟩ := hgains.values
  exact ⟨heq ▸ hvalues, hgains.proper⟩

/-- What a command has for a parameter is read from what is given for it, and that is at most one
value if the parameter may not be repeated. -/
theorem values_of_levels (hp : p.IsLocal) {environment : String → Option String}
    {args : List String} {above : List Level} (h : levels environment args = .ok (l :: above)) :
    Reads p (given p args) (l.values p) ∧ l.Proper := by
  obtain ⟨last, upper, hscan, hfinal, -⟩ := levels_eq_ok_iff.1 h
  obtain ⟨idle, hidle, hadd, -⟩ := complete_eq_ok_iff.1 hfinal
  obtain ⟨hreads, hproper⟩ := values_of_scan hp hscan hidle
  have hgains := gains_addVariables hp hproper hadd
  obtain ⟨_, ⟨⟩, heq⟩ := hgains.values
  rw [heq, List.append_nil]
  exact ⟨hreads, hgains.proper⟩

/-- A parameter that takes one text has one value at most. -/
theorem Proper.toList_value? (hl : l.Proper) (hp : p.arity = .single) :
    (l.value? p).toList = l.values p := by
  have hlength := hl.once p hp
  rw [value?]
  match hvalues : l.values p with
  | [] => rfl
  | [value] => rfl
  | value :: next :: rest =>
    rw [hvalues] at hlength
    simp at hlength

end Level

/-! ## Etags -/

theorem isLocal_etag : Parameter.etag.IsLocal where
  last c h := by cases c <;> first | rfl | exact absurd h (by decide)
  arity := .inl rfl
  environment := rfl

theorem reads_etag {values : List String} : Level.Reads .etag texts values ↔ texts = values := by
  have hreads : (fun text value : String => Level.readValue .etag text = .ok value) = Eq :=
    funext₂ fun text value => propext ⟨Except.ok.inj, congrArg Except.ok⟩
  rw [Level.Reads, hreads, List.forall₂_eq_eq_eq]

/-- The etag of a command is the one behind its name. -/
theorem given_etag_of_levels {environment : String → Option String} {args : List String}
    {above : List Level} (h : levels environment args = .ok (l :: above)) :
    given .etag args = (l.value? .etag).toList := by
  obtain ⟨hreads, hproper⟩ := Level.values_of_levels isLocal_etag h
  rw [hproper.toList_value? rfl]
  exact reads_etag.1 hreads

/-- A task is read off the last level. -/
theorem exists_level_of_parse {environment : String → Option String} {args : List String}
    {e : Endpoint} {task : Task} (h : parse environment args = .ok (.task e task)) :
    ∃ l above, levels environment args = .ok (l :: above) ∧ l.task? = some task ∧
      e = endpoint (l :: above) := by
  obtain ⟨levels, hlevels, h⟩ := Result.exists_of_bind_eq_ok h
  split at h
  case h_1 => cases h
  case h_2 task _ htask =>
    cases h
    cases levels with
    | nil => cases htask
    | cons l above => exact ⟨l, above, hlevels, htask, rfl⟩
  case h_3 => cases h

end Sidecar.CommandLine
