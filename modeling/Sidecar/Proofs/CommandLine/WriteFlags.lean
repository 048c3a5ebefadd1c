import Sidecar.Proofs.CommandLine.Numeral
import Sidecar.Proofs.CommandLine.Sent
import Sidecar.Proofs.CommandLine.Without

/-!
# Flags of writes

Whatever flags a save or a deletion is given, it is accepted if and only if their words are known
and they go together, and then its request says all that they say.

The main result is `writeFlags_kept`.
-/

namespace Sidecar.CommandLine

open Command (writeParameters)
open Http

/-- What a command line has to say about a write.  Words are as they stand there. -/
structure WriteFlags where
  consistency : Option String := none
  concurrency : Option String := none
  pattern : Option String := none
  interval : Option UInt64 := none
  threshold : Option UInt32 := none
deriving DecidableEq, Repr

namespace WriteFlags

/-- The texts are these words, and numerals for these numbers. -/
structure Describes (f : WriteFlags) (texts : Parameter → List String) : Prop where
  consistency : texts .consistency = f.consistency.toList
  concurrency : texts .concurrency = f.concurrency.toList
  pattern : texts .retryPattern = f.pattern.toList
  interval : List.Forall₂ (fun text (n : UInt64) => IsNumeral text n.toNat)
    (texts .retryInterval) f.interval.toList
  threshold : List.Forall₂ (fun text (n : UInt32) => IsSignedNumeral text n.toNat)
    (texts .retryThreshold) f.threshold.toList

/-- The words are known, a pattern and a threshold come together, and an interval only with them. -/
structure Coherent (f : WriteFlags) : Prop where
  consistency : ∀ word ∈ f.consistency, word ∈ ["eventual", "strong"]
  concurrency : ∀ word ∈ f.concurrency, word ∈ ["first-write", "last-write"]
  pattern : ∀ word ∈ f.pattern, word ∈ ["linear", "exponential"]
  threshold : f.pattern.isSome ↔ f.threshold.isSome
  interval : f.interval.isSome → f.pattern.isSome

/-- The policy has all that the flags say, and is the usual one in what they leave open. -/
structure Carried (f : WriteFlags) (policy : Policy) : Prop where
  consistency : policy.consistency = f.consistency.getD "eventual"
  concurrency : policy.concurrency = f.concurrency.getD "last-write"
  pattern : policy.retry.map (·.pattern) = f.pattern
  interval : policy.retry.map (·.interval) = f.pattern.map fun _ => (f.interval.getD 1000).toNat
  threshold : policy.retry.map (·.threshold) = f.threshold.map (·.toNat)

/-- If there is a request to be made, it goes out, and it says what the flags say, or nothing if
there are none.  Nothing else is sent. -/
structure Kept [Redirection] (f : WriteFlags) (environment : String → Option String)
    (args : List String) (e : Endpoint) (task : Task) (write : Write) : Prop where
  sent base message (hbase : e.baseUrl = .ok base) (hsends : task.Sends base message) :
    (∀ w, (run environment args w).2 = (ask message w).2) ∧
      ∃ said, Says base message.withCredentials write said ∧ (said = none ↔ f = {}) ∧
        ∀ policy ∈ said, f.Carried policy
  silent (h : ∀ base message, e.baseUrl = .ok base → ¬task.Sends base message) (w : Wire) :
    (run environment args w).2 = w

end WriteFlags

variable {l base : Level} {p : Parameter} {texts : Parameter → List String} {f g : WriteFlags}
  {settings : List Setting}

/-! ## Reading flags -/

theorem isLocal_of_mem (h : p ∈ writeParameters) : p.IsLocal where
  last c hc := by
    simp only [writeParameters, List.mem_cons, List.not_mem_nil, or_false] at h
    rcases h with rfl | rfl | rfl | rfl | rfl <;> cases c <;>
      first | rfl | exact absurd hc (by decide)
  arity := by
    revert h
    cases p <;> decide
  environment := by
    revert h
    cases p <;> decide

theorem arity_of_mem (h : p ∈ writeParameters) : p.arity = .single := by
  revert h
  cases p <;> decide

theorem reads_iff {s : List String} {values : List p.Value} :
    Level.Reads p s values ↔ List.Forall₂ (fun text value => p.read text = .ok value) s values := by
  have hread : (fun text value => Level.readValue p text = .ok value) =
      fun text value => p.read text = .ok value := by
    funext text value
    refine propext ⟨Result.eq_ok_of_mapError, fun h => ?_⟩
    rw [Level.readValue, h]
    rfl
  rw [Level.Reads, hread]

/-- Words are read from their spellings. -/
theorem forall₂_readWord_iff {α : Type} [Vocabulary α] (h : IsSpelled α) {words : List String}
    {values : List α} :
    List.Forall₂ (fun word value => readWord word = .ok value) words values ↔
      words = values.map Vocabulary.word := by
  simp only [readWord_eq_ok_iff h]
  rw [← List.forall₂_map_right_iff, List.forall₂_eq_eq_eq]

/-! ## Flags of a level -/

/-- What has been read for a level. -/
def Level.writeFlags (l : Level) : WriteFlags where
  consistency := (l.value? .consistency).map Vocabulary.word
  concurrency := (l.value? .concurrency).map Vocabulary.word
  pattern := (l.value? .retryPattern).map Vocabulary.word
  interval := l.value? .retryInterval
  threshold := l.value? .retryThreshold

/-- The flags of a level are described by the texts that it was read from. -/
theorem Level.Proper.describes_writeFlags (hl : l.Proper)
    (h : ∀ p ∈ writeParameters, Reads p (texts p) (l.values p)) :
    l.writeFlags.Describes texts := by
  have hreads (p : Parameter) (hp : p ∈ writeParameters) :
      List.Forall₂ (fun text value => p.read text = .ok value) (texts p) (l.value? p).toList := by
    rw [hl.toList_value? (arity_of_mem hp)]
    exact reads_iff.1 (h p hp)
  constructor
  case consistency =>
    rw [(forall₂_readWord_iff isSpelled_consistency).1 (hreads .consistency (by decide))]
    exact Option.toList_map.symm
  case concurrency =>
    rw [(forall₂_readWord_iff isSpelled_concurrency).1 (hreads .concurrency (by decide))]
    exact Option.toList_map.symm
  case pattern =>
    rw [(forall₂_readWord_iff isSpelled_retryPattern).1 (hreads .retryPattern (by decide))]
    exact Option.toList_map.symm
  case interval =>
    exact (hreads .retryInterval (by decide)).imp fun _ _ => readUInt64_eq_ok_iff.1
  case threshold =>
    exact (hreads .retryThreshold (by decide)).imp fun _ _ => readUInt32_eq_ok_iff.1

theorem toList_injective {α : Type} : Function.Injective (Option.toList : Option α → List α) := by
  intro a b h
  simpa using congrArg List.head? h

theorem WriteFlags.Describes.unique (h : f.Describes texts) (hg : g.Describes texts) : f = g := by
  have hinterval : Relator.RightUnique fun (text : String) (n : UInt64) =>
      IsNumeral text n.toNat := fun _ _ _ h h' => UInt64.toNat_inj.1 (h.unique h')
  have hthreshold : Relator.RightUnique fun (text : String) (n : UInt32) =>
      IsSignedNumeral text n.toNat := fun _ _ _ h h' => UInt32.toNat_inj.1 (h.unique h')
  cases f
  cases g
  congr
  · exact toList_injective (h.consistency.symm.trans hg.consistency)
  · exact toList_injective (h.concurrency.symm.trans hg.concurrency)
  · exact toList_injective (h.pattern.symm.trans hg.pattern)
  · exact toList_injective (hinterval.forall₂ h.interval hg.interval)
  · exact toList_injective (hthreshold.forall₂ h.threshold hg.threshold)

/-- Known words can be read. -/
theorem exists_reads_of_words {words : List String} {o : Option String}
    (hread : ∀ word ∈ words, ∃ value, p.read word = .ok value) (h : ∀ word ∈ o, word ∈ words) :
    (∃ values, Level.Reads p o.toList values) ∧ o.toList.length ≤ 1 := by
  refine ⟨?_, Option.length_toList_le⟩
  cases o with
  | none => exact ⟨[], .nil⟩
  | some word =>
    obtain ⟨value, hvalue⟩ := hread word (h word rfl)
    exact ⟨[value], reads_iff.2 (.cons hvalue .nil)⟩

/-- Flags that go together can be read, and each comes once. -/
theorem WriteFlags.Coherent.exists_reads (hf : f.Coherent) (h : f.Describes texts)
    (hp : p ∈ writeParameters) :
    (∃ values, Level.Reads p (texts p) values) ∧ (texts p).length ≤ 1 := by
  simp only [writeParameters, List.mem_cons, List.not_mem_nil, or_false] at hp
  rcases hp with rfl | rfl | rfl | rfl | rfl
  · rw [h.consistency]
    exact exists_reads_of_words (fun _ => (exists_readWord_iff isSpelled_consistency).2)
      hf.consistency
  · rw [h.concurrency]
    exact exists_reads_of_words (fun _ => (exists_readWord_iff isSpelled_concurrency).2)
      hf.concurrency
  · rw [h.pattern]
    exact exists_reads_of_words (fun _ => (exists_readWord_iff isSpelled_retryPattern).2)
      hf.pattern
  · rw [h.interval.length_eq]
    exact ⟨⟨_, reads_iff.2 (h.interval.imp fun _ _ => readUInt64_eq_ok_iff.2)⟩,
      Option.length_toList_le⟩
  · rw [h.threshold.length_eq]
    exact ⟨⟨_, reads_iff.2 (h.threshold.imp fun _ _ => readUInt32_eq_ok_iff.2)⟩,
      Option.length_toList_le⟩

/-! ## Flags that go together -/

/-- The commands that have the flags. -/
def Command.IsWrite (c : Command) : Prop := c = .stateSave ∨ c = .stateDelete

namespace Level

theorem mem_words_of_mem_map {α : Type} [Vocabulary α] (h : IsSpelled α) (o : Option α) :
    ∀ word ∈ o.map Vocabulary.word, word ∈ (Vocabulary.all : List α).map Vocabulary.word := by
  intro word hword
  obtain ⟨a, -, rfl⟩ := Option.map_eq_some_iff.1 hword
  exact word_mem_words h a

/-- What has been read are known words, so that only the other conditions are left. -/
theorem coherent_writeFlags_iff :
    l.writeFlags.Coherent ↔
      ((l.value? .retryPattern).isSome ↔ (l.value? .retryThreshold).isSome) ∧
        ((l.value? .retryInterval).isSome → (l.value? .retryPattern).isSome) := by
  constructor
  · intro h
    have hthreshold := h.threshold
    have hinterval := h.interval
    simp only [writeFlags, Option.isSome_map] at hthreshold hinterval
    exact ⟨hthreshold, hinterval⟩
  · rintro ⟨hthreshold, hinterval⟩
    constructor
    case consistency => exact mem_words_of_mem_map isSpelled_consistency _
    case concurrency => exact mem_words_of_mem_map isSpelled_concurrency _
    case pattern => exact mem_words_of_mem_map isSpelled_retryPattern _
    case threshold =>
      simp only [writeFlags, Option.isSome_map]
      exact hthreshold
    case interval =>
      simp only [writeFlags, Option.isSome_map]
      exact hinterval

theorem Proper.has_iff_isSome (hl : l.Proper) (hp : p ∈ writeParameters) :
    l.has p ↔ (l.value? p).isSome := by
  have hflag : p.arity ≠ .flag := by
    rw [arity_of_mem hp]
    exact nofun
  rw [hl.has_iff hflag, value?]
  cases l.values p with
  | nil => simp
  | cons value values => simp

/-- Everything that is found has what it requires. -/
theorem requires_iff :
    (∀ q ∈ l.found.flatMap (·.parameter.requires), l.has q) ↔
      (l.has .retryPattern ↔ l.has .retryThreshold) ∧
        (l.has .retryInterval → l.has .retryPattern) := by
  have hflat : (∀ q ∈ l.found.flatMap (·.parameter.requires), l.has q) ↔
      ∀ p, l.has p → ∀ q ∈ p.requires, l.has q := by
    constructor
    · intro h p hp q hq
      obtain ⟨f, hf, rfl⟩ := Level.has_iff.1 hp
      exact h q (List.mem_flatMap.2 ⟨f, hf, hq⟩)
    · intro h q hq
      obtain ⟨f, hf, hq⟩ := List.mem_flatMap.1 hq
      exact h f.parameter (Level.has_iff.2 ⟨f, hf, rfl⟩) q hq
  rw [hflat]
  constructor
  · intro h
    exact ⟨⟨fun hp => h _ hp _ (by decide), fun hp => h _ hp _ (by decide)⟩,
      fun hp => h _ hp _ (by decide)⟩
  · rintro ⟨hthreshold, hinterval⟩ p hp q hq
    cases p with
    | retryPattern =>
      obtain rfl := List.mem_singleton.1 hq
      exact hthreshold.1 hp
    | retryThreshold =>
      obtain rfl := List.mem_singleton.1 hq
      exact hthreshold.2 hp
    | retryInterval =>
      obtain rfl := List.mem_singleton.1 hq
      exact hinterval hp
    | _ => exact absurd hq List.not_mem_nil

/-- A write has all that it needs if and only if its flags go together. -/
theorem Proper.check_eq_ok_iff (hl : l.Proper) (hwrite : l.command.IsWrite) :
    l.check true = .ok l ↔ (∀ p ∈ l.command.required, l.has p) ∧ l.writeFlags.Coherent := by
  have hlast : l.command.subcommands = [] := by
    rcases hwrite with hwrite | hwrite <;> rw [hwrite] <;> rfl
  have hconflict : l.firstConflict? = none := by
    refine List.find?_eq_none.2 fun pair hpair => ?_
    obtain ⟨f, hf, hpair⟩ := List.mem_flatMap.1 hpair
    have hexcludes : ∀ p ∈ l.command.parameters, p.excludes = [] := by
      rcases hwrite with hwrite | hwrite <;> rw [hwrite] <;> decide
    rw [hexcludes _ (hl.found f hf)] at hpair
    cases hpair
  have hcheck : l.check true =
      if l.needed.all l.has then .ok l else .error (.fault .missingParameters) := by
    rw [check, hlast, hconflict]
    rfl
  have hok : l.check true = .ok l ↔ ∀ q ∈ l.needed, l.has q := by
    rw [hcheck, ← List.all_eq_true]
    split
    case isTrue hall => exact iff_of_true rfl hall
    case isFalse hall =>
      refine iff_of_false ?_ hall
      rintro ⟨⟩
  rw [hok, needed, List.forall_mem_append, requires_iff, coherent_writeFlags_iff,
    hl.has_iff_isSome (by decide), hl.has_iff_isSome (by decide), hl.has_iff_isSome (by decide)]

/-! ## Options -/

/-- With flags that go together, there is a policy for retries just if there is a pattern. -/
theorem retryPolicy_cases (h : l.writeFlags.Coherent) :
    l.value? .retryPattern = none ∧ l.value? .retryThreshold = none ∧
        l.value? .retryInterval = none ∧ l.retryPolicy = none ∨
      ∃ pattern threshold, l.value? .retryPattern = some pattern ∧
        l.value? .retryThreshold = some threshold ∧
        l.retryPolicy = some ⟨pattern,
          .ofMilliseconds ((l.value? .retryInterval).getD 1000).toNat, threshold⟩ := by
  obtain ⟨hthreshold, hinterval⟩ := coherent_writeFlags_iff.1 h
  rw [retryPolicy]
  cases hp : l.value? .retryPattern with
  | none =>
    rw [hp] at hthreshold hinterval
    have ht : l.value? .retryThreshold = none := by simpa using hthreshold
    have hi : l.value? .retryInterval = none := by simpa using hinterval
    exact .inl ⟨rfl, ht, hi, by rw [ht]⟩
  | some pattern =>
    rw [hp] at hthreshold
    obtain ⟨threshold, ht⟩ := Option.isSome_iff_exists.1 (hthreshold.1 rfl)
    refine .inr ⟨pattern, threshold, rfl, ht, ?_⟩
    rw [ht]
    rfl

/-- There are no options without flags, and with any flag there are all of them. -/
theorem stateOptions_cases (l : Level) :
    l.value? .consistency = none ∧ l.value? .concurrency = none ∧ l.retryPolicy = none ∧
        l.stateOptions = none ∨
      (l.value? .consistency ≠ none ∨ l.value? .concurrency ≠ none ∨ l.retryPolicy ≠ none) ∧
        l.stateOptions = some ⟨(l.value? .consistency).getD default,
          (l.value? .concurrency).getD default, l.retryPolicy⟩ := by
  rw [stateOptions]
  cases l.value? .consistency with
  | some c => exact .inr ⟨.inl nofun, rfl⟩
  | none =>
    cases l.value? .concurrency with
    | some c => exact .inr ⟨.inr (.inl nofun), rfl⟩
    | none =>
      cases l.retryPolicy with
      | some retry => exact .inr ⟨.inr (.inr nofun), rfl⟩
      | none => exact .inl ⟨rfl, rfl, rfl, rfl⟩

/-- There are no options exactly if there are no flags. -/
theorem stateOptions_eq_none_iff (h : l.writeFlags.Coherent) :
    l.stateOptions = none ↔ l.writeFlags = {} := by
  simp only [writeFlags, WriteFlags.mk.injEq, Option.map_eq_none_iff]
  obtain ⟨hc, hk, hretry, hnone⟩ | ⟨hsome, hoptions⟩ := l.stateOptions_cases
  · obtain ⟨hp, ht, hi, -⟩ | ⟨pattern, threshold, -, -, hpolicy⟩ := retryPolicy_cases h
    · exact iff_of_true hnone ⟨hc, hk, hp, hi, ht⟩
    · rw [hretry] at hpolicy
      cases hpolicy
  · rw [hoptions]
    refine iff_of_false nofun ?_
    rintro ⟨hc, hk, hp, -, -⟩
    obtain ⟨-, -, -, hretry⟩ | ⟨pattern, threshold, hsome, -⟩ := retryPolicy_cases h
    · rcases hsome with hsome | hsome | hsome
      · exact hsome hc
      · exact hsome hk
      · exact hsome hretry
    · rw [hp] at hsome
      cases hsome

theorem eq_of_stateOptions {o : StateOptions} (h : l.stateOptions = some o) :
    o = ⟨(l.value? .consistency).getD default, (l.value? .concurrency).getD default,
      l.retryPolicy⟩ := by
  obtain ⟨-, -, -, hnone⟩ | ⟨-, hsome⟩ := l.stateOptions_cases
  · rw [hnone] at h
    cases h
  · exact Option.some.inj (h.symm.trans hsome)

theorem milliseconds_ofMilliseconds (n : Nat) : (Duration.ofMilliseconds n).milliseconds = n :=
  Nat.mul_div_cancel n (by decide)

theorem carried_of_stateOptions {o : StateOptions} (h : l.writeFlags.Coherent)
    (ho : l.stateOptions = some o) : l.writeFlags.Carried (.ofOptions o) := by
  obtain rfl := eq_of_stateOptions ho
  have hconsistency : Vocabulary.word ((l.value? .consistency).getD default) =
      ((l.value? .consistency).map Vocabulary.word).getD "eventual" := by
    cases l.value? .consistency <;> rfl
  have hconcurrency : Vocabulary.word ((l.value? .concurrency).getD default) =
      ((l.value? .concurrency).map Vocabulary.word).getD "last-write" := by
    cases l.value? .concurrency <;> rfl
  obtain ⟨hp, ht, hi, hretry⟩ | ⟨pattern, threshold, hp, ht, hretry⟩ := retryPolicy_cases h
  · rw [hretry]
    constructor
    case consistency => exact hconsistency
    case concurrency => exact hconcurrency
    all_goals simp [writeFlags, Policy.ofOptions, hp, ht]
  · rw [hretry]
    constructor
    case consistency => exact hconsistency
    case concurrency => exact hconcurrency
    all_goals simp [writeFlags, Policy.ofOptions, Retrying.ofOptions, hp, ht,
      milliseconds_ofMilliseconds]

/-- Every interval that is read fits into 64 bits. -/
theorem capped_of_stateOptions {o : StateOptions} (h : l.writeFlags.Coherent)
    (ho : l.stateOptions = some o) : (Policy.ofOptions o).capped = .ofOptions o := by
  obtain rfl := eq_of_stateOptions ho
  rw [Policy.capped_ofOptions_eq_iff]
  intro p hp
  obtain ⟨-, -, -, hretry⟩ | ⟨pattern, threshold, -, -, hretry⟩ := retryPolicy_cases h
  · cases hretry.symm.trans hp
  · cases hretry.symm.trans hp
    rw [milliseconds_ofMilliseconds]
    exact Nat.le_of_lt_succ (UInt64.toNat_lt _)

end Level

/-! ## Tasks -/

section Tasks

variable {environment : String → Option String} {args front : List String} {e : Endpoint}
  {task : Task} {write : Write} {target : Target} {etag : Option String} {above : List Level}

/-- A task that writes comes from a command that does, and has the options of its level. -/
theorem isWrite_of_task? (htask : l.task? = some task)
    (hwrite : task.write? = some (write, target, etag)) :
    l.command.IsWrite ∧ task.options? = l.stateOptions := by
  unfold Level.task? at htask
  split at htask <;> cases htask
  case h_2 hcommand => exact ⟨.inl hcommand, rfl⟩
  case h_3 hcommand => exact ⟨.inr hcommand, rfl⟩
  all_goals cases hwrite

theorem document?_eq_none_of_task? (h : l.task? = some task) : l.document? = none := by
  unfold Level.task? at h
  unfold Level.document?
  split at h <;> cases h
  all_goals simp only [*]

/-- The last level says what the task is, and all of them say where it goes. -/
theorem parse_of_levels (hlevels : levels environment args = .ok (l :: above))
    (htask : l.task? = some task) :
    parse environment args = .ok (.task (endpoint (l :: above)) task) := by
  rw [parse, hlevels]
  refine Result.bind_eq_ok_iff.2 ⟨_, rfl, ?_⟩
  rw [List.head?_cons, Option.bind_some, Option.bind_some, htask, document?_eq_none_of_task? htask]
  rfl

/-- What is accepted was scanned into levels. -/
theorem exists_levels_of_parse {invocation : Invocation}
    (h : parse environment args = .ok invocation) :
    ∃ l above, levels environment args = .ok (l :: above) := by
  obtain ⟨scanned, hlevels, h⟩ := Result.exists_of_bind_eq_ok h
  cases scanned with
  | nil => cases h
  | cons l above => exact ⟨l, above, hlevels⟩

theorem Level.check_of_levels (h : levels environment args = .ok (l :: above)) :
    l.check true = .ok l := by
  obtain ⟨last, upper, -, hcomplete, -⟩ := levels_eq_ok_iff.1 h
  obtain ⟨idle, -, -, hcheck⟩ := complete_eq_ok_iff.1 hcomplete
  exact hcheck

/-- A write whose flags go together keeps them all. -/
theorem kept_of_parse [Redirection] (hparse : parse environment args = .ok (.task e task))
    (hwrite : task.write? = some (write, target, etag)) (hoptions : task.options? = l.stateOptions)
    (hcoherent : l.writeFlags.Coherent) : l.writeFlags.Kept environment args e task write := by
  refine ⟨fun base message hbase hsends => ?_, run_snd_of_not_sends hparse hwrite⟩
  refine ⟨fun w => ?_, task.options?.map .ofOptions, says_of_sends hwrite ?_ hsends, ?_, ?_⟩
  · rw [run_snd hparse hbase, job_snd hwrite hsends]
  · rw [hoptions]
    exact fun o ho => Level.capped_of_stateOptions hcoherent ho
  · rw [Option.map_eq_none_iff, hoptions]
    exact Level.stateOptions_eq_none_iff hcoherent
  · intro policy hpolicy
    obtain ⟨o, ho, rfl⟩ := Option.map_eq_some_iff.1 hpolicy
    rw [hoptions] at ho
    exact Level.carried_of_stateOptions hcoherent ho

/-- The level that a write comes from. -/
structure Level.Writes (l : Level) (task : Task) : Prop where
  performs : l.task? = some task
  command : l.command.IsWrite
  options : task.options? = l.stateOptions
  proper : l.Proper
  checked : l.check true = .ok l

/-- A command line that is accepted as a write ends in the level of one. -/
theorem exists_writes_of_parse (hparse : parse environment args = .ok (.task e task))
    (hwrite : task.write? = some (write, target, etag)) :
    ∃ l above, levels environment args = .ok (l :: above) ∧ e = endpoint (l :: above) ∧
      l.Writes task := by
  obtain ⟨l, above, hlevels, htask, he⟩ := exists_level_of_parse hparse
  obtain ⟨hcommand, hoptions⟩ := isWrite_of_task? htask hwrite
  have hproper := (Level.values_of_levels isLocal_etag hlevels).2
  exact ⟨l, above, hlevels, he, htask, hcommand, hoptions, hproper, Level.check_of_levels hlevels⟩

/-- The flags of a level that writes go together. -/
theorem Level.Writes.coherent (h : l.Writes task) : l.writeFlags.Coherent :=
  ((h.proper.check_eq_ok_iff h.command).1 h.checked).2

/-- The flags of an accepted command line go together. -/
theorem exists_flags_of_parse [Redirection] (hparse : parse environment args = .ok (.task e task))
    (hwrite : task.write? = some (write, target, etag)) :
    ∃ f : WriteFlags, f.Describes (given · args) ∧ f.Coherent ∧
      f.Kept environment args e task write := by
  obtain ⟨l, above, hlevels, -, hl⟩ := exists_writes_of_parse hparse hwrite
  refine ⟨l.writeFlags, hl.proper.describes_writeFlags fun p hp => ?_, hl.coherent,
    kept_of_parse hparse hwrite hl.options hl.coherent⟩
  exact (Level.values_of_levels (isLocal_of_mem hp) hlevels).1

/-- The options are all that a task has from the flags. -/
theorem task?_without (h : l.command.IsWrite) :
    l.task? = ((l.without writeParameters).task?).map (·.withOptions l.stateOptions) := by
  have hvalue {p : Parameter} (hp : p ∉ writeParameters) :
      (l.without writeParameters).value? p = l.value? p := by
    rw [Level.value?, Level.values_without hp, Level.value?]
  have htarget : (l.without writeParameters).target = l.target := by
    rw [Level.target, Level.target, Level.text, Level.text, Level.text, Level.text,
      hvalue (by decide), hvalue (by decide)]
  have hjson : (l.without writeParameters).text .valueJson = l.text .valueJson := by
    rw [Level.text, Level.text, hvalue (by decide)]
  have hmetadata : (l.without writeParameters).metadata = l.metadata := by
    rw [Level.metadata, Level.metadata, Level.values_without (by decide)]
  rcases h with h | h
  · rw [Level.task?, Level.task?, Level.command_without, h]
    dsimp only
    rw [htarget, hjson, hmetadata, hvalue (by decide)]
    rfl
  · rw [Level.task?, Level.task?, Level.command_without, h]
    dsimp only
    rw [htarget, hvalue (by decide)]
    rfl

theorem write?_withOptions (task : Task) (options : Option StateOptions) :
    (task.withOptions options).write? = task.write? := by
  cases task <;> rfl

theorem options?_withOptions (hwrite : task.write? = some (write, target, etag))
    (options : Option StateOptions) : (task.withOptions options).options? = options := by
  cases task with
  | save | delete => rfl
  | get | load => cases hwrite

/-- With the flags that are described, all that has to be checked is that they go together. -/
theorem Level.Extends.check_eq_ok_iff (h : l.Extends base writeParameters settings)
    (hbase : base.Writes task) (hf : f.Describes (Setting.texts · settings)) :
    l.writeFlags = f ∧ (l.check true = .ok l ↔ f.Coherent) := by
  have hcommand := hbase.command
  have hflags : l.writeFlags = f := (h.proper.describes_writeFlags h.values).unique hf
  have hsame : l.command = base.command := by rw [← h.without, command_without]
  have hrequired : ∀ p ∈ l.command.required, l.has p := by
    intro p hp
    have hmem : p ∉ writeParameters := by
      rcases hcommand with hcommand | hcommand <;> rw [hsame, hcommand] at hp <;> revert hp <;>
        cases p <;> decide
    rw [← has_without hmem, h.without]
    exact ((hbase.proper.check_eq_ok_iff hcommand).1 hbase.checked).1 p (hsame ▸ hp)
  rw [h.proper.check_eq_ok_iff (hsame ▸ hcommand), hflags]
  exact ⟨rfl, and_iff_right hrequired⟩

section Settings

-- without the flags among its settings, the command line is a write
variable (hfront : "--" ∉ front) (hgiven : ∀ p ∈ writeParameters, given p front = [])
  (hbase : parse environment
    (front ++ (settings.filter (·.parameter ∉ writeParameters)).flatMap Setting.args) =
      .ok (.task e task))
  (hwrite : task.write? = some (write, target, etag))
  (hf : f.Describes (Setting.texts · settings))

include hfront hgiven hbase hwrite hf

theorem coherent_of_parse_settings {invocation : Invocation}
    (h : parse environment (front ++ settings.flatMap Setting.args) = .ok invocation) :
    f.Coherent := by
  obtain ⟨base, upper, hlevels, -, hwrites⟩ := exists_writes_of_parse hbase hwrite
  obtain ⟨l, above, hall⟩ := exists_levels_of_parse h
  obtain ⟨-, hext, hok⟩ := extends_of_levels (fun p => isLocal_of_mem) hgiven hfront hlevels hall
  exact (hext.check_eq_ok_iff hwrites hf).2.1 hok

/-- The flags change nothing but the options. -/
theorem exists_parse_of_coherent [Redirection] (hcoherent : f.Coherent) :
    ∃ options,
      parse environment (front ++ settings.flatMap Setting.args) =
        .ok (.task e (task.withOptions options)) ∧
      f.Kept environment (front ++ settings.flatMap Setting.args) e (task.withOptions options)
        write := by
  obtain ⟨base, upper, hlevels, rfl, hwrites⟩ := exists_writes_of_parse hbase hwrite
  have hlocal : ∀ p ∈ writeParameters, p.IsLocal := fun p => isLocal_of_mem
  have hknown : ∀ p ∈ writeParameters, p ∈ base.command.parameters := by
    rcases hwrites.command with hcommand | hcommand <;> rw [hcommand] <;> decide
  obtain ⟨l, hext, hall⟩ := exists_extends hlocal hgiven hfront hlevels fun p hp =>
    ⟨hknown p hp, hcoherent.exists_reads hf hp⟩
  obtain ⟨rfl, hiff⟩ := hext.check_eq_ok_iff hwrites hf
  have hsame : l.command = base.command := by rw [← hext.without, Level.command_without]
  have htaskl : l.task? = some (task.withOptions l.stateOptions) := by
    rw [task?_without (hsame ▸ hwrites.command), hext.without, hwrites.performs]
    rfl
  have hparse := parse_of_levels (hall (hiff.2 hcoherent)) htaskl
  -- where the request goes does not depend on the flags either
  rw [← endpoint_without fun p hp => (hlocal p hp).environment, hext.without] at hparse
  have hwritten : (task.withOptions l.stateOptions).write? = some (write, target, etag) :=
    (write?_withOptions task l.stateOptions).trans hwrite
  exact ⟨l.stateOptions, hparse, kept_of_parse hparse hwritten
    (options?_withOptions hwrite l.stateOptions) hcoherent⟩

end Settings

end Tasks

/-- No flag of a write is dropped.  The flags on an accepted command line go together, and the
request says all of them.  At the end of a command line that is accepted without flags, these may be
set in any order, among other parameters and in either way of writing; it is accepted if and only if
they go together, and then it is the same but for the options. -/
theorem writeFlags_kept [Redirection] (environment : String → Option String) :
    (∀ args e task write target etag,
      parse environment args = .ok (.task e task) → task.write? = some (write, target, etag) →
      ∃ f : WriteFlags, f.Describes (given · args) ∧ f.Coherent ∧
        f.Kept environment args e task write) ∧
    ∀ front settings e task write target etag,
      "--" ∉ front → (∀ p ∈ writeParameters, given p front = []) →
      parse environment
        (front ++ (settings.filter (·.parameter ∉ writeParameters)).flatMap Setting.args) =
          .ok (.task e task) →
      task.write? = some (write, target, etag) →
      ∀ f : WriteFlags, f.Describes (Setting.texts · settings) →
        ((∃ invocation,
            parse environment (front ++ settings.flatMap Setting.args) = .ok invocation) ↔
          f.Coherent) ∧
        (f.Coherent → ∃ options,
          parse environment (front ++ settings.flatMap Setting.args) =
            .ok (.task e (task.withOptions options)) ∧
          f.Kept environment (front ++ settings.flatMap Setting.args) e
            (task.withOptions options) write) := by
  refine ⟨fun args e task write target etag => exists_flags_of_parse, ?_⟩
  intro front settings e task write target etag hfront hgiven hbase hwrite f hf
  have hkept := exists_parse_of_coherent hfront hgiven hbase hwrite hf
  refine ⟨⟨?_, fun hcoherent => ?_⟩, hkept⟩
  · rintro ⟨invocation, h⟩
    exact coherent_of_parse_settings hfront hgiven hbase hwrite hf h
  · obtain ⟨options, hparse, -⟩ := hkept hcoherent
    exact ⟨_, hparse⟩

/-- Settings with flags in between, and both numbers as large as they may be. -/
def interleaved : List Setting :=
  [⟨.retryPattern, "exponential", true, .inl rfl, .inl rfl⟩,
    ⟨.key, "k", false, .inl rfl, .inr (by rintro _ _ ⟨⟩)⟩,
    ⟨.retryThreshold, "4294967295", false, .inl rfl, .inr (by rintro _ _ ⟨⟩)⟩,
    ⟨.valueJson, "-1", true, .inl rfl, .inl rfl⟩,
    ⟨.retryInterval, "+18446744073709551615", true, .inl rfl, .inl rfl⟩]

/-- A deletion with a flag; a save with flags, and the same save without its pattern. -/
theorem writeFlags_kept_interleaved :
    let environment : String → Option String := fun _ => none
    let args := ["state", "delete", "--store=s", "--key", "k", "--consistency", "strong"]
    let front := ["-v", "state", "save", "--store", "s"]
    let f : WriteFlags := ⟨none, none, some "exponential", some 18446744073709551615,
      some 4294967295⟩
    WriteFlags.Kept { consistency := some "strong" } environment args {}
        (.delete ⟨"s", "k"⟩ none (some { consistency := .strong })) .delete ∧
      (∃ options,
        parse environment (front ++ interleaved.flatMap Setting.args) =
          .ok (.task {} (.save ⟨"s", "k"⟩ "-1" none options none)) ∧
        f.Kept environment (front ++ interleaved.flatMap Setting.args) {}
          (.save ⟨"s", "k"⟩ "-1" none options none) .save) ∧
      ¬∃ invocation,
        parse environment (front ++ interleaved.tail.flatMap Setting.args) = .ok invocation := by
  intro environment args front f
  obtain ⟨hwhole, hset⟩ := writeFlags_kept environment
  have hread : readUInt64 "+18446744073709551615" = .ok 18446744073709551615 := rfl
  have hinterval := readUInt64_eq_ok_iff.1 hread
  have hthreshold : IsSignedNumeral "4294967295" 4294967295 := .inl (isNumeral_toString 4294967295)
  have hfront : ∀ p ∈ writeParameters, given p front = [] := by decide +kernel
  have hdelete := hwhole args {} _ .delete ⟨"s", "k"⟩ none rfl rfl
  have hsave := hset front interleaved {} (.save ⟨"s", "k"⟩ "-1" none none none) .save
    ⟨"s", "k"⟩ none (by decide) hfront rfl rfl f
    ⟨rfl, rfl, rfl, .cons hinterval .nil, .cons hthreshold .nil⟩
  have hrest := hset front interleaved.tail {} (.save ⟨"s", "k"⟩ "-1" none none none) .save
    ⟨"s", "k"⟩ none (by decide) hfront rfl rfl { f with pattern := none }
    ⟨rfl, rfl, rfl, .cons hinterval .nil, .cons hthreshold .nil⟩
  refine ⟨?_, ?_, ?_⟩
  · obtain ⟨g, hg, -, hkept⟩ := hdelete
    obtain rfl : g = { consistency := some "strong" } := hg.unique ⟨rfl, rfl, rfl, .nil, .nil⟩
    exact hkept
  · refine hsave.2 ⟨nofun, nofun, ?_, iff_of_true rfl rfl, fun _ => rfl⟩
    rintro _ ⟨⟩
    decide
  · intro haccepted
    exact absurd ((hrest.1.1 haccepted).threshold.2 rfl) nofun

end Sidecar.CommandLine
