import Sidecar.Proofs.Http.Query
import Sidecar.Proofs.Http.Save

/-!
# What writes say about how they are carried out

The options of a write are read off the query of a delete and off an item of a save.  Both say the
same words and numbers, but for intervals beyond the range of 64 bits, which a save cannot carry.

The main result is `policy_of_writes`.
-/

namespace Sidecar.Http

open Json (depthLimit)

/-! ## Policies -/

/-- How a failed operation is to be repeated. -/
structure Retrying where
  /-- In milliseconds. -/
  interval : Nat
  pattern : String
  threshold : Nat
deriving DecidableEq, Repr

namespace Retrying

/-- What the options say. -/
def ofOptions (p : RetryPolicy) : Retrying where
  interval := p.interval.milliseconds
  pattern := Vocabulary.word p.pattern
  threshold := p.threshold.toNat

/-- The interval cut down to 64 bits. -/
def capped (r : Retrying) : Retrying :=
  { r with interval := min r.interval RetryPolicy.greatestInterval }

end Retrying

/-- What a write says about how it is to be carried out. -/
structure Policy where
  concurrency : String
  consistency : String
  retry : Option Retrying
deriving DecidableEq, Repr

namespace Policy

/-- What the options say. -/
def ofOptions (o : StateOptions) : Policy where
  concurrency := Vocabulary.word o.concurrency
  consistency := Vocabulary.word o.consistency
  retry := o.retry.map .ofOptions

def capped (p : Policy) : Policy := { p with retry := p.retry.map Retrying.capped }

/-! ### From a query -/

def decimal? (s : String) : Option Nat :=
  if s.toList.all (·.isDigit) then some (Nat.ofDigitChars 10 s.toList 0) else none

/-- All or none of the texts are there, and two of them are numbers. -/
def retryOfTexts? : (interval pattern threshold : Option String) → Option (Option Retrying)
  | none, none, none => some none
  | some interval, some pattern, some threshold => do
    return some ⟨← decimal? interval, pattern, ← decimal? threshold⟩
  | _, _, _ => none

def ofParameters? (parameters : List (String × String)) : Option Policy := do
  let concurrency ← parameters.lookup "concurrency"
  let consistency ← parameters.lookup "consistency"
  let retry ← retryOfTexts? (parameters.lookup "retryInterval") (parameters.lookup "retryPattern")
    (parameters.lookup "retryThreshold")
  return ⟨concurrency, consistency, retry⟩

/-! ### From a document -/

def member? (name : String) : Json → Option Json
  | .object members => members.lookup name
  | _ => none

def word? : Json → Option String
  | .string word => some word
  | _ => none

def count? : Json → Option Nat
  | .number (.whole n) => n.toNat?
  | _ => none

def retryOfJson? (v : Json) : Option Retrying := do
  let interval ← (member? "interval" v).bind count?
  let pattern ← (member? "pattern" v).bind word?
  let threshold ← (member? "threshold" v).bind count?
  return ⟨interval, pattern, threshold⟩

/-- From an object with the options. -/
def ofJson? (v : Json) : Option Policy := do
  let concurrency ← (member? "concurrency" v).bind word?
  let consistency ← (member? "consistency" v).bind word?
  match member? "retryPolicy" v with
  | none => return ⟨concurrency, consistency, none⟩
  | some retry => return ⟨concurrency, consistency, some (← retryOfJson? retry)⟩

/-- From an item with options. -/
def ofItem? (v : Json) : Option Policy := (member? "options" v).bind ofJson?

/-! ### Reading what is written -/

theorem decimal?_toString (n : Nat) : decimal? (toString n) = some n := by
  have hdigits : (Nat.toDigits 10 n).all (·.isDigit) := List.all_eq_true.2 fun c hc =>
    Nat.isDigit_of_mem_toDigits (by decide) (by decide) hc
  rw [decimal?, Nat.toString_eq_ofList_toDigits, String.toList_ofList, if_pos hdigits,
    Nat.ofDigitChars_ten_toDigits]

theorem ofParameters?_query (o : StateOptions) : ofParameters? o.query = some (ofOptions o) := by
  unfold StateOptions.query ofOptions
  cases o.retry with
  | none => rfl
  | some p =>
    have hretry : retryOfTexts? (some (toString p.interval.milliseconds))
        (some (Vocabulary.word p.pattern)) (some (toString p.threshold.toNat)) =
        some (some (.ofOptions p)) := by
      rw [retryOfTexts?, decimal?_toString, decimal?_toString]
      rfl
    exact congrArg (Option.bind · fun retry => some (⟨_, _, retry⟩ : Policy)) hretry

/-- The members of a retry policy; an interval is cut down to 64 bits. -/
theorem retryPolicy_json_eq (p : RetryPolicy) :
    p.json = .object [
      ("pattern", Vocabulary.json p.pattern),
      ("interval", .whole (Retrying.ofOptions p).capped.interval),
      ("threshold", .whole p.threshold.toNat)] := by
  have hmin : ((Retrying.ofOptions p).capped.interval : Int) =
      min (p.interval.milliseconds : Int) RetryPolicy.greatestInterval := by
    change ((min p.interval.milliseconds RetryPolicy.greatestInterval : Nat) : Int) = _
    omega
  rw [hmin]
  rfl

theorem retryOfJson?_json (p : RetryPolicy) :
    retryOfJson? p.json = some (Retrying.ofOptions p).capped := by
  rw [retryPolicy_json_eq]
  rfl

theorem retryOfJson?_sorted (p : RetryPolicy) :
    retryOfJson? p.json.sorted = some (Retrying.ofOptions p).capped := by
  rw [retryPolicy_json_eq]
  rfl

/-- A document says all options, but for intervals that are too long. -/
theorem ofJson?_json (o : StateOptions) : ofJson? o.json = some (ofOptions o).capped := by
  unfold StateOptions.json ofOptions capped
  cases o.retry with
  | none => rfl
  | some p =>
    exact congrArg (Option.bind · fun retry => some (⟨_, _, some retry⟩ : Policy))
      (retryOfJson?_json p)

/-- The order of the members does not matter to what a document says. -/
theorem ofJson?_sorted (o : StateOptions) : ofJson? o.json.sorted = some (ofOptions o).capped := by
  unfold StateOptions.json ofOptions capped
  cases o.retry with
  | none => rfl
  | some p =>
    exact congrArg (Option.bind · fun retry => some (⟨_, _, some retry⟩ : Policy))
      (retryOfJson?_sorted p)

/-- Nothing is lost exactly if the interval fits. -/
theorem capped_ofOptions_eq_iff (o : StateOptions) :
    (ofOptions o).capped = ofOptions o ↔
      ∀ p ∈ o.retry, p.interval.milliseconds ≤ RetryPolicy.greatestInterval := by
  cases hretry : o.retry with
  | none => simp [capped, ofOptions, hretry]
  | some p =>
    simp only [capped, ofOptions, hretry, Option.map_some, Retrying.capped, Retrying.ofOptions,
      Option.mem_def, Option.some.injEq, forall_eq', Policy.mk.injEq, Retrying.mk.injEq, true_and,
      and_true]
    omega

end Policy

/-! ## Items -/

theorem lookup_options_itemMembers (item : State.Item) (value : Option Json) :
    (itemMembers item value).lookup "options" = item.options.map (·.json) := by
  unfold itemMembers
  rw [List.lookup_append, List.lookup_append, List.lookup_append, List.lookup_append,
    lookup_optional, lookup_optional, lookup_optional, lookup_optional]
  rfl

/-- What is written for an item has its options under one name. -/
theorem member?_options_of_itemJson {item : State.Item} {v : Json} (h : itemJson item = .ok v) :
    Policy.member? "options" v = item.options.map (·.json) := by
  rcases itemJson_cases item with ⟨value, -, hitem⟩ | ⟨fault, hitem⟩
  · obtain rfl := Except.ok.inj (h.symm.trans hitem)
    exact lookup_options_itemMembers item value
  · rw [hitem] at h
    cases h

theorem ofItem?_of_itemJson {item : State.Item} {v : Json} (h : itemJson item = .ok v) :
    Policy.ofItem? v = item.options.map fun o => (Policy.ofOptions o).capped := by
  rw [Policy.ofItem?, member?_options_of_itemJson h, Option.bind_map]
  cases item.options with
  | none => rfl
  | some o => exact Policy.ofJson?_json o

/-- An object that carries an item says what the options of the item say. -/
theorem Carries.ofItem?_eq {item : State.Item} {members : List (String × Json)}
    (h : Carries item members) :
    Policy.ofItem? (.object members) =
      item.options.map fun o => (Policy.ofOptions o).capped := by
  rw [Policy.ofItem?, Policy.member?, h.options, Option.bind_map]
  cases item.options with
  | none => rfl
  | some o => exact Policy.ofJson?_sorted o

/-- The items of a body are written one by one. -/
theorem exists_of_saveBody {items : List State.Item} {body : Bytes}
    (h : saveBody items = .ok body) :
    ∃ vs, body = Text.Utf8.encode (Json.array vs).text ∧ vs.length = items.length ∧
      ∀ pair ∈ items.zip vs, itemJson pair.1 = .ok pair.2 := by
  obtain ⟨vs, hvs, hbody⟩ := Result.exists_of_bind_eq_ok h
  refine ⟨vs, (Except.ok.inj hbody).symm, ?_⟩
  clear h hbody
  induction items generalizing vs with
  | nil =>
    cases hvs
    exact ⟨rfl, List.forall_mem_nil _⟩
  | cons item rest ih =>
    rw [List.mapM_cons] at hvs
    obtain ⟨v, hv, hvs⟩ := Result.exists_of_bind_eq_ok hvs
    obtain ⟨ws, hws, hvs⟩ := Result.exists_of_bind_eq_ok hvs
    cases hvs
    obtain ⟨hlength, hzip⟩ := ih ws hws
    exact ⟨congrArg (· + 1) hlength, List.forall_mem_cons.2 ⟨hv, hzip⟩⟩

section Writes

variable [Redirection]

theorem opens_saveState (base : Url) {request : State.SaveRequest} {body : Bytes}
    (h : saveBody request.items = .ok body) :
    Opens (saveMessage base request.store body) (saveState base request) := by
  have hsave : saveState base request =
      ask (saveMessage base request.store body) >>= fun _ => pure () :=
    funext fun w => Action.bind_lift_of_ok h
  rw [hsave]
  exact opens_ask_bind _ fun _ _ => rfl

/-! ## Saves and deletes -/

/-- A delete says what its options say, and so does every item of a save, but for an interval that
has more than 64 bits. -/
theorem policy_of_writes {base : Url} (hbase : base.query = none) :
    (∀ request : State.DeleteRequest,
      Opens (deleteMessage base request) (deleteState base request) ∧
      Policy.ofParameters? (deleteMessage base request).withCredentials.url.parameters =
        request.options.map Policy.ofOptions) ∧
    (∀ (request : State.SaveRequest) (body : Bytes), saveBody request.items = .ok body →
      Opens (saveMessage base request.store body) (saveState base request) ∧
      ∃ vs, body = Text.Utf8.encode (Json.array vs).text ∧ vs.length = request.items.length ∧
        ∀ pair ∈ request.items.zip vs,
          Policy.ofItem? pair.2 = pair.1.options.map fun o => (Policy.ofOptions o).capped) ∧
    (∀ request : State.SaveRequest, (∀ item ∈ request.items, IsDocument item) →
      ∃ body vs, saveBody request.items = .ok body ∧
        (∀ depth ≥ depthLimit + 2,
          Json.readText (Json.readValue depth) body = .ok (.array vs)) ∧
        vs.length = request.items.length ∧
        ∀ pair ∈ request.items.zip vs,
          Policy.ofItem? pair.2 = pair.1.options.map fun o => (Policy.ofOptions o).capped) ∧
    ∀ options : StateOptions, (Policy.ofOptions options).capped = Policy.ofOptions options ↔
      ∀ retry ∈ options.retry, retry.interval.milliseconds ≤ RetryPolicy.greatestInterval := by
  refine ⟨fun request => ⟨opens_deleteState base request, ?_⟩,
    fun request body hbody => ⟨opens_saveState base hbody, ?_⟩, fun request hdocuments => ?_,
    Policy.capped_ofOptions_eq_iff⟩
  · rw [parameters_withCredentials, deleteMessage, parameters_resource hbase]
    cases request.options with
    | none => rfl
    | some o => exact Policy.ofParameters?_query o
  · obtain ⟨vs, htext, hlength, hzip⟩ := exists_of_saveBody hbody
    exact ⟨vs, htext, hlength, fun pair hpair => ofItem?_of_itemJson (hzip pair hpair)⟩
  · obtain ⟨body, objects, hbody, hread, hlength, hzip⟩ := exists_saveBody hdocuments
    refine ⟨body, objects.map .object, hbody, hread, by rw [List.length_map, hlength], ?_⟩
    intro pair hpair
    rw [List.zip_map_right] at hpair
    obtain ⟨⟨item, members⟩, hmem, rfl⟩ := List.mem_map.1 hpair
    exact (hzip _ hmem).ofItem?_eq

end Writes

/-- Options with an interval of not quite two seconds. -/
def almostTwoSeconds : StateOptions :=
  { concurrency := .firstWrite, retry := some ⟨.exponential, .ofParts 1 999999999, 10⟩ }

/-- Both say the whole milliseconds of an interval. -/
theorem policy_of_writes_almost_two_seconds :
    usual.query = none ∧
      Policy.ofParameters? (deleteMessage usual
          ⟨"s", "k", some "7", some almostTwoSeconds⟩).withCredentials.url.parameters =
        some ⟨"first-write", "eventual", some ⟨1999, "exponential", 10⟩⟩ ∧
      ∃ body v, saveBody [⟨"k", none, some "7", none, some almostTwoSeconds⟩] = .ok body ∧
        Json.readText (Json.readValue 200) body = .ok (.array [v]) ∧
        Policy.ofItem? v = some ⟨"first-write", "eventual", some ⟨1999, "exponential", 10⟩⟩ := by
  have hbase : usual.query = none := rfl
  obtain ⟨hdelete, -, hread, -⟩ := policy_of_writes hbase
  have hdocuments : ∀ item ∈ [(⟨"k", none, some "7", none, some almostTwoSeconds⟩ : State.Item)],
      IsDocument item := List.forall_mem_singleton.2 fun _ h => nomatch h
  obtain ⟨body, vs, hbody, hvs, hlength, hzip⟩ := hread ⟨"s", _⟩ hdocuments
  obtain ⟨v, rfl⟩ := List.length_eq_one_iff.1 hlength
  have hexact : Policy.ofOptions almostTwoSeconds =
      ⟨"first-write", "eventual", some ⟨1999, "exponential", 10⟩⟩ := by decide
  have hcapped : (Policy.ofOptions almostTwoSeconds).capped =
      ⟨"first-write", "eventual", some ⟨1999, "exponential", 10⟩⟩ := by decide
  refine ⟨rfl, ?_, body, v, hbody, hvs 200 (by decide), ?_⟩
  · rw [← hexact]
    exact (hdelete ⟨"s", "k", some "7", some almostTwoSeconds⟩).2
  · rw [← hcapped]
    exact hzip (_, v) List.mem_cons_self

/-- Options with the shortest interval that has more than 64 bits. -/
def tooLong : StateOptions := { retry := some ⟨.linear, .ofMilliseconds 18446744073709551616, 1⟩ }

/-- A save says a shorter interval than a delete with the same options. -/
theorem policy_of_writes_too_long :
    (deleteMessage usual ⟨"s", "k", none, some tooLong⟩).url.query =
        some ("concurrency=last-write&consistency=eventual&" ++
          "retryInterval=18446744073709551616&retryPattern=linear&retryThreshold=1") ∧
      tooLong.json.text =
        "\x7b\"concurrency\":\"last-write\",\"consistency\":\"eventual\"," ++
          "\"retryPolicy\":\x7b\"pattern\":\"linear\",\"interval\":18446744073709551615," ++
          "\"threshold\":1\x7d\x7d" ∧
      Policy.ofParameters? (deleteMessage usual ⟨"s", "k", none, some tooLong⟩).url.parameters ≠
        Policy.ofJson? tooLong.json := by
  refine ⟨by decide +kernel, by decide +kernel, ?_⟩
  rw [deleteMessage, parameters_resource rfl, Policy.ofJson?_json]
  have hquery : Policy.ofParameters? tooLong.query = some (Policy.ofOptions tooLong) :=
    Policy.ofParameters?_query tooLong
  exact fun h => absurd (hquery.symm.trans h) (by decide)

end Sidecar.Http
