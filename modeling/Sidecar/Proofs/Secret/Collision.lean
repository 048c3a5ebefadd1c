import Mathlib.Data.List.Nodup
import Sidecar.Proofs.Http.Alike
import Sidecar.Proofs.Http.Redirect
import Sidecar.Proofs.Http.Save
import Sidecar.Proofs.Secret.Load

/-!
# Members with one key

Two members whose keys have the same folding cannot both be in a configuration.  If they are
different members of one response, or members of different responses, the load fails.  A name that
one response has twice is not noticed: its last value replaces those before it.

The main result is `Provider.load_given`.
-/

namespace Sidecar.Secret

open Http Snapshot

/-- A secret and the members of the response to its request. -/
abbrev Given := Descriptor × Values

/-! ## Collisions -/

namespace Selection

variable (s : Selection) (given : List Given)

/-- The folded key of a member of the secret `d`. -/
def foldedKey (d : Descriptor) (name : String) : String := fold (s.entryKey d.name name)

/-- Keys and values for the members that `pick` takes of every response. -/
def entriesOf (pick : Values → Values) : List (String × String) :=
  given.flatMap fun g => s.effective g.1.name (pick g.2)

/-- Two members have one folded key, under different names in one response or in two responses. -/
inductive Collide : Prop
  | inside {g : Given} {a b : String} (mem : g ∈ given) (ha : a ∈ g.2.map Prod.fst)
      (hb : b ∈ g.2.map Prod.fst) (ne : a ≠ b) (same : s.foldedKey g.1 a = s.foldedKey g.1 b)
  | across {g h : Given} {a b : String} (order : [g, h].Sublist given)
      (ha : a ∈ g.2.map Prod.fst) (hb : b ∈ h.2.map Prod.fst)
      (same : s.foldedKey g.1 a = s.foldedKey h.1 b)

variable {s given}

theorem foldings_entriesOf (pick : Values → Values) :
    foldings (s.entriesOf given pick) =
      given.flatMap fun g => ((pick g.2).map Prod.fst).map (s.foldedKey g.1) := by
  rw [foldings, entriesOf, List.map_flatMap]
  simp only [effective, List.map_map]
  rfl

/-- If `pick` loses no name, keys are distinct where nothing collides and names are kept once. -/
theorem distinct_entriesOf_iff {pick : Values → Values}
    (hpick : ∀ values name, name ∈ (pick values).map Prod.fst ↔ name ∈ values.map Prod.fst) :
    Distinct (s.entriesOf given pick) ↔
      ¬s.Collide given ∧ ∀ g ∈ given, ((pick g.2).map Prod.fst).Nodup := by
  rw [Distinct, foldings_entriesOf, List.nodup_flatMap]
  constructor
  · rintro ⟨heach, hpairs⟩
    have hnames (g : Given) (hg : g ∈ given) : ((pick g.2).map Prod.fst).Nodup :=
      (heach g hg).of_map _
    refine ⟨fun hcollide => ?_, hnames⟩
    cases hcollide with
    | @inside g a b mem ha hb ne same =>
      have hinj := (List.nodup_map_iff_inj_on (hnames g mem)).1 (heach g mem)
      exact ne (hinj a ((hpick _ _).2 ha) b ((hpick _ _).2 hb) same)
    | @across g h a b order ha hb same =>
      have hdisjoint := List.pairwise_iff_forall_sublist.1 hpairs order
      exact hdisjoint (List.mem_map_of_mem ((hpick _ _).2 ha))
        (same ▸ List.mem_map_of_mem ((hpick _ _).2 hb))
  · rintro ⟨hcollide, hnames⟩
    constructor
    · intro g hg
      refine (List.nodup_map_iff_inj_on (hnames g hg)).2 fun a ha b hb same => ?_
      by_contra ne
      exact hcollide (.inside hg ((hpick _ _).1 ha) ((hpick _ _).1 hb) ne same)
    · refine List.pairwise_iff_forall_sublist.2 fun {g h} order => ?_
      rintro key hkey hkey'
      obtain ⟨a, ha, rfl⟩ := List.mem_map.1 hkey
      obtain ⟨b, hb, same⟩ := List.mem_map.1 hkey'
      exact hcollide (.across order ((hpick _ _).1 ha) ((hpick _ _).1 hb) same.symm)

/-- Members as they are written: a name that is written twice is a repetition by itself. -/
theorem not_distinct_written_iff :
    ¬Distinct (s.entriesOf given id) ↔
      s.Collide given ∨ ∃ g ∈ given, ¬(g.2.map Prod.fst).Nodup := by
  have hid (values : Values) (name : String) :
      name ∈ (id values).map Prod.fst ↔ name ∈ values.map Prod.fst := Iff.rfl
  rw [distinct_entriesOf_iff hid, not_and_or, not_not, not_forall]
  simp only [id, not_forall, exists_prop]

/-- Members as they are taken. -/
theorem distinct_taken_iff : Distinct (s.entriesOf given Json.inOrder) ↔ ¬s.Collide given := by
  rw [distinct_entriesOf_iff fun _ _ => Json.mem_map_fst_inOrder]
  exact and_iff_left fun _ _ => Json.nodup_inOrder _

end Selection

end Sidecar.Secret

/-! ## Responses -/

namespace Sidecar.Http

/-- A whole response with the status OK that is an object of strings. -/
structure Response.Carries (r : Response) (members : List (String × String)) : Prop where
  status : r.status = 200
  whole : r.missing = 0
  body : Json.ObjectText members r.body

variable {r : Response} {members : List (String × String)}

theorem content_of_carries (h : r.Carries members) (url : Url) :
    Delivery.content ⟨r, url⟩ = .ok r.body := by
  have hbody : r.isBodiless = false := by rw [Response.isBodiless, h.status]; rfl
  have hcontent : r.content? = some r.body := by
    rw [Response.content?, hbody, h.whole]
    rfl
  rw [Delivery.content, hcontent]

theorem carries_printed (members : List (String × String)) :
    (Response.printed members).Carries members := ⟨rfl, rfl, Json.objectText_pretty members⟩

/-- The members are given, each name with its last value. -/
theorem getSecret_of_carries [Redirection] (h : r.Carries members) {base : Url} {request : Secret.Request}
    (htarget : isTarget (secretMessage base request).withCredentials.url) {w : Wire}
    {rest : List Reply} (hreplies : w.replies = .response r :: rest) :
    getSecret base request w =
      (.ok (Json.inOrder members), { w with
        replies := rest
        sent := (secretMessage base request).withCredentials :: w.sent }) := by
  have hheader : ((secretMessage base request).withCredentials.ifMatch.getD []).all
      isHeaderByte := by
    rw [(withCredentials_fields _).2.1]
    rfl
  have hsuccess : r.isSuccess := by rw [Response.isSuccess, h.status]; rfl
  have hnone := redirected?_of_isSuccess (secretMessage base request).withCredentials hsuccess
  have hask := ask_of_response hreplies hheader htarget hnone hsuccess
  rw [getSecret, Action.bind_of_ok hask, Action.bind_lift_of_ok (content_of_carries h _),
    Json.readText_objectText h.body]
  rfl

end Sidecar.Http

/-! ## Loads -/

namespace Sidecar.Secret

open Http Snapshot

/-- If secrets that are answered repeat a key, the failure that comes first is a repeated key: a
secret that fails would come behind them. -/
theorem FirstFailure.exists_key {s : Selection} {front more : List Fetched} {n : Nat}
    {failure : LoadError} (h : FirstFailure s (front ++ more) n failure)
    (hfront : AllAnswered front) (hrepeat : ¬Distinct (s.effectiveAll front)) :
    ∃ key, failure = .duplicateKey key := by
  cases h with
  | key _ _ _ => exact ⟨_, rfl⟩
  | @fetch before behind d error split answered distinct =>
    have hbefore : ∃ between, before = front ++ between := by
      rcases List.append_eq_append_iff.1 split with
        ⟨between, hbetween, -⟩ | ⟨between, hbetween, hbehind⟩
      · exact ⟨between, hbetween⟩
      · cases between with
        | nil => exact ⟨[], by rw [hbetween, List.append_nil, List.append_nil]⟩
        | cons f between =>
          obtain ⟨rfl, -⟩ := List.cons.inj hbehind
          have hanswered := hfront (d, .error error)
            (hbetween ▸ List.mem_append_right _ List.mem_cons_self)
          cases hanswered
    obtain ⟨between, rfl⟩ := hbefore
    rw [Selection.effectiveAll_append] at distinct
    exact absurd distinct.of_append hrepeat

namespace Provider

variable {p : Provider Wire} {base : Url} {answers : List (Response × Values)} {w : Wire}
  {rest : List Reply}

/-- The request for the secret can be written down. -/
def canAsk (p : Provider Wire) (base : Url) (d : Descriptor) : Bool :=
  isTarget (secretMessage base (p.request d)).withCredentials.url

/-- The secrets that are answered and what their responses have. -/
def givenOf (p : Provider Wire) (base : Url) (answers : List (Response × Values))
    (ds : List Descriptor) : List Given :=
  (ds.takeWhile (p.canAsk base)).zip (answers.map Prod.snd)

def given (p : Provider Wire) (base : Url) (answers : List (Response × Values)) : List Given :=
  p.givenOf base answers p.selection.toDescriptors

theorem givenOf_cons {d : Descriptor} (h : p.canAsk base d) (a : Response × Values)
    (answers : List (Response × Values)) (ds : List Descriptor) :
    p.givenOf base (a :: answers) (d :: ds) = (d, a.2) :: p.givenOf base answers ds := by
  rw [givenOf, List.takeWhile_cons_of_pos h]
  rfl

theorem givenOf_of_not_canAsk {d : Descriptor} (h : ¬p.canAsk base d)
    (answers : List (Response × Values)) (ds : List Descriptor) :
    p.givenOf base answers (d :: ds) = [] := by
  rw [givenOf, List.takeWhile_cons_of_neg h]
  rfl

/-- The answers as they are taken, each name with its last value. -/
def taken (given : List Given) : List Fetched := given.map fun g => (g.1, .ok (Json.inOrder g.2))

theorem allAnswered_taken (given : List Given) : AllAnswered (taken given) := by
  intro f hf
  obtain ⟨g, -, rfl⟩ := List.mem_map.1 hf
  rfl

/-- The entries of what is taken are those of the members in order. -/
theorem effectiveAll_taken (s : Selection) (given : List Given) :
    s.effectiveAll (taken given) = s.entriesOf given Json.inOrder := by
  rw [taken, Selection.effectiveAll, List.flatMap_map]
  rfl

theorem length_fetched (p : Provider Wire) (result : Request → Wire → Except Error Values)
    (w : Wire) (ds : List Descriptor) : (p.fetched result w ds).length = ds.length := by
  induction ds generalizing w with
  | nil => rfl
  | cons d ds ih => rw [fetched, List.length_cons, List.length_cons, ih]

/-- The last value that a response has for a name is the one in the configuration. -/
theorem get?_of_lists {s : Snapshot} {given : List Given}
    (h : s.Lists (p.selection.entriesOf given Json.inOrder)) {g : Given} (hg : g ∈ given)
    {name value : String} (hvalue : g.2.reverse.lookup name = some value) :
    s.get? (p.selection.entryKey g.1.name name) = some value := by
  rw [← Json.lookup_inOrder] at hvalue
  obtain ⟨before, after, hsplit, -⟩ := List.lookup_eq_some_iff.1 hvalue
  have hmem : (name, value) ∈ Json.inOrder g.2 :=
    hsplit ▸ List.mem_append_right _ List.mem_cons_self
  have hadded : (p.selection.entryKey g.1.name name, value) ∈
      p.selection.effective g.1.name (Json.inOrder g.2) :=
    List.mem_map.2 ⟨(name, value), hmem, rfl⟩
  have hentry : (p.selection.entryKey g.1.name name, value) ∈
      p.selection.entriesOf given Json.inOrder := List.mem_flatMap.2 ⟨g, hg, hadded⟩
  exact h.get?_eq_some (p.selection.entryKey g.1.name name, value) hentry

section Loads

variable [Redirection]

/-- What comes of a request over HTTP. -/
def overHttp (base : Url) (request : Request) (w : Wire) : Except Error Values :=
  (getSecret base request w).1

theorem fetch_secrets (base : Url) (request : Request) (w : Wire) :
    (secrets base).fetch request w =
      (.delayed (overHttp base request w), (getSecret base request w).2) := by
  have hfetch (action : Action Wire Values) :
      (do return Answer.delayed (← action.run) : StateM Wire Answer) w =
        (.delayed (action w).1, (action w).2) := rfl
  exact hfetch (getSecret base request)

/-- What the store answers is what comes of the requests over HTTP. -/
theorem answers_secrets (base : Url) : (secrets base).Answers (overHttp base) := by
  intro request w
  rw [fetch_secrets]
  rfl

/-- The secrets that are answered come first among those that are fetched. -/
theorem fetched_given (hapi : p.api = secrets base) (hall : ∀ a ∈ answers, a.1.Carries a.2)
    (hw : w.replies = answers.map (fun a => .response a.1) ++ rest) (ds : List Descriptor) :
    ∃ more, p.fetched (overHttp base) w ds = taken (p.givenOf base answers ds) ++ more := by
  induction ds generalizing answers w with
  | nil => exact ⟨[], rfl⟩
  | cons d ds ih =>
    by_cases hcan : p.canAsk base d
    · cases answers with
      | nil =>
        rw [givenOf, List.map_nil, List.zip_nil_right]
        exact ⟨_, rfl⟩
      | cons a answers =>
        obtain ⟨ha, hanswers⟩ := List.forall_mem_cons.1 hall
        have hget := getSecret_of_carries ha hcan hw
        have hrest : (p.api.fetch (p.request d) w).2.replies =
            answers.map (fun a => .response a.1) ++ rest := by
          rw [hapi, fetch_secrets, hget]
          rfl
        obtain ⟨more, hmore⟩ := ih hanswers hrest
        have hvalues : overHttp base (p.request d) w = .ok (Json.inOrder a.2) :=
          congrArg Prod.fst hget
        refine ⟨more, ?_⟩
        rw [fetched, hmore, hvalues, givenOf_cons hcan]
        rfl
    · rw [givenOf_of_not_canAsk hcan]
      exact ⟨_, rfl⟩

/-- A key that repeats another one is the failure, whatever comes after the answers. -/
theorem duplicateKey_of_collide (hp : p.progress = .unloaded) (hapi : p.api = secrets base)
    (hall : ∀ a ∈ answers, a.1.Carries a.2)
    (hw : w.replies = answers.map (fun a => .response a.1) ++ rest)
    (hcollide : p.selection.Collide (p.given base answers)) :
    ∃ key, (p.load .toTheEnd w).1 =
      (some (.error (.duplicateKey key)), { p with progress := .failed }) := by
  obtain ⟨more, hfetched⟩ := fetched_given hapi hall hw p.selection.toDescriptors
  change _ = taken (p.given base answers) ++ more at hfetched
  have hnot : ¬Distinct (p.selection.effectiveAll (taken (p.given base answers))) := by
    rw [effectiveAll_taken, Selection.distinct_taken_iff, not_not]
    exact hcollide
  rcases p.load_cases hp (hapi ▸ answers_secrets base) w with
    ⟨s, -, -, -, hholds⟩ | ⟨n, failure, hload, -, hfirst⟩
  · rw [hfetched, Selection.effectiveAll_append] at hholds
    exact absurd hholds.distinct.of_append hnot
  · rw [hfetched] at hfirst
    obtain ⟨key, rfl⟩ := hfirst.exists_key (allAnswered_taken _) hnot
    exact ⟨key, hload⟩

/-- Where nothing collides, an answered load is done, and every name has its last value. -/
theorem load_of_not_collide (hp : p.progress = .unloaded) (hapi : p.api = secrets base)
    (hall : ∀ a ∈ answers, a.1.Carries a.2)
    (hw : w.replies = answers.map (fun a => .response a.1) ++ rest)
    (hcollide : ¬p.selection.Collide (p.given base answers))
    (hlength : (p.given base answers).length = p.selection.toDescriptors.length) :
    ∃ s, (p.load .toTheEnd w).1 = (some (.ok s), { p with progress := .loaded s }) ∧
      s.Lists (p.selection.entriesOf (p.given base answers) Json.inOrder) := by
  obtain ⟨more, hfetched⟩ := fetched_given hapi hall hw p.selection.toDescriptors
  change _ = taken (p.given base answers) ++ more at hfetched
  have hmore : more = [] := by
    have hcount := congrArg List.length hfetched
    rw [length_fetched, List.length_append, taken, List.length_map] at hcount
    exact List.eq_nil_of_length_eq_zero (by omega)
  rw [hmore, List.append_nil] at hfetched
  rcases p.load_cases hp (hapi ▸ answers_secrets base) w with
    ⟨s, hload, -, -, hholds⟩ | ⟨n, failure, -, -, hfirst⟩
  · rw [hfetched, effectiveAll_taken] at hholds
    exact ⟨s, hload, hholds.lists⟩
  · rw [hfetched] at hfirst
    refine absurd ⟨allAnswered_taken _, ?_⟩ hfirst.not_allAnswered_and_distinct
    rw [effectiveAll_taken, Selection.distinct_taken_iff]
    exact hcollide

/-- A load over HTTP whose requests are answered with objects of strings.  Two members with one
folded key are a collision, or two members of one name in one response.  A collision fails the load,
and nothing is published.  Where there is none and every secret is answered, the load is done, and
of every name in a response the last value is published, in the place of all values before it. -/
theorem load_given (hp : p.progress = .unloaded) (hapi : p.api = secrets base)
    (hall : ∀ a ∈ answers, a.1.Carries a.2)
    (hw : w.replies = answers.map (fun a => .response a.1) ++ rest) :
    let given := p.given base answers
    let outcome := (p.load .toTheEnd w).1
    (¬Distinct (p.selection.entriesOf given id) ↔
      p.selection.Collide given ∨ ∃ g ∈ given, ¬(g.2.map Prod.fst).Nodup) ∧
    (p.selection.Collide given →
      (∃ key, outcome.1 = some (.error (.duplicateKey key))) ∧ outcome.2.snapshot? = none) ∧
    (¬p.selection.Collide given → given.length = p.selection.toDescriptors.length →
      ∃ s, outcome.1 = some (.ok s) ∧ outcome.2.snapshot? = some s ∧
        s.Lists (p.selection.entriesOf given Json.inOrder) ∧
        ∀ g ∈ given, ∀ name value, g.2.reverse.lookup name = some value →
          s.get? (p.selection.entryKey g.1.name name) = some value) := by
  intro given outcome
  refine ⟨Selection.not_distinct_written_iff, fun hcollide => ?_, fun hcollide hlength => ?_⟩
  · obtain ⟨key, hload⟩ := duplicateKey_of_collide hp hapi hall hw hcollide
    have houtcome : outcome = _ := hload
    rw [houtcome]
    exact ⟨⟨key, rfl⟩, rfl⟩
  · obtain ⟨s, hload, hlists⟩ := load_of_not_collide hp hapi hall hw hcollide hlength
    have houtcome : outcome = _ := hload
    rw [houtcome]
    exact ⟨s, rfl, rfl, hlists, fun g hg name value => get?_of_lists hlists hg⟩

end Loads

/-- A provider of the secrets `names` at the usual address. -/
def atUsual (names : List String) : Provider Wire :=
  ⟨"vault", .described (names.map fun name => ⟨name, []⟩), secrets usual, .unloaded⟩

/-- Objects that are answered one after the other. -/
def printedAnswers (objects : List Values) : List (Response × Values) :=
  objects.map fun members => (.printed members, members)

def printedWire (objects : List Values) : Wire :=
  ⟨(printedAnswers objects).map fun a => .response a.1, .closed, []⟩

theorem carries_printedAnswers (objects : List Values) :
    ∀ a ∈ printedAnswers objects, a.1.Carries a.2 := by
  intro a ha
  obtain ⟨members, -, rfl⟩ := List.mem_map.1 ha
  exact carries_printed members

theorem replies_printedWire (objects : List Values) :
    (printedWire objects).replies =
      (printedAnswers objects).map (fun a => .response a.1) ++ [] := (List.append_nil _).symm

/-- Two secrets have members whose names differ in case. -/
theorem load_given_two_cases :
    let p := atUsual ["S", "T"]
    let objects := [[("b", "0"), ("a", "1")], [("A", "2")]]
    p.progress = .unloaded ∧ p.api = secrets usual ∧
      (∀ a ∈ printedAnswers objects, a.1.Carries a.2) ∧
      (printedWire objects).replies =
        (printedAnswers objects).map (fun a => .response a.1) ++ [] ∧
      ∃ key, (p.load .toTheEnd (printedWire objects)).1.1 = some (.error (.duplicateKey key)) := by
  have hS : (atUsual ["S", "T"]).canAsk usual ⟨"S", []⟩ := rfl
  have hT : (atUsual ["S", "T"]).canAsk usual ⟨"T", []⟩ := rfl
  have hgiven : (atUsual ["S", "T"]).given usual
      (printedAnswers [[("b", "0"), ("a", "1")], [("A", "2")]]) =
        [(⟨"S", []⟩, [("b", "0"), ("a", "1")]), (⟨"T", []⟩, [("A", "2")])] :=
    (givenOf_cons hS _ _ _).trans (congrArg _ (givenOf_cons hT _ _ _))
  have hcollide : (atUsual ["S", "T"]).selection.Collide ((atUsual ["S", "T"]).given usual
      (printedAnswers [[("b", "0"), ("a", "1")], [("A", "2")]])) := by
    rw [← not_not (a := Selection.Collide _ _), ← Selection.distinct_taken_iff, hgiven]
    decide
  have hload := load_given (p := atUsual ["S", "T"]) rfl rfl (carries_printedAnswers _)
    (replies_printedWire [[("b", "0"), ("a", "1")], [("A", "2")]])
  exact ⟨rfl, rfl, carries_printedAnswers _, replies_printedWire _, (hload.2.1 hcollide).1⟩

/-- A response that has a name twice is taken, and its first value is lost. -/
theorem load_repeated_name :
    let p := atUsual ["S"]
    let objects := [[("a", "1"), ("a", "2")]]
    (∀ a ∈ printedAnswers objects, a.1.Carries a.2) ∧
      ¬Distinct (p.selection.entriesOf (p.given usual (printedAnswers objects)) id) ∧
      ∃ s, (p.load .toTheEnd (printedWire objects)).1 =
          (some (.ok s), { p with progress := .loaded s }) ∧
        s.get? "a" = some "2" := by
  have hS : (atUsual ["S"]).canAsk usual ⟨"S", []⟩ := rfl
  have hgiven : (atUsual ["S"]).given usual (printedAnswers [[("a", "1"), ("a", "2")]]) =
      [(⟨"S", []⟩, [("a", "1"), ("a", "2")])] := givenOf_cons hS _ _ _
  have hcollide : ¬(atUsual ["S"]).selection.Collide
      ((atUsual ["S"]).given usual (printedAnswers [[("a", "1"), ("a", "2")]])) := by
    rw [hgiven, ← Selection.distinct_taken_iff]
    decide
  obtain ⟨s, hload, hlists⟩ := load_of_not_collide (p := atUsual ["S"]) rfl rfl
    (carries_printedAnswers _) (replies_printedWire _) hcollide (congrArg List.length hgiven)
  rw [hgiven] at hlists
  refine ⟨carries_printedAnswers _, by rw [hgiven]; decide, s, hload, ?_⟩
  exact hlists.get?_eq_some ("a", "2") (List.mem_singleton.2 rfl)

end Provider

end Sidecar.Secret
