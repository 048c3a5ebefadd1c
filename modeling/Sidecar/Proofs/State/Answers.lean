import Sidecar.Proofs.Json.Grammar
import Sidecar.Proofs.State.Conflict

/-!
# What clients answer

What a client makes of the result of a call: a soft write answers `false` to a refused etag and to
nothing else, and a read has no value for no data, an empty body or the literal `null`.  All other
failures are passed on as they are.

The main results are `Instruction.isDeclined_outcome_iff` and `Instruction.isVoid_perform_iff`.
-/

namespace Sidecar.State

variable {σ α β : Type}

/-! ## Decoding -/

section Decoding

variable {reader : Json.Reader α}

/-- Data without a value, to any reader. -/
def HasNoValue (data : Option Bytes) : Prop := ∀ body ∈ data, body = [] ∨ Json.NullText body

theorem decodeValue_of_ne_nil {body : Bytes} (h : body ≠ []) :
    decodeValue reader (some body) =
      (Json.readText (Json.nullable reader) body).mapError .serialization := by
  cases body with
  | nil => exact absurd rfl h
  | cons b body => rfl

/-- There is no value exactly for no data, an empty body or a `null`. -/
theorem decodeValue_eq_none_iff (reader : Json.Reader α) {data : Option Bytes} :
    decodeValue reader data = .ok none ↔ HasNoValue data := by
  cases data with
  | none => exact iff_of_true rfl nofun
  | some body =>
    by_cases hbody : body = []
    · rw [hbody]
      refine iff_of_true rfl ?_
      rintro _ ⟨⟩
      exact .inl rfl
    · rw [decodeValue_of_ne_nil hbody]
      have hdata : HasNoValue (some body) ↔ Json.NullText body := by
        simp [HasNoValue, hbody]
      rw [hdata, ← Json.readText_nullable_eq_none_iff reader]
      cases Json.readText (Json.nullable reader) body with
      | ok value => simp [Except.mapError]
      | error fault => exact iff_of_false nofun nofun

/-- Why a body cannot be decoded. -/
def decodeFault? (reader : Json.Reader α) (body : Bytes) : Option Json.Fault :=
  match Json.readText (Json.nullable reader) body with
  | .ok _ => none
  | .error fault => some fault

theorem decodeValue_of_fault {body : Bytes} {fault : Json.Fault} (hbody : body ≠ [])
    (h : decodeFault? reader body = some fault) :
    decodeValue reader (some body) = .error (.serialization fault) := by
  rw [decodeValue_of_ne_nil hbody]
  rw [decodeFault?] at h
  split at h
  case h_1 => cases h
  case h_2 _ hread =>
    cases h
    rw [hread]
    rfl

/-- In whatever form a read comes, it has no value if it is made of data without one. -/
theorem decoded_map_iff (reader : Json.Reader α) {f : Option α × Option String → β} {p : β → Prop}
    (hp : ∀ read, p (f read) ↔ read.1 = none) {answer : Except Error GetResponse} :
    (∃ b, (decoded reader answer).map f = .ok b ∧ p b) ↔
      ∃ response, answer = .ok response ∧ HasNoValue response.data := by
  cases answer with
  | error e => exact iff_of_false nofun nofun
  | ok response =>
    have hdecoded : decoded reader (.ok response) =
        (decodeValue reader response.data).map fun value => (value, response.etag) := rfl
    simp only [Except.ok.injEq, exists_eq_left', ← decodeValue_eq_none_iff reader]
    rw [hdecoded]
    cases decodeValue reader response.data with
    | error e => exact iff_of_false nofun nofun
    | ok value => simp [Except.map, hp]

end Decoding

/-! ## Answers -/

/-- A failure other than a refused etag stays one. -/
theorem softened_of_fresh {e : Error} (h : e.isStaleEtag = false) :
    softened (.error e) = .error e := by
  rw [softened, h]
  rfl

theorem softened_eq_false_iff {result : Except Error Unit} :
    softened result = .ok false ↔ ∃ e, result = .error e ∧ e.isStaleEtag := by
  cases result with
  | ok =>
    constructor
    · rintro ⟨⟩
    · rintro ⟨_, ⟨⟩, _⟩
  | error e =>
    rw [softened]
    by_cases hstale : e.isStaleEtag
    · rw [if_pos hstale]
      exact iff_of_true rfl ⟨e, rfl, hstale⟩
    · rw [if_neg hstale]
      constructor
      · rintro ⟨⟩
      · rintro ⟨_, ⟨⟩, h⟩
        exact absurd h hstale

namespace Instruction

/-- A soft write has an answer to a refused etag. -/
def isSoft : Instruction β → Bool
  | .trySaveValue .. | .tryDeleteValue .. | .trySaveEntry .. | .tryDeleteEntry .. => true
  | _ => false

/-- What a write returns when it is done. -/
def isDone : Instruction β → β → Prop
  | .trySaveValue .., done | .tryDeleteValue .., done | .trySaveEntry .., done
  | .tryDeleteEntry .., done => done = true
  | .getValue .., _ | .getWithEtag .., _ | .getEntry .., _ => False
  | _, _ => True

/-- What a soft write returns when the etag is refused. -/
def isDeclined : Instruction β → β → Prop
  | .trySaveValue .., done | .tryDeleteValue .., done | .trySaveEntry .., done
  | .tryDeleteEntry .., done => done = false
  | _, _ => False

/-- What a read returns if there is no value. -/
def isVoid : Instruction β → β → Prop
  | .getValue .., value => value = none
  | .getWithEtag .., read => read.1 = none
  | .getEntry .., entry => entry.value = none
  | _, _ => False

/-- Why a read cannot decode a body. -/
def fault? : Instruction β → Bytes → Option Json.Fault
  | .getValue reader .., body | .getWithEtag reader .., body | .getEntry reader .., body =>
    decodeFault? reader body
  | _, _ => none

variable {i : Instruction β}

theorem call_ne_get_of_isSoft (h : i.isSoft) (request : GetRequest) : i.call ≠ .get request := by
  cases i with
  | trySaveValue | tryDeleteValue | trySaveEntry | tryDeleteEntry => exact Call.noConfusion
  | _ => cases h

/-- Only soft writes do not pass a failure on, and only if it is a refused etag. -/
theorem outcome_error {e : Error} (h : i.isSoft → e.isStaleEtag = false) :
    i.outcome (.error e) = .error e := by
  cases i with
  | trySaveValue | tryDeleteValue | trySaveEntry | tryDeleteEntry => exact softened_of_fresh (h rfl)
  | _ => rfl

theorem isDone_outcome (h : ∀ request, i.call ≠ .get request) (answer : i.call.Answer) :
    ∃ b, i.outcome (.ok answer) = .ok b ∧ i.isDone b := by
  cases i with
  | getValue | getWithEtag | getEntry => exact absurd rfl (h _)
  | trySaveValue | tryDeleteValue | trySaveEntry | tryDeleteEntry => exact ⟨true, rfl, rfl⟩
  | saveValue | saveItems | deleteValue | saveEntry | deleteEntry => exact ⟨answer, rfl, trivial⟩

/-- Only a soft write is declined, and only for a refused etag. -/
theorem isDeclined_outcome_iff {answer : Except Error i.call.Answer} :
    (∃ b, i.outcome answer = .ok b ∧ i.isDeclined b) ↔
      i.isSoft ∧ ∃ e, answer = .error e ∧ e.isStaleEtag := by
  cases i with
  | trySaveValue | tryDeleteValue | trySaveEntry | tryDeleteEntry =>
    refine Iff.trans ?_ (and_iff_right rfl).symm
    refine Iff.trans ?_ softened_eq_false_iff
    exact exists_eq_right
  | _ => exact iff_of_false (fun ⟨_, _, h⟩ => h) (fun h => nomatch h.1)

/-- A read has no value if and only if it gets data without one. -/
theorem isVoid_perform_iff {request : GetRequest} (h : i.call = .get request) (t : Transport σ)
    (s : σ) :
    (∃ b, (i.perform t s).1 = .ok b ∧ i.isVoid b) ↔
      emptyName? i.call.store i.call.keys = none ∧
        ∃ response, (t.get request s).1 = .ok response ∧ HasNoValue response.data := by
  cases hname : emptyName? i.call.store i.call.keys with
  | some name =>
    rw [perform_of_emptyName? hname]
    exact iff_of_false nofun nofun
  | none =>
    rw [perform_of_names hname, and_iff_right rfl]
    cases i with
    | getValue reader =>
      cases h
      exact decoded_map_iff reader fun _ => Iff.rfl
    | getWithEtag reader =>
      cases h
      refine Iff.trans ?_ (decoded_map_iff reader (f := id) (p := (·.1 = none)) fun _ => Iff.rfl)
      rw [Except.map_id]
      rfl
    | getEntry reader =>
      cases h
      exact decoded_map_iff reader fun _ => Iff.rfl
    | _ => cases h

/-- A read fails if it gets data that cannot be decoded. -/
theorem perform_of_fault? {request : GetRequest} {s' : σ} {t : Transport σ} {s : σ}
    {body : Bytes} {etag : Option String} {fault : Json.Fault} (h : i.call = .get request)
    (hname : emptyName? i.call.store i.call.keys = none)
    (hget : t.get request s = (.ok ⟨some body, etag⟩, s')) (hbody : body ≠ [])
    (hfault : i.fault? body = some fault) : i.perform t s = (.error (.serialization fault), s') := by
  have hdecoded {α : Type} {reader : Json.Reader α} (hfault : decodeFault? reader body = some fault) :
      decoded reader (.ok ⟨some body, etag⟩) = .error (.serialization fault) := by
    have hvalue : decoded reader (.ok ⟨some body, etag⟩) =
        (decodeValue reader (some body)).map fun value => (value, etag) := rfl
    rw [hvalue, decodeValue_of_fault hbody hfault]
    rfl
  rw [perform_of_names hname]
  cases i with
  | getValue reader | getEntry reader =>
    cases h
    change ((decoded reader (t.get _ s).1).map _, (t.get _ s).2) = _
    rw [hget, hdecoded hfault]
    rfl
  | getWithEtag reader =>
    cases h
    change (decoded reader (t.get _ s).1, (t.get _ s).2) = _
    rw [hget, hdecoded hfault]
  | _ => cases h

end Instruction

end Sidecar.State
