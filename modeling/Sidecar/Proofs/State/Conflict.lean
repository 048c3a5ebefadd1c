import Sidecar.Proofs.State.Instruction

/-!
# Refused etags as failures and as answers

Where an etag is refused a hard write fails, and a soft one says so.  Apart from that the two kinds
do the same: each soft instruction makes the call of its hard one, and comes out as it does.

The main results are `Instruction.soft_softens_hard` and, for values of any type,
`soften_writeEncoded`.
-/

namespace Sidecar.State

/-- How a hard write and a soft one come out. -/
inductive Corresponds : Except Error Unit → Except Error Bool → Prop
  | done : Corresponds (.ok ()) (.ok true)
  | refused {status : Nat} {message : String} (h : status = 409 ∨ status = 412) :
      Corresponds (.error (.remoteFault status message)) (.ok false)
  | failed {e : Error}
      (h : ∀ status message, e = .remoteFault status message → status ≠ 409 ∧ status ≠ 412) :
      Corresponds (.error e) (.error e)

theorem isStaleEtag_remoteFault (status : Nat) (message : String) :
    (Error.remoteFault status message).isStaleEtag ↔ status = 409 ∨ status = 412 := by
  simp [Error.isStaleEtag]

theorem corresponds_softened (result : Except Error Unit) :
    Corresponds result (softened result) := by
  cases result with
  | ok => exact .done
  | error e =>
    rw [softened]
    split
    case isTrue hstale =>
      cases e with
      | remoteFault status message =>
        exact .refused ((isStaleEtag_remoteFault status message).1 hstale)
      | emptyArgument | serialization | transport | invalidEndpoint | unknownToken => cases hstale
    case isFalse hfresh =>
      refine .failed fun status message he => ?_
      rw [he, isStaleEtag_remoteFault] at hfresh
      exact not_or.1 hfresh

namespace Instruction

variable {soft : Instruction Bool} {hard : Instruction Unit}

/-- Whatever the transport does, the soft instruction makes the same calls as the hard one, leaves
the same behind, and comes out as the hard one does. -/
structure Softens (soft : Instruction Bool) (hard : Instruction Unit) : Prop where
  calls {σ : Type} (t : Transport σ) (s : σ) (before : List Call) :
    (soft.perform t.recorded (s, before)).2 = (hard.perform t.recorded (s, before)).2
  state {σ : Type} (t : Transport σ) (s : σ) : (soft.perform t s).2 = (hard.perform t s).2
  result {σ : Type} (t : Transport σ) (s : σ) :
    Corresponds (hard.perform t s).1 (soft.perform t s).1

/-- An instruction softens another one if it does the same and softens what comes of it. -/
theorem softens_of_perform_eq
    (h : ∀ {σ : Type} (t : Transport σ), soft.perform t = State.soften (hard.perform t)) :
    Softens soft hard where
  calls t s before := by rw [h, soften_snd]
  state t s := by rw [h, soften_snd]
  result t s := by
    rw [h, soften_eq]
    exact corresponds_softened _

/-- The calls of an instruction are in it, whatever was done before. -/
theorem exists_calls {β : Type} (i : Instruction β) :
    ∃ made, ∀ {σ : Type} (t : Transport σ) (s : σ) (before : List Call),
      (i.perform t.recorded (s, before)).2.2 = before ++ made := by
  cases hname : emptyName? i.call.store i.call.keys with
  | some name =>
    refine ⟨[], fun t s before => ?_⟩
    rw [perform_of_emptyName? hname, List.append_nil]
  | none => exact ⟨[i.call], fun t s before => by rw [perform_recorded hname]⟩

/-- A save without an etag and an unconditional one, a delete without an etag and an unconditional
one, and the two ways to write or delete an entry: the soft instruction softens the hard one.  Those
of an entry are those of its store, key, value and etag, without metadata.  An entry is as it was
behind all of them: what is told again makes the same calls again. -/
theorem soft_softens_hard :
    (∀ store key value options metadata,
      Softens (.trySaveValue store key value none options metadata)
        (.saveValue store key value options metadata)) ∧
    (∀ store key options,
      Softens (.tryDeleteValue store key none options) (.deleteValue store key options)) ∧
    (∀ entry options, Softens (.trySaveEntry entry options) (.saveEntry entry options) ∧
      Softens (.trySaveValue entry.store entry.key entry.value entry.etag options none)
        (.saveEntry entry options) ∧
      ∀ {σ : Type} (t : Transport σ), (trySaveEntry entry options).perform t =
        (trySaveValue entry.store entry.key entry.value entry.etag options none).perform t) ∧
    (∀ {α : Type} (entry : Entry α) options,
      Softens (.tryDeleteEntry entry options) (.deleteEntry entry options) ∧
      Softens (.tryDeleteValue entry.store entry.key entry.etag options)
        (.deleteEntry entry options) ∧
      ∀ {σ : Type} (t : Transport σ), (tryDeleteEntry entry options).perform t =
        (tryDeleteValue entry.store entry.key entry.etag options).perform t) ∧
    ∀ {β : Type} (i : Instruction β), ∃ made, ∀ {σ : Type} (t : Transport σ) (s : σ) before,
      (i.perform t.recorded (s, before)).2.2 = before ++ made := by
  refine ⟨fun _ _ _ _ _ => ?_, fun _ _ _ => ?_, fun entry options => ⟨?_, ?_, fun _ => rfl⟩,
    fun entry options => ⟨?_, ?_, fun _ => rfl⟩, exists_calls⟩
  all_goals exact softens_of_perform_eq fun _ => rfl

end Instruction

/-- A save of a value of any type is softened in the same way.  A value that cannot be encoded is a
failure of both kinds, and neither makes a call. -/
theorem soften_writeEncoded (store key : String) (value : Option (Except Error Bytes))
    (etag : Option String) (options : Option StateOptions) (metadata : Option Metadata) {σ : Type}
    (t : Transport σ) (s : σ) (before : List Call) :
    let hard {τ : Type} (t : Transport τ) : Action τ Unit :=
      t.writeEncoded store key value etag options metadata
    (soften (hard t.recorded) (s, before)).2 = (hard t.recorded (s, before)).2 ∧
      (soften (hard t) s).2 = (hard t s).2 ∧
      Corresponds (hard t s).1 (soften (hard t) s).1 ∧
      ∀ fault, value = some (.error (.serialization fault)) → emptyName? store [key] = none →
        hard t.recorded (s, before) = (.error (.serialization fault), s, before) ∧
        soften (hard t.recorded) (s, before) = (.error (.serialization fault), s, before) := by
  intro hard
  refine ⟨soften_snd _ _, soften_snd _ _, ?_, ?_⟩
  · rw [soften_eq]
    exact corresponds_softened _
  · rintro fault rfl hname
    have hhard : hard t.recorded (s, before) = (.error (.serialization fault), s, before) := by
      dsimp only [hard]
      rw [Transport.writeEncoded_of_error, guarded, hname]
    rw [soften_eq, hhard]
    exact ⟨rfl, rfl⟩

end Sidecar.State
