import Sidecar.Json.Basic

/-! # How a write is to be carried out -/

namespace Sidecar

/-- A closed set of words with a fixed spelling in requests. -/
class Vocabulary (α : Type) where
  /-- What the words are for. -/
  kind : String
  /-- In the order in which they are declared. -/
  all : List α
  word : α → String

structure UnknownWord where
  kind : String
  word : String
deriving DecidableEq, Repr

def Vocabulary.parse [Vocabulary α] (word : String) : Except UnknownWord α :=
  match (Vocabulary.all : List α).find? fun a => Vocabulary.word a == word with
  | some a => .ok a
  | none => .error ⟨Vocabulary.kind α, word⟩

inductive Consistency where
  | eventual
  | strong
deriving DecidableEq, Repr, Inhabited

instance : Vocabulary Consistency where
  kind := "consistency"
  all := [.eventual, .strong]
  word
    | .eventual => "eventual"
    | .strong => "strong"

inductive Concurrency where
  | firstWrite
  | lastWrite
deriving DecidableEq, Repr

instance : Inhabited Concurrency := ⟨.lastWrite⟩

instance : Vocabulary Concurrency where
  kind := "concurrency"
  all := [.firstWrite, .lastWrite]
  word
    | .firstWrite => "first-write"
    | .lastWrite => "last-write"

inductive RetryPattern where
  | linear
  | exponential
deriving DecidableEq, Repr, Inhabited

instance : Vocabulary RetryPattern where
  kind := "retry pattern"
  all := [.linear, .exponential]
  word
    | .linear => "linear"
    | .exponential => "exponential"

def Vocabulary.json [Vocabulary α] (a : α) : Json := .string (Vocabulary.word a)

structure Duration where
  nanoseconds : Nat
deriving DecidableEq, Repr

namespace Duration

def ofParts (seconds nanoseconds : Nat) : Duration := ⟨seconds * 1000000000 + nanoseconds⟩

def ofMilliseconds (n : Nat) : Duration := ⟨n * 1000000⟩

/-- Whole milliseconds; a rest is dropped. -/
def milliseconds (d : Duration) : Nat := d.nanoseconds / 1000000

end Duration

structure RetryPolicy where
  pattern : RetryPattern
  interval : Duration
  threshold : UInt32
deriving DecidableEq, Repr

/-- The greatest interval that a document carries, in milliseconds. -/
def RetryPolicy.greatestInterval : Nat := 18446744073709551615

def RetryPolicy.json (p : RetryPolicy) : Json :=
  .object [
    ("pattern", Vocabulary.json p.pattern),
    ("interval", .whole (min p.interval.milliseconds greatestInterval)),
    ("threshold", .whole p.threshold.toNat)]

structure StateOptions where
  consistency : Consistency := default
  concurrency : Concurrency := default
  retry : Option RetryPolicy := none
deriving DecidableEq, Repr, Inhabited

def StateOptions.json (o : StateOptions) : Json :=
  .object <|
    [ ("concurrency", Vocabulary.json o.concurrency),
      ("consistency", Vocabulary.json o.consistency) ] ++
      o.retry.toList.map fun p => ("retryPolicy", p.json)

/-- The same as query parameters; the interval is not capped. -/
def StateOptions.query (o : StateOptions) : List (String × String) :=
  [ ("concurrency", Vocabulary.word o.concurrency),
    ("consistency", Vocabulary.word o.consistency) ] ++
    match o.retry with
    | none => []
    | some p => [
        ("retryInterval", toString p.interval.milliseconds),
        ("retryPattern", Vocabulary.word p.pattern),
        ("retryThreshold", toString p.threshold.toNat)]

end Sidecar
