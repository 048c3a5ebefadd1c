import Sidecar.Json.Scan

/-!
# Reading JSON

Arrays and objects may be nested 127 deep.  The loops over items and members take a bound on their
number; since each of them takes at least one byte, the length of the text is one.
-/

namespace Sidecar.Json

def openBracket : UInt8 := 91

def closeBracket : UInt8 := 93

def openBrace : UInt8 := 123

def closeBrace : UInt8 := 125

def comma : UInt8 := 44

def colon : UInt8 := 58

/-- Items up to the closing bracket, which is left; `first` if none has been read. -/
def readItems (item : Reader α) : Nat → (first : Bool) → Reader (List α)
  | 0, _, bs => stop .endInList bs
  | fuel + 1, first, bs =>
    match skipBlanks bs with
    | [] => stop .endInList []
    | b :: bs =>
      if b = closeBracket then .ok ([], b :: bs)
      else do
        let start ←
          if first then .ok (b :: bs)
          else if b = comma then
            match skipBlanks bs with
            | [] => stop .endInValue []
            | c :: rest => if c = closeBracket then stop .trailingComma rest else .ok (c :: rest)
          else stop .expectedListCommaOrEnd bs
        let (x, bs) ← item start
        let (xs, bs) ← readItems item fuel false bs
        .ok (x :: xs, bs)

/-- The start of the next member, behind the quote of its name; `none` at the closing brace. -/
def nextMember (first : Bool) (bs : Bytes) : Except Stop (Option Bytes × Bytes) :=
  match skipBlanks bs with
  | [] => stop .endInObject []
  | b :: bs =>
    if b = closeBrace then .ok (none, b :: bs)
    else if first then
      if b = quote then .ok (some bs, bs) else stop .keyMustBeString bs
    else if b = comma then
      match skipBlanks bs with
      | [] => stop .endInValue []
      | c :: rest =>
        if c = quote then .ok (some rest, rest)
        else if c = closeBrace then stop .trailingComma rest
        else stop .keyMustBeString rest
    else stop .expectedObjectCommaOrEnd bs

def readColon : Reader Unit := fun bs =>
  match skipBlanks bs with
  | [] => stop .endInObject []
  | b :: bs => if b = colon then .ok ((), bs) else stop .expectedColon bs

/-- Members up to the closing brace, which is left, as they are written. -/
def readMembers (value : Reader α) : Nat → (first : Bool) → Reader (List (String × α))
  | 0, _, bs => stop .endInObject bs
  | fuel + 1, first, bs => do
    match ← nextMember first bs with
    | (none, bs) => .ok ([], bs)
    | (some start, _) =>
      let (name, bs) ← readString start
      let ((), bs) ← readColon bs
      let (v, bs) ← value bs
      let (rest, bs) ← readMembers value fuel false bs
      .ok ((name, v) :: rest, bs)

/-- What follows an opening bracket, the closing one included. -/
def readArrayBody (item : Reader α) : Reader (List α) := fun bs => do
  let (xs, bs) ← readItems item (bs.length + 1) true bs
  .ok (xs, bs.tail)

/-- What follows an opening brace, the closing one included. -/
def readObjectBody (value : Reader α) : Reader (List (String × α)) := fun bs => do
  let (members, bs) ← readMembers value (bs.length + 1) true bs
  .ok (members, bs.tail)

/-- A value, given how to read what follows an opening bracket or brace. -/
def readValueWith (array object : Reader Json) : Reader Json := fun bs =>
  match skipBlanks bs with
  | [] => stop .endInValue []
  | b :: bs =>
    if b = 110 then (readIdent afterN bs).map fun ((), bs) => (.null, bs)
    else if b = 116 then (readIdent afterT bs).map fun ((), bs) => (.bool true, bs)
    else if b = 102 then (readIdent afterF bs).map fun ((), bs) => (.bool false, bs)
    else if b = 45 then (readNumber true bs).map fun (n, bs) => (.number n, bs)
    else if isDigit b then (readNumber false (b :: bs)).map fun (n, bs) => (.number n, bs)
    else if b = quote then (readString bs).map fun (s, bs) => (.string s, bs)
    else if b = openBracket then array bs
    else if b = openBrace then object bs
    else stop .expectedValue bs

/-- A value with at most `depth` levels of arrays and objects.  Members come out in ascending order
of names, and a repeated name has its last value. -/
def readValue : (depth : Nat) → Reader Json
  | 0 => readValueWith (stop .recursionLimit) (stop .recursionLimit)
  | depth + 1 =>
    readValueWith
      (fun bs => (readArrayBody (readValue depth) bs).map fun (xs, bs) => (.array xs, bs))
      (fun bs => (readObjectBody (readValue depth) bs).map fun (ms, bs) =>
        (.object (sortMembers ms), bs))

def depthLimit : Nat := 127

/-- Any value. -/
def readAny : Reader Json := readValue depthLimit

/-- Reads a whole text. -/
def readText (reader : Reader α) (input : Bytes) : Except Fault α :=
  match reader input with
  | .error s => .error (s.locate input)
  | .ok (x, rest) =>
    match skipBlanks rest with
    | [] => .ok x
    | _ :: rest => .error (Stop.locate input ⟨.trailingCharacters, rest⟩)

def ofBytes (input : Bytes) : Except Fault Json := readText readAny input

def ofText (input : String) : Except Fault Json := ofBytes (Text.Utf8.encode input)

end Sidecar.Json
