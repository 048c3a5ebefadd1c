import Sidecar.Json.Reader

/-!
# Reading JSON of a given shape

Each reader names what it expects, and a value of another shape is reported behind the value, or in
front of it if it is an array or an object.
-/

namespace Sidecar.Json

/-- Reports the value at the front as not being what was expected. -/
def mismatch (expected : String) (bs : Bytes) : Except Stop α :=
  let report (found : Found) (rest : Bytes) : Except Stop α :=
    stop (.invalidType found expected) rest
  match bs with
  | [] => stop .expectedValue []
  | b :: rest =>
    if b = 110 then do report .null (← readIdent afterN rest).2
    else if b = 116 then do report (.bool true) (← readIdent afterT rest).2
    else if b = 102 then do report (.bool false) (← readIdent afterF rest).2
    else if b = 45 then do
      let (n, rest) ← readNumber true rest
      report (.number n) rest
    else if isDigit b then do
      let (n, rest) ← readNumber false bs
      report (.number n) rest
    else if b = quote then do
      let (s, rest) ← readString rest
      report (.string s) rest
    else if b = openBracket then report .sequence bs
    else if b = openBrace then report .map bs
    else stop .expectedValue rest

/-- Looks at the first byte that is not blank. -/
def atValue (read : UInt8 → Bytes → Except Stop (α × Bytes)) : Reader α := fun bs =>
  match skipBlanks bs with
  | [] => stop .endInValue []
  | b :: bs => read b bs

/-- The literal `null`, or a value. -/
def nullable (reader : Reader α) : Reader (Option α) := fun bs =>
  match skipBlanks bs with
  | [] => (reader []).map fun (x, bs) => (some x, bs)
  | b :: bs =>
    if b = 110 then (readIdent afterN bs).map fun ((), bs) => (none, bs)
    else (reader (b :: bs)).map fun (x, bs) => (some x, bs)

def stringShape : Reader String := atValue fun b bs =>
  if b = quote then readString bs else mismatch "a string" (b :: bs)

def boolShape : Reader Bool := atValue fun b bs =>
  if b = 116 then (readIdent afterT bs).map fun ((), bs) => (true, bs)
  else if b = 102 then (readIdent afterF bs).map fun ((), bs) => (false, bs)
  else mismatch "a boolean" (b :: bs)

/-- A whole number from `least` to `greatest`. -/
def wholeShape (expected : String) (least greatest : Int) : Reader Int :=
  let check (n : Number) : Reader Int := fun bs =>
    match n with
    | .whole m =>
      if least ≤ m ∧ m ≤ greatest then .ok (m, bs)
      else stop (.invalidValue (.number n) expected) bs
    | .double _ => stop (.invalidType (.number n) expected) bs
  atValue fun b bs =>
    if b = 45 then do
      let (n, bs) ← readNumber true bs
      check n bs
    else if isDigit b then do
      let (n, bs) ← readNumber false (b :: bs)
      check n bs
    else mismatch expected (b :: bs)

def int64Shape : Reader Int := wholeShape "i64" (-9223372036854775808) 9223372036854775807

def byteShape : Reader Int := wholeShape "u8" 0 255

def listShape (item : Reader α) : Reader (List α) := atValue fun b bs =>
  if b = openBracket then readArrayBody item bs else mismatch "a sequence" (b :: bs)

/-- An object as it is written. -/
def membersShape (value : Reader α) : Reader (List (String × α)) := atValue fun b bs =>
  if b = openBrace then readObjectBody value bs else mismatch "a map" (b :: bs)

/-- An object with members in ascending order of names, the last of a repeated name winning. -/
def mapShape (value : Reader α) : Reader (List (String × α)) := fun bs =>
  (membersShape value bs).map fun (members, bs) => (sortMembers members, bs)

/-- Puts a pair at the end; a repeated name keeps its place and takes the new value. -/
def upsert (name : String) (value : α) : List (String × α) → List (String × α)
  | [] => [(name, value)]
  | (k, v) :: rest => if k = name then (k, value) :: rest else (k, v) :: upsert name value rest

/-- Members in the order in which their names first occur, the last of a repeated name winning. -/
def inOrder (members : List (String × α)) : List (String × α) :=
  members.foldl (fun seen (k, v) => upsert k v seen) []

/-! ## Passing over values -/

/-- What comes next while a value is passed over. -/
inductive Skip where
  /-- At a value. -/
  | value
  /-- At the name of a member. -/
  | name
  /-- Behind a value. -/
  | after

/-- Passes over a value of any depth.  `frames` are the open containers, innermost first, `true`
for an object. -/
def skipFrom : Nat → Skip → (frames : List Bool) → Reader Unit
  | 0, _, _, bs => stop .endInValue bs
  | fuel + 1, .value, frames, bs =>
    match skipBlanks bs with
    | [] => stop .endInValue []
    | b :: bs =>
      if b = 110 then do skipFrom fuel .after frames (← readIdent afterN bs).2
      else if b = 116 then do skipFrom fuel .after frames (← readIdent afterT bs).2
      else if b = 102 then do skipFrom fuel .after frames (← readIdent afterF bs).2
      else if b = 45 then do skipFrom fuel .after frames (← skipNumber bs).2
      else if isDigit b then do skipFrom fuel .after frames (← skipNumber (b :: bs)).2
      else if b = quote then do skipFrom fuel .after frames (← skipString bs).2
      else if b = openBracket then
        match skipBlanks bs with
        | [] => stop .endInList []
        | c :: rest =>
          if c = closeBracket then skipFrom fuel .after frames rest
          else skipFrom fuel .value (false :: frames) (c :: rest)
      else if b = openBrace then
        match skipBlanks bs with
        | [] => stop .endInObject []
        | c :: rest =>
          if c = closeBrace then skipFrom fuel .after frames rest
          else skipFrom fuel .name (true :: frames) (c :: rest)
      else stop .expectedValue bs
  | fuel + 1, .name, frames, bs =>
    match skipBlanks bs with
    | [] => stop .endInObject []
    | b :: bs =>
      if b = quote then do
        let ((), bs) ← skipString bs
        let ((), bs) ← readColon bs
        skipFrom fuel .value frames bs
      else stop .keyMustBeString bs
  | _ + 1, .after, [], bs => .ok ((), bs)
  | fuel + 1, .after, isObject :: frames, bs =>
    match skipBlanks bs with
    | [] => stop (if isObject then .endInObject else .endInList) []
    | b :: bs =>
      if b = comma then skipFrom fuel (if isObject then .name else .value) (isObject :: frames) bs
      else if b = (if isObject then closeBrace else closeBracket) then
        skipFrom fuel .after frames bs
      else stop (if isObject then .expectedObjectCommaOrEnd else .expectedListCommaOrEnd) bs

def skipValue : Reader Unit := fun bs => skipFrom (2 * bs.length + 2) .value [] bs

/-! ## Records of strings -/

/-- The members of a record that have been read. -/
abbrev Fields := List (String × String)

/-- Where a fault of a whole object is reported: behind its closing brace, if that comes next. -/
def pastBrace (bs : Bytes) : Bytes :=
  match skipBlanks bs with
  | [] => []
  | b :: rest => if b = closeBrace then rest else b :: rest

/-- Members of a record in any order; others are passed over. -/
def readFields (names : List String) : Nat → (first : Bool) → Fields → Reader Fields
  | 0, _, _, bs => stop .endInObject bs
  | fuel + 1, first, fields, bs => do
    match ← nextMember first bs with
    | (none, bs) => .ok (fields, bs)
    | (some start, _) =>
      let (name, bs) ← readString start
      if name ∈ names then
        if (fields.lookup name).isSome then stop (.duplicateField name) (pastBrace bs)
        else
          let ((), bs) ← readColon bs
          let (value, bs) ← stringShape bs
          readFields names fuel false ((name, value) :: fields) bs
      else
        let ((), bs) ← readColon bs
        let ((), bs) ← skipValue bs
        readFields names fuel false fields bs

/-- All members of a record in the order of `names`. -/
def collectFields (fields : Fields) : (names : List String) → Except String Fields
  | [] => .ok []
  | name :: names =>
    match fields.lookup name with
    | none => .error name
    | some value => (collectFields fields names).map ((name, value) :: ·)

def withElements (expected : String) (n : Nat) : String :=
  expected ++ " with " ++ toString n ++ if n = 1 then " element" else " elements"

/-- A record may also be written as the array of its members. -/
def readPositional (expected : String) (length : Nat) : (names : List String) → (first : Bool) →
    Reader Fields
  | [], _, bs => .ok ([], bs)
  | name :: names, first, bs =>
    match skipBlanks bs with
    | [] => stop .endInList []
    | b :: bs =>
      if b = closeBracket then
        stop (.invalidLength length (withElements expected (length + names.length + 1))) bs
      else do
        let start ←
          if first then .ok (b :: bs)
          else if b = comma then
            match skipBlanks bs with
            | [] => stop .endInValue []
            | c :: rest => if c = closeBracket then stop .trailingComma rest else .ok (c :: rest)
          else stop .expectedListCommaOrEnd bs
        let (value, bs) ← stringShape start
        let (rest, bs) ← readPositional expected (length + 1) names false bs
        .ok ((name, value) :: rest, bs)

/-- The closing bracket behind the last member of a record. -/
def closeArray : Reader Unit := fun bs =>
  match skipBlanks bs with
  | [] => stop .endInList []
  | b :: bs =>
    if b = closeBracket then .ok ((), bs)
    else if b = comma then
      match skipBlanks bs with
      | [] => stop .trailingCharacters []
      | c :: rest => stop (if c = closeBracket then .trailingComma else .trailingCharacters) rest
    else stop .trailingCharacters bs

/-- An object with the given members, all of them strings. -/
def recordShape (name : String) (names : List String) : Reader Fields :=
  let expected := "struct " ++ name
  atValue fun b bs =>
    if b = openBracket then do
      let (fields, bs) ← readPositional expected 0 names true bs
      let ((), bs) ← closeArray bs
      .ok (fields, bs)
    else if b = openBrace then do
      let (fields, bs) ← readFields names (bs.length + 1) true [] bs
      match collectFields fields names with
      | .ok fields => .ok (fields, pastBrace bs)
      | .error missing => stop (.missingField missing) (pastBrace bs)
    else mismatch expected (b :: bs)

end Sidecar.Json
