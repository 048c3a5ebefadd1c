import Sidecar.Url.Percent

/-! # URLs of the scheme `http` -/

namespace Sidecar

/-- The path is given by its segments, of which there is at least one; all parts are escaped. -/
structure Url where
  username : String := ""
  password : Option String := none
  host : String
  /-- `none` is 80. -/
  port : Option Nat := none
  path : List String := [""]
  query : Option String := none
  fragment : Option String := none
deriving DecidableEq, Repr

namespace Url

def userInfoText (u : Url) : String :=
  match u.username.isEmpty, u.password with
  | true, none => ""
  | _, none => u.username ++ "@"
  | _, some password => u.username ++ ":" ++ password ++ "@"

def authorityText (u : Url) : String :=
  u.userInfoText ++ u.host ++
    match u.port with
    | none => ""
    | some port => ":" ++ toString port

def pathText (u : Url) : String := "/" ++ String.intercalate "/" u.path

def queryText (u : Url) : String :=
  match u.query with
  | none => ""
  | some q => "?" ++ q

def fragmentText (u : Url) : String :=
  match u.fragment with
  | none => ""
  | some f => "#" ++ f

def text (u : Url) : String :=
  "http://" ++ u.authorityText ++ u.pathText ++ u.queryText ++ u.fragmentText

/-- A drive letter, as in paths of files; a double dot does not remove it. -/
def isDriveLetter : List Char → Bool
  | [a, b] => a.isAlpha && (b == ':' || b == '|')
  | _ => false

/-- The path without its last segment, unless that is a drive letter. -/
def parent (path : List String) : List String :=
  match path.getLast? with
  | some last => if isDriveLetter last.toList then path else path.dropLast
  | none => []

/-! ## Extending the path -/

def isDropped (c : Char) : Bool := c == '\t' || c == '\n' || c == '\r'

/-- The path without its last segment if that is empty. -/
def popIfEmpty (path : List String) : List String :=
  if path.length > 1 ∧ path.getLast? = some "" then path.dropLast else path

/-- Adds a segment behind the others, or in place of a single empty one.  Dots are skipped; what
becomes dots when line breaks and tabs are dropped acts as a path of dots does. -/
def pushSegment (path : List String) (segment : String) : List String :=
  if segment = "." ∨ segment = ".." then path
  else
    let front := if path = [""] then [] else path
    let kept := segment.toList.filter (!isDropped ·)
    if kept = ['.', '.'] then parent front ++ [""]
    else if kept = ['.'] then front ++ [""]
    else front ++ [String.ofList (percentEncode EscapeSet.segment kept)]

def pushSegments (u : Url) (segments : List String) : Url :=
  { u with path := segments.foldl pushSegment (popIfEmpty u.path) }

/-- Adds parameters behind those that are there. -/
def appendQuery (u : Url) (pairs : List (String × String)) : Url :=
  if pairs.isEmpty then u
  else
    let added := String.ofList (formPairs pairs)
    { u with query := some <|
        match u.query with
        | none | some "" => added
        | some q => q ++ "&" ++ added }

/-! ## User information -/

def withoutUserInfo (u : Url) : Url := { u with username := "", password := none }

def withoutFragment (u : Url) : Url := { u with fragment := none }

end Url

end Sidecar
