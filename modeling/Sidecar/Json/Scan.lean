import Sidecar.Json.Fault
import Sidecar.Text.Utf8

/-!
# The words of JSON

Blanks, literals, numbers and strings.  Where a reader stops at a byte it has only looked at, that
byte counts as taken.
-/

namespace Sidecar.Json

def isBlank (b : UInt8) : Bool := b == 32 || b == 10 || b == 9 || b == 13

def skipBlanks (bs : Bytes) : Bytes := bs.dropWhile isBlank

def isDigit (b : UInt8) : Bool := 48 ≤ b && b ≤ 57

def digitOf (b : UInt8) : Nat := b.toNat - 48

/-- The remaining letters of a literal. -/
def readIdent : (letters : Bytes) → Reader Unit
  | [], bs => .ok ((), bs)
  | _ :: _, [] => stop .endInValue []
  | l :: letters, b :: bs => if l = b then readIdent letters bs else stop .expectedIdent bs

def afterN : Bytes := [117, 108, 108]

def afterT : Bytes := [114, 117, 101]

def afterF : Bytes := [97, 108, 115, 101]

/-! ## Numbers

A significand is kept in 64 bits.  Digits that do not fit are dropped, those before the point being
made up for by the exponent. -/

def greatestSignificand : Nat := 18446744073709551615

def greatestWrittenExponent : Nat := 2147483647

def readDouble (negative : Bool) (significand : Nat) (exponent : Int) : Reader Number := fun bs =>
  match Binary64.ofScientific? negative significand exponent with
  | some x => .ok (.double x, bs)
  | none => stop .numberOutOfRange bs

/-- `none` if the exponent is too large to be kept; its remaining digits are not taken. -/
def readExponentDigits (exponent : Nat) : Bytes → Option Nat × Bytes
  | [] => (some exponent, [])
  | b :: bs =>
    if isDigit b then
      let exponent := exponent * 10 + digitOf b
      if greatestWrittenExponent < exponent then (none, bs) else readExponentDigits exponent bs
    else (some exponent, b :: bs)

def readExponentSign : Bytes → Bool × Bytes
  | 43 :: bs => (true, bs)
  | 45 :: bs => (false, bs)
  | bs => (true, bs)

/-- What follows the letter of an exponent; `scale` is the exponent that the digits before it call
for. -/
def readExponent (negative : Bool) (significand : Nat) (scale : Int) : Reader Number := fun bs =>
  let (positive, bs) := readExponentSign bs
  match bs with
  | [] => stop .endInValue []
  | b :: bs =>
    if isDigit b then
      match readExponentDigits (digitOf b) bs with
      | (some n, bs) =>
        readDouble negative significand (if positive then scale + n else scale - n) bs
      | (none, bs) =>
        if significand ≠ 0 ∧ positive then stop .numberOutOfRange bs
        else .ok (.double (Binary64.zero negative), bs.dropWhile isDigit)
    else stop .invalidNumber bs

def isExponentLetter (b : UInt8) : Bool := b == 101 || b == 69

def readScaled (negative : Bool) (significand : Nat) (scale : Int) : Reader Number
  | [] => readDouble negative significand scale []
  | b :: bs =>
    if isExponentLetter b then readExponent negative significand scale bs
    else readDouble negative significand scale (b :: bs)

/-- Digits after the point; `before` counts the dropped digits before it, `count` the digits taken
after it. -/
def readFraction (negative : Bool) (before count significand : Nat) : Reader Number
  | [] =>
    if count = 0 then stop .endInValue [] else readScaled negative significand (before - count) []
  | b :: bs =>
    if isDigit b then
      let next := significand * 10 + digitOf b
      if greatestSignificand < next then
        readScaled negative significand (before - count) (bs.dropWhile isDigit)
      else readFraction negative before (count + 1) next bs
    else if count = 0 then stop .invalidNumber bs
    else readScaled negative significand (before - count) (b :: bs)

/-- Digits that no longer fit into the significand. -/
def readLong (negative : Bool) (dropped significand : Nat) : Reader Number
  | [] => readDouble negative significand dropped []
  | b :: bs =>
    if isDigit b then readLong negative (dropped + 1) significand bs
    else if b = 46 then readFraction negative dropped 0 significand bs
    else if isExponentLetter b then readExponent negative significand dropped bs
    else readDouble negative significand dropped (b :: bs)

/-- A whole number, unless it is zero with a sign or below the range of 64 bits. -/
def wholeOrDouble (negative : Bool) (n : Nat) : Reader Number := fun bs =>
  if !negative then .ok (.whole n, bs)
  else if 0 < n ∧ n ≤ 9223372036854775808 then .ok (.whole (-n), bs)
  else readDouble true n 0 bs

def readAfterDigits (negative : Bool) (significand : Nat) : Reader Number
  | [] => wholeOrDouble negative significand []
  | b :: bs =>
    if b = 46 then readFraction negative 0 0 significand bs
    else if isExponentLetter b then readExponent negative significand 0 bs
    else wholeOrDouble negative significand (b :: bs)

def readDigits (negative : Bool) (significand : Nat) : Reader Number
  | [] => readAfterDigits negative significand []
  | b :: bs =>
    if isDigit b then
      let next := significand * 10 + digitOf b
      if greatestSignificand < next then readLong negative 0 significand (b :: bs)
      else readDigits negative next bs
    else readAfterDigits negative significand (b :: bs)

/-- A number after its sign; a zero is not followed by a digit. -/
def readNumber (negative : Bool) : Reader Number
  | [] => stop .endInValue []
  | b :: bs =>
    if b = 48 then
      match bs with
      | [] => readAfterDigits negative 0 []
      | c :: rest =>
        if isDigit c then stop .invalidNumber rest else readAfterDigits negative 0 (c :: rest)
    else if isDigit b then readDigits negative (digitOf b) bs
    else stop .invalidNumber bs

/-! ## Strings -/

def quote : UInt8 := 34

def backslash : UInt8 := 92

/-- The character that a one-letter escape stands for. -/
def escapedChar? (b : UInt8) : Option Char :=
  if b = 34 then some '"'
  else if b = 92 then some '\\'
  else if b = 47 then some '/'
  else if b = 98 then some '\x08'
  else if b = 102 then some '\x0c'
  else if b = 110 then some '\n'
  else if b = 114 then some '\r'
  else if b = 116 then some '\t'
  else none

def hexValue? (digits : Bytes) : Option Nat :=
  digits.foldlM (fun n b => (Hex.value? b).map (n * 16 + ·)) 0

/-- Where a string reader is: among plain bytes (`start` is where they began and `chunk` holds them,
last first), after a backslash, among four hexadecimal digits (last first) of a code unit, or behind
a leading surrogate. -/
inductive Within where
  | plain (start chunk : Bytes)
  | escape
  | hex (leading : Option Nat) (digits : Bytes)
  | leading (unit : Nat)
  | leadingEscape (unit : Nat)

/-- Plain bytes have to be UTF-8. -/
def endChunk (start chunk : Bytes) : Except Stop (List Char) :=
  match Text.Utf8.decode? chunk.reverse with
  | some cs => .ok cs
  | none => stop .invalidUnicode (start.drop (Text.Utf8.validLength chunk.reverse + 1))

/-- What a complete code unit gives: a character, or the leading half of one. -/
def endUnit (leading : Option Nat) (digits rest : Bytes) : Except Stop (Char ⊕ Nat) :=
  match hexValue? digits.reverse, leading with
  | none, _ => stop .invalidEscape rest
  | some n, none =>
    if 0xDC00 ≤ n ∧ n ≤ 0xDFFF then stop .loneSurrogate rest
    else if 0xD800 ≤ n ∧ n ≤ 0xDBFF then .ok (.inr n)
    else .ok (.inl (Char.ofNat n))
  | some n, some high =>
    if 0xDC00 ≤ n ∧ n ≤ 0xDFFF then
      .ok (.inl (Char.ofNat (0x10000 + (high - 0xD800) * 0x400 + (n - 0xDC00))))
    else stop .loneSurrogate rest

/-- What follows the opening quote of a string; `text` is what has been read of it. -/
def readStringFrom (text : List Char) : Within → Reader String
  | _, [] => stop .endInString []
  | .plain start chunk, b :: bs =>
    if b = quote then do
      .ok (String.ofList (text ++ (← endChunk start chunk)), bs)
    else if b = backslash then do
      readStringFrom (text ++ (← endChunk start chunk)) .escape bs
    else if b < 32 then stop .controlCharacter bs
    else readStringFrom text (.plain start (b :: chunk)) bs
  | .escape, b :: bs =>
    if b = 117 then readStringFrom text (.hex none []) bs
    else match escapedChar? b with
      | some c => readStringFrom (text ++ [c]) (.plain bs []) bs
      | none => stop .invalidEscape bs
  | .hex leading digits, b :: bs =>
    if digits.length < 3 then readStringFrom text (.hex leading (b :: digits)) bs
    else do
      match ← endUnit leading (b :: digits) bs with
      | .inl c => readStringFrom (text ++ [c]) (.plain bs []) bs
      | .inr high => readStringFrom text (.leading high) bs
  | .leading high, b :: bs =>
    if b = backslash then readStringFrom text (.leadingEscape high) bs
    else stop .unfinishedSurrogatePair bs
  | .leadingEscape high, b :: bs =>
    if b = 117 then readStringFrom text (.hex (some high) []) bs
    else stop .unfinishedSurrogatePair bs

def readString : Reader String := fun bs => readStringFrom [] (.plain bs []) bs

/-- Passes over a string without asking for its characters; `digits` counts the hexadecimal digits
that an escape still has to have. -/
def skipStringFrom (digits : Bytes) (inEscape : Option Bool) : Reader Unit
  | [] => stop .endInString []
  | b :: bs =>
    match inEscape with
    | none =>
      if b = quote then .ok ((), bs)
      else if b = backslash then skipStringFrom [] (some false) bs
      else if b < 32 then stop .controlCharacter (b :: bs)
      else skipStringFrom [] none bs
    | some false =>
      if b = 117 then skipStringFrom [] (some true) bs
      else if (escapedChar? b).isSome then skipStringFrom [] none bs
      else stop .invalidEscape bs
    | some true =>
      if digits.length < 3 then skipStringFrom (b :: digits) (some true) bs
      else if (hexValue? (b :: digits).reverse).isSome then skipStringFrom [] none bs
      else stop .invalidEscape bs

def skipString : Reader Unit := skipStringFrom [] none

/-- Passes over a number without asking for its value. -/
def skipExponent : Reader Unit := fun bs =>
  match (readExponentSign bs).2 with
  | [] => stop .invalidNumber []
  | b :: bs => if isDigit b then .ok ((), bs.dropWhile isDigit) else stop .invalidNumber bs

def skipFraction : Reader Unit
  | [] => stop .invalidNumber []
  | b :: bs =>
    if isDigit b then
      match bs.dropWhile isDigit with
      | [] => .ok ((), [])
      | c :: rest => if isExponentLetter c then skipExponent rest else .ok ((), c :: rest)
    else stop .invalidNumber bs

def skipAfterDigits : Reader Unit
  | [] => .ok ((), [])
  | b :: bs =>
    if b = 46 then skipFraction bs
    else if isExponentLetter b then skipExponent bs
    else .ok ((), b :: bs)

def skipNumber : Reader Unit
  | [] => stop .invalidNumber []
  | b :: bs =>
    if b = 48 then
      match bs with
      | [] => .ok ((), [])
      | c :: rest => if isDigit c then stop .invalidNumber rest else skipAfterDigits (c :: rest)
    else if isDigit b then skipAfterDigits (bs.dropWhile isDigit)
    else stop .invalidNumber bs

end Sidecar.Json
