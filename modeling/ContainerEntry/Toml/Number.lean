import ContainerEntry.Toml.Text

/-!
# Numbers and dates

No setting is a number, but a malformed one makes the whole document malformed, so the bounds are
kept: integers fit 64 bits with a sign, a decimal number does not round to infinity, and a date
exists.  Whether a decimal rounds to infinity is decided on its digits in exact arithmetic.

Each reader gives the text behind what it passed over.
-/

namespace ContainerEntry.Toml

open Bytes ContainerEntry.Text

/-- The text without one sign at its start. -/
def skipSign : Bytes → Bytes
  | plus :: rest => rest
  | hyphen :: rest => rest
  | text => text

/-- Digits of a class with single underscores between them; `pending` tells that a digit has to
come next. -/
def readDigits (isMember : UInt8 → Bool) : Bool → Bytes → Option (Bytes × Bytes)
  | pending, [] => if pending then none else some ([], [])
  | pending, b :: rest =>
    if isMember b then (readDigits isMember false rest).map fun (ds, rest) => (b :: ds, rest)
    else if pending then none
    else if b = underscore then readDigits isMember true rest
    else some ([], b :: rest)

/-- An unsigned decimal integer without leading zeros. -/
def readDecimal : Bytes → Option (Bytes × Bytes)
  | zero :: rest => some ([zero], rest)
  | text => readDigits isDigit true text

/-! ### Integers -/

/-- The greatest integer of 64 bits with a sign. -/
def maxInteger : Nat := 9223372036854775807

/-- The value of digits in a base. -/
def digitsIn (base : Nat) (digits : Bytes) : Nat :=
  digits.foldl (fun acc d => base * acc + hexValue d) 0

/-- The text behind an integer with a base of its own. -/
def skipBased (base : Nat) (isMember : UInt8 → Bool) (text : Bytes) : Option Bytes :=
  (readDigits isMember true text).bind fun (digits, rest) =>
    if digitsIn base digits ≤ maxInteger then some rest else none

/-- The text behind an integer. -/
def skipInteger (text : Bytes) : Option Bytes :=
  match text with
  | zero :: 0x78 :: rest => skipBased 16 isHex rest
  | zero :: 0x6f :: rest => skipBased 8 (fun b => zero ≤ b && b ≤ 0x37) rest
  | zero :: 0x62 :: rest => skipBased 2 (fun b => b = zero || b = 0x31) rest
  | _ =>
    (readDecimal (skipSign text)).bind fun (digits, rest) =>
      let bound := if text.head? = some hyphen then maxInteger + 1 else maxInteger
      if digitsValue 0 digits ≤ bound then some rest else none

/-! ### Decimal numbers -/

/-- The least number that rounds to infinity: halfway between the greatest double and the power of
two above it. -/
def infinityBound : Nat := Nat.pow 2 1024 - Nat.pow 2 970

/-- Whether `mantissa · 10 ^ exponent` rounds to infinity.  The count of digits decides unless the
number is near the bound, which has 309 digits. -/
def roundsToInfinity (mantissa : Nat) (exponent : Int) : Bool :=
  if mantissa = 0 then false
  else
    let size : Int := (decimal mantissa).length + exponent
    if size < 309 then false
    else if 309 < size then true
    else if 0 ≤ exponent then infinityBound ≤ mantissa * Nat.pow 10 exponent.toNat
    else infinityBound * Nat.pow 10 (-exponent).toNat ≤ mantissa

/-- An exponent with its sign. -/
def readExponent (text : Bytes) : Option (Int × Bytes) :=
  (readDigits isDigit true (skipSign text)).map fun (digits, rest) =>
    let value : Int := digitsValue 0 digits
    (if text.head? = some hyphen then -value else value, rest)

/-- The exponent that a decimal number may end in. -/
def readExponent? : Bytes → Option (Option Int × Bytes)
  | b :: rest =>
    if b = 0x65 || b = 0x45 then (readExponent rest).map fun (e, rest) => (some e, rest)
    else some (none, b :: rest)
  | [] => some (none, [])

/-- A decimal number's mantissa and exponent; it has a fraction, an exponent or both. -/
def readFloat (text : Bytes) : Option (Nat × Int × Bytes) := do
  let (whole, rest) ← readDecimal (skipSign text)
  match rest with
  | dot :: rest =>
    let (fraction, rest) ← readDigits isDigit true rest
    let (exponent, rest) ← readExponent? rest
    return (digitsValue 0 (whole ++ fraction), exponent.getD 0 - fraction.length, rest)
  | rest =>
    match ← readExponent? rest with
    | (some exponent, rest) => return (digitsValue 0 whole, exponent, rest)
    | (none, _) => none

/-- The text behind a decimal number, an infinity or no number. -/
def skipFloat (text : Bytes) : Option Bytes :=
  match readFloat text with
  | some (mantissa, exponent, rest) =>
    if text.head? != some hyphen && roundsToInfinity mantissa exponent then none else some rest
  | none => (skipWord "inf" (skipSign text)).orElse fun _ => skipWord "nan" (skipSign text)

/-! ### Dates and times -/

/-- A number of exactly `n` digits between two bounds. -/
def readField (n lo hi : Nat) (text : Bytes) : Option (Nat × Bytes) :=
  let digits := text.take n
  let value := digitsValue 0 digits
  if digits.length = n && digits.all isDigit && lo ≤ value && value ≤ hi then
    some (value, text.drop n)
  else none

/-- The text behind a byte. -/
def skipByte (b : UInt8) : Bytes → Option Bytes
  | c :: rest => if c = b then some rest else none
  | [] => none

/-- How many days a month has. -/
def daysIn (year month : Nat) : Nat :=
  if month = 2 then
    if year % 4 = 0 && (year % 100 != 0 || year % 400 = 0) then 29 else 28
  else if month = 4 || month = 6 || month = 9 || month = 11 then 30 else 31

/-- The text behind a date. -/
def skipDate (text : Bytes) : Option Bytes := do
  let (year, rest) ← readField 4 0 9999 text
  let (month, rest) ← readField 2 1 12 (← skipByte hyphen rest)
  let (_, rest) ← readField 2 1 (daysIn year month) (← skipByte hyphen rest)
  return rest

/-- The text behind a time of day; a second may be a leap second. -/
def skipTime (text : Bytes) : Option Bytes := do
  let (_, rest) ← readField 2 0 23 text
  let (_, rest) ← readField 2 0 59 (← skipByte colon rest)
  let (_, rest) ← readField 2 0 60 (← skipByte colon rest)
  match rest with
  | dot :: fraction =>
    match fraction with
    | b :: rest => if isDigit b then return rest.dropWhile isDigit else return dot :: fraction
    | [] => return [dot]
  | rest => return rest

/-- The text behind the offset that may follow a time. -/
def skipOffset (text : Bytes) : Option Bytes :=
  let hours (rest : Bytes) : Option Bytes := do
    let (_, rest) ← readField 2 0 23 rest
    let (_, rest) ← readField 2 0 59 (← skipByte colon rest)
    return rest
  match text with
  | b :: rest =>
    if b = 0x5a || b = 0x7a then some rest
    else if b = plus || b = hyphen then hours rest
    else some text
  | [] => some []

/-- The text behind a date, a time or both.  A blank behind a date belongs to it only if a time
follows. -/
def skipMoment (text : Bytes) : Option Bytes :=
  match skipDate text with
  | none => skipTime text
  | some rest =>
    match rest with
    | b :: time =>
      if b = 0x54 || b = 0x74 || b = space then
        match skipTime time with
        | some rest => skipOffset rest
        | none => some rest
      else some rest
    | [] => some []

end ContainerEntry.Toml
