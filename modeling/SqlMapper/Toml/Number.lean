import SqlMapper.Toml.Text
import SqlMapper.Toml.Value
import SqlMapper.Value.Binary64

namespace SqlMapper.TomlReader

/-- The number of a run of digits in which single underscores may stand between digits. -/
def digitsFrom (base value : Nat) : List Char → Option Nat
  | [] => some value
  | '_' :: c :: rest => (digit? base c).bind fun d => digitsFrom base (value * base + d) rest
  | c :: rest => (digit? base c).bind fun d => digitsFrom base (value * base + d) rest

def digits (base : Nat) : List Char → Option Nat
  | [] => none
  | c :: rest => (digit? base c).bind fun d => digitsFrom base d rest

def decimal (cs : List Char) : Option Nat :=
  match cs with
  | '0' :: _ :: _ => none
  | _ => digits 10 cs

def signed (cs : List Char) : Bool × List Char :=
  match cs with
  | '-' :: rest => (true, rest)
  | '+' :: rest => (false, rest)
  | _ => (false, cs)

/-- An integer of 64 bits, in base ten with an optional sign or in base 16, 8 or 2 without. -/
def integer (cs : List Char) : Option Int := do
  let n : Int ← match cs with
    | '0' :: 'x' :: rest => (digits 16 rest).map Int.ofNat
    | '0' :: 'o' :: rest => (digits 8 rest).map Int.ofNat
    | '0' :: 'b' :: rest => (digits 2 rest).map Int.ofNat
    | _ =>
      let (negative, magnitude) := signed cs
      (decimal magnitude).map fun n => if negative then -(n : Int) else n
  if -0x8000000000000000 ≤ n ∧ n < 0x8000000000000000 then some n else none

def cutAt (p : Char → Bool) (cs : List Char) : List Char × List Char :=
  (cs.takeWhile (!p ·), cs.dropWhile (!p ·))

def exponent? (cs : List Char) : Option Int :=
  match cs with
  | _ :: rest =>
    let (negative, magnitude) := signed rest
    (digits 10 magnitude).map fun n => if negative then -(n : Int) else n
  | [] => none

/-- A decimal without a sign that has a fraction, an exponent, or both: its digits as an integer and
the exponent of the power of ten they are multiplied by. -/
def scaled? (cs : List Char) : Option (Nat × Int) := do
  let (whole, rest) := cutAt (fun c => c = '.' || c = 'e' || c = 'E') cs
  let n ← decimal whole
  match rest with
  | '.' :: rest =>
    let (fraction, mark) := cutAt (fun c => c = 'e' || c = 'E') rest
    let f ← digits 10 fraction
    let e ← if mark.isEmpty then some 0 else exponent? mark
    let places := fraction.countP Char.isDigit
    return (n * Nat.pow 10 places + f, e - places)
  | mark => return (n, ← exponent? mark)

/-- A float: a name or a decimal. Only below zero may a decimal be too large for a finite datum. -/
def isFloat (cs : List Char) : Bool :=
  let (negative, magnitude) := signed cs
  if magnitude = "inf".toList ∨ magnitude = "nan".toList then true
  else (scaled? magnitude).any fun (n, e) => negative || (Binary64.ofDecimal false n e).isFinite

def twoDigits (a b : Char) : Option Nat := do
  return (← digit? 10 a) * 10 + (← digit? 10 b)

def daysIn (year month : Nat) : Nat :=
  if month = 2 then
    if year % 4 = 0 ∧ (year % 100 ≠ 0 ∨ year % 400 = 0) then 29 else 28
  else if month = 4 ∨ month = 6 ∨ month = 9 ∨ month = 11 then 30
  else 31

def date? : List Char → Option (List Char)
  | y1 :: y2 :: y3 :: y4 :: '-' :: m1 :: m2 :: '-' :: d1 :: d2 :: rest => do
    let year := (← twoDigits y1 y2) * 100 + (← twoDigits y3 y4)
    let month ← twoDigits m1 m2
    let day ← twoDigits d1 d2
    if 1 ≤ month ∧ month ≤ 12 ∧ 1 ≤ day ∧ day ≤ daysIn year month then some rest else none
  | _ => none

def time? : List Char → Option (List Char)
  | h1 :: h2 :: ':' :: m1 :: m2 :: ':' :: s1 :: s2 :: rest => do
    if 23 < (← twoDigits h1 h2) ∨ 59 < (← twoDigits m1 m2) ∨ 60 < (← twoDigits s1 s2) then none
    match rest with
    | '.' :: c :: rest => if c.isDigit then some (rest.dropWhile Char.isDigit) else none
    | _ => some rest
  | _ => none

def isOffset : List Char → Bool
  | [] | ['Z'] | ['z'] => true
  | [sign, h1, h2, ':', m1, m2] =>
    (sign == '+' || sign == '-') &&
      (twoDigits h1 h2).any (· ≤ 23) && (twoDigits m1 m2).any (· ≤ 59)
  | _ => false

def isDate (cs : List Char) : Bool :=
  match date? cs with
  | some [] => true
  | some (c :: rest) => (c == 'T' || c == 't' || c == ' ') && (time? rest).any isOffset
  | none => (time? cs).any List.isEmpty

def ofWord (cs : List Char) : Option Toml :=
  if cs = "true".toList then some (.boolean true)
  else if cs = "false".toList then some (.boolean false)
  else if isDate cs then some .date
  else if isFloat cs then some .float
  else (integer cs).map .integer

def isWordCharacter (c : Char) : Bool :=
  c.isAlphanum || c == '_' || c == '+' || c == '-' || c == '.' || c == ':'

/-- Whether a blank in front of the text stands between a date and its time. -/
def continuesDate : List Char → Bool
  | ' ' :: a :: b :: ':' :: _ => a.isDigit && b.isDigit
  | _ => false

def word (cs : List Char) : Option (Toml × List Char) := do
  let (first, rest) := cutAt (!isWordCharacter ·) cs
  if date? first = some [] ∧ continuesDate rest then
    let (second, rest) := cutAt (!isWordCharacter ·) rest.tail
    return (← ofWord (first ++ ' ' :: second), rest)
  else return (← ofWord first, rest)

end SqlMapper.TomlReader
