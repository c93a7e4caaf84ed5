namespace SqlMapper.TomlReader

def isSpace (c : Char) : Bool := c == ' ' || c == '\t'

/-- The characters that may stand in a comment: all but control characters, tabs apart. -/
def isPrintable (c : Char) : Bool := c == '\t' || (32 ≤ c.toNat && c.toNat != 127)

def isBareKey (c : Char) : Bool := c.isAlphanum || c == '_' || c == '-'

def dropSpaces (cs : List Char) : List Char := cs.dropWhile isSpace

def newline? : List Char → Option (List Char)
  | '\n' :: rest => some rest
  | '\r' :: '\n' :: rest => some rest
  | _ => none

def digit? (base : Nat) (c : Char) : Option Nat :=
  let n :=
    if c.isDigit then some (c.toNat - '0'.toNat)
    else if 'a' ≤ c ∧ c ≤ 'f' then some (c.toNat - 'a'.toNat + 10)
    else if 'A' ≤ c ∧ c ≤ 'F' then some (c.toNat - 'A'.toNat + 10)
    else none
  n.filter (· < base)

def escaped? : Char → Option Char
  | 'b' => some '\x08'
  | 't' => some '\t'
  | 'n' => some '\n'
  | 'f' => some '\x0c'
  | 'r' => some '\r'
  | '"' => some '"'
  | '\\' => some '\\'
  | _ => none

def character? (code : Nat) : Option Char :=
  if code.isValidChar then some (Char.ofNat code) else none

inductive StringState where
  | plain
  | escape
  | code (digitsLeft : Nat) (value : Nat)
  | lineEnd
  | nextLine

open StringState

def escapeStep (c : Char) : Option (List Char × StringState) :=
  match escaped? c with
  | some e => some ([e], plain)
  | none =>
    if c = 'u' then some ([], code 4 0) else if c = 'U' then some ([], code 8 0) else none

def codeStep (digitsLeft value : Nat) (c : Char) : Option (List Char × StringState) := do
  let d ← digit? 16 c
  let value := value * 16 + d
  if digitsLeft = 1 then return ([← character? value], plain)
  return ([], code (digitsLeft - 1) value)

def basicString : StringState → List Char → Option (List Char × List Char)
  | _, [] => none
  | plain, c :: rest =>
    if c = '"' then some ([], rest)
    else if c = '\\' then basicString escape rest
    else if isPrintable c then (basicString plain rest).map fun (s, r) => (c :: s, r)
    else none
  | escape, c :: rest => do
    let (e, state) ← escapeStep c
    let (s, r) ← basicString state rest
    return (e ++ s, r)
  | code n v, c :: rest => do
    let (e, state) ← codeStep n v c
    let (s, r) ← basicString state rest
    return (e ++ s, r)
  | _, _ :: _ => none

/-- The rest of a string in three double quotes. Up to two quotes may stand before the last three. -/
def basicText : StringState → List Char → Option (List Char × List Char)
  | nextLine, '\r' :: '\n' :: rest => basicText nextLine rest
  | lineEnd, '\r' :: '\n' :: rest => basicText nextLine rest
  | escape, '\r' :: '\n' :: rest => basicText nextLine rest
  | plain, '\r' :: '\n' :: rest => (basicText plain rest).map fun (s, r) => ('\n' :: s, r)
  | nextLine, '"' :: '"' :: '"' :: '"' :: '"' :: rest => some (['"', '"'], rest)
  | nextLine, '"' :: '"' :: '"' :: '"' :: rest => some (['"'], rest)
  | nextLine, '"' :: '"' :: '"' :: rest => some ([], rest)
  | plain, '"' :: '"' :: '"' :: '"' :: '"' :: rest => some (['"', '"'], rest)
  | plain, '"' :: '"' :: '"' :: '"' :: rest => some (['"'], rest)
  | plain, '"' :: '"' :: '"' :: rest => some ([], rest)
  | _, [] => none
  | lineEnd, c :: rest =>
    if isSpace c then basicText lineEnd rest
    else if c = '\n' then basicText nextLine rest
    else none
  | escape, c :: rest =>
    if isSpace c then basicText lineEnd rest
    else if c = '\n' then basicText nextLine rest
    else do
      let (e, state) ← escapeStep c
      let (s, r) ← basicText state rest
      return (e ++ s, r)
  | code n v, c :: rest => do
    let (e, state) ← codeStep n v c
    let (s, r) ← basicText state rest
    return (e ++ s, r)
  | nextLine, c :: rest =>
    if isSpace c || c = '\n' then basicText nextLine rest
    else if c = '\\' then basicText escape rest
    else if isPrintable c then (basicText plain rest).map fun (s, r) => (c :: s, r)
    else none
  | plain, c :: rest =>
    if c = '\\' then basicText escape rest
    else if isPrintable c || c = '\n' then (basicText plain rest).map fun (s, r) => (c :: s, r)
    else none

/-- The rest of a string in single quotes, which has no escapes. -/
def literalString : List Char → Option (List Char × List Char)
  | [] => none
  | c :: rest =>
    if c = '\'' then some ([], rest)
    else if isPrintable c then (literalString rest).map fun (s, r) => (c :: s, r)
    else none

def literalText : List Char → Option (List Char × List Char)
  | [] => none
  | '\'' :: '\'' :: '\'' :: '\'' :: '\'' :: rest => some (['\'', '\''], rest)
  | '\'' :: '\'' :: '\'' :: '\'' :: rest => some (['\''], rest)
  | '\'' :: '\'' :: '\'' :: rest => some ([], rest)
  | '\r' :: '\n' :: rest => (literalText rest).map fun (s, r) => ('\n' :: s, r)
  | c :: rest =>
    if isPrintable c || c = '\n' then (literalText rest).map fun (s, r) => (c :: s, r) else none

def lineString : List Char → Option (List Char × List Char)
  | '"' :: rest => basicString plain rest
  | '\'' :: rest => literalString rest
  | _ => none

/-- A string of any kind at the front of the text. A line ending right after three quotes is not
part of the string. -/
def string : List Char → Option (List Char × List Char)
  | '"' :: '"' :: '"' :: rest => basicText plain ((newline? rest).getD rest)
  | '\'' :: '\'' :: '\'' :: rest => literalText ((newline? rest).getD rest)
  | cs => lineString cs

end SqlMapper.TomlReader
