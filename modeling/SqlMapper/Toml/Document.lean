import SqlMapper.Toml.Number
import SqlMapper.Toml.Table

namespace SqlMapper.TomlReader

/-- How deep values may be nested, and how many parts a key may have. -/
def depthLimit : Nat := 79

def dropComment : List Char → List Char
  | '#' :: rest => rest.dropWhile isPrintable
  | cs => cs

def dropLines : Nat → List Char → List Char
  | 0, cs => cs
  | fuel + 1, cs =>
    let rest := dropComment (dropSpaces cs)
    match newline? rest with
    | some rest => dropLines fuel rest
    | none => if (dropSpaces cs).head? = some '#' then cs else rest

def expect (c : Char) : List Char → Option (List Char)
  | d :: rest => if c = d then some rest else none
  | [] => none

def keyPart (cs : List Char) : Option (String × List Char) :=
  match lineString cs with
  | some (s, rest) => some (String.ofList s, rest)
  | none =>
    match cs.takeWhile isBareKey with
    | [] => none
    | name => some (String.ofList name, cs.dropWhile isBareKey)

/-- The parts of a dotted key, and the text after it without spaces in front. -/
def keyParts : Nat → List Char → Option (List String × List Char)
  | 0, _ => none
  | fuel + 1, cs => do
    let (part, rest) ← keyPart (dropSpaces cs)
    match dropSpaces rest with
    | '.' :: rest =>
      let (parts, rest) ← keyParts fuel rest
      return (part :: parts, rest)
    | rest => return ([part], rest)

def key (cs : List Char) : Option (List String × List Char) :=
  keyParts depthLimit cs

mutual

/-- A value at the front of the text, nested at most `depth` deep. -/
def value (depth : Nat) : Nat → List Char → Option (Toml × List Char)
  | 0, _ => none
  | fuel + 1, cs =>
    match depth, cs with
    | 0, '[' :: _ | 0, '\x7b' :: _ => none
    | depth + 1, '[' :: rest => do
      let (items, rest) ← elements depth fuel (dropLines rest.length rest)
      return (.array items, rest)
    | depth + 1, '\x7b' :: rest => do
      match dropSpaces rest with
      | '\x7d' :: rest => return (.table [], rest)
      | rest =>
        let (entries, rest) ← members depth fuel rest []
        return (.table (finishEntries entries), rest)
    | _, '"' :: _ | _, '\'' :: _ => do
      let (s, rest) ← string cs
      return (.string (String.ofList s), rest)
    | _, _ => word cs

def elements (depth : Nat) : Nat → List Char → Option (List Toml × List Char)
  | 0, _ => none
  | fuel + 1, cs =>
    match cs with
    | ']' :: rest => some ([], rest)
    | _ => do
      let (item, rest) ← value depth fuel cs
      match dropLines rest.length rest with
      | ']' :: rest => return ([item], rest)
      | ',' :: rest =>
        let (items, rest) ← elements depth fuel (dropLines rest.length rest)
        return (item :: items, rest)
      | _ => none

def members (depth : Nat) : Nat → List Char → NameMap Node → Option (NameMap Node × List Char)
  | 0, _, _ => none
  | fuel + 1, cs, t => do
    let (path, rest) ← key cs
    let rest ← expect '=' rest
    let (v, rest) ← value depth fuel (dropSpaces rest)
    let t ← setKey (path.getLastD "") v path.dropLast t
    match dropSpaces rest with
    | ',' :: rest => members depth fuel rest t
    | '\x7d' :: rest => return (t, rest)
    | _ => none

end

inductive Line where
  | blank
  | keyValue (path : List String) (v : Toml)
  | table (path : List String)
  | element (path : List String)

def line (cs : List Char) : Option (Line × List Char) :=
  match dropSpaces cs with
  | [] => some (.blank, [])
  | '#' :: rest => some (.blank, '#' :: rest)
  | '\n' :: rest => some (.blank, '\n' :: rest)
  | '\r' :: rest => some (.blank, '\r' :: rest)
  | '[' :: '[' :: rest => do
    let (path, rest) ← key rest
    return (.element path, ← expect ']' (← expect ']' rest))
  | '[' :: rest => do
    let (path, rest) ← key rest
    return (.table path, ← expect ']' rest)
  | rest => do
    let (path, rest) ← key rest
    let rest := dropSpaces (← expect '=' rest)
    let (v, rest) ← value depthLimit (2 * rest.length + 2) rest
    return (.keyValue path v, rest)

def lines : Nat → List Char → Option (List Line)
  | 0, _ => none
  | fuel + 1, cs => do
    let (first, rest) ← line cs
    match dropComment (dropSpaces rest) with
    | [] => return [first]
    | rest => return first :: (← lines fuel (← newline? rest))

/-- A document as it is read: the path of the open table, and all tables so far. -/
structure Draft where
  path : List String
  root : NameMap Node

def Draft.add (d : Draft) : Line → Option Draft
  | .blank => some d
  | .keyValue path v =>
    (descend (setKey (path.getLastD "") v path.dropLast) d.path d.root).map (⟨d.path, ·⟩)
  | .table path => (descend (openTable (path.getLastD "")) path.dropLast d.root).map (⟨path, ·⟩)
  | .element path =>
    (descend (openElement (path.getLastD "")) path.dropLast d.root).map (⟨path, ·⟩)

/-- The entries of a document, or nothing if it is malformed. -/
def parse (text : String) : Option (NameMap Toml) := do
  let cs := match text.toList with
    | '\uFEFF' :: rest => rest
    | cs => cs
  let d ← (← lines (cs.length + 1) cs).foldlM Draft.add ⟨[], []⟩
  return finishEntries d.root

end SqlMapper.TomlReader
