import SqlMapper.Toml.Value

namespace SqlMapper.TomlReader

inductive Origin where
  | header | implied | dotted
  deriving DecidableEq

inductive Node where
  | value (v : Toml)
  | table (origin : Origin) (entries : List (String × Node))
  | tables (elements : List (List (String × Node)))

def changeLast (f : NameMap Node → Option (NameMap Node)) (elements : List (NameMap Node)) :
    Option (List (NameMap Node)) :=
  match elements.getLast? with
  | some last => (f last).map fun t => elements.dropLast ++ [t]
  | none => none

/-- Sets a key of the table that a dotted path leads to. Only tables that came from dotted keys can
be extended in this way, and no key can be set twice. -/
def setKey (key : String) (v : Toml) : List String → NameMap Node → Option (NameMap Node)
  | [], t => if t.contains key then none else some (t.insert key (.value v))
  | k :: path, t =>
    match t.get? k with
    | none => (setKey key v path []).map fun c => t.insert k (.table .dotted c)
    | some (.table origin entries) =>
      if origin = .header ∨ (path = [] ∧ origin ≠ .dotted) then none
      else (setKey key v path entries).map fun c => t.insert k (.table origin c)
    | some (.tables elements) =>
      if path = [] then none
      else (changeLast (setKey key v path) elements).map fun e => t.insert k (.tables e)
    | some (.value _) => none

/-- Applies `f` to the table that a path of headers leads to, creating the tables on the way. Of an
array of tables the last is meant. -/
def descend (f : NameMap Node → Option (NameMap Node)) :
    List String → NameMap Node → Option (NameMap Node)
  | [], t => f t
  | k :: path, t =>
    match t.get? k with
    | none => (descend f path []).map fun c => t.insert k (.table .implied c)
    | some (.table origin entries) =>
      (descend f path entries).map fun c => t.insert k (.table origin c)
    | some (.tables elements) =>
      (changeLast (descend f path) elements).map fun e => t.insert k (.tables e)
    | some (.value _) => none

/-- Opens a table under a key. A table that headers only implied may be opened, once. -/
def openTable (key : String) (t : NameMap Node) : Option (NameMap Node) :=
  match t.get? key with
  | none => some (t.insert key (.table .header []))
  | some (.table .implied entries) => some (t.insert key (.table .header entries))
  | some _ => none

def openElement (key : String) (t : NameMap Node) : Option (NameMap Node) :=
  match t.get? key with
  | none => some (t.insert key (.tables [[]]))
  | some (.tables elements) => some (t.insert key (.tables (elements ++ [[]])))
  | some _ => none

mutual

def Node.finish : Node → Toml
  | .value v => v
  | .table _ entries => .table (finishEntries entries)
  | .tables elements => .array (finishElements elements)

def finishEntries : List (String × Node) → List (String × Toml)
  | [] => []
  | (k, n) :: rest => (k, n.finish) :: finishEntries rest

def finishElements : List (List (String × Node)) → List Toml
  | [] => []
  | entries :: rest => .table (finishEntries entries) :: finishElements rest

end

end SqlMapper.TomlReader
