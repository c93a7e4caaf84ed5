import SqlMapper.Configuration.Basic
import SqlMapper.Toml.Document

namespace SqlMapper.ConfigurationDocument

/-- The fields of a record, which has no others. -/
def record (names : List String) : Toml → Option (NameMap Toml)
  | .table entries => if entries.all fun e => names.contains e.1 then some entries else none
  | .array items => some (names.zip items)
  | _ => none

def optional {α : Type} (read : Toml → Option α) (name : String) (fields : NameMap Toml) :
    Option (Option α) :=
  match fields.get? name with
  | none => some none
  | some v => (read v).map some

def required {α : Type} (read : Toml → Option α) (name : String) (fields : NameMap Toml) :
    Option α :=
  (fields.get? name).bind read

def string? : Toml → Option String
  | .string s => some s
  | _ => none

def boolean? : Toml → Option Bool
  | .boolean b => some b
  | _ => none

def count? : Toml → Option Nat
  | .integer n => if 0 ≤ n ∧ n < 0x100000000 then some n.toNat else none
  | _ => none

def choice {α : Type} (named : String → Option α) : Toml → Option α
  | .string s => named s
  | .table [(name, .table [])] => named name
  | .table [(name, .array [])] => named name
  | _ => none

def settings (v : Toml) : Option Settings := do
  let fields ← record ["default_executor_type", "default_statement_timeout", "default_fetch_size",
    "local_cache_scope", "use_actual_param_name", "map_underscore_to_camel_case",
    "default_statement_kind"] v
  return {
    executorType := (← optional (choice ExecutorType.named?) "default_executor_type" fields).getD .simple
    timeout := ← optional count? "default_statement_timeout" fields
    fetchSize := ← optional count? "default_fetch_size" fields
    cacheScope := (← optional (choice CacheScope.named?) "local_cache_scope" fields).getD .session
    usesDeclaredNames := (← optional boolean? "use_actual_param_name" fields).getD true
    camelCaseFields := (← optional boolean? "map_underscore_to_camel_case" fields).getD false
    statementKind :=
      (← optional (choice StatementKind.named?) "default_statement_kind" fields).getD .prepared }

def strings? : Toml → Option (List String)
  | .array items => items.mapM string?
  | _ => none

def isBefore? : Toml → Option Bool
  | .string "before" | .table [("before", .table [])] => some true
  | .string "after" | .table [("after", .table [])] => some false
  | _ => none

/-- The fields of a key generator of one type. It may have others, unless it is an array. -/
def keyFields (names : List String) : Toml → Option (NameMap Toml)
  | .table entries => some entries
  | .array (_ :: items) => if items.length ≤ names.length then some (names.zip items) else none
  | _ => none

/-- The type of a key generator: the field of that name or the first item. -/
def keyType : Toml → Option String
  | .table entries => required string? "type" entries
  | .array (type :: _) => string? type
  | _ => none

def keyGenerator (v : Toml) : Option KeyGenerator := do
  match ← keyType v with
  | "generated" =>
    let fields ← keyFields ["key_properties"] v
    return .generated (← required strings? "key_properties" fields)
  | "select_key" =>
    let fields ← keyFields ["command", "key_property", "order"] v
    return .selectKey (← required string? "command" fields)
      (← required string? "key_property" fields)
      ((← optional isBefore? "order" fields).getD false)
  | _ => none

def command (v : Toml) : Option CommandEntry := do
  let fields ← record ["id", "kind", "sql", "statement_kind", "result_type", "timeout",
    "fetch_size", "flush_cache", "key_generator"] v
  return {
    id := ← required string? "id" fields
    kind := ← required (choice CommandKind.named?) "kind" fields
    sql := ← required string? "sql" fields
    statementKind := ← optional (choice StatementKind.named?) "statement_kind" fields
    resultType := ← optional string? "result_type" fields
    timeout := ← optional count? "timeout" fields
    fetchSize := ← optional count? "fetch_size" fields
    flushesCache := ← optional boolean? "flush_cache" fields
    keys := (← optional keyGenerator "key_generator" fields).getD .none }

def commands? : Toml → Option (List CommandEntry)
  | .array items => items.mapM command
  | _ => none

def plan? (text : String) : Option ConfigurationPlan := do
  let fields ← record ["settings", "command"] (.table (← TomlReader.parse text))
  let settings ← optional settings "settings" fields
  let entries ← optional commands? "command" fields
  return { ConfigurationPlan.standard with
    settings := settings.getD .standard
    entries := entries.getD [] }

def read (text : String) : Except ConfigFault ConfigurationPlan :=
  match plan? text with
  | some plan => .ok plan
  | none => .error .malformedDocument

end SqlMapper.ConfigurationDocument
