import SqlMapper.Sql.Template

namespace SqlMapper

inductive CommandKind where
  | insert | update | delete | select
  /-- Sends what is queued. -/
  | flush
  /-- Cannot be bound to a method. -/
  | unknown
  deriving DecidableEq

namespace CommandKind

def all : List CommandKind := [insert, update, delete, select, flush, unknown]

/-- The name in configurations. -/
def name : CommandKind → String
  | insert => "insert"
  | update => "update"
  | delete => "delete"
  | select => "select"
  | flush => "flush"
  | unknown => "unknown"

def named? (s : String) : Option CommandKind := all.find? (·.name == s)

def isMutation : CommandKind → Bool
  | insert | update | delete => true
  | _ => false

/-- The name in messages. -/
def text : CommandKind → String
  | insert => "INSERT"
  | update => "UPDATE"
  | delete => "DELETE"
  | select => "SELECT"
  | flush => "FLUSH"
  | unknown => "UNKNOWN"

end CommandKind

/-- How a command's SQL reaches the database: as literal text, prepared with values bound by
position, or as a procedure call that may give values back. -/
inductive StatementKind where
  | statement | prepared | callable
  deriving DecidableEq

namespace StatementKind

def all : List StatementKind := [statement, prepared, callable]

def name : StatementKind → String
  | statement => "statement"
  | prepared => "prepared"
  | callable => "callable"

def named? (s : String) : Option StatementKind := all.find? (·.name == s)

end StatementKind

inductive KeyGenerator where
  | none
  /-- The database's own keys go to these properties, in column order. -/
  | generated (properties : List String)
  /-- The value of a select command goes to a property, before the mutation runs or after it. -/
  | selectKey (command property : String) (before : Bool)
  deriving DecidableEq

def KeyGenerator.isGenerated : KeyGenerator → Bool
  | generated _ => true
  | _ => false

structure Command where
  id : String
  kind : CommandKind
  source : SqlSource
  /-- Left open until a configuration fills in its default. -/
  statementKind? : Option StatementKind
  resultType : Option String
  keys : KeyGenerator
  timeout : Option Nat
  fetchSize : Option Nat
  flushesCache : Bool

namespace Command

/-- A command with nothing but its text. All but selects flush the cache unless told otherwise. -/
def ofSource (id : String) (kind : CommandKind) (source : SqlSource) : Command where
  id := id
  kind := kind
  source := source
  statementKind? := none
  resultType := none
  keys := .none
  timeout := none
  fetchSize := none
  flushesCache := kind != .select

def statementKind (c : Command) : StatementKind :=
  c.statementKind?.getD .prepared

def withDefaultKind (c : Command) (kind : StatementKind) : Command :=
  { c with statementKind? := some (c.statementKind?.getD kind) }

@[simp] theorem id_withDefaultKind (c : Command) (kind : StatementKind) :
    (c.withDefaultKind kind).id = c.id := rfl

@[simp] theorem keys_withDefaultKind (c : Command) (kind : StatementKind) :
    (c.withDefaultKind kind).keys = c.keys := rfl

end Command

end SqlMapper
