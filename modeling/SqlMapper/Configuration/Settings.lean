import SqlMapper.Command

namespace SqlMapper

/-- How a session issues statements: a fresh one for each call, one kept for each SQL text, or
mutations queued until they are flushed. -/
inductive ExecutorType where
  | simple | reuse | batch
  deriving DecidableEq

namespace ExecutorType

def all : List ExecutorType := [simple, reuse, batch]

def name : ExecutorType → String
  | simple => "simple"
  | reuse => "reuse"
  | batch => "batch"

def named? (s : String) : Option ExecutorType := all.find? (·.name == s)

end ExecutorType

/-- How long a session's cached rows last: until something may have changed them, or not at all. -/
inductive CacheScope where
  | session | statement
  deriving DecidableEq

namespace CacheScope

def all : List CacheScope := [session, statement]

def name : CacheScope → String
  | session => "session"
  | statement => "statement"

def named? (s : String) : Option CacheScope := all.find? (·.name == s)

end CacheScope

structure Settings where
  executorType : ExecutorType
  timeout : Option Nat
  fetchSize : Option Nat
  cacheScope : CacheScope
  /-- Arguments go by their declared names, not by their positions. -/
  usesDeclaredNames : Bool
  /-- Columns in snake case become fields in camel case. -/
  camelCaseFields : Bool
  statementKind : StatementKind
  deriving DecidableEq

def Settings.standard : Settings where
  executorType := .simple
  timeout := none
  fetchSize := none
  cacheScope := .session
  usesDeclaredNames := true
  camelCaseFields := false
  statementKind := .prepared

end SqlMapper
