import SqlMapper.Configuration.Registry
import SqlMapper.Configuration.Settings
import SqlMapper.Result.Collection
import SqlMapper.Result.Mapper

namespace SqlMapper

/-- A command as a document describes it, its template not compiled yet. -/
structure CommandEntry where
  id : String
  kind : CommandKind
  sql : String
  statementKind : Option StatementKind
  resultType : Option String
  timeout : Option Nat
  fetchSize : Option Nat
  flushesCache : Option Bool
  keys : KeyGenerator

namespace CommandEntry

def withSource (e : CommandEntry) (source : SqlSource) : Command :=
  let command := Command.ofSource e.id e.kind source
  { command with
    statementKind? := e.statementKind
    resultType := e.resultType
    keys := e.keys
    timeout := e.timeout
    fetchSize := e.fetchSize
    flushesCache := e.flushesCache.getD command.flushesCache }

def compile (e : CommandEntry) : Except ConfigFault Command :=
  return e.withSource (.template (← Template.compile e.sql))

end CommandEntry

structure Configuration where
  settings : Settings
  registry : Registry
  collections : CollectionFactory
  mapper : RowMapper

/-- What a configuration is made from: the entries of a document, commands made in code, and
collaborators that replace the standard ones. -/
structure ConfigurationPlan where
  settings : Settings
  entries : List CommandEntry
  commands : List Command
  collections : Option CollectionFactory
  mapper : Option RowMapper

namespace ConfigurationPlan

def standard : ConfigurationPlan := ⟨.standard, [], [], none, none⟩

/-- A key query has to be a registered select. -/
def checkKeyCommand (r : Registry) (command : Command) : Except ConfigFault Unit :=
  match command.keys with
  | .selectKey keyCommand _ _ =>
    match r.find? keyCommand with
    | none => .error (.keyCommandMissing keyCommand command.id)
    | some found =>
      if found.kind = .select then .ok () else .error (.keyCommandNotSelect keyCommand command.id)
  | _ => .ok ()

def register (kind : StatementKind) (commands : List Command) : Except ConfigFault Registry :=
  commands.foldlM (fun r c => r.add (c.withDefaultKind kind)) .empty

/-- Compiles the entries, registers them and then the commands, and checks the key queries in the
order of the identifiers. -/
def build (p : ConfigurationPlan) : Except ConfigFault Configuration := do
  let compiled ← p.entries.mapM CommandEntry.compile
  let registry ← register p.settings.statementKind (compiled ++ p.commands)
  registry.commands.forM fun (_, command) => checkKeyCommand registry command
  return {
    settings := p.settings
    registry := registry
    collections := p.collections.getD .standard
    mapper := p.mapper.getD (.byLabel p.settings.camelCaseFields) }

end ConfigurationPlan

end SqlMapper
