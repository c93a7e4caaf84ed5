import SqlMapper.Session.Invocation
import SqlMapper.Session.Reading

namespace SqlMapper

def Invocation.query (mapper : RowMapper) (i : Invocation) (s : Statement)
    (handler : Option RowHandler) : SessionM (List Value) := do
  i.execute s
  let rows ← Reading.window s (mapper · i.command.resultType) i.bounds handler
  i.takeOutputs s
  return rows

namespace Keys

def assignRow (command : String) (properties : List String) (row : Row) :
    Fallible Parameter Unit := do
  if row.values.length < properties.length then
    throw (.executor (.tooFewKeyColumns command properties.length row.values.length))
  (properties.zip row.values).forM fun (property, value) => Parameter.write property value

/-- Assigns key rows in order to the parameter objects whose count is not zero; a missing count is
not zero. -/
def assignRows (command : String) (properties : List String) :
    List Row → List Int → List Parameter → Except Error Unit × List Parameter
  | [], _, ps => (.ok (), ps)
  | _ :: _, _, [] => (.ok (), [])
  | row :: rows, counts, p :: ps =>
    if counts.head? = some 0 then
      let (r, ps') := assignRows command properties (row :: rows) counts.tail ps
      (r, p :: ps')
    else
      match (assignRow command properties row).outcome p with
      | (.error e, p') => (.error e, p' :: ps)
      | (.ok _, p') =>
        let (r, ps') := assignRows command properties rows counts.tail ps
        (r, p' :: ps')

variable (config : Configuration)

/-- Runs the key query `id`; it sees the parameter object but cannot change it. -/
def run (id : String) : SessionM (List Value) := do
  let command ← Fallible.ending (config.registry.get id)
  let p ← SessionM.parameter
  let i ← Fallible.ending (Invocation.of command p .all)
  let s ← i.freshStatement config.settings
  let (keys, _) ← (SessionM.withParameter p (i.query config.mapper s none)).thenAlways s.closeQuietly
  return keys

def select (id property : String) : SessionM Unit := do
  match ← run config id with
  | [] => throw (.executor (.noKey id))
  | [key] => SessionM.onParameter (Parameter.write property key)
  | _ => throw (.executor (.severalKeys id))

def before (command : Command) : SessionM Unit := do
  match command.keys with
  | .selectKey id property true => select config id property
  | _ => return

def after (command : Command) (s : Statement) : SessionM Unit := do
  match command.keys with
  | .generated properties =>
    match ← s.generatedKeys with
    | [] => return
    | row :: _ => SessionM.onParameter (assignRow command.id properties row)
  | .selectKey id property false => select config id property
  | _ => return

/-- The keys of a batch that has just been sent; answers its parameter objects with the keys. -/
def afterBatch (command : Command) (s : Statement) (parameters : List Parameter)
    (counts : List Int) : SessionM (List Parameter) := do
  match command.keys with
  | .generated properties =>
    let rows ← s.generatedKeys
    let (r, updated) := assignRows command.id properties rows counts parameters
    Fallible.ending r
    return updated
  | .selectKey id property false =>
    parameters.mapM fun p => do
      let (_, p') ← SessionM.withParameter p (select config id property)
      return p'
  | _ => return parameters

end Keys

end SqlMapper
