import SqlMapper.Binding.Output
import SqlMapper.Binding.Signature
import SqlMapper.Session.Operation

namespace SqlMapper

structure Binder where
  name : String
  command : CommandRef
  signature : Signature
  deriving DecidableEq

namespace Binder

/-- A void select with a callback has to know the type of the rows it hands over. -/
def checkResultType (registry : Registry) (b : Binder) : Except Error Unit := do
  if b.command.kind = .select ∧ b.signature.shape = .void ∧ b.signature.handlerIndex.isSome then
    let command ← registry.get b.command.display
    if command.resultType.isNone then
      throw (.binding (.resultTypeMissing b.name b.command.display))

/-- Binds `m`, declared by `declaring` and called through `c`. -/
def of (config : Configuration) (c declaring : Contract) (m : Method) : Except Error Binder := do
  let command ← (CommandRef.resolve config.registry c declaring m).mapError .binding
  let signature ← (Signature.of config c declaring m).mapError .binding
  let b : Binder := ⟨c.name ++ "." ++ m.name, command, signature⟩
  if command.kind.isMutation && !signature.returnType.holdsRowCount then
    throw (.binding (.unsupportedReturnType signature.returnType))
  checkResultType config.registry b
  return b

def checkArguments (b : Binder) (arguments : List Argument) : Except BindingFault Unit := do
  if arguments.length ≠ b.signature.arity then
    throw (.argumentCount b.name b.signature.arity arguments.length)
  if let some i := b.signature.boundsIndex then
    match arguments[i]? with
    | some (.bounds _) => pure ()
    | _ => throw (.boundsExpected i b.name)
  if let some i := b.signature.handlerIndex then
    match arguments[i]? with
    | some (.handler _) => pure ()
    | _ => throw (.handlerExpected i b.name)

def handler? (b : Binder) (arguments : List Argument) : Option RowHandler :=
  match b.signature.handlerIndex.bind (arguments[·]?) with
  | some (.handler h) => some h
  | _ => none

variable (config : Configuration)

def runMutation (b : Binder) : SessionM Output := do
  let count ← Session.mutate config b.command.display
  Fallible.ending (b.signature.returnType.ofRowCount count)

def runSelect (b : Binder) (arguments : List Argument) : SessionM Output := do
  let id := b.command.display
  let bounds := b.signature.rowBounds arguments
  match b.signature.shape with
  | .void =>
    match b.handler? arguments with
    | some h => Session.selectWithHandler config id bounds h
    | none => discard (Session.selectOne config id)
    return .unit
  | .many =>
    let rows ← Session.selectList config id bounds
    Fallible.ending (b.signature.returnType.ofRows config.collections rows)
  | .map key => return .map (← Session.selectMap config id key bounds)
  | .cursor => return .cursor (← Session.selectCursor config id bounds)
  | .optional => return DeclaredType.ofOptional (← Session.selectOne config id)
  | .scalar => return .value ((← Session.selectOne config id).getD .null)

def run (b : Binder) (arguments : List Argument) : SessionM Output :=
  match b.command.kind with
  | .insert | .update | .delete => runMutation config b
  | .select => runSelect config b arguments
  | .flush => return .batch (← Session.flushStatements config)
  | .unknown => throw (.binding (.unknownKind b.command.display))

/-- Calls the method. Afterwards the caller has the arguments with what a successful run wrote into
the parameter object, even when its answer is refused as null. -/
def call (b : Binder) (arguments : List Argument) : SessionM (Except Error Output × List Argument) := do
  match b.checkArguments arguments with
  | .error fault => return (.error (.binding fault), arguments)
  | .ok () =>
    match b.signature.names.pack arguments with
    | .error e => return (.error e, arguments)
    | .ok p =>
      SessionM.setParameter p
      match ← (run config b arguments).attempt with
      | .error e => return (.error e, arguments)
      | .ok output =>
        let written := b.signature.names.writeBack (← SessionM.parameter) arguments
        match b.signature.returnType.checkNull b.command.display output with
        | .error e => return (.error e, written)
        | .ok () => return (.ok output, written)

end Binder

end SqlMapper
