import SqlMapper.DeclaredType
import SqlMapper.Row
import SqlMapper.Text.Quoted

namespace SqlMapper

/-- Why a method of a contract cannot be bound or called. -/
inductive BindingFault where
  | unknownKind (command : String)
  | commandMissing (contract method : String)
  | repeatedParameter (method parameterType : String)
  | unsupportedReturnType (type : DeclaredType)
  | resultTypeMissing (method command : String)
  | argumentCount (method : String) (expected given : Nat)
  | boundsExpected (index : Nat) (method : String)
  | handlerExpected (index : Nat) (method : String)
  | valueExpected (index : Nat)
  | contractKnown (contract : String)
  | contractUnknown (contract : String)
  | methodUnknown (contract method : String)
  deriving DecidableEq

def BindingFault.reason : BindingFault → String
  | unknownKind command => "unknown execution method for: " ++ command
  | commandMissing contract method =>
    "invalid bound statement (not found): " ++ contract ++ "." ++ method
  | repeatedParameter method parameterType =>
    method ++ " cannot have multiple " ++ parameterType ++ " parameters"
  | unsupportedReturnType type => "unsupported return type: " ++ type.text
  | resultTypeMissing method command =>
    "method " ++ method ++ " needs a result type on command " ++ command ++
      " so a RowHandler can be used as a parameter"
  | argumentCount method expected given =>
    "wrong number of arguments for " ++ method ++ ": expected " ++ Nat.repr expected ++
      ", got " ++ Nat.repr given
  | boundsExpected index method =>
    "argument " ++ Nat.repr index ++ " of " ++ method ++ " must be RowBounds"
  | handlerExpected index method =>
    "argument " ++ Nat.repr index ++ " of " ++ method ++ " must be a RowHandler"
  | valueExpected index => "argument " ++ Nat.repr index ++ " is not a value"
  | contractKnown contract =>
    "contract " ++ contract ++ " is already known to the mapper registry"
  | contractUnknown contract =>
    "contract " ++ contract ++ " is not known to the mapper registry"
  | methodUnknown contract method =>
    "contract " ++ contract ++ " has no method named " ++ method

inductive CoercionFault where
  | column (valueType scalar : String)
  | element (valueType : String) (kind : PrimitiveKind)
  | noCollection (type : DeclaredType)
  deriving DecidableEq

def CoercionFault.reason : CoercionFault → String
  | column valueType scalar => "cannot read column of type " ++ valueType ++ " as " ++ scalar
  | element valueType kind =>
    "cannot store " ++ valueType ++ " in a " ++ kind.name ++ "[] element"
  | noCollection type => "cannot create a collection instance of type " ++ type.text

inductive ExecutorFault where
  | closed
  | commitAfterClose
  | tooFewKeyColumns (command : String) (properties columns : Nat)
  | noKey (command : String)
  | severalKeys (command : String)
  deriving DecidableEq

def ExecutorFault.reason : ExecutorFault → String
  | closed => "executor was closed"
  | commitAfterClose => "cannot commit, transaction is already closed"
  | tooFewKeyColumns command properties columns =>
    "too many key properties are specified for command '" ++ command ++ "': " ++
      Nat.repr properties ++ " properties, " ++ Nat.repr columns ++ " generated columns"
  | noKey command => "select key '" ++ command ++ "' returned no data"
  | severalKeys command => "select key '" ++ command ++ "' returned more than one value"

inductive ConfigFault where
  | unterminatedPlaceholder (template : String)
  | emptyProperty (template : String)
  | malformedOption (option template : String)
  | unknownOption (option template : String)
  | duplicateCommand (id : String)
  | keyCommandNotSelect (keyCommand command : String)
  | keyCommandMissing (keyCommand command : String)
  | malformedDocument
  | unreadableFile (path reason : String)
  | sourceFailure (reason : String)
  deriving DecidableEq

def ConfigFault.reason : ConfigFault → String
  | unterminatedPlaceholder template => "unterminated placeholder in SQL: " ++ template
  | emptyProperty template => "empty placeholder property in SQL: " ++ template
  | malformedOption option template =>
    "malformed placeholder option '" ++ option ++ "' in SQL: " ++ template
  | unknownOption option template =>
    "unknown placeholder option '" ++ option ++ "' in SQL: " ++ template
  | duplicateCommand id => "command registry already contains a command with id '" ++ id ++ "'"
  | keyCommandNotSelect keyCommand command =>
    "select-key command '" ++ keyCommand ++ "' of '" ++ command ++ "' is not a select"
  | keyCommandMissing keyCommand command =>
    "select-key command '" ++ keyCommand ++ "' of '" ++ command ++ "' is not registered"
  | malformedDocument => "failed to parse configuration"
  | unreadableFile path reason => "failed to read config file '" ++ path ++ "': " ++ reason
  | sourceFailure reason => reason

/-- A batched statement that failed while the queue was being sent: its position, the counts of
those of its entries that went through, and the results of the statements before it. -/
structure PartialBatch where
  index : Nat
  command : String
  sql : String
  counts : List Int
  successful : List BatchResult
  reason : String
  deriving DecidableEq

def PartialBatch.message (b : PartialBatch) : String :=
  "error executing batch statement #" ++ Nat.repr (b.index + 1) ++
    " (command '" ++ b.command ++ "'): " ++ b.reason ++ "; " ++
    Nat.repr b.successful.length ++ " prior batch statement(s) succeeded, " ++
    Nat.repr b.counts.length ++ " entries of the failing batch succeeded"

/-- Every error of the library. `statement` and `batchUpdate` come from the database as they are. -/
inductive Error where
  | binding (fault : BindingFault)
  | commandNotFound (id : String)
  | nullIntoPrimitive (command : String) (returnType : DeclaredType)
  | coercion (fault : CoercionFault)
  | parameterNotFound (name : String) (available : List String)
  | noSuchProperty (property typeName : String)
  | tooManyResults (found : Nat)
  | statement (reason : String)
  | batchUpdate (counts : List Int) (reason : String)
  | partialBatch (batch : PartialBatch)
  | executor (fault : ExecutorFault)
  | noDataSource
  | config (fault : ConfigFault)
  deriving DecidableEq

namespace Error

/-- The name of the kind of error, for callers that tell errors apart by it. -/
def kind : Error → String
  | binding _ => "Binding"
  | commandNotFound _ => "CommandNotFound"
  | nullIntoPrimitive _ _ => "NullIntoPrimitive"
  | coercion _ => "Coercion"
  | parameterNotFound _ _ => "ParameterNotFound"
  | noSuchProperty _ _ => "NoSuchProperty"
  | tooManyResults _ => "TooManyResults"
  | statement _ => "Statement"
  | batchUpdate _ _ => "BatchUpdate"
  | partialBatch _ => "PartialBatch"
  | executor _ => "Executor"
  | noDataSource => "Transaction"
  | config _ => "Config"

def message : Error → String
  | binding fault => "binding failure: " ++ fault.reason
  | commandNotFound id => "command registry does not contain a command with id '" ++ id ++ "'"
  | nullIntoPrimitive command returnType =>
    "mapper method '" ++ command ++
      "' attempted to return null from a method with a primitive return type (" ++
      returnType.text ++ ")"
  | coercion fault => "coercion failure: " ++ fault.reason
  | parameterNotFound name available =>
    "parameter '" ++ name ++ "' not found. Available parameters are " ++ Text.quoteList available
  | noSuchProperty property typeName =>
    "there is no property named '" ++ property ++ "' in '" ++ typeName ++ "'"
  | tooManyResults found =>
    "expected one result (or none) to be returned by select_one, but found: " ++ Nat.repr found
  | statement reason => "statement failure: " ++ reason
  | batchUpdate counts reason =>
    "batch update failure after " ++ Nat.repr counts.length ++ " successful entries: " ++ reason
  | partialBatch batch => batch.message
  | executor fault => "executor error: " ++ fault.reason
  | noDataSource => "transaction error: transaction has no connection and no data source"
  | config fault => "configuration error: " ++ fault.reason

end Error

end SqlMapper
