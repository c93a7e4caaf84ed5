import SqlMapper.Error

namespace SqlMapper

/-- Makes the value of a row, given the result type its command declares. -/
abbrev RowMapper := Row → Option String → Except Error Value

/-- The result types that read a single column. -/
inductive ScalarType where
  | bool | int | float | string | any
  deriving DecidableEq

namespace ScalarType

/-- The case of the letters in a type name does not matter. -/
def named? (name : String) : Option ScalarType :=
  match Text.asciiLower name with
  | "bool" | "boolean" => some bool
  | "int" | "integer" | "long" | "short" | "byte" => some int
  | "float" | "double" => some float
  | "string" | "str" => some string
  | "value" | "object" => some any
  | _ => none

def name : ScalarType → String
  | bool => "Bool"
  | int => "Int"
  | float => "Float"
  | string => "String"
  | any => "Any"

/-- Null fits every type; integers also read as booleans, floats and texts, booleans as integers. -/
def coerce : ScalarType → Value → Except Error Value
  | _, .null => .ok .null
  | any, v => .ok v
  | bool, .bool b => .ok (.bool b)
  | bool, .int n => .ok (.bool (n != 0))
  | int, .int n => .ok (.int n)
  | int, .bool b => .ok (.int (if b then 1 else 0))
  | float, .float x => .ok (.float x)
  | float, .int n => .ok (.float (.ofInt n.toInt))
  | string, .string s => .ok (.string s)
  | string, .int n => .ok (.string (Int.repr n.toInt))
  | t, v => .error (.coercion (.column v.typeName t.name))

end ScalarType

/-- Drops underscores, raises the character after each and lowers all others. Underscores before
the first character raise nothing; `started` says that there was one, `raise` that the next is due. -/
def camelCaseFrom (started raise : Bool) : List Char → List Char
  | [] => []
  | c :: cs =>
    if c = '_' then camelCaseFrom started started cs
    else (if raise then Text.upper c else Text.lower c) ++ camelCaseFrom true false cs

def camelCase (label : String) : String :=
  String.ofList (camelCaseFrom false false label.toList)

def fieldName (toCamelCase : Bool) (column : String) : String :=
  if toCamelCase then camelCase column else column

/-- Maps a row by its labels; of columns with one field name the last counts. -/
def RowMapper.byLabel (toCamelCase : Bool) : RowMapper := fun row resultType =>
  match resultType.bind ScalarType.named? with
  | some scalar => scalar.coerce (row.values.head?.getD .null)
  | none => .ok (.ofFields (row.cells.map fun (column, value) => (fieldName toCamelCase column, value)))

end SqlMapper
