import SqlMapper.Cursor
import SqlMapper.Result.Collection
import SqlMapper.Result.Grouping

namespace SqlMapper

inductive Output where
  | unit
  | bool (b : Bool)
  | int (n : Int)
  | value (v : Value)
  | optional (v : Option Value)
  | list (items : List Value)
  | array (items : List Value)
  | collection (c : DeclaredCollection)
  | map (g : Grouping)
  | cursor (c : Cursor)
  | batch (results : List BatchResult)

namespace Output

def isUnit : Output → Bool
  | unit => true
  | _ => false

def int? : Output → Option Int
  | int n => some n
  | _ => none

def bool? : Output → Option Bool
  | bool b => some b
  | _ => none

end Output

namespace DeclaredType

def holdsRowCount (type : DeclaredType) : Bool :=
  type == void ||
    type.scalarKind.any fun kind => kind == .boolean || kind == .int || kind == .long

/-- A row count as the type: nothing, whether it is positive, or the count itself. -/
def ofRowCount (type : DeclaredType) (count : Int) : Except Error Output :=
  match type, type.scalarKind with
  | void, _ => .ok .unit
  | _, some .boolean => .ok (.bool (0 < count))
  | _, some .int | _, some .long => .ok (.int count)
  | _, _ => .error (.binding (.unsupportedReturnType type))

/-- A value as an element of an array of a primitive kind. Only integers convert, and to floats. -/
def toPrimitive (kind : PrimitiveKind) (v : Value) : Except Error Value :=
  match kind, v with
  | .boolean, .bool b => .ok (.bool b)
  | .byte, .int n | .short, .int n | .int, .int n | .long, .int n => .ok (.int n)
  | .float, .float x | .double, .float x => .ok (.float x)
  | .float, .int n | .double, .int n => .ok (.float (.ofInt n.toInt))
  | .char, .string s =>
    if s.length = 1 then .ok (.string s)
    else .error (.coercion (.element v.typeName kind))
  | _, _ => .error (.coercion (.element v.typeName kind))

/-- Rows in the collection that is made for the type, or in a list if it is no collection. -/
def ofCollected (collections : CollectionFactory) (type : DeclaredType) (rows : List Value) :
    Except Error Output := do
  if collections.isCollection type then
    return .collection ((← collections.create type).addAll rows)
  return .list rows

def ofRows (collections : CollectionFactory) (type : DeclaredType) (rows : List Value) :
    Except Error Output :=
  match type with
  | array (primitive kind) => return .array (← rows.mapM (toPrimitive kind))
  | array _ => .ok (.array rows)
  | collection kind _ =>
    if kind.acceptsList then .ok (.list rows) else type.ofCollected collections rows
  | _ => type.ofCollected collections rows

/-- A row that may be missing; a null row counts as missing. -/
def ofOptional (row : Option Value) : Output :=
  .optional (row.filter fun v => !v.isNull)

def checkNull (type : DeclaredType) (command : String) : Output → Except Error Unit
  | .value .null =>
    if type.isPrimitive then .error (.nullIntoPrimitive command type) else .ok ()
  | _ => .ok ()

end DeclaredType

end SqlMapper
