import SqlMapper.Binding.Binder

namespace SqlMapper

structure BoundContract where
  contract : Contract
  methods : NameMap Binder

structure MapperRegistry where
  contracts : NameMap BoundContract

namespace MapperRegistry

def empty : MapperRegistry := ⟨[]⟩

def hasContract (r : MapperRegistry) (name : String) : Bool := r.contracts.contains name

def contractNames (r : MapperRegistry) : List String := r.contracts.names

def bindMethods (config : Configuration) (c : Contract) :
    List (Contract × Method) → Except Error (NameMap Binder)
  | [] => .ok []
  | (declaring, m) :: rest => do
    let binder ← Binder.of config c declaring m
    let others ← bindMethods config c rest
    return others.insert m.name binder

/-- Registers a contract with all its visible methods, or none of it. -/
def addContract (config : Configuration) (r : MapperRegistry) (c : Contract) :
    Except Error MapperRegistry := do
  if r.hasContract c.name then throw (.binding (.contractKnown c.name))
  let methods ← bindMethods config c c.visibleMethods
  return ⟨r.contracts.insert c.name ⟨c, methods⟩⟩

def binder? (r : MapperRegistry) (contract method : String) : Option Binder := do
  (← r.contracts.get? contract).methods.get? method

def mapper (r : MapperRegistry) (contract : String) : Except Error BoundContract :=
  match r.contracts.get? contract with
  | some bound => .ok bound
  | none => .error (.binding (.contractUnknown contract))

end MapperRegistry

def BoundContract.call (config : Configuration) (b : BoundContract) (method : String)
    (arguments : List Argument) : SessionM (Except Error Output × List Argument) :=
  match b.methods.get? method with
  | some binder => binder.call config arguments
  | none => return (.error (.binding (.methodUnknown b.contract.name method)), arguments)

end SqlMapper
