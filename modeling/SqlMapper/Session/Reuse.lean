import SqlMapper.Session.Invocation

namespace SqlMapper.Reuse

def setStatements (statements : NameMap Statement) : SessionM Unit :=
  SessionM.changeSession ({ · with strategy := .reuse statements })

/-- Creates a statement for the invocation's text. It is kept even if giving it its values fails. -/
def create (settings : Settings) (statements : NameMap Statement) (i : Invocation) :
    SessionM Statement := do
  let timeout := (← SessionM.session).transaction.timeout
  let p ← SessionM.parameter
  let c ← SessionM.connection
  let s ← i.prepare settings timeout c
  setStatements (statements.insert i.bound.sql s)
  i.parameterize p s
  return s

def renew (settings : Settings) (i : Invocation) (s : Statement) : SessionM Statement := do
  let timeout := (← SessionM.session).transaction.timeout
  let p ← SessionM.parameter
  i.applySettings settings timeout s
  i.parameterize p s
  return s

/-- The statement kept for the invocation's text, or a new one. A kept one that has been closed is
kept no longer. -/
def statement (settings : Settings) (statements : NameMap Statement) (i : Invocation) :
    SessionM Statement := do
  match statements.get? i.bound.sql with
  | some s =>
    if ← s.isClosed then
      setStatements (statements.erase i.bound.sql)
      create settings (statements.erase i.bound.sql) i
    else renew settings i s
  | none => create settings statements i

def closeAll (statements : NameMap Statement) : SessionM Unit := do
  setStatements []
  SessionM.onDatabase (statements.forM fun (_, s) => s.closeQuietly)

end SqlMapper.Reuse
