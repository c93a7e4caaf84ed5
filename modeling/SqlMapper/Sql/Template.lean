import SqlMapper.Sql.Bound
import SqlMapper.Text.Blank

namespace SqlMapper.Template

/-- What a template is made of. A placeholder that is never closed takes the rest of the text. -/
inductive Piece where
  | literal (c : Char)
  | placeholder (content : List Char)
  | unterminated
  deriving DecidableEq

/-- Reads the pieces; inside a placeholder `content` is what has been read of it. -/
def pieces : List Char → (content : Option (List Char)) → List Piece
  | [], none => []
  | [], some _ => [.unterminated]
  | c :: cs, some content =>
    if c = '}' then .placeholder content :: pieces cs none else pieces cs (some (content ++ [c]))
  | '#' :: '{' :: cs, none => pieces cs (some [])
  | c :: cs, none => .literal c :: pieces cs none

def modeNamed : String → Option ParameterMode
  | "IN" => some .input
  | "OUT" => some .output
  | "INOUT" => some .inOut
  | _ => none

/-- The mode after an option. Type hints are accepted and mean nothing here. -/
def readOption (template : String) (mode : ParameterMode) (option : List Char) :
    Except ConfigFault ParameterMode :=
  match Text.splitOnce '=' option with
  | (_, none) => .error (.malformedOption (String.ofList option) template)
  | (key, some value) =>
    let key := String.ofList (Text.trim key)
    if key = "jdbcType" ∨ key = "javaType" then .ok mode
    else if key = "mode" then
      match modeNamed (Text.asciiUpper (String.ofList (Text.trim value))) with
      | some mode => .ok mode
      | none => .error (.unknownOption (String.ofList option) template)
    else .error (.unknownOption (String.ofList option) template)

def readPlaceholder (template : String) (content : List Char) : Except ConfigFault Placeholder :=
  match (Text.split ',' content).map Text.trim with
  | [] | [] :: _ => .error (.emptyProperty template)
  | property :: options => do
    let mode ← options.foldlM (readOption template) .input
    return ⟨String.ofList property, mode⟩

/-- The text of the pieces and their placeholders; the first bad placeholder is the error. -/
def assemble (template : String) : List Piece → Except ConfigFault (List Char × List Placeholder)
  | [] => .ok ([], [])
  | .unterminated :: _ => .error (.unterminatedPlaceholder template)
  | .literal c :: rest => do
    let (text, placeholders) ← assemble template rest
    return (c :: text, placeholders)
  | .placeholder content :: rest => do
    let placeholder ← readPlaceholder template content
    let (text, placeholders) ← assemble template rest
    return ('?' :: text, placeholder :: placeholders)

/-- Compiles a template; the blanks around the text are dropped. -/
def compile (template : String) : Except ConfigFault BoundSql := do
  let (text, placeholders) ← assemble template (pieces template.toList none)
  return ⟨String.ofList (Text.trim text), placeholders⟩

end SqlMapper.Template
