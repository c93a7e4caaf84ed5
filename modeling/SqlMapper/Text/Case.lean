import SqlMapper.Text.CaseMapping

namespace SqlMapper.Text

def asciiUpper (s : String) : String :=
  String.ofList (s.toList.map Char.toUpper)

def asciiLower (s : String) : String :=
  String.ofList (s.toList.map Char.toLower)

def sameLetters (s t : String) : Bool :=
  s.toList.map Char.toLower == t.toList.map Char.toLower

/-- The image of a character: an expansion if it has one, else by its range, else itself. -/
def mapCase (ranges : List (Nat × Nat × Nat × Nat)) (expansions : List (Nat × List Nat))
    (c : Char) : List Char :=
  match expansions.lookup c.toNat with
  | some image => image.map Char.ofNat
  | none =>
    match ranges.find? fun (first, last, step, _) =>
        first ≤ c.toNat ∧ c.toNat ≤ last ∧ (c.toNat - first) % step = 0 with
    | some (first, _, _, image) => [Char.ofNat (image + (c.toNat - first))]
    | none => [c]

def upper (c : Char) : List Char :=
  if c.toNat < 128 then [c.toUpper]
  else mapCase CaseMapping.upperRanges CaseMapping.upperExpansions c

def lower (c : Char) : List Char :=
  if c.toNat < 128 then [c.toLower]
  else mapCase CaseMapping.lowerRanges CaseMapping.lowerExpansions c

end SqlMapper.Text
