import Polydialect.Text.CaseMap.Table

/-! # Full case mapping

`lower` and `upper` map a text to one case by the full mappings of its characters, some of which
give several characters (`ß` becomes `SS`). One mapping looks at its neighbours: a capital sigma
that ends a word becomes `ς`, and any other becomes `σ`.
-/

namespace Polydialect.Text

namespace CaseMap

/-- One character by a table of expansions and a table of shifts, itself when neither holds it. -/
def mapChar (expansions : List (Nat × List Nat)) (shifts : List Shift) (c : Char) : List Char :=
  match expansions.lookup c.toNat with
  | some ns => ns.map Char.ofNat
  | none =>
    match shifts.find? (·.covers c.toNat) with
    | some s => [Char.ofNat (c.toNat + s.offset).toNat]
    | none => [c]

/-- Whether a cased character comes next once the ones that casing ignores are skipped. -/
def reachesCased (s : List Char) : Bool :=
  match s.dropWhile caseIgnorable.contains with
  | [] => false
  | c :: _ => cased.contains c

/-- The small form of a capital sigma: `before` is the text to its left, nearest first. -/
def smallSigma (before after : List Char) : Char :=
  if reachesCased before && !reachesCased after then 'ς' else 'σ'

/-- Lower case of the second text, which the first one precedes in reverse. -/
def lowerAfter : List Char → List Char → List Char
  | _, [] => []
  | before, c :: r =>
    (if c = 'Σ' then [smallSigma before r] else mapChar lowerExpansions lowerShifts c)
      ++ lowerAfter (c :: before) r

end CaseMap

/-- The text in lower case. -/
def lower (s : String) : String := .ofList (CaseMap.lowerAfter [] s.toList)

/-- The text in upper case. -/
def upper (s : String) : String :=
  .ofList (s.toList.flatMap (CaseMap.mapChar CaseMap.upperExpansions CaseMap.upperShifts))

end Polydialect.Text
