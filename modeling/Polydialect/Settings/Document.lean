import Polydialect.Settings.Scalar

/-! # Documents

Settings are written as block mappings: a name, a colon and a scalar, or under the name a block of
such entries that are indented further. The scalar may follow on a later line, if it is indented
further than its name. A document is read into its entries, and their columns then say which belong
under which. Whatever needs more than this, such as lists or flow collections, is refused.
-/

namespace Polydialect.Settings

/-- A name with its scalar, which is absent where entries stand under the name. -/
structure Entry where
  column : Nat
  name : String
  scalar : Scalar
  deriving DecidableEq, Repr

/-! ## Entries -/

/-- The place of the next thing that stands in a text: past spaces, line ends and comments, past
tabs after something on their line, and past a byte order mark where a line starts. -/
def seek (comment : Bool) (m : Mark) (fresh : Bool) : List Char → Place
  | [] => ⟨m, fresh, []⟩
  | c :: r =>
    if isBreak c then seek false (m.after c) true r
    else if comment || c = ' ' || (c = '\t' && !fresh) || (c = '\ufeff' && m.column = 0) then
      seek comment (m.after c) fresh r
    else if c = '#' then seek true (m.after c) fresh r
    else ⟨m, fresh, c :: r⟩

/-- The place of the next thing that stands in the document. -/
def Place.next (p : Place) : Place := seek false p.mark p.fresh p.rest

/-- How far after the start of a name its colon may stand. -/
def maxNameWidth : Nat := 1024

/-- The place after the colon that makes a name of what stands from one place to another: on the
same line, not too far off and before a blank. -/
def colonAfter? (start stop : Place) : Option Place :=
  let p := stop.next
  match p.rest with
  | ':' :: r =>
    if p.mark.line = start.mark.line ∧ p.mark.column ≤ start.mark.column + maxNameWidth ∧ atBlank r
    then some ⟨p.mark.after ':', false, r⟩
    else none
  | _ => none

/-- A name and the place after its colon. -/
def readName (p : Place) : Option (String × Place) := do
  let (scalar, q) ← readScalar 0 p
  return (scalar.text, ← colonAfter? p q)

/-- The scalar of a name in a column, from the place after its colon, and the place after it. On a
later line it stands right of the name and is no name itself. -/
def readValue (column : Nat) (p : Place) : Option (Scalar × Place) :=
  let q := p.next
  let sameLine := q.mark.line = p.mark.line
  if q.rest.isEmpty ∨ (¬sameLine ∧ q.mark.column ≤ column) then some (.absent, q)
  else do
    let (scalar, stop) ← readScalar (column + 1) q
    if ¬sameLine ∧ (colonAfter? q stop).isSome then return (.absent, q) else return (scalar, stop)

/-- The place after a marker, if its three characters stand at the start of a line. -/
def Place.afterMarker? (c : Char) (p : Place) : Option Place :=
  if p.mark.column = 0 ∧ atMarker c p.rest then some ⟨⟨p.mark.line, 3⟩, false, p.rest.drop 3⟩
  else none

/-- The entries from a place on. After the marker of its end a document has no more of them, and
there is no second document. -/
def readEntries (ended : Bool) (p : Place) : Option (List Entry) :=
  let q := p.next
  if q.rest.isEmpty then some []
  else match q.afterMarker? '.' with
  | some after =>
    if _h : after.rest.length < p.rest.length then readEntries true after else none
  | none =>
    if ended ∨ !q.fresh ∨ (q.afterMarker? '-').isSome then none
    else do
      let (name, afterName) ← readName q
      let (scalar, after) ← readValue q.mark.column afterName
      if _h : after.rest.length < p.rest.length then
        return ⟨q.mark.column, name, scalar⟩ :: (← readEntries false after)
      else none
termination_by p.rest.length

/-- The entries of a document, after the marker of its start if there is one. -/
def entriesOf (text : List Char) : Option (List Entry) :=
  let p := (Place.mk ⟨0, 0⟩ true (normalized text)).next
  readEntries false ((p.afterMarker? '-').getD p)

/-! ## Blocks -/

/-- What stands under a name. -/
inductive Content where
  | scalar (s : Scalar)
  | block (entries : List (String × Content))

/-- A name in its column, with what stands under it. -/
structure Block where
  column : Nat
  name : String
  content : Content

/-- Whether all blocks stand in one column. -/
def Block.aligned : List Block → Bool
  | [] => true
  | b :: r => r.all (·.column == b.column)

/-- The names of blocks with their contents. -/
def Block.entries (bs : List Block) : List (String × Content) := bs.map fun b => (b.name, b.content)

/-- The content of an entry with the blocks under it, which stand in one column. -/
def contentOf? (e : Entry) (under : List Block) : Option Content :=
  if under.isEmpty then some (.scalar e.scalar)
  else if e.scalar = .absent ∧ Block.aligned under then some (.block (Block.entries under))
  else none

/-- The blocks of entries: the blocks after an entry and right of it stand under it. -/
def blocksOf? : List Entry → Option (List Block)
  | [] => some []
  | e :: r => do
    let (under, after) := (← blocksOf? r).span (e.column < ·.column)
    return ⟨e.column, e.name, ← contentOf? e under⟩ :: after

/-- The mapping that a document holds. -/
def readDocument (text : String) : Option (List (String × Content)) := do
  if !text.toList.all isAllowed then none
  let blocks ← blocksOf? (← entriesOf text.toList)
  if Block.aligned blocks then some (Block.entries blocks) else none

end Polydialect.Settings
