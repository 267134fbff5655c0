/-! # Members

Pairs of a name and a value as they were written: in any order, and a name may be there more than
once. Readers of records take the members that they know and pass over the others.
-/

namespace Polydialect.Members

variable {α β : Type}

/-- The values of a name, in the order in which they stand. -/
def named (k : String) (members : List (String × α)) : List α :=
  members.filterMap fun p => if p.1 = k then some p.2 else none

/-- The only value of a name: nothing on two of them, and nothing inside on none. -/
def only? (k : String) (members : List (String × α)) : Option (Option α) :=
  match named k members with
  | [] => some none
  | [a] => some (some a)
  | _ => none

/-- A value that has to be there. -/
def required? (read : α → Option β) (k : String) (members : List (String × α)) : Option β :=
  (only? k members).bind fun a => a.bind read

/-- A value that has a default. -/
def optional? (read : α → Option β) (default : β) (k : String) (members : List (String × α)) :
    Option β :=
  (only? k members).bind fun
    | none => some default
    | some a => read a

end Polydialect.Members
