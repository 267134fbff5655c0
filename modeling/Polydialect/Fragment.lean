import Polydialect.Value.Basic

/-! # Fragments

A piece of SQL text whose `?` markers take values, in their order.
-/

namespace Polydialect

/-- SQL text with markers and the values that they take. -/
structure Fragment where
  text : String
  values : List Value
  deriving DecidableEq

namespace Fragment

/-- Text that takes no values. -/
def ofText (text : String) : Fragment := ⟨text, []⟩

/-- Fragments one after the other, with a text between each two. -/
def join (sep : String) (fs : List Fragment) : Fragment :=
  ⟨sep.intercalate (fs.map (·.text)), fs.flatMap (·.values)⟩

/-- The fragment between two texts. -/
def wrap (before : String) (f : Fragment) (after : String) : Fragment :=
  ⟨before ++ f.text ++ after, f.values⟩

/-- One fragment after another. -/
def append (f g : Fragment) : Fragment := ⟨f.text ++ g.text, f.values ++ g.values⟩

instance : Append Fragment := ⟨append⟩

@[simp] theorem text_append (f g : Fragment) : (f ++ g).text = f.text ++ g.text := rfl

@[simp] theorem values_append (f g : Fragment) : (f ++ g).values = f.values ++ g.values := rfl

end Fragment

end Polydialect
