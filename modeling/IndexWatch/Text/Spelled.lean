import IndexWatch.Text.Quoted
import IndexWatch.Duration

/-! Values as diagnostics spell them: texts quoted, absent values as `None`, records with their
fields' names. -/

namespace IndexWatch.Text

/-- A type whose values diagnostics can show. -/
class Spelled (α : Type) where
  spell : α → String

export Spelled (spell)

instance : Spelled Bool := ⟨fun b => if b then "true" else "false"⟩

instance : Spelled Int := ⟨fun n => toString n⟩

instance : Spelled String := ⟨quote⟩

instance : Spelled Duration := ⟨Duration.text⟩

instance {α : Type} [Spelled α] : Spelled (Option α) where
  spell
    | none => "None"
    | some a => "Some(" ++ spell a ++ ")"

instance {α : Type} [Spelled α] : Spelled (List α) :=
  ⟨fun xs => "[" ++ ", ".intercalate (xs.map spell) ++ "]"⟩

/-- A record: its name, and its fields in order, each with its spelling. -/
def spellRecord (name : String) (fields : List (String × String)) : String :=
  name ++ " \x7b " ++ ", ".intercalate (fields.map fun (field, text) => field ++ ": " ++ text) ++ " \x7d"

/-- A value wrapped in a named case. -/
def spellCase (name text : String) : String := name ++ "(" ++ text ++ ")"

end IndexWatch.Text
