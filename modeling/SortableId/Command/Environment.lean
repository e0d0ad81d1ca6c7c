/-!
# Environments

Variables by name. A definition never replaces a variable that is set already.
-/

namespace SortableId.Command

/-- The variables that a program finds, each under its name. -/
structure Environment where
  /-- Names and values; the first of a name counts. -/
  settings : List (String × String) := []
  deriving DecidableEq, Repr, Inhabited

namespace Environment

/-- The value of a variable. -/
def get? (environment : Environment) (name : String) : Option String :=
  environment.settings.lookup name

/-- The value that a reference to a variable stands for. A setting is one text, with an equals sign
between name and value, and a reference stands for what follows it and an equals sign there: one
that holds an equals sign itself reaches into the value of a variable. -/
def resolve? (environment : Environment) (reference : List Char) : Option String :=
  environment.settings.findSome? fun (name, value) =>
    ((reference ++ ['=']).isPrefixOf? (name.toList ++ '=' :: value.toList)).map String.ofList

/-- Whether a variable can hold a value: the character that ends values cannot stand in one. -/
def canHold (value : String) : Bool := !value.toList.contains '\x00'

/-- Sets a variable unless it is set. -/
def define (name value : String) (environment : Environment) : Environment :=
  match environment.get? name with
  | some _ => environment
  | none => ⟨(name, value) :: environment.settings⟩

end Environment

end SortableId.Command
