import BeanAtlas.Text.LetterCase

/-!
Names with their first letter in lower case.
-/
namespace BeanAtlas.Text

/-- The name with its first character in lower case. -/
def lowerFirst (name : String) : String :=
  match name.toList with
  | [] => ""
  | first :: rest => String.ofList (lowercase first ++ rest)

/-- The default name of a bean class: the first letter in lower case, except that a name starting with
two capitals stays as it is. -/
def decapitalize (name : String) : String :=
  match name.toList with
  | [] => ""
  | first :: rest =>
    if rest.head?.any isUppercase && isUppercase first then name
    else String.ofList (lowercase first ++ rest)

end BeanAtlas.Text
