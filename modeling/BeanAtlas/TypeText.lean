import BeanAtlas.Text.Search

/-!
Java types as they are written. Beans are looked up by a key, the type without its blanks; a
collection type has the type of its elements.
-/
namespace BeanAtlas.TypeText

/-- The type without its type arguments. -/
def erased (type : String) : String :=
  String.ofList (Text.dropBlanks (type.toList.takeWhile (· != '<')))

/-- The type without blanks, so that `Map<String, Foo>` and `Map<String,Foo>` agree. -/
def key (type : String) : String := Text.withoutBlanks type

/-- The key under which an interface is found: without blanks and type arguments. -/
def interfaceKey (type : String) : String := key (erased type)

/-- The key without its qualification, `Foo<Bar>` for `com.example.Foo<Bar>`; `none` when there is none. -/
def simpleKey? (key : String) : Option String :=
  let base := (erased key).toList
  if base.contains '.' then
    some (String.ofList (Text.afterLast '.' base ++ key.toList.drop base.length))
  else none

/-- The types whose elements are injected one by one. -/
def collectionNames : List String := ["List", "Set", "Collection", "Map"]

/-- What follows the first comma outside angle brackets. -/
def afterTopComma (depth : Nat) : List Char → Option (List Char)
  | [] => none
  | '<' :: cs => afterTopComma (depth + 1) cs
  | '>' :: cs => afterTopComma (depth - 1) cs
  | ',' :: cs => if depth = 0 then some cs else afterTopComma depth cs
  | _ :: cs => afterTopComma depth cs

def nonBlank? (cs : List Char) : Option String :=
  let cs := Text.dropBlanks cs
  if cs.isEmpty then none else some (String.ofList cs)

/-- The type of the elements of a collection: `Foo` for `List<Foo>`, `Map<String, Foo>` and `Foo[]`. -/
def element? (type : String) : Option String :=
  let target := Text.dropBlanks type.toList
  match Text.stripEnd? ['[', ']'] target with
  | some element => nonBlank? element
  | none =>
    match target.dropWhile (· != '<') with
    | [] => none
    | _ :: inner =>
      let head := Text.dropBlanks (target.takeWhile (· != '<'))
      let name := String.ofList (Text.afterLast '.' head)
      if collectionNames.contains name then
        match Text.stripEnd? ['>'] inner with
        | none => none
        | some arguments =>
          if name == "Map" then (afterTopComma 0 arguments).bind nonBlank? else nonBlank? arguments
      else none

end BeanAtlas.TypeText
