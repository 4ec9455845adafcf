import BeanAtlas.Model.Bean
import BeanAtlas.SortedMap
import BeanAtlas.TypeText

/-!
The registry of beans. Names are unique: adding a bean replaces the one of the same name. Two indexes
list the names of the beans of a declared type and of the beans with an interface, in the order in
which they were added; a key without beans is not in the index.
-/
namespace BeanAtlas

/-- Names of beans by key, in the order in which they were added. -/
abbrev NameIndex := SortedMap String (List String)

namespace NameIndex

def bucket (index : NameIndex) (key : String) : List String := (index.find? key).getD []

/-- Adds a name at the end of a bucket that does not have it yet. -/
def add (index : NameIndex) (key name : String) : NameIndex :=
  index.alter key fun bucket =>
    let names := bucket.getD []
    some (if names.contains name then names else names ++ [name])

/-- Removes a name from a bucket, and the bucket with its last name. -/
def remove (index : NameIndex) (key name : String) : NameIndex :=
  index.alter key fun bucket =>
    match bucket with
    | none => none
    | some names =>
      let rest := names.filter (· != name)
      if rest.isEmpty then none else some rest

end NameIndex

structure Registry where
  byName : SortedMap String Bean
  byType : NameIndex
  byInterface : NameIndex

namespace Registry

def empty : Registry := ⟨∅, ∅, ∅⟩

instance : Inhabited Registry := ⟨empty⟩

instance : EmptyCollection Registry := ⟨empty⟩

/-- Takes a bean out of the type and interface indexes. -/
def unindex (registry : Registry) (bean : Bean) : Registry :=
  { registry with
    byType := registry.byType.remove (TypeText.key bean.type) bean.name
    byInterface := bean.interfaces.foldl
      (fun index type => index.remove (TypeText.interfaceKey type) bean.name) registry.byInterface }

def remove (registry : Registry) (bean : Bean) : Registry :=
  { registry with byName := registry.byName.erase bean.name }.unindex bean

/-- Enters a bean whose name is free. -/
def enter (registry : Registry) (bean : Bean) : Registry where
  byName := registry.byName.insert bean.name bean
  byType := registry.byType.add (TypeText.key bean.type) bean.name
  byInterface := bean.interfaces.foldl
    (fun index type => index.add (TypeText.interfaceKey type) bean.name) registry.byInterface

/-- Adds a bean, in place of the one of the same name. -/
def add (registry : Registry) (bean : Bean) : Registry :=
  match registry.byName.find? bean.name with
  | some previous => (registry.remove previous).enter bean
  | none => registry.enter bean

def addAll (registry : Registry) (beans : List Bean) : Registry := beans.foldl add registry

/-- All beans in the order of their names. -/
def beans (registry : Registry) : List Bean := registry.byName.values

def names (registry : Registry) : List String := registry.byName.keys

def size (registry : Registry) : Nat := registry.byName.size

/-- Removes the beans of a file. -/
def removeFile (registry : Registry) (file : FilePath) : Registry :=
  (registry.beans.filter (·.file.same file)).foldl remove registry

def findByName? (registry : Registry) (name : String) : Option Bean := registry.byName.find? name

/-- The beans behind a list of names, each once. -/
def named (registry : Registry) (names : List String) : List Bean :=
  names.eraseDups.filterMap registry.byName.find?

/-- The beans of exactly this type key, then those with it as an interface. -/
def lookup (registry : Registry) (key : String) : List Bean :=
  registry.named (registry.byType.bucket key ++ registry.byInterface.bucket (TypeText.erased key))

/-- The beans that a type asks for: those of the type as written, else those of its simple name. -/
def findByType (registry : Registry) (type : String) : List Bean :=
  let key := TypeText.key type
  if key.isEmpty then []
  else
    match registry.lookup key with
    | [] => ((TypeText.simpleKey? key).map registry.lookup).getD []
    | found => found

/-- The files that define a bean, in path order, each once. -/
def files (registry : Registry) : List FilePath :=
  dropRepeats ((registry.beans.map (·.file)).mergeSort FilePath.precedes)
where
  /-- Keeps the first of neighbours that are equal as paths. -/
  dropRepeats : List FilePath → List FilePath
    | [] => []
    | file :: rest => file :: dropFrom file rest
  dropFrom (last : FilePath) : List FilePath → List FilePath
    | [] => []
    | file :: rest => if last.same file then dropFrom last rest else file :: dropFrom file rest

end Registry
end BeanAtlas
