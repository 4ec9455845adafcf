/-!
Values of configuration layers. A layer is a table. Put over another one it wins key by key: tables are
combined recursively, every other value replaces the one below it.
-/
namespace BeanAtlas

inductive Setting where
  | bool (value : Bool)
  | number (text : String)
  | text (value : String)
  | list (items : List Setting)
  | table (entries : List (String × Setting))
  deriving Inhabited

abbrev SettingTable := List (String × Setting)

namespace SettingTable

variable {α : Type}

/-- The value under a key. -/
def find? (key : String) : List (String × α) → Option α
  | [] => none
  | (other, value) :: rest => if other = key then some value else find? key rest

/-- Puts a value under a key, in place of the one that is there. -/
def put (key : String) (value : α) : List (String × α) → List (String × α)
  | [] => [(key, value)]
  | (other, old) :: rest =>
    if other = key then (key, value) :: rest else (other, old) :: put key value rest

theorem find?_put (key other : String) (value : α) (entries : List (String × α)) :
    find? other (put key value entries) = if other = key then some value else find? other entries := by
  induction entries with
  | nil => simp [put, find?, eq_comm]
  | cons head rest ih =>
    obtain ⟨first, old⟩ := head
    by_cases same : first = key
    · subst same
      by_cases wanted : other = first <;> simp [put, find?, wanted, eq_comm]
    · by_cases wanted : first = other
      · subst wanted
        simp [put, find?, same]
      · simp [put, find?, same, wanted, ih]

end SettingTable

namespace Setting

mutual

/-- A value of an upper layer over the value of a lower one. -/
def laidOver (upper lower : Setting) : Setting :=
  match upper with
  | .table entries =>
    match lower with
    | .table below => .table (allLaidOver entries below)
    | _ => .table entries
  | other => other

/-- The entries of an upper table, one by one, over those of a lower one. -/
def allLaidOver (entries below : List (String × Setting)) : List (String × Setting) :=
  match entries with
  | [] => below
  | (key, value) :: rest =>
    let merged := match SettingTable.find? key below with
      | some old => value.laidOver old
      | none => value
    allLaidOver rest (SettingTable.put key merged below)

end

end Setting

/-- The upper layer over the lower one. -/
def SettingTable.laidOver (upper lower : SettingTable) : SettingTable := Setting.allLaidOver upper lower

end BeanAtlas
