import BeanAtlas.Java.Declarations
import BeanAtlas.Proofs.Extract.Declaration
import Mathlib.Data.List.Forall2
import Mathlib.Data.List.Nodup

/-!
The classes of a compilation unit in pre-order. A node is known by its place, the index of the child taken at
each level below the root; the lexicographic order of places is the pre-order of the nodes. Which declarations
become classes is said by a relation of its own, without the walk.
-/
namespace BeanAtlas

namespace Node

/-- The node at a place. -/
def at? (node : Node) : List Nat → Option Node
  | [] => some node
  | index :: rest => node.children[index]?.bind (·.at? rest)

theorem at?_append (node : Node) (place rest : List Nat) :
    node.at? (place ++ rest) = (node.at? place).bind (·.at? rest) := by
  induction place generalizing node with
  | nil => rfl
  | cons index place ih =>
    rw [List.cons_append, at?, at?]
    cases node.children[index]? with
    | none => rfl
    | some child => exact ih child

theorem sizeOf_lt_of_mem_children {node child : Node} (member : child ∈ node.children) :
    sizeOf child < sizeOf node := by
  obtain ⟨info, children⟩ := node
  have smaller := List.sizeOf_lt_of_mem (show child ∈ children from member)
  simp only [Node.node.sizeOf_spec]
  omega

theorem find?_zipIdx (children : List Node) (wanted : Node → Bool) :
    (children.zipIdx.find? (wanted ·.1)).map (·.1) = children.find? wanted := by
  have plain : children.zipIdx.map Prod.fst = children := List.zipIdx_map_fst 0 children
  conv_rhs => rw [← plain]
  rw [List.find?_map]
  rfl

theorem filter_zipIdx (children : List Node) (wanted : Node → Bool) :
    (children.zipIdx.filter (wanted ·.1)).map (·.1) = children.filter wanted := by
  have plain : children.zipIdx.map Prod.fst = children := List.zipIdx_map_fst 0 children
  conv_rhs => rw [← plain]
  rw [List.filter_map]
  rfl

end Node

namespace Extract

/-- A declaration with its place in the tree and the scope that its name is declared in. -/
structure Site where
  place : List Nat
  scope : String
  declaration : Node

/-- The name of a class, where it can be read. -/
def className? (source : Source) (declaration : Node) : Option String :=
  (declaration.childAt? "name").bind (·.text? source)

namespace Site

/-- The named children of the body of a class, with their places. -/
def members (site : Site) : List (List Nat × Node) :=
  match site.declaration.children.zipIdx.find? (·.1.info.field == some "body") with
  | none => []
  | some (body, part) =>
    (body.children.zipIdx.filter (·.1.info.isNamed)).map fun (member, index) =>
      (site.place ++ [part, index], member)

/-- A name that is declared in the scope of a site, with a dot behind the scope unless that is empty. -/
def nameWithin (site : Site) (name : String) : String :=
  if site.scope = "" then name else site.scope ++ "." ++ name

/-- The classes declared directly in the body of a class, in the scope of its qualified name. -/
def nested (source : Source) (site : Site) : List Site :=
  match className? source site.declaration with
  | none => []
  | some name =>
    (site.members.filter (isClass ·.2)).map fun (place, declaration) =>
      ⟨place, site.nameWithin name, declaration⟩

/-- The classes declared directly in a compilation unit, in the scope of its package. -/
def outermost (source : Source) (root : Node) : List Site :=
  (root.children.zipIdx.filter (isClass ·.1)).map fun (declaration, index) =>
    ⟨[index], packageOf source root, declaration⟩

/-- The declarations that become classes: those with a readable name that stand directly in the unit or
directly in the body of one that becomes a class. -/
inductive Extracted (source : Source) (root : Node) : Site → Prop where
  | outermost {site : Site} : site ∈ outermost source root →
      (className? source site.declaration).isSome → Extracted source root site
  | nested {outer inner : Site} : Extracted source root outer → inner ∈ outer.nested source →
      (className? source inner.declaration).isSome → Extracted source root inner

/-- A class has the name and the members of its declaration. -/
structure Describes (unit : Unit) (site : Site) (found : JavaClass) : Prop where
  name : className? unit.source site.declaration = some found.name
  qualifiedName : found.qualifiedName = site.nameWithin found.name
  fields : found.fields =
    (membersOfKind site.declaration "field_declaration").flatMap (Extract.fields · unit.source)
  constructors : found.constructors = (membersOfKind site.declaration "constructor_declaration").filterMap
    (constructor? · unit.source unit.lines found.name)
  methods : found.methods =
    (membersOfKind site.declaration "method_declaration").filterMap (method? · unit.source)

variable {site inner : Site} {source : Source} {unit : Unit} {root : Node}

theorem mem_members {member : List Nat × Node} :
    member ∈ site.members ↔ ∃ body part index,
      site.declaration.children.zipIdx.find? (·.1.info.field == some "body") = some (body, part) ∧
      body.children[index]? = some member.2 ∧ member.2.info.isNamed ∧
      member.1 = site.place ++ [part, index] := by
  obtain ⟨place, node⟩ := member
  unfold members
  cases found : site.declaration.children.zipIdx.find? (·.1.info.field == some "body") with
  | none => simp
  | some pair =>
    obtain ⟨body, part⟩ := pair
    simp only [List.mem_map, List.mem_filter, Prod.exists, List.mem_zipIdx_iff_getElem?, Prod.mk.injEq,
      Option.some.injEq]
    constructor
    · rintro ⟨child, index, ⟨present, named⟩, rfl, rfl⟩
      exact ⟨body, part, index, ⟨rfl, rfl⟩, present, named, rfl⟩
    · rintro ⟨_, _, index, ⟨rfl, rfl⟩, present, named, rfl⟩
      exact ⟨node, index, ⟨present, named⟩, rfl, rfl⟩

theorem mem_nested :
    inner ∈ site.nested source ↔ ∃ name, className? source site.declaration = some name ∧
      (inner.place, inner.declaration) ∈ site.members ∧ isClass inner.declaration ∧
      inner.scope = site.nameWithin name := by
  unfold nested
  cases className? source site.declaration with
  | none => simp
  | some name =>
    obtain ⟨place, scope, declaration⟩ := inner
    simp only [List.mem_map, List.mem_filter, Prod.exists, Site.mk.injEq, Option.some.injEq]
    constructor
    · rintro ⟨_, _, ⟨member, kind⟩, rfl, rfl, rfl⟩
      exact ⟨name, rfl, member, kind, rfl⟩
    · rintro ⟨_, rfl, member, kind, rfl⟩
      exact ⟨place, declaration, ⟨member, kind⟩, rfl, rfl, rfl⟩

/-- The members are the named children of the body, in order. -/
theorem members_nodes (site : Site) :
    site.members.map (·.2) = Extract.members site.declaration := by
  have body := Node.find?_zipIdx site.declaration.children (·.info.field == some "body")
  rw [Extract.members, Node.childAt?, ← body, members]
  cases site.declaration.children.zipIdx.find? (·.1.info.field == some "body") with
  | none => rfl
  | some pair =>
    obtain ⟨body, part⟩ := pair
    rw [List.map_map]
    exact Node.filter_zipIdx body.children (·.info.isNamed)

theorem sizeOf_lt_of_mem_nested (member : inner ∈ site.nested source) :
    sizeOf inner.declaration < sizeOf site.declaration := by
  obtain ⟨-, -, member, -⟩ := mem_nested.mp member
  obtain ⟨body, part, index, found, present, -⟩ := mem_members.mp member
  have child := List.mem_of_getElem? (List.mem_zipIdx_iff_getElem?.mp (List.mem_of_find?_eq_some found))
  have bodySmaller := Node.sizeOf_lt_of_mem_children child
  have memberSmaller := Node.sizeOf_lt_of_mem_children (List.mem_of_getElem? present)
  dsimp only at bodySmaller memberSmaller
  omega

/-- A class and the classes nested in it. -/
def walk (source : Source) (site : Site) : List Site :=
  match className? source site.declaration with
  | none => []
  | some _ => site :: (site.nested source).attach.flatMap fun inner => walk source inner.1
termination_by sizeOf site.declaration
decreasing_by exact sizeOf_lt_of_mem_nested inner.2

theorem mem_walk {found : Site} :
    found ∈ walk source site ↔ (className? source site.declaration).isSome ∧
      (found = site ∨ ∃ inner ∈ site.nested source, found ∈ walk source inner) := by
  rw [walk]
  cases className? source site.declaration with
  | none => simp
  | some name => simp

-- The classes nested in a class lie in its subtree, so a property may be proved of a class from theirs.
@[elab_as_elim]
theorem nested_induction {motive : Site → Prop} (source : Source)
    (step : ∀ site, (∀ inner ∈ site.nested source, motive inner) → motive site) (site : Site) :
    motive site :=
  step site fun inner _ => nested_induction source step inner
termination_by sizeOf site.declaration
decreasing_by exact sizeOf_lt_of_mem_nested ‹_›

theorem extracted_of_mem_walk {start found : Site}
    (started : (className? source start.declaration).isSome → Extracted source root start)
    (member : found ∈ walk source start) : Extracted source root found := by
  induction start using nested_induction source with
  | step site ih =>
    obtain ⟨named, rfl | ⟨inner, below, member⟩⟩ := mem_walk.mp member
    · exact started named
    · exact ih inner below (.nested (started named) below) member

/-- The walk goes on into every class that it meets. -/
theorem mem_walk_of_nested {start outer : Site} (member : outer ∈ walk source start)
    (below : inner ∈ outer.nested source) (named : (className? source inner.declaration).isSome) :
    inner ∈ walk source start := by
  induction start using nested_induction source with
  | step site ih =>
    obtain ⟨namedSite, rfl | ⟨next, belowNext, member⟩⟩ := mem_walk.mp member
    · exact mem_walk.mpr ⟨namedSite, .inr ⟨inner, below, mem_walk.mpr ⟨named, .inl rfl⟩⟩⟩
    · exact mem_walk.mpr ⟨namedSite, .inr ⟨next, belowNext, ih next belowNext member⟩⟩

theorem mem_walk_outermost {found : Site} :
    found ∈ (outermost source root).flatMap (walk source) ↔ Extracted source root found := by
  constructor
  · intro member
    obtain ⟨start, listed, member⟩ := List.mem_flatMap.mp member
    exact extracted_of_mem_walk (.outermost listed) member
  · intro extracted
    induction extracted with
    | outermost listed named =>
      exact List.mem_flatMap.mpr ⟨_, listed, mem_walk.mpr ⟨named, .inl rfl⟩⟩
    | nested _ below named ih =>
      obtain ⟨start, listed, member⟩ := List.mem_flatMap.mp ih
      exact List.mem_flatMap.mpr ⟨start, listed, mem_walk_of_nested member below named⟩

theorem at?_of_mem_members {member : List Nat × Node} (here : root.at? site.place = some site.declaration)
    (listed : member ∈ site.members) : root.at? member.1 = some member.2 := by
  obtain ⟨body, part, index, found, present, -, placed⟩ := mem_members.mp listed
  have atPart := List.mem_zipIdx_iff_getElem?.mp (List.mem_of_find?_eq_some found)
  dsimp only at atPart
  rw [placed, Node.at?_append, here, Option.bind_some, Node.at?, atPart, Option.bind_some, Node.at?, present]
  rfl

theorem Extracted.at? (extracted : Extracted source root site) :
    root.at? site.place = some site.declaration := by
  induction extracted with
  | outermost listed _ =>
    obtain ⟨⟨declaration, index⟩, child, rfl⟩ := List.mem_map.mp listed
    have present := List.mem_zipIdx_iff_getElem?.mp (List.mem_filter.mp child).1
    dsimp only at present ⊢
    rw [Node.at?, present]
    rfl
  | nested _ below _ ih =>
    obtain ⟨-, -, member, -⟩ := mem_nested.mp below
    exact at?_of_mem_members ih member

/-! Places in order. -/

/-- The places part below a common stem, and the left one turns to the earlier child. -/
def Forks (left right : List Nat) : Prop :=
  ∃ stem i j, i < j ∧ stem ++ [i] <+: left ∧ stem ++ [j] <+: right

theorem Forks.lt {left right : List Nat} (forks : Forks left right) : left < right := by
  obtain ⟨stem, i, j, less, ⟨restLeft, rfl⟩, ⟨restRight, rfl⟩⟩ := forks
  rw [List.append_assoc, List.append_assoc]
  exact List.append_left_lt (List.cons_lt_cons_iff.mpr (.inl less))

theorem Forks.ne {left right : List Nat} (forks : Forks left right) : left ≠ right := by
  rintro rfl
  exact List.lt_irrefl left forks.lt

theorem Forks.extend {left right left' right' : List Nat} (forks : Forks left right)
    (extendsLeft : left <+: left') (extendsRight : right <+: right') : Forks left' right' := by
  obtain ⟨stem, i, j, less, below, below'⟩ := forks
  exact ⟨stem, i, j, less, below.trans extendsLeft, below'.trans extendsRight⟩

theorem forks_of_indices (children : List Node) (wanted : Node → Bool) (stem : List Nat) :
    (children.zipIdx.filter (wanted ·.1)).Pairwise fun left right =>
      Forks (stem ++ [left.2]) (stem ++ [right.2]) := by
  have increasing : children.zipIdx.Pairwise (·.2 < ·.2) := by
    rw [← List.pairwise_map, List.zipIdx_map_snd]
    exact List.pairwise_lt_range'
  exact (increasing.filter _).imp fun less => ⟨stem, _, _, less, List.prefix_rfl, List.prefix_rfl⟩

theorem members_fork (site : Site) : site.members.Pairwise fun left right => Forks left.1 right.1 := by
  unfold members
  split
  · exact .nil
  · next body part _ =>
    rw [List.pairwise_map]
    refine (forks_of_indices body.children (·.info.isNamed) (site.place ++ [part])).imp fun forks => ?_
    simpa using forks

theorem nested_fork (source : Source) (site : Site) :
    (site.nested source).Pairwise fun left right => Forks left.place right.place := by
  unfold nested
  split
  · exact .nil
  · rw [List.pairwise_map]
    exact site.members_fork.filter _

theorem outermost_fork (source : Source) (root : Node) :
    (outermost source root).Pairwise fun left right => Forks left.place right.place := by
  unfold outermost
  rw [List.pairwise_map]
  exact forks_of_indices root.children isClass []

theorem place_of_mem_nested (below : inner ∈ site.nested source) :
    ∃ part index, inner.place = site.place ++ [part, index] := by
  obtain ⟨-, -, listed, -⟩ := mem_nested.mp below
  obtain ⟨-, part, index, -, -, -, placed⟩ := mem_members.mp listed
  exact ⟨part, index, placed⟩

theorem place_extends {found : Site} (member : found ∈ walk source site) : site.place <+: found.place := by
  induction site using nested_induction source with
  | step site ih =>
    obtain ⟨-, rfl | ⟨inner, below, member⟩⟩ := mem_walk.mp member
    · exact List.prefix_rfl
    · obtain ⟨part, index, placed⟩ := place_of_mem_nested below
      have longer : site.place <+: inner.place := ⟨[part, index], placed.symm⟩
      exact longer.trans (ih inner below member)

/-- Walks that start at parting places follow each other in pre-order. -/
theorem sorted_flatMap_walk (source : Source) {starts : List Site}
    (fork : starts.Pairwise fun left right => Forks left.place right.place)
    (sorted : ∀ start ∈ starts, (walk source start).Pairwise (·.place < ·.place)) :
    (starts.flatMap (walk source)).Pairwise (·.place < ·.place) := by
  rw [List.pairwise_flatMap]
  refine ⟨sorted, fork.imp fun forks left memberLeft right memberRight => ?_⟩
  exact (forks.extend (place_extends memberLeft) (place_extends memberRight)).lt

theorem walk_of_named {name : String} (named : className? source site.declaration = some name) :
    walk source site = site :: (site.nested source).flatMap (walk source) := by
  rw [walk, named]
  simp

theorem walk_of_unnamed (unnamed : className? source site.declaration = none) : walk source site = [] := by
  rw [walk, unnamed]

theorem sorted_walk (source : Source) (site : Site) : (walk source site).Pairwise (·.place < ·.place) := by
  induction site using nested_induction source with
  | step site ih =>
    cases named : className? source site.declaration with
    | none =>
      rw [walk_of_unnamed named]
      exact .nil
    | some name =>
      rw [walk_of_named named, List.pairwise_cons]
      refine ⟨fun found member => ?_, sorted_flatMap_walk source (site.nested_fork source) ih⟩
      obtain ⟨inner, below, member⟩ := List.mem_flatMap.mp member
      obtain ⟨part, index, placed⟩ := place_of_mem_nested below
      obtain ⟨rest, same⟩ := place_extends member
      -- Everything below the class has a longer place, and a place comes before its extensions.
      have deeper : site.place ++ [] < site.place ++ part :: index :: rest :=
        List.append_left_lt (List.nil_lt_cons part (index :: rest))
      rw [List.append_nil] at deeper
      rw [← same, placed, List.append_assoc]
      exact deeper

/-- In sites at different places no member is met twice. -/
theorem members_nodup {sites : List Site} (sorted : sites.Pairwise (·.place < ·.place)) :
    ((sites.flatMap members).map (·.1)).Nodup := by
  rw [List.map_flatMap, List.nodup_flatMap]
  constructor
  · intro site _
    rw [List.Nodup, List.pairwise_map]
    exact site.members_fork.imp Forks.ne
  · refine sorted.imp fun {left right} less => ?_
    intro place inLeft inRight
    obtain ⟨member, listed, rfl⟩ := List.mem_map.mp inLeft
    obtain ⟨member', listed', same⟩ := List.mem_map.mp inRight
    obtain ⟨_, part, index, -, -, -, placed⟩ := mem_members.mp listed
    obtain ⟨_, part', index', -, -, -, placed'⟩ := mem_members.mp listed'
    -- A member's place without its last two steps is the place of its class.
    rw [placed, placed'] at same
    rw [(List.append_inj' same rfl).1] at less
    exact List.lt_irrefl _ less

/-! Classes from sites. -/

theorem qualified_eq (site : Site) (name : String) : qualified site.scope name = site.nameWithin name := by
  simp only [qualified, nameWithin, String.isEmpty_iff]

theorem describes_of_classInfo? {found : JavaClass}
    (given : classInfo? unit site.scope site.declaration = some found) : Describes unit site found := by
  simp only [classInfo?, Option.bind_eq_bind, Option.bind_eq_some_iff, Option.pure_def,
    Option.some.injEq] at given
  obtain ⟨nameNode, atName, name, text, rfl⟩ := given
  exact {
    name := by simp only [className?, atName, Option.bind_some, text]
    qualifiedName := qualified_eq site name
    fields := by rw [membersOfKind, Extract.members]
    constructors := by rw [membersOfKind, Extract.members]
    methods := by rw [membersOfKind, Extract.members] }

theorem className?_eq_none (unnamed : classInfo? unit site.scope site.declaration = none) :
    className? unit.source site.declaration = none := by
  unfold className?
  unfold classInfo? at unnamed
  cases atName : site.declaration.childAt? "name" with
  | none => rfl
  | some nameNode =>
    cases text : nameNode.text? unit.source with
    | none => rw [Option.bind_some, text]
    | some name => simp [atName, text] at unnamed

end Site

theorem memberClasses_eq (unit : Unit) (scope : String) (members : List Node) :
    memberClasses unit scope members =
      ((members.filter (·.info.isNamed)).filter isClass).flatMap (classes unit scope) := by
  induction members with
  | nil => rfl
  | cons member rest ih =>
    rw [memberClasses, ih]
    cases named : member.info.isNamed <;> cases kind : isClass member <;> simp [named, kind]

theorem bodyClasses_eq (unit : Unit) (scope : String) (children : List Node) :
    bodyClasses unit scope children =
      ((((children.find? (·.info.field == some "body")).map (·.namedChildren)).getD []).filter
        isClass).flatMap (classes unit scope) := by
  induction children with
  | nil => rfl
  | cons child rest ih =>
    obtain ⟨info, members⟩ := child
    rw [bodyClasses, ih, List.find?_cons]
    cases body : info.field == some "body" with
    | true =>
      simp only [Node.info, body, if_true, Option.map_some, Option.getD_some]
      exact memberClasses_eq unit scope members
    | false => simp [Node.info, body]

namespace Site

variable {site : Site} {unit : Unit} {root : Node}

/-- Where a declaration becomes a class, the classes nested in it follow. -/
theorem classes_of_classInfo? {found : JavaClass}
    (given : classInfo? unit site.scope site.declaration = some found) :
    classes unit site.scope site.declaration =
      found :: (site.nested unit.source).flatMap fun inner => classes unit inner.scope inner.declaration := by
  have describes := describes_of_classInfo? given
  have inner : bodyClasses unit found.qualifiedName site.declaration.children =
      (site.nested unit.source).flatMap fun inner => classes unit inner.scope inner.declaration := by
    rw [bodyClasses_eq, ← Node.childAt?, ← Extract.members, ← members_nodes, nested, describes.name,
      describes.qualifiedName, List.filter_map, List.flatMap_map, List.flatMap_map]
    rfl
  -- `classes` recurses on the constructor of the node, so the node is opened last.
  rw [← inner]
  obtain ⟨place, scope, info, children⟩ := site
  rw [classes, given]
  rfl

theorem classes_of_none (unnamed : classInfo? unit site.scope site.declaration = none) :
    classes unit site.scope site.declaration = [] := by
  obtain ⟨place, scope, info, children⟩ := site
  rw [classes, unnamed]

theorem forall₂_flatMap {relation : Site → JavaClass → Prop} {starts : List Site}
    (each : ∀ start ∈ starts, List.Forall₂ relation (walk unit.source start)
      (classes unit start.scope start.declaration)) :
    List.Forall₂ relation (starts.flatMap (walk unit.source))
      (starts.flatMap fun start => classes unit start.scope start.declaration) := by
  induction starts with
  | nil => exact .nil
  | cons first rest ih =>
    simp only [List.flatMap_cons]
    exact List.rel_append (each first (by simp)) (ih fun start member => each start (by simp [member]))

/-- A class is what its declaration stands for. -/
def Yields (unit : Unit) (site : Site) (found : JavaClass) : Prop :=
  classInfo? unit site.scope site.declaration = some found

theorem walk_yields (unit : Unit) (site : Site) :
    List.Forall₂ (Yields unit) (walk unit.source site) (classes unit site.scope site.declaration) := by
  induction site using nested_induction unit.source with
  | step site ih =>
    cases given : classInfo? unit site.scope site.declaration with
    | none =>
      rw [classes_of_none given, walk_of_unnamed (className?_eq_none given)]
      exact .nil
    | some found =>
      rw [classes_of_classInfo? given, walk_of_named (describes_of_classInfo? given).name]
      exact .cons given (forall₂_flatMap ih)

theorem walk_describes (unit : Unit) (site : Site) :
    List.Forall₂ (Describes unit) (walk unit.source site)
      (classes unit site.scope site.declaration) :=
  (walk_yields unit site).imp fun _ _ => describes_of_classInfo?

theorem unitClasses_eq (file : FilePath) (source : Source) (root : Node) :
    unitClasses file source root =
      (outermost source root).flatMap fun site =>
        classes (Unit.of file source root) site.scope site.declaration := by
  rw [unitClasses, outermost, List.flatMap_map, ← Node.filter_zipIdx, List.flatMap_map]
  simp only [packageName_eq]

end Site

/-- The classes of a compilation unit are described one by one, in pre-order, by the declarations with a readable
name that stand directly in the unit or in the body of one that became a class. Each such declaration is
a node of the tree, is met once, and names its class within its scope, which is the package or the class around it; and
the members of a class are those of its own body, none of which belongs to a second class. -/
theorem unitClasses_in_preorder (file : FilePath) (source : Source) (root : Node) :
    ∃ sites : List Site,
      (∀ site, site ∈ sites ↔ Site.Extracted source root site) ∧
      (∀ site ∈ sites, root.at? site.place = some site.declaration ∧
        site.members.map (·.2) = members site.declaration ∧
        ∀ member ∈ site.members, root.at? member.1 = some member.2) ∧
      sites.Pairwise (·.place < ·.place) ∧
      List.Forall₂ (Site.Describes (Unit.of file source root)) sites (unitClasses file source root) ∧
      ((sites.flatMap Site.members).map (·.1)).Nodup := by
  have sorted := Site.sorted_flatMap_walk source (Site.outermost_fork source root) fun start _ =>
    Site.sorted_walk source start
  refine ⟨_, fun site => Site.mem_walk_outermost, fun site member => ?_, sorted, ?_,
    Site.members_nodup sorted⟩
  · have here := (Site.mem_walk_outermost.mp member).at?
    exact ⟨here, site.members_nodes, fun member listed => Site.at?_of_mem_members here listed⟩
  · rw [Site.unitClasses_eq]
    exact Site.forall₂_flatMap fun start _ => Site.walk_describes _ start

/-- A class with a member of each kind and a class in it, in a package. -/
def nestedUnit : String :=
  "package shop.mail; class Smtp \x7b int port, rate; Smtp() \x7b\x7d class Codec \x7b byte[] table; \x7d\n" ++
  "  void send(Mail mail) \x7b\x7d \x7d"

theorem nestedUnit_in_preorder :
    let root := Java.unitTree nestedUnit
    let found := unitClasses ⟨"Smtp.java"⟩ (.of nestedUnit) root
    (∃ sites : List Site, (∀ site, site ∈ sites ↔ Site.Extracted (.of nestedUnit) root site) ∧
      sites.length = 2 ∧ List.Forall₂ (Site.Describes (Unit.of ⟨"Smtp.java"⟩ (.of nestedUnit) root)) sites found) ∧
    found.map (·.qualifiedName) = ["shop.mail.Smtp", "shop.mail.Smtp.Codec"] ∧
    found.map (·.fields.map (·.name)) = [["port", "rate"], ["table"]] ∧
    found.map (·.constructors.length) = [1, 0] ∧ found.map (·.methods.map (·.name)) = [["send"], []] := by
  intro root found
  obtain ⟨sites, extracted, -, -, described, -⟩ := unitClasses_in_preorder ⟨"Smtp.java"⟩ (.of nestedUnit) root
  have two : found.length = 2 := by decide +kernel
  refine ⟨⟨sites, extracted, described.length_eq.trans two, described⟩, ?_⟩
  decide +kernel

end Extract
end BeanAtlas
