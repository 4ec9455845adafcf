import BeanAtlas.Analysis.File
import BeanAtlas.Java.Declarations
import BeanAtlas.Proofs.Extract.Walk
import BeanAtlas.Proofs.Injection.Wiring
import BeanAtlas.Proofs.Source.Place
import BeanAtlas.Proofs.Tree.Visit

/-!
Ranges in each other. In a tree whose nodes lie in their parents, in order and without overlap, everything that is
recorded of a class lies in the class, members of one kind follow each other, and the injections lie in the
class that they belong to.
-/
namespace BeanAtlas

namespace Node

/-- The children of a node lie in it, in order and without overlap. -/
structure WellPlaced (node : Node) : Prop where
  ordered : node.info.start ≤ node.info.stop
  inside : ∀ child ∈ node.children, node.info.start ≤ child.info.start ∧ child.info.stop ≤ node.info.stop
  apart : node.children.Pairwise fun first second => first.info.stop ≤ second.info.start

instance (node : Node) : Decidable node.WellPlaced :=
  decidable_of_iff (node.info.start ≤ node.info.stop ∧
    (∀ child ∈ node.children, node.info.start ≤ child.info.start ∧ child.info.stop ≤ node.info.stop) ∧
    node.children.Pairwise fun first second => first.info.stop ≤ second.info.start)
    ⟨fun given => ⟨given.1, given.2.1, given.2.2⟩, fun placed => ⟨placed.ordered, placed.inside, placed.apart⟩⟩

/-- A tree of nodes in their places that ends where lines and columns still have 32 bits. -/
structure LaidOut (root : Node) : Prop where
  fits : root.info.stop < UInt32.size - 1
  placed : ∀ node ∈ root.nodes, node.WellPlaced

variable {root inner child : Node}

theorem childAt?_mem_nodes {field : String} (found : root.childAt? field = some child) : child ∈ root.nodes :=
  child_mem_nodes (List.mem_of_find?_eq_some found)

theorem mem_nodes_of_at? {place : List Nat} (found : root.at? place = some inner) : inner ∈ root.nodes := by
  induction place generalizing root with
  | nil =>
    obtain rfl := Option.some.inj found
    exact root.self_mem_nodes
  | cons index rest ih =>
    obtain ⟨child, present, found⟩ := Option.bind_eq_some_iff.mp found
    exact mem_nodes_of_child (List.mem_of_getElem? present) (ih found)

namespace LaidOut

theorem of_child (laid : root.LaidOut) (listed : child ∈ root.children) : child.LaidOut where
  fits := Nat.lt_of_le_of_lt ((laid.placed root root.self_mem_nodes).inside child listed).2 laid.fits
  placed node member := laid.placed node (mem_nodes_of_child listed member)

theorem bounds (laid : root.LaidOut) (member : inner ∈ root.nodes) :
    inner.LaidOut ∧ root.info.start ≤ inner.info.start ∧ inner.info.stop ≤ root.info.stop := by
  induction root with
  | node info children ih =>
    rcases mem_nodes.mp member with rfl | ⟨child, listed, member⟩
    · exact ⟨laid, Nat.le_refl _, Nat.le_refl _⟩
    · have outer := (laid.placed _ (self_mem_nodes _)).inside child listed
      obtain ⟨inside, start, stop⟩ := ih child listed (laid.of_child listed) member
      exact ⟨inside, Nat.le_trans outer.1 start, Nat.le_trans stop outer.2⟩

theorem of_mem (laid : root.LaidOut) (member : inner ∈ root.nodes) : inner.LaidOut := (laid.bounds member).1

theorem ordered (laid : root.LaidOut) : root.info.start ≤ root.info.stop :=
  (laid.placed root root.self_mem_nodes).ordered

/-- A node below another one has its range in that of the other. -/
theorem within (laid : root.LaidOut) (member : inner ∈ root.nodes) (source : Source) :
    (inner.range source).Within (root.range source) := by
  obtain ⟨inside, start, stop⟩ := laid.bounds member
  exact {
    start := source.positionAt_mono start (Nat.lt_of_le_of_lt inside.ordered inside.fits)
    ordered := source.positionAt_mono inside.ordered inside.fits
    stop := source.positionAt_mono stop laid.fits }

theorem contains (laid : root.LaidOut) (member : inner ∈ root.nodes) (source : Source) :
    (root.range source).Contains (inner.position source) := by
  have within := laid.within member source
  exact ⟨within.start, le_trans within.ordered within.stop⟩

/-- Ranges of siblings follow each other. -/
theorem apart (laid : root.LaidOut) (source : Source) :
    root.children.Pairwise fun first second => (first.range source).stop ≤ (second.range source).start := by
  refine (laid.placed root root.self_mem_nodes).apart.imp_of_mem fun {first second} _ listed ordered => ?_
  have next := laid.of_child listed
  exact source.positionAt_mono ordered (Nat.lt_of_le_of_lt next.ordered next.fits)

end LaidOut
end Node

/-- A parameter has a range in that of its constructor or method, and its place is in it. -/
def Parameter.LiesIn (outer : Range) (parameter : Parameter) : Prop :=
  ∃ range place, parameter.range = some range ∧ parameter.position = some place ∧
    range.Within outer ∧ range.Contains place

theorem Parameter.LiesIn.mono {parameter : Parameter} {inner outer : Range} (lies : parameter.LiesIn inner)
    (within : inner.Within outer) : parameter.LiesIn outer := by
  obtain ⟨range, place, ranged, placed, inside, contains⟩ := lies
  exact ⟨range, place, ranged, placed, inside.trans within, contains⟩

namespace Extract

variable {node : Node} {source : Source}

theorem place_of_mem_fields {field : Field} (laid : node.LaidOut) (member : field ∈ fields node source) :
    field.range = node.range source ∧ field.range.Contains field.position := by
  unfold fields at member
  split at member
  · simp at member
  · obtain ⟨declarator, listed, found⟩ := List.mem_filterMap.mp member
    simp only [Option.bind_eq_bind, Option.bind_eq_some_iff, Option.pure_def, Option.some.injEq] at found
    obtain ⟨nameNode, atName, name, -, type, -, rfl⟩ := found
    have below : nameNode ∈ node.nodes :=
      Node.mem_nodes_of_child (List.mem_filter.mp listed).1 (Node.childAt?_mem_nodes atName)
    exact ⟨rfl, laid.contains below source⟩

theorem place_of_parameter? {parameter : Parameter} (laid : node.LaidOut)
    (found : parameter? node source = some parameter) :
    ∃ place, parameter.range = some (node.range source) ∧ parameter.position = some place ∧
      (node.range source).Contains place := by
  unfold parameter? at found
  split at found
  · simp only [formalParameter?, Option.bind_eq_bind, Option.bind_eq_some_iff, Option.pure_def,
      Option.some.injEq] at found
    obtain ⟨typeNode, -, nameNode, atName, name, -, type, -, whole, -, rfl⟩ := found
    exact ⟨_, rfl, rfl, laid.contains (Node.childAt?_mem_nodes atName) source⟩
  · split at found
    · simp only [spreadParameter?, Option.bind_eq_bind, Option.bind_eq_some_iff, Option.pure_def,
        Option.some.injEq] at found
      obtain ⟨declarator, listed, nameNode, atName, name, -, typeNode, -, type, -, rfl⟩ := found
      have below : nameNode ∈ node.nodes :=
        Node.mem_nodes_of_child (List.mem_of_find?_eq_some listed) (Node.childAt?_mem_nodes atName)
      exact ⟨_, rfl, rfl, laid.contains below source⟩
    · contradiction

theorem mem_numbered {parameters : List Parameter} {parameter : Parameter}
    (member : parameter ∈ Parameter.numbered parameters) :
    ∃ plain ∈ parameters, parameter.range = plain.range ∧ parameter.position = plain.position := by
  obtain ⟨⟨plain, index⟩, listed, rfl⟩ := List.mem_map.mp member
  exact ⟨plain, List.fst_mem_of_mem_zipIdx listed, rfl, rfl⟩

theorem liesIn_of_mem_parameters {list : Node} {parameter : Parameter} (laid : list.LaidOut)
    (member : parameter ∈ parameters list source) : parameter.LiesIn (list.range source) := by
  obtain ⟨plain, listed, range, position⟩ := mem_numbered member
  obtain ⟨child, below, found⟩ := List.mem_filterMap.mp listed
  have inside := Node.child_mem_nodes (List.mem_filter.mp below).1
  obtain ⟨place, ranged, placed, contains⟩ := place_of_parameter? (laid.of_mem inside) found
  exact ⟨_, place, range.trans ranged, position.trans placed, laid.within inside source, contains⟩

theorem nested_of_constructor? {lines : List String} {className : String} {ctor : Constructor} (laid : node.LaidOut)
    (named : (node.childAt? "name").isSome) (found : constructor? node source lines className = some ctor) :
    ctor.range = node.range source ∧ ctor.range.Contains ctor.position ∧
      ∀ parameter ∈ ctor.parameters, parameter.LiesIn ctor.range := by
  obtain ⟨nameNode, atName⟩ := Option.isSome_iff_exists.mp named
  simp only [constructor?, Option.bind_eq_bind, Option.bind_eq_some_iff, Option.pure_def, Option.some.injEq,
    atName] at found
  obtain ⟨list, atList, rfl⟩ := found
  have below := Node.childAt?_mem_nodes atList
  refine ⟨rfl, laid.contains (Node.childAt?_mem_nodes atName) source, fun parameter member => ?_⟩
  exact (liesIn_of_mem_parameters (laid.of_mem below) member).mono (laid.within below source)

theorem nested_of_method? {method : Method} (laid : node.LaidOut) (found : method? node source = some method) :
    method.range = node.range source ∧ method.range.Contains method.position ∧
      ∀ parameter ∈ method.parameters, parameter.LiesIn method.range := by
  simp only [method?, Option.bind_eq_bind, Option.bind_eq_some_iff, Option.pure_def, Option.some.injEq] at found
  obtain ⟨nameNode, atName, name, -, list, atList, rfl⟩ := found
  have below := Node.childAt?_mem_nodes atList
  refine ⟨rfl, laid.contains (Node.childAt?_mem_nodes atName) source, fun parameter member => ?_⟩
  exact (liesIn_of_mem_parameters (laid.of_mem below) member).mono (laid.within below source)

/-! ### Classes -/

variable {site : Site} {kind : String} {unit : Unit} {root : Node} {info : JavaClass}

theorem membersOfKind_apart (laid : site.declaration.LaidOut) (source : Source) (kind : String) :
    (membersOfKind site.declaration kind).Pairwise fun first second =>
      (first.range source).stop ≤ (second.range source).start := by
  rw [membersOfKind, members]
  cases found : site.declaration.childAt? "body" with
  | none => exact .nil
  | some body =>
    have ordered := (laid.of_mem (Node.childAt?_mem_nodes found)).apart source
    exact (ordered.filter _).filter _

/-- The places in a class: its name, its members and their parameters lie where they belong, and members of one
kind follow each other. Fields share a range only when they share a declaration of the tree. -/
structure Nests (source : Source) (root : Node) (info : JavaClass) : Prop where
  position : info.range.Contains info.position
  fields : ∀ field ∈ info.fields, field.range.Within info.range ∧ field.range.Contains field.position
  constructors : ∀ ctor ∈ info.constructors, ctor.range.Within info.range ∧ ctor.range.Contains ctor.position ∧
    ∀ parameter ∈ ctor.parameters, parameter.LiesIn ctor.range
  methods : ∀ method ∈ info.methods, method.range.Within info.range ∧ method.range.Contains method.position ∧
    ∀ parameter ∈ method.parameters, parameter.LiesIn method.range
  fieldsApart : info.fields.Pairwise fun first second => first.range.stop ≤ second.range.start ∨
    ∃ declaration ∈ root.nodes, first ∈ Extract.fields declaration source ∧
      second ∈ Extract.fields declaration source ∧ first.range = declaration.range source ∧
      second.range = declaration.range source
  constructorsApart : info.constructors.Pairwise fun first second => first.range.stop ≤ second.range.start
  methodsApart : info.methods.Pairwise fun first second => first.range.stop ≤ second.range.start

theorem place_of_yields (given : site.Yields unit info) (laid : site.declaration.LaidOut) :
    info.range = site.declaration.range unit.source ∧ info.range.Contains info.position := by
  simp only [Site.Yields, classInfo?, Option.bind_eq_bind, Option.bind_eq_some_iff, Option.pure_def,
    Option.some.injEq] at given
  obtain ⟨nameNode, atName, name, -, rfl⟩ := given
  exact ⟨rfl, laid.contains (Node.childAt?_mem_nodes atName) unit.source⟩

theorem member_within {member : Node} (laid : site.declaration.LaidOut)
    (listed : member ∈ membersOfKind site.declaration kind) (source : Source) :
    member.LaidOut ∧ (member.range source).Within (site.declaration.range source) := by
  have below := (mem_membersOfKind listed).1
  exact ⟨laid.of_mem below, laid.within below source⟩

/-- What is read off the members of a kind, one from each, lies in the class and in the order of the members. -/
theorem read_members_nest {α : Type} {read : Node → Option α} {range : α → Range} {holds : α → Prop}
    (laid : site.declaration.LaidOut)
    (each : ∀ member ∈ membersOfKind site.declaration kind, ∀ found, read member = some found →
      range found = member.range source ∧ holds found) :
    (∀ found ∈ (membersOfKind site.declaration kind).filterMap read,
      (range found).Within (site.declaration.range source) ∧ holds found) ∧
    ((membersOfKind site.declaration kind).filterMap read).Pairwise fun first second =>
      (range first).stop ≤ (range second).start := by
  constructor
  · intro found member
    obtain ⟨declaration, listed, given⟩ := List.mem_filterMap.mp member
    obtain ⟨same, holds⟩ := each declaration listed found given
    exact ⟨same ▸ (member_within laid listed source).2, holds⟩
  · rw [List.pairwise_filterMap]
    refine (membersOfKind_apart laid source kind).imp_of_mem fun listed listed' apart => ?_
    intro first givenFirst second givenSecond
    rw [(each _ listed first givenFirst).1, (each _ listed' second givenSecond).1]
    exact apart

theorem fields_nest (laid : site.declaration.LaidOut) :
    ∀ field ∈ (membersOfKind site.declaration kind).flatMap (fields · source),
      field.range.Within (site.declaration.range source) ∧ field.range.Contains field.position := by
  intro field member
  obtain ⟨declaration, listed, member⟩ := List.mem_flatMap.mp member
  obtain ⟨own, within⟩ := member_within laid listed source
  obtain ⟨same, contains⟩ := place_of_mem_fields own member
  exact ⟨same ▸ within, contains⟩

/-- Fields follow each other, but for those of one declaration, which share its range. -/
theorem fields_apart (laid : site.declaration.LaidOut) (declared : site.declaration ∈ root.nodes) :
    ((membersOfKind site.declaration kind).flatMap (fields · source)).Pairwise fun first second =>
      first.range.stop ≤ second.range.start ∨ ∃ declaration ∈ root.nodes, first ∈ fields declaration source ∧
        second ∈ fields declaration source ∧ first.range = declaration.range source ∧
        second.range = declaration.range source := by
  have ranged : ∀ declaration ∈ membersOfKind site.declaration kind, ∀ field ∈ fields declaration source,
      field.range = declaration.range source :=
    fun declaration listed field member => (place_of_mem_fields (member_within laid listed source).1 member).1
  rw [List.pairwise_flatMap]
  constructor
  · intro declaration listed
    refine List.pairwise_of_forall_mem_list fun first memberFirst second memberSecond => .inr ?_
    exact ⟨declaration, Node.mem_nodes_trans (mem_membersOfKind listed).1 declared, memberFirst, memberSecond,
      ranged declaration listed first memberFirst, ranged declaration listed second memberSecond⟩
  · refine (membersOfKind_apart laid source kind).imp_of_mem fun listed listed' apart => ?_
    intro first memberFirst second memberSecond
    rw [ranged _ listed first memberFirst, ranged _ listed' second memberSecond]
    exact .inl apart

theorem nests_of_yields (laid : root.LaidOut) (declared : site.declaration ∈ root.nodes)
    (named : ∀ node ∈ root.nodes, node.kind = "constructor_declaration" → (node.childAt? "name").isSome)
    (given : site.Yields unit info) : Nests unit.source root info := by
  have own := laid.of_mem declared
  have describes := Site.describes_of_classInfo? given
  obtain ⟨range, position⟩ := place_of_yields given own
  have eachConstructor : ∀ member ∈ membersOfKind site.declaration "constructor_declaration", ∀ ctor,
      constructor? member unit.source unit.lines info.name = some ctor →
        ctor.range = member.range unit.source ∧ ctor.range.Contains ctor.position ∧
          ∀ parameter ∈ ctor.parameters, parameter.LiesIn ctor.range := by
    intro member listed ctor found
    obtain ⟨below, kind⟩ := mem_membersOfKind listed
    have nameGiven := named member (Node.mem_nodes_trans below declared) kind
    exact nested_of_constructor? (own.of_mem below) nameGiven found
  have eachMethod : ∀ member ∈ membersOfKind site.declaration "method_declaration", ∀ method,
      method? member unit.source = some method →
        method.range = member.range unit.source ∧ method.range.Contains method.position ∧
          ∀ parameter ∈ method.parameters, parameter.LiesIn method.range :=
    fun member listed method found => nested_of_method? (own.of_mem (mem_membersOfKind listed).1) found
  have constructors := read_members_nest own eachConstructor
  have methods := read_members_nest own eachMethod
  rw [← describes.constructors, ← range] at constructors
  rw [← describes.methods, ← range] at methods
  exact {
    position
    fields := by
      rw [describes.fields, range]
      exact fields_nest own
    constructors := constructors.1
    methods := methods.1
    fieldsApart := by
      rw [describes.fields]
      exact fields_apart own declared
    constructorsApart := constructors.2
    methodsApart := methods.2 }

/-- A class nested in another one has its range in that of the other. -/
theorem within_of_nested {inner : Site} {innerInfo : JavaClass} (laid : site.declaration.LaidOut)
    (given : site.Yields unit info) (givenInner : inner.Yields unit innerInfo)
    (below : inner ∈ site.nested source) : innerInfo.range.Within info.range := by
  obtain ⟨-, -, listed, -⟩ := Site.mem_nested.mp below
  obtain ⟨body, part, index, found, present, -⟩ := Site.mem_members.mp listed
  have atPart := List.mem_zipIdx_iff_getElem?.mp (List.mem_of_find?_eq_some found)
  have member : inner.declaration ∈ site.declaration.nodes :=
    Node.mem_nodes_of_child (List.mem_of_getElem? atPart) (Node.child_mem_nodes (List.mem_of_getElem? present))
  rw [(place_of_yields given laid).1, (place_of_yields givenInner (laid.of_mem member)).1]
  exact laid.within member unit.source

theorem unitClasses_yield (file : FilePath) (source : Source) (root : Node) :
    List.Forall₂ (Site.Yields (.of file source root))
      ((Site.outermost source root).flatMap (Site.walk source)) (unitClasses file source root) := by
  rw [Site.unitClasses_eq]
  exact Site.forall₂_flatMap fun start _ => Site.walk_yields _ start

end Extract

/-! ### Injections -/

/-- A generated constructor has parameters for some of the fields. -/
theorem Lombok.exists_of_mem_constructors {info : JavaClass} {ctor : VirtualConstructor}
    (member : ctor ∈ (simulate info).constructors) :
    ∃ use takesPart, ctor = virtualConstructor use (info.fields.filter takesPart) := by
  cases success : (simulate info).isSuccess with
  | true =>
    rw [simulate_of_success success] at member
    rcases List.mem_append.mp member with found | found
    all_goals
      obtain ⟨use, -, made⟩ := generated?_eq_some.mp (Option.mem_toList.mp found)
      exact ⟨use, _, made.symm⟩
  | false =>
    unfold simulate at success member
    dsimp only at success member
    split at member
    · next passed => simp [passed] at success
    · simp at member

namespace Injection

variable {injection : Injection} {info : JavaClass} {source : Source} {root : Node}

theorem within_of_mem_parameterSites {kind : InjectionKind} {parameters : List Parameter} {position : Position}
    {fallback outer : Range} (lie : ∀ parameter ∈ parameters, parameter.LiesIn outer)
    (member : injection ∈ parameterSites kind info parameters position fallback) : injection.range.Within outer := by
  obtain ⟨parameter, listed, rfl⟩ := List.mem_map.mp member
  obtain ⟨range, place, ranged, -, within, -⟩ := lie parameter listed
  simpa [site, ranged] using within

theorem mem_of_constructor? {ctor : Constructor} (found : constructor? info = some ctor) :
    ctor ∈ info.constructors := by
  unfold constructor? at found
  split at found
  · contradiction
  · next only declared =>
    rw [declared, Option.some.inj found]
    exact List.mem_singleton_self ctor
  · exact List.mem_of_find?_eq_some found

/-- The parameter of a generated constructor lies where its field does. -/
theorem liesIn_of_mem_generated (nests : Extract.Nests source root info) {ctor : Lombok.VirtualConstructor}
    (generated : ctor ∈ (Lombok.simulate info).constructors) :
    ∀ parameter ∈ ctor.parameters, parameter.LiesIn info.range := by
  intro parameter member
  obtain ⟨use, takesPart, rfl⟩ := Lombok.exists_of_mem_constructors generated
  obtain ⟨plain, listed, range, position⟩ := Extract.mem_numbered member
  obtain ⟨field, taken, rfl⟩ := List.mem_map.mp listed
  obtain ⟨within, contains⟩ := nests.fields field (List.mem_filter.mp taken).1
  exact ⟨field.range, field.position, range, position, within, contains⟩

/-- Where the ranges of a class are in order, its sites are in the class. -/
theorem within_of_mem_sites (nests : Extract.Nests source root info) {lines : Option (List String)}
    {kind : InjectionKind} (member : injection ∈ sites lines kind [info]) : injection.range.Within info.range := by
  rw [sites.eq_def, List.flatMap_singleton] at member
  cases kind with
  | field =>
    obtain ⟨field, listed, rfl⟩ := List.mem_map.mp member
    exact (nests.fields field (List.mem_filter.mp listed).1).1
  | constructor =>
    simp only [constructorSites] at member
    split at member
    · contradiction
    · next ctor found =>
      obtain ⟨within, -, lie⟩ := nests.constructors ctor (mem_of_constructor? found)
      exact (within_of_mem_parameterSites lie member).trans within
  | setter =>
    obtain ⟨method, listed, member⟩ := List.mem_flatMap.mp member
    obtain ⟨within, -, lie⟩ := nests.methods method (List.mem_filter.mp listed).1
    exact (within_of_mem_parameterSites lie member).trans within
  | lombokConstructor =>
    simp only [lombokSites] at member
    split at member
    · split at member
      · contradiction
      · next ctor chosen =>
        exact within_of_mem_parameterSites (liesIn_of_mem_generated nests (chosen?_eq_some_iff.mp chosen).1) member
    · contradiction
  | beanMethod =>
    obtain ⟨-, member⟩ := List.mem_ite_nil_right.mp member
    obtain ⟨method, listed, member⟩ := List.mem_flatMap.mp member
    obtain ⟨within, -, lie⟩ := nests.methods method (List.mem_filter.mp listed).1
    exact (within_of_mem_parameterSites lie member).trans within

end Injection

namespace Document

open Extract (Site Unit Nests)

variable {document : Document} {root : Node}

theorem analyze_of_tree (parsed : document.tree = .ok root) (file : FilePath) (settings : DetectorSettings) :
    (document.analyze file settings).classes = Extract.unitClasses file document.source root ∧
    (document.analyze file settings).injections = (siteOrder.filter settings.enables).flatMap fun kind =>
      Injection.sites (some (Text.lines document.source.text)) kind
        (Extract.unitClasses file document.source root) := by
  simp [analyze, extract, parsed]

/-- In a text of less than 2³² - 1 bytes and a tree of nodes in their places, with names for all constructors, the
recorded ranges are nested and ordered: in every class, from every nested class to the class around it, and from
every injection to the class that it is found in. -/
theorem recorded_ranges_nest (document : Document) (root : Node) (file : FilePath) (settings : DetectorSettings)
    (parsed : document.tree = .ok root) (short : document.source.text.utf8ByteSize < UInt32.size - 1)
    (covered : root.info.stop ≤ document.source.text.utf8ByteSize)
    (placed : ∀ node ∈ root.nodes, node.WellPlaced)
    (named : ∀ node ∈ root.nodes, node.kind = "constructor_declaration" → (node.childAt? "name").isSome) :
    (∀ info ∈ (document.analyze file settings).classes, Nests document.source root info) ∧
    (∃ sites : List Site,
      (∀ site, site ∈ sites ↔ Site.Extracted document.source root site) ∧
      sites.Pairwise (·.place < ·.place) ∧
      List.Forall₂ (Site.Yields (Unit.of file document.source root)) sites
        (document.analyze file settings).classes ∧
      ∀ outer ∈ sites.zip (document.analyze file settings).classes,
        ∀ inner ∈ sites.zip (document.analyze file settings).classes,
          inner.1 ∈ outer.1.nested document.source → inner.2.range.Within outer.2.range) ∧
    ∀ injection ∈ (document.analyze file settings).injections,
      ∃ owner ∈ (document.analyze file settings).classes,
        injection ∈ Injection.sites (some (Text.lines document.source.text)) injection.kind [owner] ∧
        injection.ownerClass = owner.qualifiedName ∧ injection.range.Within owner.range := by
  have laid : root.LaidOut := ⟨Nat.lt_of_le_of_lt covered short, placed⟩
  have yields := Extract.unitClasses_yield file document.source root
  obtain ⟨classes, injections⟩ := analyze_of_tree parsed file settings
  rw [← classes] at yields injections
  have declared : ∀ pair ∈ ((Site.outermost document.source root).flatMap
      (Site.walk document.source)).zip (document.analyze file settings).classes,
      pair.1.declaration ∈ root.nodes ∧ pair.1.Yields (.of file document.source root) pair.2 := by
    intro pair member
    have extracted : Site.Extracted document.source root pair.1 :=
      Site.mem_walk_outermost.mp (List.of_mem_zip member).1
    exact ⟨Node.mem_nodes_of_at? extracted.at?, List.forall₂_zip yields member⟩
  have nests : ∀ info ∈ (document.analyze file settings).classes, Nests document.source root info := by
    intro info member
    rw [← List.map_snd_zip (Nat.le_of_eq yields.length_eq.symm)] at member
    obtain ⟨pair, listed, rfl⟩ := List.mem_map.mp member
    obtain ⟨present, given⟩ := declared pair listed
    exact Extract.nests_of_yields laid present named given
  refine ⟨nests, ⟨_, fun site => Site.mem_walk_outermost, ?_, yields, ?_⟩, ?_⟩
  · exact Site.sorted_flatMap_walk document.source (Site.outermost_fork _ root) fun start _ => Site.sorted_walk _ start
  · intro outer memberOuter inner memberInner below
    obtain ⟨present, given⟩ := declared outer memberOuter
    exact Extract.within_of_nested (laid.of_mem present) given (declared inner memberInner).2 below
  · intro injection member
    rw [injections] at member
    obtain ⟨kind, -, member⟩ := List.mem_flatMap.mp member
    obtain ⟨owner, listed, found⟩ := List.mem_flatMap.mp member
    have own : injection ∈ Injection.sites (some (Text.lines document.source.text)) kind [owner] :=
      List.mem_flatMap.mpr ⟨owner, List.mem_singleton_self owner, found⟩
    obtain ⟨_, single, _, _, _, _, _, rfl⟩ := Injection.exists_isSite_of_mem_sites own
    obtain rfl := List.mem_singleton.mp single
    exact ⟨_, listed, own, rfl, Injection.within_of_mem_sites (nests _ listed) own⟩

/-- Two fields in one declaration, a generated constructor, and a class in a class on several lines. -/
def shopUnit : String :=
  "@AllArgsConstructor class Shop \x7b\n  Clock open, closed; static class Till \x7b\n" ++
  "    Till(Drawer drawer,\n  Printer... printers) \x7b\x7d @Autowired void setBell(Bell bell) \x7b\x7d \x7d \x7d"

theorem shopUnit_ranges_nest :
    let document := Document.ofText shopUnit
    let root := Java.unitTree shopUnit
    let analysis := document.analyze ⟨"Shop.java"⟩ {}
    ((document.source.text.utf8ByteSize < UInt32.size - 1 ∧ root.info.stop ≤ document.source.text.utf8ByteSize) ∧
      (∀ node ∈ root.nodes, node.WellPlaced) ∧
      (∀ node ∈ root.nodes, node.kind = "constructor_declaration" → (node.childAt? "name").isSome) ∧
      analysis.injections.map (·.kind) =
        [.constructor, .constructor, .setter, .lombokConstructor, .lombokConstructor]) ∧
    (∀ info ∈ analysis.classes, Nests document.source root info) ∧
    ∀ injection ∈ analysis.injections, ∃ owner ∈ analysis.classes, injection.range.Within owner.range := by
  intro document root analysis
  have given : (document.source.text.utf8ByteSize < UInt32.size - 1 ∧
      root.info.stop ≤ document.source.text.utf8ByteSize) ∧ (∀ node ∈ root.nodes, node.WellPlaced) ∧
      (∀ node ∈ root.nodes, node.kind = "constructor_declaration" → (node.childAt? "name").isSome) ∧
      analysis.injections.map (·.kind) =
        [.constructor, .constructor, .setter, .lombokConstructor, .lombokConstructor] := by
    decide +kernel
  obtain ⟨nests, -, owned⟩ := recorded_ranges_nest document root ⟨"Shop.java"⟩ {} rfl given.1.1 given.1.2
    given.2.1 given.2.2.1
  refine ⟨given, nests, fun injection member => ?_⟩
  obtain ⟨owner, listed, -, -, within⟩ := owned injection member
  exact ⟨owner, listed, within⟩

end Document
end BeanAtlas
