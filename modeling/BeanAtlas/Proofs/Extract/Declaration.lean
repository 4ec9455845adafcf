import BeanAtlas.Extract.Class
import BeanAtlas.Proofs.Tree.Visit

/-!
The parts of declarations: the members of a class, and the dotted name that a package or import declaration gives. Such
a name is made of the identifiers below it in pre-order. It is passed down through named nodes only, and what lies in
an identifier is no part of it.
-/
namespace BeanAtlas

/-- An identifier that is a part of a name: it is named, as all nodes around it are, and lies in no other identifier. -/
def Visit.isNamePart (visit : Visit) : Bool :=
  visit.node.kind == "identifier" && (visit.node :: visit.around).all (·.info.isNamed) &&
    visit.around.all (·.kind != "identifier")

namespace Extract

/-- The named children of the body of a class. -/
def members (declaration : Node) : List Node :=
  ((declaration.childAt? "body").map (·.namedChildren)).getD []

/-- The members of one kind in the body of a class. -/
def membersOfKind (declaration : Node) (kind : String) : List Node :=
  (members declaration).filter (·.kind == kind)

theorem mem_nodes_of_mem_members {declaration member : Node} (listed : member ∈ members declaration) :
    member ∈ declaration.nodes := by
  unfold members at listed
  cases found : declaration.childAt? "body" with
  | none => simp [found] at listed
  | some body =>
    rw [found] at listed
    exact Node.mem_nodes_of_child (List.mem_of_find?_eq_some found)
      (Node.child_mem_nodes (List.mem_filter.mp listed).1)

theorem mem_membersOfKind {declaration member : Node} {kind : String}
    (listed : member ∈ membersOfKind declaration kind) : member ∈ declaration.nodes ∧ member.kind = kind := by
  obtain ⟨listed, same⟩ := List.mem_filter.mp listed
  exact ⟨mem_nodes_of_mem_members listed, beq_iff_eq.mp same⟩

/-! ### Dotted names -/

/-- The child of a declaration that gives its name. -/
def nameNode? (declaration : Node) : Option Node :=
  declaration.children.find? fun child =>
    child.info.isNamed && (child.kind == "scoped_identifier" || child.kind == "identifier")

/-- The texts of the identifiers that make up a name. -/
def nameTexts (source : Source) (name : Node) : List String :=
  (name.visits.filter (·.isNamePart)).filterMap (·.node.text? source)

/-- The package of a compilation unit, by its first package declaration; the empty name where there is none. -/
def packageOf (source : Source) (root : Node) : String :=
  match (root.children.find? (·.kind == "package_declaration")).bind nameNode? with
  | none => ""
  | some name => ".".intercalate (nameTexts source name)

variable {source : Source} {root node name : Node} {around : List Node}

theorem identifiersAmong_eq (source : Source) (children : List Node) :
    identifiersAmong source children =
      children.flatMap fun child => if child.info.isNamed then identifiers source child else [] := by
  induction children with
  | nil => rfl
  | cons child rest ih => rw [identifiersAmong, ih, List.flatMap_cons]

/-- Below an unnamed node, and below an identifier, there is no part of a name. -/
theorem filter_isNamePart_eq_nil {visits : List Visit} {outer : Node} (inside : ∀ visit ∈ visits, outer ∈ visit.around)
    (barred : outer.info.isNamed = false ∨ outer.kind = "identifier") : visits.filter (·.isNamePart) = [] := by
  refine List.filter_eq_nil_iff.mpr fun visit member part => ?_
  simp only [Visit.isNamePart, Bool.and_eq_true, List.all_eq_true] at part
  obtain ⟨⟨-, named⟩, outside⟩ := part
  have listed := inside visit member
  rcases barred with unnamed | identifier
  · simp [named outer (List.mem_cons_of_mem _ listed)] at unnamed
  · simpa [identifier] using outside outer listed

theorem mem_around_of_mem_flatMap {children : List Node} {visit : Visit} {outer : Node}
    (member : visit ∈ children.flatMap (·.visitsFrom (outer :: around))) : outer ∈ visit.around := by
  obtain ⟨child, -, member⟩ := List.mem_flatMap.mp member
  exact (Node.around_of_mem_visitsFrom member).mem List.mem_cons_self

theorem filter_isNamePart_of_unnamed (unnamed : node.info.isNamed = false) (around : List Node) :
    (node.visitsFrom around).filter (·.isNamePart) = [] := by
  obtain ⟨info, children⟩ := node
  have here : Visit.isNamePart ⟨around, .node info children⟩ = false := by simp [Visit.isNamePart, unnamed]
  rw [Node.visitsFrom_node, List.filter_cons, here, if_neg Bool.false_ne_true]
  exact filter_isNamePart_eq_nil (fun visit member => mem_around_of_mem_flatMap member) (.inl unnamed)

/-- The identifiers of a name are the parts of it that a pass over all nodes finds. -/
theorem identifiers_eq (source : Source) (node : Node) (named : ∀ outer ∈ node :: around, outer.info.isNamed)
    (outside : ∀ outer ∈ around, outer.kind ≠ "identifier") :
    identifiers source node =
      ((node.visitsFrom around).filter (·.isNamePart)).filterMap (·.node.text? source) := by
  induction node generalizing around with
  | node info children ih =>
    rw [identifiers, Node.visitsFrom_node, List.filter_cons]
    cases own : info.kind == "identifier" with
    | true =>
      have isIdentifier : (Node.node info children).kind = "identifier" := beq_iff_eq.mp own
      have here : Visit.isNamePart ⟨around, .node info children⟩ := by
        simp only [Visit.isNamePart, Bool.and_eq_true, beq_iff_eq, List.all_eq_true, bne_iff_ne]
        exact ⟨⟨isIdentifier, named⟩, outside⟩
      have below : (children.flatMap (·.visitsFrom (.node info children :: around))).filter (·.isNamePart) = [] :=
        filter_isNamePart_eq_nil (fun visit member => mem_around_of_mem_flatMap member) (.inr isIdentifier)
      rw [if_pos rfl, if_pos here, below, List.filterMap_cons, List.filterMap_nil]
      cases (Node.node info children).text? source <;> rfl
    | false =>
      have other : (Node.node info children).kind ≠ "identifier" := beq_eq_false_iff_ne.mp own
      have here : Visit.isNamePart ⟨around, .node info children⟩ = false := by simp [Visit.isNamePart, other]
      rw [if_neg Bool.false_ne_true, if_neg (by simp [here]), identifiersAmong_eq,
        List.filter_flatMap, List.filterMap_flatMap]
      refine List.flatMap_congr fun child listed => ?_
      cases childNamed : child.info.isNamed with
      | false =>
        rw [filter_isNamePart_of_unnamed childNamed]
        rfl
      | true =>
        rw [if_pos rfl]
        exact ih child listed (List.forall_mem_cons.mpr ⟨childNamed, named⟩)
          (List.forall_mem_cons.mpr ⟨other, outside⟩)

theorem nameNode?_eq (declaration : Node) :
    nameNode? declaration = declaration.namedChildren.find? fun child =>
      child.kind == "scoped_identifier" || child.kind == "identifier" := by
  simp only [nameNode?, Node.namedChildren, List.find?_filter, Bool.decide_and, Bool.decide_eq_true]

theorem identifiers_eq_nameTexts {declaration : Node} (found : nameNode? declaration = some name) :
    identifiers source name = nameTexts source name := by
  have named : name.info.isNamed := by
    have wanted := List.find?_some found
    rw [Bool.and_eq_true] at wanted
    exact wanted.1
  exact identifiers_eq source name (by simpa using named) (by simp)

theorem declaredName?_eq (declaration : Node) (source : Source) :
    declaredName? declaration source = (nameNode? declaration).bind fun name =>
      if nameTexts source name = [] then none else some (".".intercalate (nameTexts source name)) := by
  rw [declaredName?, Option.bind_eq_bind, ← nameNode?_eq]
  cases found : nameNode? declaration with
  | none => rfl
  | some name =>
    rw [Option.bind_some, Option.bind_some, identifiers_eq_nameTexts found]
    cases nameTexts source name <;> rfl

theorem packageName_eq (file : FilePath) (source : Source) (root : Node) :
    (Unit.of file source root).packageName.getD "" = packageOf source root := by
  rw [Unit.of, packageOf, ← Node.childOfKind?]
  cases root.childOfKind? "package_declaration" with
  | none => rfl
  | some declaration =>
    simp only [Option.bind_some, declaredName?_eq]
    cases nameNode? declaration with
    | none => rfl
    | some name => cases texts : nameTexts source name <;> simp [texts]

/-! ### Names without brackets -/

/-- No identifier in a tree holds a closing bracket. -/
def NamesUnbracketed (source : Source) (root : Node) : Prop :=
  ∀ node ∈ root.nodes, node.kind = "identifier" → (node.text? source).all fun name => !(name.toList.contains ']')

instance (source : Source) (root : Node) : Decidable (NamesUnbracketed source root) :=
  inferInstanceAs (Decidable (∀ node ∈ root.nodes, _ → _))

theorem NamesUnbracketed.nameTexts (names : NamesUnbracketed source root) (listed : name ∈ root.nodes) {part : String}
    (member : part ∈ nameTexts source name) : ']' ∉ part.toList := by
  obtain ⟨visit, isPart, text⟩ := List.mem_filterMap.mp member
  obtain ⟨visited, isPart⟩ := List.mem_filter.mp isPart
  simp only [Visit.isNamePart, Bool.and_eq_true, beq_iff_eq] at isPart
  have below : visit.node ∈ name.nodes := List.mem_map_of_mem visited
  have free := names visit.node (Node.mem_nodes_trans below listed) isPart.1.1
  simpa [text] using free

theorem not_mem_intercalate {mark : Char} {parts : List String} (noDot : mark ≠ '.')
    (absent : ∀ part ∈ parts, mark ∉ part.toList) : mark ∉ (".".intercalate parts).toList := by
  induction parts with
  | nil => simp
  | cons first rest ih =>
    have absentFirst := absent first List.mem_cons_self
    have absentRest := ih fun part member => absent part (List.mem_cons_of_mem _ member)
    cases rest with
    | nil => simpa using absentFirst
    | cons second later =>
      simp only [String.intercalate_cons_cons, String.toList_append, List.mem_append, not_or]
      exact ⟨⟨absentFirst, by simpa using noDot⟩, absentRest⟩

theorem NamesUnbracketed.declaredName? {dotted : String} (names : NamesUnbracketed source root)
    (listed : node ∈ root.nodes) (found : declaredName? node source = some dotted) : ']' ∉ dotted.toList := by
  rw [declaredName?_eq] at found
  obtain ⟨name, taken, found⟩ := Option.bind_eq_some_iff.mp found
  have below : name ∈ node.nodes := Node.child_mem_nodes (List.mem_of_find?_eq_some taken)
  split at found
  · cases found
  · cases found
    exact not_mem_intercalate (by decide) fun part member =>
      names.nameTexts (Node.mem_nodes_trans below listed) member

theorem NamesUnbracketed.importPath? {path : String} (names : NamesUnbracketed source root)
    (listed : node ∈ root.nodes) (found : importPath? node source = some path) : ']' ∉ path.toList := by
  simp only [Extract.importPath?, Option.bind_eq_bind, Option.bind_eq_some_iff] at found
  obtain ⟨dotted, declared, found⟩ := found
  have free := names.declaredName? listed declared
  cases found
  split
  · simpa using free
  · exact free

theorem NamesUnbracketed.imports {file : FilePath} (names : NamesUnbracketed source root) :
    ∀ path ∈ (Unit.of file source root).imports, ']' ∉ path.toList := by
  intro path member
  obtain ⟨node, listed, found⟩ := List.mem_filterMap.mp member
  exact names.importPath? (Node.child_mem_nodes (List.mem_filter.mp listed).1) found

end Extract
end BeanAtlas
