import BeanAtlas.Java.Declarations
import BeanAtlas.Proofs.Extract.Declaration

/-!
Comments in a syntax tree. A tree without its comments yields the same classes, as long as no comment is taken
for a part of a declaration. There are two places where one is: a comment among the interfaces of a class
counts as an interface, and one in front of the type of a variable-arity parameter counts as that type.
-/
namespace BeanAtlas

namespace Node

def commentKinds : List String := ["line_comment", "block_comment"]

def isComment (node : Node) : Bool := commentKinds.contains node.kind

mutual

/-- The tree without its comments; all other nodes keep their places in the text. -/
def withoutComments : Node → Node
  | .node info children => .node info (withoutCommentsAmong children)

def withoutCommentsAmong : List Node → List Node
  | [] => []
  | child :: rest =>
    if child.isComment then withoutCommentsAmong rest
    else child.withoutComments :: withoutCommentsAmong rest

end

/-- The comments among the children of a node have no parts and fill no field. -/
def hasBareComments (node : Node) : Bool :=
  node.children.all fun child =>
    !child.isComment || (child.children.isEmpty && child.info.field.isNone)

/-- No comment in a tree has parts or fills a field. -/
def BareThroughout (root : Node) : Prop := ∀ node ∈ root.nodes, node.hasBareComments

instance (root : Node) : Decidable root.BareThroughout :=
  inferInstanceAs (Decidable (∀ node ∈ root.nodes, _))

variable {node child : Node} {wanted : Node → Bool}

theorem BareThroughout.self (bare : node.BareThroughout) : node.hasBareComments := bare node node.self_mem_nodes

theorem BareThroughout.of_mem {inner : Node} (bare : node.BareThroughout) (member : inner ∈ node.nodes) :
    inner.BareThroughout :=
  fun below listed => bare below (mem_nodes_trans listed member)

theorem BareThroughout.of_child (bare : node.BareThroughout) (member : child ∈ node.children) : child.BareThroughout :=
  bare.of_mem (child_mem_nodes member)

theorem withoutCommentsAmong_eq (children : List Node) :
    withoutCommentsAmong children = (children.filter (!·.isComment)).map withoutComments := by
  induction children with
  | nil => rfl
  | cons child rest ih =>
    rw [withoutCommentsAmong, ih]
    cases comment : child.isComment with
    | true => simp [comment]
    | false => simp [comment]

@[simp]
theorem info_withoutComments (node : Node) : node.withoutComments.info = node.info := by
  cases node
  rfl

theorem children_withoutComments (node : Node) :
    node.withoutComments.children = (node.children.filter (!·.isComment)).map withoutComments := by
  obtain ⟨info, children⟩ := node
  exact withoutCommentsAmong_eq children

@[simp]
theorem kind_withoutComments (node : Node) : node.withoutComments.kind = node.kind := by
  rw [kind, info_withoutComments, kind]

@[simp]
theorem text?_withoutComments (node : Node) (source : Source) :
    node.withoutComments.text? source = node.text? source := by
  rw [text?, info_withoutComments, text?]

@[simp]
theorem position_withoutComments (node : Node) (source : Source) :
    node.withoutComments.position source = node.position source := by
  rw [position, info_withoutComments, position]

@[simp]
theorem range_withoutComments (node : Node) (source : Source) :
    node.withoutComments.range source = node.range source := by
  rw [range, position_withoutComments, info_withoutComments, range]

/-- Selecting children that are no comments commutes with leaving the comments out. -/
theorem filter_withoutComments (stable : ∀ child, wanted child.withoutComments = wanted child)
    (unwanted : ∀ child ∈ node.children, child.isComment → wanted child = false) :
    node.withoutComments.children.filter wanted = (node.children.filter wanted).map withoutComments := by
  have kept : ∀ child ∈ node.children, (!child.isComment && wanted child) = wanted child := by
    intro child member
    cases comment : child.isComment with
    | true => simp [unwanted child member comment]
    | false => simp
  rw [children_withoutComments, List.filter_map, List.filter_filter]
  congr 1
  refine List.filter_congr fun child member => ?_
  rw [Function.comp_apply, stable, Bool.and_comm, kept child member]

theorem find?_withoutComments (stable : ∀ child, wanted child.withoutComments = wanted child)
    (unwanted : ∀ child ∈ node.children, child.isComment → wanted child = false) :
    node.withoutComments.children.find? wanted = (node.children.find? wanted).map withoutComments := by
  rw [← List.head?_filter, filter_withoutComments stable unwanted, List.head?_map, List.head?_filter]

theorem kind_ne_of_isComment (comment : child.isComment) {kind : String} (other : kind ∉ commentKinds) :
    (child.kind == kind) = false := by
  rw [beq_eq_false_iff_ne]
  rintro rfl
  exact other (List.contains_iff_mem.mp comment)

theorem childOfKind?_withoutComments {kind : String} (other : kind ∉ commentKinds) :
    node.withoutComments.childOfKind? kind = (node.childOfKind? kind).map withoutComments :=
  find?_withoutComments (by simp) fun _ _ comment => kind_ne_of_isComment comment other

theorem childrenOfKind_withoutComments {kind : String} (other : kind ∉ commentKinds) :
    node.withoutComments.childrenOfKind kind = (node.childrenOfKind kind).map withoutComments :=
  filter_withoutComments (by simp) fun _ _ comment => kind_ne_of_isComment comment other

theorem bare_of_isComment (bare : node.hasBareComments) (member : child ∈ node.children)
    (comment : child.isComment) : child.children = [] ∧ child.info.field = none := by
  have given := List.all_eq_true.mp bare child member
  simpa [comment] using given

theorem field_ne_of_isComment (bare : node.hasBareComments) (member : child ∈ node.children)
    (comment : child.isComment) (field : String) : (child.info.field == some field) = false := by
  simp [(bare_of_isComment bare member comment).2]

theorem childAt?_withoutComments (bare : node.hasBareComments) (field : String) :
    node.withoutComments.childAt? field = (node.childAt? field).map withoutComments :=
  find?_withoutComments (by simp) fun _ member comment => field_ne_of_isComment bare member comment field

theorem childrenAt_withoutComments (bare : node.hasBareComments) (field : String) :
    node.withoutComments.childrenAt field = (node.childrenAt field).map withoutComments :=
  filter_withoutComments (by simp) fun _ member comment => field_ne_of_isComment bare member comment field

/-- What is read off the filler of a field is the same without comments. -/
theorem bind_childAt?_withoutComments {α : Type} {read : Node → Option α} (bare : node.hasBareComments)
    (field : String) (same : ∀ child ∈ node.children, read child.withoutComments = read child) :
    (node.withoutComments.childAt? field).bind read = (node.childAt? field).bind read := by
  rw [childAt?_withoutComments bare]
  cases found : node.childAt? field with
  | none => rfl
  | some child => exact same child (List.mem_of_find?_eq_some found)

theorem bind_childOfKind?_withoutComments {α : Type} {read : Node → Option α} {kind : String}
    (other : kind ∉ commentKinds)
    (same : ∀ child ∈ node.children, read child.withoutComments = read child) :
    (node.withoutComments.childOfKind? kind).bind read = (node.childOfKind? kind).bind read := by
  rw [childOfKind?_withoutComments other]
  cases found : node.childOfKind? kind with
  | none => rfl
  | some child => exact same child (List.mem_of_find?_eq_some found)

/-- What is read off the named children is the same without comments, if nothing is read off these. -/
theorem filterMap_withoutComments {α : Type} {read : Node → Option α}
    (same : ∀ child ∈ node.namedChildren, read child.withoutComments = read child)
    (silent : ∀ child ∈ node.namedChildren, child.isComment → read child = none) :
    node.withoutComments.namedChildren.filterMap read = node.namedChildren.filterMap read := by
  rw [namedChildren, namedChildren, children_withoutComments, List.filter_map, List.filterMap_map,
    List.filter_filter, List.filterMap_filter, List.filterMap_filter]
  refine List.filterMap_congr fun child member => ?_
  rw [Function.comp_apply, Function.comp_apply, info_withoutComments]
  cases named : child.info.isNamed with
  | false => simp
  | true =>
    have listed : child ∈ node.namedChildren := List.mem_filter.mpr ⟨member, named⟩
    cases comment : child.isComment with
    | true => simp [silent child listed comment]
    | false => simp [same child listed]

mutual

/-- A search for a node that is no comment is not misled by comments, which have nothing below them. -/
theorem first?_withoutComments (stable : ∀ child, wanted child.withoutComments = wanted child)
    (unwanted : ∀ child, child.isComment → wanted child = false) (levels : Nat) :
    ∀ node : Node, node.BareThroughout →
      node.withoutComments.first? wanted levels = (node.first? wanted levels).map withoutComments
  | .node info children => by
    intro bare
    cases levels with
    | zero => rfl
    | succ levels =>
      have here := stable (.node info children)
      have below := firstAmong?_withoutComments stable unwanted levels children
        (fun child member => bare.of_child member)
        (fun child member comment => (bare_of_isComment bare.self member comment).1)
      rw [withoutComments] at here ⊢
      rw [first?, first?, here, below]
      split <;> rfl

theorem firstAmong?_withoutComments (stable : ∀ child, wanted child.withoutComments = wanted child)
    (unwanted : ∀ child, child.isComment → wanted child = false) (levels : Nat) :
    ∀ children : List Node, (∀ child ∈ children, child.BareThroughout) →
      (∀ child ∈ children, child.isComment → child.children = []) →
      firstAmong? wanted levels (withoutCommentsAmong children) =
        (firstAmong? wanted levels children).map withoutComments
  | [] => by
    intro _ _
    rfl
  | child :: rest => by
    intro bare leaves
    have later := firstAmong?_withoutComments stable unwanted levels rest
      (fun other member => bare other (List.mem_cons_of_mem _ member))
      (fun other member => leaves other (List.mem_cons_of_mem _ member))
    rw [withoutCommentsAmong, firstAmong?]
    split
    · next comment =>
      have leaf := leaves child (by simp) comment
      have nothing : child.first? wanted levels = none := by
        have plain := unwanted child comment
        obtain ⟨info, children⟩ := child
        obtain rfl : children = [] := leaf
        cases levels with
        | zero => rfl
        | succ levels =>
          rw [first?, plain]
          rfl
      rw [nothing, later]
    · have here := first?_withoutComments stable unwanted levels child (bare child (by simp))
      rw [firstAmong?, here, later]
      cases child.first? wanted levels with
      | none => rfl
      | some found => rfl

end

end Node

namespace Extract

open Node (hasBareComments withoutComments)

variable {node : Node}

theorem isComment_of_isComment {child : Node} (comment : child.isComment) : isComment child := by
  have kinds : ∀ kind ∈ Node.commentKinds, "comment".toList.isSuffixOf kind.toList := by decide
  exact kinds child.kind (List.contains_iff_mem.mp comment)

theorem stringArgument?_withoutComments (bare : node.BareThroughout) (source : Source) :
    stringArgument? node.withoutComments source = stringArgument? node source := by
  have values : node.withoutComments.namedChildren.filter (!isComment ·) =
      (node.namedChildren.filter (!isComment ·)).map withoutComments := by
    rw [Node.namedChildren, Node.namedChildren, List.filter_filter, List.filter_filter]
    refine Node.filter_withoutComments ?_ ?_
    · intro child
      simp [isComment]
    · intro child _ comment
      simp [isComment_of_isComment comment]
  have searched : stringArgument?.searched node.withoutComments source =
      stringArgument?.searched node source := by
    have stable : ∀ child : Node, isStringLiteral child.withoutComments = isStringLiteral child := by
      simp [isStringLiteral]
    have found := Node.first?_withoutComments stable
      (fun child comment => Node.kind_ne_of_isComment comment (by decide)) (Node.searchDepth + 1) node bare
    unfold stringArgument?.searched
    rw [found]
    cases node.first? isStringLiteral (Node.searchDepth + 1) with
    | none => rfl
    | some literal => simp
  unfold stringArgument?
  rw [values, searched]
  cases node.namedChildren.filter (!isComment ·) with
  | nil => rfl
  | cons only rest =>
    cases rest with
    | nil => simp [isStringLiteral]
    | cons second more => rfl

theorem annotationUse?_withoutComments (bare : node.BareThroughout) (source : Source) :
    annotationUse? node.withoutComments source = annotationUse? node source := by
  have own := bare.self
  have arguments : (node.withoutComments.childAt? "arguments").bind (stringArgument? · source) =
      (node.childAt? "arguments").bind (stringArgument? · source) :=
    Node.bind_childAt?_withoutComments own "arguments" fun child member =>
      stringArgument?_withoutComments (bare.of_child member) source
  simp only [annotationUse?, Node.kind_withoutComments, Node.position_withoutComments, arguments]
  split
  · rfl
  · exact Node.bind_childAt?_withoutComments own "name" (by simp)

theorem annotationUse?_of_isComment {child : Node} (comment : child.isComment) (source : Source) :
    annotationUse? child source = none := by
  have plain : (child.kind == "annotation") = false := Node.kind_ne_of_isComment comment (by decide)
  have marker : (child.kind == "marker_annotation") = false :=
    Node.kind_ne_of_isComment comment (by decide)
  simp [annotationUse?, bne, plain, marker]

theorem annotations_withoutComments (bare : node.BareThroughout) (source : Source) :
    annotations node.withoutComments source = annotations node source := by
  unfold annotations
  rw [Node.childOfKind?_withoutComments (by decide)]
  cases found : node.childOfKind? "modifiers" with
  | none => rfl
  | some modifiers =>
    have inner := bare.of_child (List.mem_of_find?_eq_some found)
    refine Node.filterMap_withoutComments ?_ ?_
    · intro child listed
      exact annotationUse?_withoutComments (inner.of_child (List.mem_filter.mp listed).1) source
    · intro child _ comment
      exact annotationUse?_of_isComment comment source

/-- A comment among the modifiers modifies nothing. -/
theorem Modifiers.foldl_withoutComments (children : List Node) (modifiers : Modifiers) :
    ((Node.withoutCommentsAmong children).map (·.kind)).foldl Modifiers.with modifiers =
      (children.map (·.kind)).foldl Modifiers.with modifiers := by
  induction children generalizing modifiers with
  | nil => rfl
  | cons child rest ih =>
    rw [Node.withoutCommentsAmong]
    split
    · next comment =>
      have unmodified : ∀ kind ∈ Node.commentKinds, modifiers.with kind = modifiers := by
        intro kind listed
        rcases List.mem_pair.mp listed with rfl | rfl <;> simp [Modifiers.with]
      rw [ih, List.map_cons, List.foldl_cons, unmodified child.kind (List.contains_iff_mem.mp comment)]
    · rw [List.map_cons, List.foldl_cons, ih, Node.kind_withoutComments, List.map_cons, List.foldl_cons]

theorem Modifiers.of_withoutComments (node : Node) : Modifiers.of node.withoutComments = Modifiers.of node := by
  unfold Modifiers.of
  rw [Node.childOfKind?_withoutComments (by decide)]
  cases node.childOfKind? "modifiers" with
  | none => rfl
  | some modifiers =>
    obtain ⟨info, children⟩ := modifiers
    exact Modifiers.foldl_withoutComments children {}

theorem withDimensions?_withoutComments (bare : node.hasBareComments) (type : String) (source : Source) :
    withDimensions? type node.withoutComments source = withDimensions? type node source := by
  unfold withDimensions?
  rw [Node.childAt?_withoutComments bare]
  cases node.childAt? "dimensions" with
  | none => rfl
  | some dimensions => simp

theorem typeText?_withoutComments (node : Node) (source : Source) :
    typeText? node.withoutComments source = typeText? node source := by
  rw [typeText?, Node.text?_withoutComments, typeText?]

theorem fields_withoutComments (bare : node.BareThroughout) (source : Source) :
    fields node.withoutComments source = fields node source := by
  have own := bare.self
  have type : (node.withoutComments.childAt? "type").bind (typeText? · source) =
      (node.childAt? "type").bind (typeText? · source) :=
    Node.bind_childAt?_withoutComments own "type" fun child _ => typeText?_withoutComments child source
  unfold fields
  rw [type]
  split
  · rfl
  · rw [Node.childrenAt_withoutComments own, List.filterMap_map]
    refine List.filterMap_congr fun declarator listed => ?_
    have inner := (bare.of_child (List.mem_filter.mp listed).1).self
    simp only [Function.comp_apply, withDimensions?_withoutComments inner, annotations_withoutComments bare,
      Modifiers.of_withoutComments, Node.range_withoutComments]
    exact Node.bind_childAt?_withoutComments inner "name" (by simp)

theorem formalParameter?_withoutComments (bare : node.BareThroughout) (source : Source) :
    formalParameter? node.withoutComments source = formalParameter? node source := by
  have own := bare.self
  simp only [formalParameter?, withDimensions?_withoutComments own, annotations_withoutComments bare,
    Node.range_withoutComments, Node.childAt?_withoutComments own]
  cases node.childAt? "type" with
  | none => rfl
  | some typeNode =>
    cases node.childAt? "name" with
    | none => simp
    | some nameNode => simp [typeText?_withoutComments]

/-- The node that gives a variable-arity parameter its type. -/
def spreadType? (node : Node) : Option Node :=
  node.namedChildren.find? fun child => child.kind != "modifiers" && child.kind != "variable_declarator"

/-- The list of the interfaces of a class. -/
def interfaceList? (declaration : Node) : Option Node :=
  (declaration.childAt? "interfaces").bind (·.childOfKind? "type_list")

/-- A variable-arity parameter takes a comment for its type. -/
def isTypedByComment (parameter : Node) : Bool :=
  parameter.kind == "spread_parameter" && (spreadType? parameter).any Node.isComment

/-- A constructor or method has a parameter that takes a comment for its type. -/
def hasTypedByComment (callable : Node) : Bool :=
  (callable.childAt? "parameters").any (·.namedChildren.any isTypedByComment)

/-- A class takes a comment for one of its interfaces, or for the type of a parameter. -/
def takesComment (declaration : Node) : Bool :=
  (interfaceList? declaration).any (·.namedChildren.any Node.isComment) ||
    (membersOfKind declaration "constructor_declaration").any hasTypedByComment ||
    (membersOfKind declaration "method_declaration").any hasTypedByComment

mutual

/-- A class takes a comment, or a class nested in it does. -/
def takesCommentWithin : Node → Bool
  | .node info children => takesComment (.node info children) || takesCommentInBody children

def takesCommentInBody : List Node → Bool
  | [] => false
  | .node info members :: rest =>
    if info.field == some "body" then takesCommentAmong members else takesCommentInBody rest

def takesCommentAmong : List Node → Bool
  | [] => false
  | member :: rest =>
    (member.info.isNamed && isClass member && takesCommentWithin member) || takesCommentAmong rest

end

theorem find?_skips {wanted skipped : Node → Bool} (nodes : List Node)
    (first : (nodes.find? wanted).any skipped = false) :
    nodes.find? (fun node => !skipped node && wanted node) = nodes.find? wanted := by
  induction nodes with
  | nil => rfl
  | cons node rest ih =>
    cases found : wanted node with
    | true =>
      have kept : skipped node = false := by simpa [found] using first
      simp [found, kept]
    | false =>
      have later : (rest.find? wanted).any skipped = false := by simpa [found] using first
      simp [found, ih later]

theorem spreadType?_withoutComments (typed : (spreadType? node).any Node.isComment = false) :
    spreadType? node.withoutComments = (spreadType? node).map withoutComments := by
  unfold spreadType? Node.namedChildren at typed ⊢
  rw [List.find?_filter] at typed ⊢
  rw [List.find?_filter, ← find?_skips node.children typed, Node.children_withoutComments, List.find?_map,
    List.find?_filter]
  simp

theorem spreadParameter?_withoutComments (bare : node.BareThroughout)
    (typed : (spreadType? node).any Node.isComment = false) (source : Source) :
    spreadParameter? node.withoutComments source = spreadParameter? node source := by
  have type := spreadType?_withoutComments typed
  unfold spreadType? at type
  simp only [spreadParameter?, annotations_withoutComments bare, Node.range_withoutComments, type]
  rw [Node.childOfKind?_withoutComments (by decide)]
  cases found : node.childOfKind? "variable_declarator" with
  | none => rfl
  | some declarator =>
    have inner := (bare.of_child (List.mem_of_find?_eq_some found)).self
    simp only [Option.map_some, Option.bind_eq_bind, Option.bind_some, Node.childAt?_withoutComments inner]
    cases declarator.childAt? "name" with
    | none => simp
    | some nameNode =>
      cases node.namedChildren.find? fun child =>
          child.kind != "modifiers" && child.kind != "variable_declarator" with
      | none => simp
      | some typeNode => simp [typeText?_withoutComments]

theorem parameter?_withoutComments (bare : node.BareThroughout)
    (typed : isTypedByComment node = false) (source : Source) :
    parameter? node.withoutComments source = parameter? node source := by
  unfold parameter?
  rw [Node.kind_withoutComments, formalParameter?_withoutComments bare]
  split
  · rfl
  · split
    · next spread =>
      rw [isTypedByComment, spread, Bool.true_and] at typed
      exact spreadParameter?_withoutComments bare typed source
    · rfl

theorem parameter?_of_isComment {child : Node} (comment : child.isComment) (source : Source) :
    parameter? child source = none := by
  have formal : (child.kind == "formal_parameter") = false := Node.kind_ne_of_isComment comment (by decide)
  have spread : (child.kind == "spread_parameter") = false := Node.kind_ne_of_isComment comment (by decide)
  simp [parameter?, formal, spread]

theorem parameters_withoutComments (bare : node.BareThroughout)
    (typed : node.namedChildren.any isTypedByComment = false) (source : Source) :
    parameters node.withoutComments source = parameters node source := by
  unfold parameters
  congr 1
  refine Node.filterMap_withoutComments ?_ ?_
  · intro child listed
    have plain : isTypedByComment child = false := by simpa using List.any_eq_false.mp typed child listed
    exact parameter?_withoutComments (bare.of_child (List.mem_filter.mp listed).1) plain source
  · intro child _ comment
    exact parameter?_of_isComment comment source

theorem constructor?_withoutComments (bare : node.BareThroughout)
    (typed : hasTypedByComment node = false) (source : Source) (lines : List String) (className : String) :
    constructor? node.withoutComments source lines className = constructor? node source lines className := by
  have own := bare.self
  have place : (node.withoutComments.childAt? "name").map (·.position source) =
      (node.childAt? "name").map (·.position source) := by
    rw [Node.childAt?_withoutComments own, Option.map_map]
    simp [Function.comp_def]
  simp only [constructor?, annotations_withoutComments bare, Modifiers.of_withoutComments,
    Node.range_withoutComments, place]
  rw [Node.childAt?_withoutComments own]
  cases found : node.childAt? "parameters" with
  | none => simp
  | some list =>
    rw [hasTypedByComment, found, Option.any_some] at typed
    have inner := bare.of_child (List.mem_of_find?_eq_some found)
    simp [parameters_withoutComments inner typed]

theorem method?_withoutComments (bare : node.BareThroughout)
    (typed : hasTypedByComment node = false) (source : Source) :
    method? node.withoutComments source = method? node source := by
  have own := bare.self
  have type : (node.withoutComments.childAt? "type").bind (typeText? · source) =
      (node.childAt? "type").bind (typeText? · source) :=
    Node.bind_childAt?_withoutComments own "type" fun child _ => typeText?_withoutComments child source
  simp only [method?, annotations_withoutComments bare, Modifiers.of_withoutComments,
    Node.range_withoutComments, type]
  simp only [Node.childAt?_withoutComments own "name", Node.childAt?_withoutComments own "parameters"]
  cases node.childAt? "name" with
  | none => simp
  | some nameNode =>
    cases found : node.childAt? "parameters" with
    | none => simp
    | some list =>
      rw [hasTypedByComment, found, Option.any_some] at typed
      have inner := bare.of_child (List.mem_of_find?_eq_some found)
      simp [parameters_withoutComments inner typed]

theorem interfaces_withoutComments (own : node.hasBareComments)
    (uncommented : (interfaceList? node).any (·.namedChildren.any Node.isComment) = false)
    (source : Source) : interfaces node.withoutComments source = interfaces node source := by
  have list : interfaceList? node.withoutComments = (interfaceList? node).map withoutComments := by
    unfold interfaceList?
    rw [Node.childAt?_withoutComments own]
    cases node.childAt? "interfaces" with
    | none => rfl
    | some clause => exact Node.childOfKind?_withoutComments (by decide)
  unfold interfaceList? at list uncommented
  unfold interfaces
  rw [list]
  cases found : (node.childAt? "interfaces").bind (·.childOfKind? "type_list") with
  | none => rfl
  | some names =>
    rw [found] at uncommented
    have texts : names.withoutComments.namedChildren.filterMap (·.text? source) =
        names.namedChildren.filterMap (·.text? source) := by
      refine Node.filterMap_withoutComments (by simp) fun child listed comment => ?_
      exact absurd comment (List.any_eq_false.mp uncommented child listed)
    simp only [Option.map_some, texts]

mutual

theorem identifiers_withoutComments (source : Source) :
    ∀ node : Node, node.BareThroughout →
      identifiers source node.withoutComments = identifiers source node
  | .node info children => by
    intro bare
    have below := identifiersAmong_withoutComments source children
      (fun child member => bare.of_child member)
      (fun child member comment => (Node.bare_of_isComment bare.self member comment).1)
    have text := Node.text?_withoutComments (.node info children) source
    rw [withoutComments] at text ⊢
    rw [identifiers, identifiers, text, below]

theorem identifiersAmong_withoutComments (source : Source) :
    ∀ children : List Node, (∀ child ∈ children, child.BareThroughout) →
      (∀ child ∈ children, child.isComment → child.children = []) →
      identifiersAmong source (Node.withoutCommentsAmong children) = identifiersAmong source children
  | [] => by
    intro _ _
    rfl
  | child :: rest => by
    intro bare leaves
    have later := identifiersAmong_withoutComments source rest
      (fun other member => bare other (List.mem_cons_of_mem _ member))
      (fun other member => leaves other (List.mem_cons_of_mem _ member))
    rw [Node.withoutCommentsAmong, identifiersAmong]
    split
    · next comment =>
      have nothing : identifiers source child = [] := by
        have other : (child.kind == "identifier") = false := Node.kind_ne_of_isComment comment (by decide)
        have leaf := leaves child (by simp) comment
        obtain ⟨info, children⟩ := child
        obtain rfl : children = [] := leaf
        rw [identifiers, if_neg (by simpa [Node.kind, Node.info] using other)]
        rfl
      rw [later, nothing, ite_self, List.nil_append]
    · rw [identifiersAmong, later, Node.info_withoutComments,
        identifiers_withoutComments source child (bare child (by simp))]

end

theorem declaredName?_withoutComments (bare : node.BareThroughout) (source : Source) :
    declaredName? node.withoutComments source = declaredName? node source := by
  have name : node.withoutComments.namedChildren.find? (fun child =>
        child.kind == "scoped_identifier" || child.kind == "identifier") =
      (node.namedChildren.find? fun child =>
        child.kind == "scoped_identifier" || child.kind == "identifier").map withoutComments := by
    rw [Node.namedChildren, Node.namedChildren, List.find?_filter, List.find?_filter]
    refine Node.find?_withoutComments (by simp) fun child _ comment => ?_
    have dotted : (child.kind == "scoped_identifier") = false :=
      Node.kind_ne_of_isComment comment (by decide)
    have plain : (child.kind == "identifier") = false := Node.kind_ne_of_isComment comment (by decide)
    simp [dotted, plain]
  unfold declaredName?
  rw [name]
  cases found : node.namedChildren.find? (fun child =>
    child.kind == "scoped_identifier" || child.kind == "identifier") with
  | none => rfl
  | some child =>
    have member := (List.mem_filter.mp (List.mem_of_find?_eq_some found)).1
    simp [identifiers_withoutComments source child (bare.of_child member)]

theorem importPath?_withoutComments (bare : node.BareThroughout) (source : Source) :
    importPath? node.withoutComments source = importPath? node source := by
  have star : (node.withoutComments.childOfKind? "asterisk").isSome =
      (node.childOfKind? "asterisk").isSome := by
    rw [Node.childOfKind?_withoutComments (by decide), Option.isSome_map]
  simp only [importPath?, declaredName?_withoutComments bare, star]

theorem Unit.of_withoutComments (bare : node.BareThroughout) (file : FilePath) (source : Source) :
    Unit.of file source node.withoutComments = Unit.of file source node := by
  have package : (node.withoutComments.childOfKind? "package_declaration").bind (declaredName? · source) =
      (node.childOfKind? "package_declaration").bind (declaredName? · source) :=
    Node.bind_childOfKind?_withoutComments (by decide) fun child member =>
      declaredName?_withoutComments (bare.of_child member) source
  have imports : (node.withoutComments.childrenOfKind "import_declaration").filterMap (importPath? · source) =
      (node.childrenOfKind "import_declaration").filterMap (importPath? · source) := by
    rw [Node.childrenOfKind_withoutComments (by decide), List.filterMap_map]
    refine List.filterMap_congr fun child listed => ?_
    exact importPath?_withoutComments (bare.of_child (List.mem_filter.mp listed).1) source
  unfold Unit.of
  rw [package, imports]

theorem membersOfKind_withoutComments (bare : node.hasBareComments) {kind : String}
    (other : kind ∉ Node.commentKinds) :
    membersOfKind node.withoutComments kind = (membersOfKind node kind).map withoutComments := by
  unfold membersOfKind members
  rw [Node.childAt?_withoutComments bare]
  cases node.childAt? "body" with
  | none => rfl
  | some body =>
    simp only [Option.map_some, Option.getD_some, Node.namedChildren, List.filter_filter]
    refine Node.filter_withoutComments (by simp) fun child _ comment => ?_
    simp [Node.kind_ne_of_isComment comment other]

theorem classInfo?_withoutComments (bare : node.BareThroughout)
    (aside : takesComment node = false) (unit : Unit) (scope : String) :
    classInfo? unit scope node.withoutComments = classInfo? unit scope node := by
  have own := bare.self
  rw [takesComment, Bool.or_eq_false_iff, Bool.or_eq_false_iff] at aside
  obtain ⟨⟨uncommented, typedConstructors⟩, typedMethods⟩ := aside
  have fieldList : (membersOfKind node.withoutComments "field_declaration").flatMap (fields · unit.source) =
      (membersOfKind node "field_declaration").flatMap (fields · unit.source) := by
    rw [membersOfKind_withoutComments own (by decide), List.flatMap_map]
    refine List.flatMap_congr fun member listed => ?_
    exact fields_withoutComments (bare.of_mem (mem_membersOfKind listed).1) unit.source
  have constructorList (name : String) :
      (membersOfKind node.withoutComments "constructor_declaration").filterMap
          (constructor? · unit.source unit.lines name) =
        (membersOfKind node "constructor_declaration").filterMap
          (constructor? · unit.source unit.lines name) := by
    rw [membersOfKind_withoutComments own (by decide), List.filterMap_map]
    refine List.filterMap_congr fun member listed => ?_
    have typed : hasTypedByComment member = false := by
      simpa using List.any_eq_false.mp typedConstructors member listed
    exact constructor?_withoutComments (bare.of_mem (mem_membersOfKind listed).1) typed unit.source
      unit.lines name
  have methodList : (membersOfKind node.withoutComments "method_declaration").filterMap
        (method? · unit.source) =
      (membersOfKind node "method_declaration").filterMap (method? · unit.source) := by
    rw [membersOfKind_withoutComments own (by decide), List.filterMap_map]
    refine List.filterMap_congr fun member listed => ?_
    have typed : hasTypedByComment member = false := by
      simpa using List.any_eq_false.mp typedMethods member listed
    exact method?_withoutComments (bare.of_mem (mem_membersOfKind listed).1) typed unit.source
  unfold membersOfKind members at fieldList constructorList methodList
  simp only [classInfo?, fieldList, constructorList, methodList, annotations_withoutComments bare,
    interfaces_withoutComments own uncommented, Node.range_withoutComments]
  refine Node.bind_childAt?_withoutComments own "name" fun child _ => ?_
  rw [Node.text?_withoutComments, Node.position_withoutComments]

mutual

theorem classes_withoutComments (unit : Unit) (scope : String) :
    ∀ node : Node, node.BareThroughout → takesCommentWithin node = false →
      classes unit scope node.withoutComments = classes unit scope node
  | .node info children => by
    intro bare aside
    rw [takesCommentWithin, Bool.or_eq_false_iff] at aside
    have here := classInfo?_withoutComments bare aside.1 unit scope
    rw [withoutComments] at here ⊢
    rw [classes, classes, here]
    cases classInfo? unit scope (.node info children) with
    | none => rfl
    | some found =>
      have below := bodyClasses_withoutComments unit found.qualifiedName children
        (fun child member => bare.of_child member)
        (fun child member comment => (Node.bare_of_isComment bare.self member comment).2)
        aside.2
      simp only [below]

theorem bodyClasses_withoutComments (unit : Unit) (scope : String) :
    ∀ children : List Node, (∀ child ∈ children, child.BareThroughout) →
      (∀ child ∈ children, child.isComment → child.info.field = none) →
      takesCommentInBody children = false →
      bodyClasses unit scope (Node.withoutCommentsAmong children) = bodyClasses unit scope children
  | [] => by
    intro _ _ _
    rfl
  | .node info members :: rest => by
    intro bare unfielded aside
    rw [takesCommentInBody] at aside
    have later := bodyClasses_withoutComments unit scope rest
      (fun other member => bare other (List.mem_cons_of_mem _ member))
      (fun other member => unfielded other (List.mem_cons_of_mem _ member))
    rw [Node.withoutCommentsAmong]
    split
    · next comment =>
      have free : info.field = none := unfielded (.node info members) (by simp) comment
      have elsewhere : (info.field == some "body") = false := by rw [free]; rfl
      rw [elsewhere, if_neg Bool.false_ne_true] at aside
      rw [bodyClasses, elsewhere, if_neg Bool.false_ne_true, later aside]
    · rw [withoutComments, bodyClasses, bodyClasses]
      cases body : info.field == some "body" with
      | true =>
        rw [body, if_pos rfl] at aside
        have below := memberClasses_withoutComments unit scope members
          (fun member listed => (bare (.node info members) (by simp)).of_child listed) aside
        rw [if_pos rfl, if_pos rfl, below]
      | false =>
        rw [body, if_neg Bool.false_ne_true] at aside
        rw [if_neg Bool.false_ne_true, if_neg Bool.false_ne_true, later aside]

theorem memberClasses_withoutComments (unit : Unit) (scope : String) :
    ∀ members : List Node, (∀ member ∈ members, member.BareThroughout) →
      takesCommentAmong members = false →
      memberClasses unit scope (Node.withoutCommentsAmong members) = memberClasses unit scope members
  | [] => by
    intro _ _
    rfl
  | member :: rest => by
    intro bare aside
    rw [takesCommentAmong, Bool.or_eq_false_iff] at aside
    have later := memberClasses_withoutComments unit scope rest
      (fun other listed => bare other (List.mem_cons_of_mem _ listed)) aside.2
    rw [Node.withoutCommentsAmong, memberClasses]
    split
    · next comment =>
      have other : isClass member = false := Node.kind_ne_of_isComment comment (by decide)
      rw [later, other, Bool.and_false, if_neg Bool.false_ne_true, List.nil_append]
    · rw [memberClasses, later, Node.info_withoutComments, isClass, Node.kind_withoutComments, ← isClass]
      cases declared : member.info.isNamed && isClass member with
      | false => rfl
      | true =>
        have within : takesCommentWithin member = false := by simpa [declared] using aside.1
        rw [classes_withoutComments unit scope member (bare member (by simp)) within]

end

/-- Leaving the comments out of a syntax tree leaves the classes of the unit as they are, if comments have no
parts, fill no field, and no class of the unit takes one for an interface or for the type of a
variable-arity parameter. -/
theorem comments_change_no_class (file : FilePath) (source : Source) (root : Node)
    (bare : root.BareThroughout)
    (aside : (root.children.filter isClass).any takesCommentWithin = false) :
    unitClasses file source root.withoutComments = unitClasses file source root := by
  have declarations : root.withoutComments.children.filter isClass =
      (root.children.filter isClass).map withoutComments :=
    Node.filter_withoutComments (by simp [isClass]) fun child _ comment =>
      Node.kind_ne_of_isComment comment (by decide)
  unfold unitClasses
  rw [declarations, Unit.of_withoutComments bare, List.flatMap_map]
  refine List.flatMap_congr fun declaration listed => ?_
  have within : takesCommentWithin declaration = false := by
    simpa using List.any_eq_false.mp aside declaration listed
  exact classes_withoutComments _ _ declaration
    (bare.of_child (List.mem_filter.mp listed).1) within

/-- A unit with a comment at every kind of declaration. -/
def commentedUnit : String :=
  "package /* 1 */ shop. /* 2 */ mail; import /* 3 */ java.util. /* 4 */ *;\n" ++
  "// 5\n@Service(/* 6 */ \"smtp\") class /* 7 */ Smtp implements /* 8 */ Sender \x7b\n" ++
  "  @Autowired /* 9 */ Codec codec /* 10 */ []; // 11\n" ++
  "  Smtp(/* 12 */ Host host, Port /* 13 */ ... ports) \x7b\x7d\n\x7d\n"

theorem commentedUnit_keeps_classes :
    let root := Java.unitTree commentedUnit
    (root.BareThroughout ∧ (root.children.filter isClass).any takesCommentWithin = false ∧
      root.withoutComments.children.length < root.children.length) ∧
    unitClasses ⟨"Smtp.java"⟩ (.of commentedUnit) root.withoutComments =
      unitClasses ⟨"Smtp.java"⟩ (.of commentedUnit) root := by
  intro root
  have given : root.BareThroughout ∧
      (root.children.filter isClass).any takesCommentWithin = false ∧
      root.withoutComments.children.length < root.children.length := by
    decide +kernel
  exact ⟨given, comments_change_no_class _ _ root given.1 given.2.1⟩

/-- A unit with a comment between two interfaces. -/
def commentedInterfaces : String := "class A implements B, /* c */ C \x7b\x7d"

/-- The comment counts as an interface. -/
theorem comment_counts_as_interface :
    let root := Java.unitTree commentedInterfaces
    let source := Source.of commentedInterfaces
    root.kind = "program" ∧ root.BareThroughout ∧
    (unitClasses ⟨"A.java"⟩ source root.withoutComments).map (·.interfaces) = [["B", "C"]] ∧
    (unitClasses ⟨"A.java"⟩ source root).map (·.interfaces) = [["B", "/* c */", "C"]] := by
  decide +kernel

end Extract
end BeanAtlas
