import BeanAtlas.Extract.Annotation
import BeanAtlas.Java.Declarations
import BeanAtlas.Proofs.Tree.Visit

/-!
The string argument of an annotation. An only argument that is a literal is taken at once, and otherwise the first
literal anywhere in the list; as comments and punctuation hold no literals, the first way gives what the
second one would.
-/
namespace BeanAtlas.Extract

variable {arguments : Node} {source : Source}

/-- The comments and the tokens without a kind of their own in a list contain no string literal. -/
def HasPlainFiller (arguments : Node) : Prop :=
  ∀ child ∈ arguments.children, isComment child ∨ child.info.isNamed = false →
    ∀ inner ∈ child.nodes, isStringLiteral inner = false

instance (arguments : Node) : Decidable (HasPlainFiller arguments) :=
  inferInstanceAs (Decidable (∀ child ∈ arguments.children, isComment child ∨ child.info.isNamed = false →
    ∀ inner ∈ child.nodes, isStringLiteral inner = false))

/-- The first string literal of a list in pre-order, down to 200 levels below it. -/
def firstLiteral? (arguments : Node) : Option Node :=
  (arguments.visits.find? fun visit => visit.depth ≤ 200 && isStringLiteral visit.node).map (·.node)

theorem first?_eq_firstLiteral? (arguments : Node) :
    arguments.first? isStringLiteral (Node.searchDepth + 1) = firstLiteral? arguments := by
  rw [Node.first?_eq isStringLiteral _ arguments [], firstLiteral?, Node.visits]
  simp only [List.length_nil, Nat.zero_add, Nat.lt_succ_iff, Node.searchDepth]

theorem searched_eq (arguments : Node) (source : Source) :
    stringArgument?.searched arguments source =
      (firstLiteral? arguments).bind fun literal => (literal.text? source).map unquote := by
  rw [stringArgument?.searched, first?_eq_firstLiteral?, Option.bind_eq_bind]

/-- An argument that stands alone among comments and punctuation is the first literal when it is one. -/
theorem firstLiteral?_of_only {only : Node} (list : isStringLiteral arguments = false)
    (plain : HasPlainFiller arguments) (alone : arguments.namedChildren.filter (!isComment ·) = [only])
    (literal : isStringLiteral only) : firstLiteral? arguments = some only := by
  rw [Node.namedChildren, List.filter_filter, List.filter_eq_cons_iff] at alone
  obtain ⟨before, after, split, skipped, -, -⟩ := alone
  have silent : before.findSome? (·.first? isStringLiteral Node.searchDepth) = none := by
    refine List.findSome?_eq_none_iff.mpr fun child listed => Node.first?_of_absent _ ?_
    have filler : isComment child ∨ child.info.isNamed = false := by
      simpa [or_iff_not_imp_left] using skipped child listed
    exact plain child (split ▸ List.mem_append_left _ listed) filler
  have here : only.first? isStringLiteral Node.searchDepth = some only := Node.first?_of_wanted _ literal
  rw [← first?_eq_firstLiteral?, Node.first?_succ, list, split, List.findSome?_append, silent,
    List.findSome?_cons, here]
  rfl

theorem firstLiteral?_eq_none_iff :
    firstLiteral? arguments = none ↔
      ∀ visit ∈ arguments.visits, visit.depth ≤ 200 → isStringLiteral visit.node = false := by
  simp [firstLiteral?]

/-- Whatever stands around it, the string argument is the content of the first literal in the list, down to 200
levels below it; and where literals can be read there is none only if the list has no literal. -/
theorem string_argument_is_first_literal (arguments : Node) (source : Source)
    (list : arguments.kind = "annotation_argument_list") (plain : HasPlainFiller arguments) :
    stringArgument? arguments source =
        (firstLiteral? arguments).bind (fun literal => (literal.text? source).map unquote) ∧
      ((∀ node ∈ arguments.nodes, isStringLiteral node → (node.text? source).isSome) →
        (stringArgument? arguments source = none ↔
          ∀ visit ∈ arguments.visits, visit.depth ≤ 200 → isStringLiteral visit.node = false)) := by
  have first : stringArgument? arguments source =
      (firstLiteral? arguments).bind fun literal => (literal.text? source).map unquote := by
    unfold stringArgument?
    split
    · next only alone =>
      split
      · next literal =>
        have outer : isStringLiteral arguments = false := by simp [isStringLiteral, list]
        rw [firstLiteral?_of_only outer plain alone literal, Option.bind_some]
      · exact searched_eq arguments source
    · exact searched_eq arguments source
  refine ⟨first, fun readable => ?_⟩
  rw [← firstLiteral?_eq_none_iff, first]
  cases found : firstLiteral? arguments with
  | none => simp
  | some literal =>
    obtain ⟨visit, search, rfl⟩ := Option.map_eq_some_iff.mp found
    have wanted := List.find?_some search
    have member := List.mem_of_find?_eq_some search
    have text := readable visit.node (List.mem_map_of_mem member) (by simp_all)
    obtain ⟨content, text⟩ := Option.isSome_iff_exists.mp text
    simp [text]

/-- A literal between comments, one of which quotes another text. -/
def commentedService : String := "@Service(/* \"old\" */ \"smtp\" /* new */) class Smtp \x7b\x7d"

def commentedArguments : Node :=
  ((Java.unitTree commentedService).nodes.find? (·.kind == "annotation_argument_list")).getD default

theorem commentedArguments_give_literal :
    (commentedArguments.kind = "annotation_argument_list" ∧ HasPlainFiller commentedArguments ∧
      commentedArguments.children.length = 5) ∧
    stringArgument? commentedArguments (.of commentedService) = some "smtp" := by
  have given : commentedArguments.kind = "annotation_argument_list" ∧ HasPlainFiller commentedArguments ∧
      commentedArguments.children.length = 5 := by
    decide +kernel
  refine ⟨given, (string_argument_is_first_literal commentedArguments _ given.1 given.2.1).1.trans ?_⟩
  decide +kernel

end BeanAtlas.Extract
