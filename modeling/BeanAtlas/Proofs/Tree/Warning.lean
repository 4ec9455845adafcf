import BeanAtlas.Proofs.Tree.Visit
import BeanAtlas.Tree.Warning

/-!
The warnings of a tree against its list of nodes. The collection passes over subtrees whose flag is not set, stops at
an error or missing node and goes down to a limited depth. Where the flags are set as they should be, it
reports every error or missing node within that depth that lies in no other, in pre-order.
-/
namespace BeanAtlas

namespace Node

/-- An error or missing node. -/
def isFault (node : Node) : Bool := node.info.isError || node.info.isMissing

/-- The warning about an error or missing node, at its start. -/
def warning (node : Node) (source : Source) : SyntaxWarning where
  message := if node.info.isError then node.errorMessage source else "Expected " ++ node.kind
  position := node.position source

/-- The flag is set on exactly the nodes that are or contain an error or missing node. -/
def FlagsFaults (root : Node) : Prop :=
  ∀ node ∈ root.nodes, node.info.hasError ↔ ∃ inner ∈ node.nodes, inner.isFault

instance (root : Node) : Decidable root.FlagsFaults :=
  inferInstanceAs (Decidable (∀ node ∈ root.nodes, node.info.hasError ↔ ∃ inner ∈ node.nodes, inner.isFault))

/-- The warnings as they are collected without a look at the flags, among `levels` levels. -/
def thoroughWithin (source : Source) : Nat → Node → List SyntaxWarning
  | 0, _ => []
  | levels + 1, root =>
    if root.isFault then [root.warning source] else root.children.flatMap (thoroughWithin source levels)

end Node

/-- An error or missing node, at most `limit` levels down, that lies in no other. -/
def Visit.isReported (limit : Nat) (visit : Visit) : Bool :=
  visit.node.isFault && visit.depth ≤ limit && visit.around.all (!·.isFault)

theorem Visit.isReported_iff {limit : Nat} {visit : Visit} :
    visit.isReported limit ↔
      visit.node.isFault ∧ visit.depth ≤ limit ∧ ∀ outer ∈ visit.around, outer.isFault = false := by
  simp [isReported, and_assoc]

namespace Node

variable {root : Node} {around : List Node} {source : Source}

theorem warningsAmong_eq (source : Source) (levels : Nat) (children : List Node) :
    warningsAmong source levels children = children.flatMap fun child =>
      if child.info.hasError || child.info.isMissing then child.warningsWithin source levels else [] := by
  induction children with
  | nil => rfl
  | cons child rest ih => rw [warningsAmong, ih, List.flatMap_cons]

theorem warningsWithin_succ (source : Source) (levels : Nat) (root : Node) :
    root.warningsWithin source (levels + 1) =
      if root.isFault then [root.warning source]
      else root.children.flatMap fun child =>
        if child.info.hasError || child.info.isMissing then child.warningsWithin source levels else [] := by
  obtain ⟨info, children⟩ := root
  rw [warningsWithin, warningsAmong_eq]
  cases error : info.isError <;> cases missing : info.isMissing <;>
    simp [isFault, warning, Node.info, Node.children, kind, error, missing]

theorem FlagsFaults.child {child : Node} (flagged : root.FlagsFaults) (listed : child ∈ root.children) :
    child.FlagsFaults :=
  fun node member => flagged node (mem_nodes_of_child listed member)

/-- Nothing is collected exactly when there is no error or missing node on the levels that are searched. -/
theorem thoroughWithin_eq_nil_iff (source : Source) (levels : Nat) (root : Node) (around : List Node) :
    root.thoroughWithin source levels = [] ↔
      ∀ visit ∈ root.visitsFrom around, visit.depth < around.length + levels → visit.node.isFault = false := by
  induction levels generalizing root around with
  | zero =>
    refine iff_of_true rfl fun visit member shallow => ?_
    exact absurd (le_depth_of_mem_visitsFrom member) (Nat.not_le.mpr shallow)
  | succ levels ih =>
    obtain ⟨info, children⟩ := root
    have below : ∀ child, thoroughWithin source levels child = [] ↔
        ∀ visit ∈ child.visitsFrom (.node info children :: around),
          visit.depth < around.length + (levels + 1) → visit.node.isFault = false := by
      intro child
      rw [ih child (.node info children :: around), List.length_cons, Nat.add_right_comm, Nat.add_assoc]
    rw [thoroughWithin, visitsFrom_node]
    cases fault : isFault (.node info children) with
    | true => simp [Visit.depth, fault]
    | false =>
      simp only [Bool.false_eq_true, if_false, List.flatMap_eq_nil_iff, Node.children, below, List.mem_cons,
        List.mem_flatMap]
      constructor
      · rintro silent visit (rfl | ⟨child, listed, member⟩) shallow
        · exact fault
        · exact silent child listed visit member shallow
      · intro silent child listed visit member shallow
        exact silent visit (.inr ⟨child, listed, member⟩) shallow

theorem thoroughWithin_of_sound (source : Source) (levels : Nat)
    (sound : ∀ inner ∈ root.nodes, inner.isFault = false) : root.thoroughWithin source levels = [] := by
  refine (thoroughWithin_eq_nil_iff source levels root []).mpr fun visit member _ => ?_
  exact sound visit.node (List.mem_map_of_mem member)

theorem FlagsFaults.sound (flagged : root.FlagsFaults) (unflagged : root.info.hasError = false) :
    ∀ inner ∈ root.nodes, inner.isFault = false := by
  intro inner member
  have none := mt (flagged root root.self_mem_nodes).mpr (by simp [unflagged])
  exact Bool.eq_false_iff.mpr fun fault => none ⟨inner, member, fault⟩

/-- What is passed over for its flag has nothing to report. -/
theorem warningsWithin_eq_thoroughWithin (source : Source) (levels : Nat) (flagged : root.FlagsFaults) :
    root.warningsWithin source levels = root.thoroughWithin source levels := by
  induction levels generalizing root with
  | zero =>
    cases root
    rfl
  | succ levels ih =>
    rw [warningsWithin_succ, thoroughWithin]
    congr 1
    refine List.flatMap_congr fun child listed => ?_
    have inner := flagged.child listed
    split
    · exact ih inner
    · next passed =>
      have unflagged : child.info.hasError = false := by
        simp only [Bool.or_eq_true, not_or, Bool.not_eq_true] at passed
        exact passed.1
      exact (thoroughWithin_of_sound source levels (inner.sound unflagged)).symm

theorem warnings_eq_thoroughWithin (flagged : root.FlagsFaults) (source : Source) :
    root.warnings source = root.thoroughWithin source 201 := by
  unfold warnings
  split
  · exact warningsWithin_eq_thoroughWithin source _ flagged
  · next unflagged =>
    exact (thoroughWithin_of_sound source _ (flagged.sound (by simpa using unflagged))).symm

/-- Below an error or missing node, and beyond the limit, nothing is reported. -/
theorem filter_isReported_eq_nil {limit : Nat} (barred : limit < around.length ∨ ∃ outer ∈ around, outer.isFault)
    (visits : List Visit) (inside : ∀ visit ∈ visits, around <:+ visit.around) :
    visits.filter (·.isReported limit) = [] := by
  refine List.filter_eq_nil_iff.mpr fun visit member reported => ?_
  obtain ⟨-, shallow, clean⟩ := Visit.isReported_iff.mp reported
  have wider := inside visit member
  rcases barred with deep | ⟨outer, listed, fault⟩
  · exact absurd (Nat.le_trans wider.length_le shallow) (Nat.not_le.mpr deep)
  · simpa [fault] using clean outer (wider.mem listed)

theorem thoroughWithin_eq_reported (source : Source) {limit : Nat} (levels : Nat) (root : Node)
    (clean : ∀ outer ∈ around, outer.isFault = false) (bound : around.length + levels = limit + 1) :
    root.thoroughWithin source levels =
      ((root.visitsFrom around).filter (·.isReported limit)).map (·.node.warning source) := by
  induction levels generalizing root around with
  | zero =>
    have beyond : limit < around.length := by omega
    rw [filter_isReported_eq_nil (.inl beyond) _ fun visit member => around_of_mem_visitsFrom member]
    rfl
  | succ levels ih =>
    obtain ⟨info, children⟩ := root
    have shallow : around.length ≤ limit := by omega
    rw [thoroughWithin, visitsFrom_node, List.filter_cons]
    cases fault : isFault (.node info children) with
    | true =>
      have here : Visit.isReported limit ⟨around, .node info children⟩ :=
        Visit.isReported_iff.mpr ⟨fault, shallow, clean⟩
      have covered : limit < (Node.node info children :: around).length ∨
          ∃ outer ∈ Node.node info children :: around, outer.isFault :=
        .inr ⟨_, List.mem_cons_self, fault⟩
      have below := filter_isReported_eq_nil covered
        (children.flatMap (·.visitsFrom (.node info children :: around))) fun visit member => by
          obtain ⟨child, -, member⟩ := List.mem_flatMap.mp member
          exact around_of_mem_visitsFrom member
      simp [here, below]
    | false =>
      have here : Visit.isReported limit ⟨around, .node info children⟩ = false := by
        simp [Visit.isReported, fault]
      have cleaner : ∀ outer ∈ Node.node info children :: around, outer.isFault = false := by
        simpa [fault] using clean
      simp only [here, Bool.false_eq_true, if_false, List.filter_flatMap, List.map_flatMap]
      refine List.flatMap_congr fun child _ => ih child cleaner ?_
      rw [List.length_cons]
      omega

/-- Where the flags are right, the collected warnings are those of the error and missing nodes that are at most
200 levels down and lie in no other, one for each in pre-order; they are the same as without a look at the flags, and
there are none exactly when there is no error or missing node down to that depth. -/
theorem warnings_miss_nothing (root : Node) (source : Source) (flagged : root.FlagsFaults) :
    root.warnings source =
        (root.visits.filter (·.isReported 200)).map (·.node.warning source) ∧
      root.warnings source = root.thoroughWithin source 201 ∧
      (root.warnings source = [] ↔
        ∀ visit ∈ root.visits, visit.depth ≤ 200 → visit.node.isFault = false) := by
  have thorough := warnings_eq_thoroughWithin flagged source
  refine ⟨?_, thorough, ?_⟩
  · rw [thorough]
    exact thoroughWithin_eq_reported source _ root (by simp) (by simp)
  · rw [thorough, thoroughWithin_eq_nil_iff source _ root []]
    simp only [visits, List.length_nil, Nat.zero_add, Nat.lt_succ_iff]

def damagedSource : Source := .of "class A \x7b\x7d\n=\n"

/-- A class, an error with a missing node in it, and a missing node of its own. -/
def damagedUnit : Node :=
  .node { kind := "program", start := 0, stop := 13, hasError := true } [
    .node { kind := "class_declaration", start := 0, stop := 10 } [],
    .node { kind := "ERROR", start := 11, stop := 12, isError := true, hasError := true } [
      .node { kind := "identifier", start := 12, stop := 12, isMissing := true, hasError := true } []],
    .node { kind := ";", start := 13, stop := 13, isNamed := false, isMissing := true, hasError := true } []]

theorem damagedUnit_warnings :
    damagedUnit.FlagsFaults ∧ damagedUnit.warnings damagedSource =
      [⟨"Syntax error near '='", ⟨2, 1⟩⟩, ⟨"Expected ;", ⟨3, 1⟩⟩] := by
  have flagged : damagedUnit.FlagsFaults := by decide +kernel
  refine ⟨flagged, (warnings_miss_nothing damagedUnit damagedSource flagged).1.trans ?_⟩
  decide +kernel

end Node
end BeanAtlas
