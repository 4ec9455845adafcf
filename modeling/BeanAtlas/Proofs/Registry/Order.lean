import BeanAtlas.Proofs.Registry.NameTier

/-!
The order in which beans are added. A resolution shows it only as the order of its candidates, and as the
choice among candidates whose names nearly coincide.
-/
namespace BeanAtlas

namespace Bean

/-- The names are the same but for ASCII case, or but for the case of a first letter. -/
def NearlyNamed (bean other : Bean) : Prop :=
  Text.sameIgnoringAsciiCase bean.name other.name ∨
    Text.lowerFirst bean.name = Text.lowerFirst other.name ∨
    Text.lowerFirst bean.name = other.name

instance (bean other : Bean) : Decidable (NearlyNamed bean other) :=
  inferInstanceAs (Decidable (_ ∨ _ ∨ _))

/-- Two beans that a tier admits for the same hint have nearly the same name. -/
theorem nearlyNamed_of_admits {tier : NameTier} {hint : String} {bean other : Bean}
    (first : tier.admits hint bean) (second : tier.admits hint other) :
    NearlyNamed bean other ∨ NearlyNamed other bean := by
  cases tier with
  | exact =>
    rw [NameTier.admits_exact_iff] at first second
    exact .inl (.inr (.inl (by rw [first, second])))
  | ignoringCase =>
    rw [NameTier.admits_ignoringCase_iff] at first second
    exact .inl (.inl (by simp [Text.sameIgnoringAsciiCase, first, second]))
  | firstLetter =>
    rw [NameTier.admits_firstLetter_iff] at first second
    rcases first with first | first
    · rcases second with second | second
      · exact .inl (.inr (.inl (first.trans second.symm)))
      · exact .inl (.inr (.inr (first.trans second.symm)))
    · rcases second with second | second
      · exact .inr (.inr (.inr (second.trans first.symm)))
      · exact .inl (.inr (.inl (by rw [first, second])))

end Bean

namespace Live

theorem foldl_add_of_distinct (live beans : List Bean) (distinct : ((live ++ beans).map (·.name)).Nodup) :
    beans.foldl add live = live ++ beans := by
  induction beans generalizing live with
  | nil => simp
  | cons first rest ih =>
    have regrouped : live ++ first :: rest = live ++ [first] ++ rest := by simp
    have absent : live.filter (·.name != first.name) = live := by
      refine List.filter_eq_self.mpr fun bean member => ?_
      rw [bne_iff_ne]
      intro same
      rw [List.map_append, List.nodup_append] at distinct
      exact distinct.2.2 bean.name (List.mem_map_of_mem member) first.name (by simp) same
    rw [List.foldl_cons, add, absent, regrouped]
    rw [regrouped] at distinct
    exact ih (live ++ [first]) distinct

end Live

namespace Registry

variable {registry other : Registry} {beans beans' : List Bean}

theorem represents_addAll_of_distinct (distinct : (beans.map (·.name)).Nodup) :
    ((∅ : Registry).addAll beans).Represents beans := by
  have represents := Represents.empty.addAll beans
  rwa [Live.foldl_add_of_distinct [] beans distinct] at represents

theorem addAll_reordered (distinct : (beans.map (·.name)).Nodup) (order : beans.Perm beans') :
    ((∅ : Registry).addAll beans).Reordered ((∅ : Registry).addAll beans') :=
  ⟨beans, beans', represents_addAll_of_distinct distinct,
    represents_addAll_of_distinct ((order.map _).nodup_iff.mp distinct), order⟩

theorem chosen?_eq_of_perm {candidates others : List Bean} (same : candidates.Perm others)
    (apart : ∀ bean ∈ candidates, ∀ other ∈ candidates, bean ≠ other → ¬ bean.NearlyNamed other)
    (collection : Bool) (hint : Option String) :
    chosen? candidates collection hint = chosen? others collection hint := by
  cases collection with
  | true => rfl
  | false =>
    match candidates, others, same, same.length_eq with
    | [], [], _, _ => rfl
    | [only], [only'], same, _ =>
      obtain rfl : only = only' := by simpa using same
      rfl
    | first :: second :: rest, first' :: second' :: rest', same, _ =>
      cases hint with
      | none => rfl
      | some name =>
        simp only [chosen?, Bool.false_eq_true, if_false, Option.bind_some]
        refine Bean.pick_eq_of_perm same fun tier bean member other second admitted admitted' => ?_
        by_contra different
        rcases Bean.nearlyNamed_of_admits admitted admitted' with near | near
        · exact apart bean member other second different near
        · exact apart other second bean member (Ne.symm different) near

theorem Reordered.resolved (same : registry.Reordered other) (type : String) (name : Option String)
    (apart : ∀ bean ∈ (registry.resolve type name).candidates,
      ∀ second ∈ (registry.resolve type name).candidates, bean ≠ second → ¬ bean.NearlyNamed second) :
    (registry.resolve type name).resolved = (other.resolve type name).resolved := by
  obtain ⟨candidates, collection⟩ := same.candidates type
  rw [resolve_eq] at apart ⊢
  rw [resolve_eq]
  split
  · rfl
  · next named =>
    rw [if_neg named] at apart
    dsimp only at apart ⊢
    rw [collection]
    exact chosen?_eq_of_perm candidates apart _ _

/-- Beans of distinct names may be added in any order: the candidates for a type are the same but for their
order, the collection flag and the status are equal, and so is the bean that is chosen, unless two
candidates have nearly the same name. -/
theorem resolve_any_insertion_order (distinct : (beans.map (·.name)).Nodup) (order : beans.Perm beans')
    (type : String) (name : Option String) :
    let left := ((∅ : Registry).addAll beans).resolve type name
    let right := ((∅ : Registry).addAll beans').resolve type name
    left.candidates.Perm right.candidates ∧ left.collection = right.collection ∧
      left.status = right.status ∧
      ((∀ bean ∈ left.candidates, ∀ other ∈ left.candidates, bean ≠ other → ¬ bean.NearlyNamed other) →
        left.resolved = right.resolved) := by
  intro left right
  have same := addAll_reordered distinct order
  obtain ⟨candidates, collection, -⟩ := same.resolve type name
  exact ⟨candidates, collection, same.status type name, same.resolved type name⟩

/-- The hint differs from a name in the case of its first letter. -/
theorem senders_any_insertion_order :
    let beans := [Bean.sender "smtpSender" "SmtpSender", Bean.sender "smsSender" "SmsSender"]
    let left := ((∅ : Registry).addAll beans).resolve "Sender" (some " SmsSender")
    let right := ((∅ : Registry).addAll beans.reverse).resolve "Sender" (some " SmsSender")
    (beans.map (·.name)).Nodup ∧ left.candidates = beans ∧ right.candidates = beans.reverse ∧
      left.resolved = some (Bean.sender "smsSender" "SmsSender") ∧ left.resolved = right.resolved := by
  intro beans left right
  refine ⟨by decide, by decide +kernel, by decide +kernel, by decide +kernel, ?_⟩
  exact (resolve_any_insertion_order (by decide) (List.reverse_perm beans).symm "Sender"
    (some " SmsSender")).2.2.2 (by decide +kernel)

end Registry
end BeanAtlas
