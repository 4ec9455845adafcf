import BeanAtlas.Proofs.Registry.Lookup

/-!
Looking up a type in the indexes is scanning the live beans. The scan is stated on the texts themselves: their visible
characters, what stands before the first `<`, and what follows the last dot there.
-/
namespace BeanAtlas

variable {registry : Registry} {live : List Bean}

/-- One of the bean's interfaces is the type that the key names, type arguments left aside. -/
def Bean.isA (bean : Bean) (key : String) : Bool := bean.hasInterface (TypeText.base key)

namespace Live

/-- The beans declared with the type, then the others that have it as an interface. -/
def matching (live : List Bean) (key : String) : List Bean :=
  let declared := live.filter (·.hasType key)
  declared ++ live.filter fun bean => bean ∉ declared ∧ bean.isA key

/-- The beans that match the type as it is written; where there are none, those that match the type
without its qualification. -/
def scan (live : List Bean) (type : String) : List Bean :=
  let key := TypeText.compact type
  if key = "" then []
  else if matching live key = [] then
    match TypeText.unqualified? key with
    | some simple => matching live simple
    | none => []
  else matching live key

theorem ofKey_eq_matching (live : List Bean) {key : String} (plain : Text.IsPlain key.toList) :
    ofKey live key = matching live key := by
  unfold ofKey matching
  dsimp only
  congr 1
  refine List.filter_congr fun bean member => ?_
  rw [TypeText.erased_eq_base plain, ← Bean.isA, Bool.eq_iff_iff]
  simp [member, and_comm]

theorem names_matching_nodup (distinct : (live.map (·.name)).Nodup) (key : String) :
    ((matching live key).map (·.name)).Nodup := by
  unfold matching
  dsimp only
  rw [List.map_append, List.nodup_append]
  refine ⟨distinct.sublist (List.filter_sublist.map _), distinct.sublist (List.filter_sublist.map _), ?_⟩
  rintro name first _ second rfl
  obtain ⟨bean, declared, named⟩ := List.mem_map.mp first
  obtain ⟨other, kept, same⟩ := List.mem_map.mp second
  obtain ⟨member, kept⟩ := List.mem_filter.mp kept
  obtain ⟨apart, -⟩ := of_decide_eq_true kept
  have equal : bean = other :=
    List.inj_on_of_nodup_map distinct (List.mem_filter.mp declared).1 member (named.trans same.symm)
  exact apart (equal ▸ declared)

theorem names_scan_nodup (distinct : (live.map (·.name)).Nodup) (type : String) :
    ((scan live type).map (·.name)).Nodup := by
  unfold scan
  dsimp only
  split
  · exact List.nodup_nil
  · split
    · split
      · exact names_matching_nodup distinct _
      · exact List.nodup_nil
    · exact names_matching_nodup distinct _

end Live

namespace Registry

theorem Represents.findByType_eq (represents : registry.Represents live) (type : String) :
    registry.findByType type = Live.scan live type := by
  have plain := TypeText.isPlain_key type
  unfold findByType Live.scan
  rw [← TypeText.key_eq_compact]
  dsimp only
  rw [represents.lookup_eq, Live.ofKey_eq_matching live plain, TypeText.simpleKey?_eq plain]
  simp only [String.isEmpty_iff]
  split
  · rfl
  · split
    · next none =>
      rw [if_pos none]
      cases cut : TypeText.unqualified? (TypeText.key type) with
      | none => rfl
      | some simple =>
        have simplePlain := TypeText.isPlain_unqualified? plain cut
        simp only [Option.map_some, Option.getD_some]
        rw [represents.lookup_eq, Live.ofKey_eq_matching live simplePlain]
    · next found => rw [if_neg found]

/-- After any changes to the empty registry the beans found for a type are those that a scan of the live beans
finds, in the same order and no bean twice. What is cut off a key on the way is a part of its front, so
the rest of the key behind it is always there. -/
theorem findByType_scans_live (changes : List Change) (type : String) :
    (changes.foldl Registry.apply ∅).findByType type = Live.scan (changes.foldl Change.onLive []) type ∧
      (((changes.foldl Registry.apply ∅).findByType type).map (·.name)).Nodup ∧
      ∃ rest, TypeText.key type = TypeText.erased (TypeText.key type) ++ rest := by
  have represents := Represents.empty.applyAll changes
  refine ⟨represents.findByType_eq type, ?_, ?_⟩
  · rw [represents.findByType_eq]
    exact Live.names_scan_nodup represents.distinct type
  · refine ⟨String.ofList ((TypeText.key type).toList.dropWhile (· != '<')), ?_⟩
    rw [TypeText.erased_eq_base (TypeText.isPlain_key type), TypeText.base, ← String.ofList_append,
      List.takeWhile_append_dropWhile, String.ofList_toList]

/-- Sources of orders, written with blanks. The first one is added twice, and one goes with its file. -/
def spacedSources : List Change :=
  [.add orders, .addAll [source "cache" "Cache" "Stock.java" ["Source\t< Line, Order >"],
    source "archive" "Repository<Order>" "Archive.java" ["Source"]], .add orders, .removeFile ⟨"Archive.java"⟩]
where
  source (name type file : String) (interfaces : List String) : Bean :=
    ⟨name, type, type, ⟨file⟩, .unknown, .classDeclaration, .component, interfaces⟩
  orders := source "orders" "Repository< Order >" "Stock.java" ["Closeable", " Source <Order>"]

theorem spaced_types_are_found :
    let registry := spacedSources.foldl Registry.apply ∅
    (registry.findByType "Repository<\tOrder>").map (·.name) = ["orders"] ∧
      (registry.findByType " shop.Source<Any>").map (·.name) = ["cache", "orders"] ∧
      registry.findByType " " = [] := by
  intro registry
  have scanned (type : String) := (findByType_scans_live spacedSources type).1
  refine ⟨?_, ?_, ?_⟩ <;> rw [scanned] <;> decide +kernel

end Registry
end BeanAtlas
