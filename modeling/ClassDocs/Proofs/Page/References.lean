import ClassDocs.Page.Markdown
import ClassDocs.Proofs.Link
import ClassDocs.Proofs.Text.Lowercase

namespace ClassDocs

/-- What follows the last number sign of an address. A route may have one of its own in front of it. -/
def fragment? (address : String) : Option String :=
  (splitAtChar '#' address.toList).tail.getLast?.map String.ofList

/-- A name of ASCII letters and underscores, one of them at least. -/
def IsPlainName (name : String) : Prop :=
  name.toList ≠ [] ∧ ∀ c ∈ name.toList, c.isAlpha = true ∨ c = '_'

instance (name : String) : Decidable (IsPlainName name) :=
  have : Decidable (∀ c ∈ name.toList, c.isAlpha = true ∨ c = '_') := List.decidableBAll _ name.toList
  inferInstanceAs (Decidable (_ ∧ _))

/-- The link from the list of methods on a page to the section of a method. -/
def MarkdownPage.methodLink (method : MethodDoc) : Link :=
  ⟨method.name, "#" ++ lowercase method.name⟩

section Names

variable {name : String}

theorem toNat_lt_of_isAlpha {c : Char} (letter : c.isAlpha = true) : c.toNat < 128 := by
  rcases Bool.or_eq_true_iff.mp letter with capital | small
  · have bound : c.val ≤ 'Z'.val := (of_decide_eq_true capital).2
    exact Nat.lt_of_le_of_lt (UInt32.le_iff_toNat_le.mp bound) (by decide)
  · have bound : c.val ≤ 'z'.val := of_decide_eq_true (Bool.and_eq_true_iff.mp small).2
    exact Nat.lt_of_le_of_lt (UInt32.le_iff_toNat_le.mp bound) (by decide)

theorem IsPlainName.small (plain : IsPlainName name) : ∀ c ∈ name.toList, c.toNat < 128 := by
  intro c member
  rcases plain.2 c member with letter | rfl
  · exact toNat_lt_of_isAlpha letter
  · decide

theorem IsPlainName.not_mem (plain : IsPlainName name) : '#' ∉ name.toList := by
  intro member
  rcases plain.2 _ member with letter | underscore
  · exact absurd letter (by decide)
  · exact absurd underscore (by decide)

theorem IsPlainName.lowercase (plain : IsPlainName name) : IsPlainName (lowercase name) := by
  have letters := lowercase_of_ascii plain.small
  refine ⟨?_, ?_⟩
  · rw [letters, ne_eq, List.map_eq_nil_iff]
    exact plain.1
  · intro d member
    rw [letters] at member
    obtain ⟨c, inName, rfl⟩ := List.mem_map.mp member
    exact forall_ascii (P := fun c => (c.isAlpha = true ∨ c = '_') → c.toLower.isAlpha = true ∨ c.toLower = '_')
      (by decide) (plain.small c inName) (plain.2 c inName)

theorem IsPlainName.isReferenceName (plain : IsPlainName name) : TagRule.IsReferenceName name := by
  refine ⟨plain.1, fun c member => ?_⟩
  rcases plain.2 c member with letter | rfl
  · simp [TagRule.isReferenceChar, letter]
  · decide

end Names

theorem fragment?_append (page : String) {fragment : String} (clean : '#' ∉ fragment.toList) :
    fragment? (page ++ "#" ++ fragment) = some fragment := by
  have letters : (page ++ "#" ++ fragment).toList = page.toList ++ '#' :: fragment.toList := by simp
  rw [fragment?, letters, splitAtChar_append_separator, splitAtChar_of_not_mem clean,
    List.tail_append_of_ne_nil (splitAtChar_ne_nil _ _), List.getLast?_concat, Option.map_some, String.ofList_toList]

namespace MarkdownPage

theorem methodEntry_eq (method : MethodDoc) : methodEntry method ++ "\n" = menuLink (methodLink method) := by
  rw [← String.toList_inj]
  simp [methodEntry, menuLink, methodLink]

/-- Lines with a break between neighbours and one at the end are lines with a break each. -/
theorem intercalate_append_break {lines : List String} (nonempty : lines ≠ []) :
    "\n".intercalate lines ++ "\n" = String.join (lines.map (· ++ "\n")) := by
  induction lines with
  | nil => exact absurd rfl nonempty
  | cons line rest ih =>
    cases rest with
    | nil => simp
    | cons next rest =>
      rw [String.intercalate_cons_cons, List.map_cons, String.join_cons, ← ih (List.cons_ne_nil next rest)]
      simp [String.append_assoc]

/-- The page of an entity with methods is its page without them, followed by the list of methods and
their sections. -/
theorem entity_eq {entity : Entity} (nonempty : entity.methods ≠ []) :
    MarkdownPage.entity entity = MarkdownPage.entity { entity with methods := [] } ++ "## Methods\n\n" ++
      String.join (entity.methods.map fun method => menuLink (methodLink method)) ++ "\n" ++
      String.join ((entity.methods.flatMap methodLines).map (· ++ "\n")) := by
  have entries : entity.methods.map (fun method => menuLink (methodLink method)) =
      (entity.methods.map methodEntry).map (· ++ "\n") := by
    rw [List.map_map]
    exact List.map_congr_left fun method _ => (methodEntry_eq method).symm
  have bare : methodsLines [] = [] := rfl
  have full : methodsLines entity.methods =
      "## Methods\n" :: (entity.methods.map methodEntry ++ "" :: entity.methods.flatMap methodLines) := by
    rw [methodsLines, if_neg (by simpa using nonempty)]
  rw [MarkdownPage.entity, MarkdownPage.entity]
  dsimp only
  rw [intercalate_append_break (List.cons_ne_nil _ _), intercalate_append_break (List.cons_ne_nil _ _), entries, bare,
    full]
  simp [String.append_assoc]

end MarkdownPage

/-- A reference to a method lands on the anchor under which the page of its class lists the method
exactly if the name of the method has no capital letters: the reference keeps them, the list does not. -/
theorem references_land_on_listed_anchors_iff (route : Route) {entity : Entity} {method : MethodDoc}
    (listed : method ∈ entity.methods) (entityName : IsPlainName entity.name) (methodName : IsPlainName method.name) :
    (∃ sections, MarkdownPage.entity entity = MarkdownPage.entity { entity with methods := [] } ++ "## Methods\n\n" ++
      String.join (entity.methods.map fun method => MarkdownPage.menuLink (MarkdownPage.methodLink method)) ++ "\n" ++
      sections) ∧
    ∃ reference, readAnchor? (TagRule.uses route.resolve (entity.name ++ "::" ++ method.name)) = some reference ∧
      reference.text = entity.name ++ "::" ++ method.name ∧
      fragment? reference.target = some method.name ∧
      fragment? (MarkdownPage.methodLink method).target = some (lowercase method.name) ∧
      (fragment? reference.target = fragment? (MarkdownPage.methodLink method).target ↔
        ∀ c ∈ method.name.toList, c.isUpper = false) := by
  have member : TagRule.IsReference (entity.name ++ "::" ++ method.name) entity.name method.name :=
    ⟨rfl, entityName.isReferenceName, methodName.isReferenceName⟩
  have kept : fragment? (route.resolve entity.name (some method.name)) = some method.name :=
    fragment?_append _ methodName.not_mem
  have lowered : fragment? (MarkdownPage.methodLink method).target = some (lowercase method.name) :=
    fragment?_append "" methodName.lowercase.not_mem
  refine ⟨⟨_, MarkdownPage.entity_eq (List.ne_nil_of_mem listed)⟩, _, TagRule.readAnchor?_uses route.resolve member,
    rfl, kept, lowered, ?_⟩
  rw [kept, lowered, Option.some.injEq, eq_comm, lowercase_eq_self_iff methodName.small]

/-- A method whose name has a capital letter. -/
def capitalMethod : MethodDoc :=
  ⟨"getName", "", TagMap.empty, "route.php", 6, 6, none⟩

/-- A method whose name has none. -/
def smallMethod : MethodDoc :=
  ⟨"get_name", "", TagMap.empty, "route.php", 7, 7, none⟩

/-- A class with both of them. -/
def routeClass : Entity :=
  ⟨"Route", "", TagMap.empty, [capitalMethod, smallMethod]⟩

theorem references_land_on_listed_anchors_of_smallMethod :
    smallMethod ∈ routeClass.methods ∧ IsPlainName routeClass.name ∧ IsPlainName smallMethod.name ∧
    ∃ reference,
      readAnchor? (TagRule.uses (Route.resolve ⟨"/guide/api"⟩) (routeClass.name ++ "::" ++ smallMethod.name)) =
        some reference ∧
      fragment? reference.target = fragment? (MarkdownPage.methodLink smallMethod).target := by
  have listed : smallMethod ∈ routeClass.methods := by decide
  have entityName : IsPlainName routeClass.name := by decide
  have methodName : IsPlainName smallMethod.name := by decide
  obtain ⟨_, reference, found, _, _, _, lands⟩ :=
    references_land_on_listed_anchors_iff ⟨"/guide/api"⟩ listed entityName methodName
  have noCapital := (lowercase_eq_self_iff methodName.small).mp (by decide +kernel)
  exact ⟨listed, entityName, methodName, reference, found, lands.mpr noCapital⟩

/-- The reference to a method with a capital letter in its name misses the anchor that the page offers. -/
theorem reference_misses_listed_anchor_of_capitalMethod :
    capitalMethod ∈ routeClass.methods ∧ IsPlainName routeClass.name ∧ IsPlainName capitalMethod.name ∧
    MarkdownPage.entity routeClass = "# Route\n\n## Methods\n\n* [getName](#getname)\n* [get_name](#get_name)\n\n" ++
      "### getName\n\n### get_name\n\n" ∧
    MarkdownPage.methodLink capitalMethod = ⟨"getName", "#getname"⟩ ∧
    readAnchor? (TagRule.uses (Route.resolve ⟨"/guide/api"⟩) (routeClass.name ++ "::" ++ capitalMethod.name)) =
      some ⟨"Route::getName", "/guide/api/Route#getName"⟩ ∧
    fragment? "/guide/api/Route#getName" ≠ fragment? "#getname" := by
  refine ⟨?_, ?_, ?_, ?_, ?_, ?_, ?_⟩
  all_goals decide +kernel

end ClassDocs
