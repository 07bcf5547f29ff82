import ClassDocs.Menu.Build
import ClassDocs.Page.Format
import ClassDocs.Proofs.Menu.Pushes
import ClassDocs.Proofs.Sorting

namespace ClassDocs

namespace Menu

/-- How often the tags of an entity file it under a package and a category. -/
def multiplicity (tags : TagMap) (package category : String) : Nat :=
  match tags.get? "package" with
  | none => if package = "Unknown" ∧ category = "Base" then 1 else 0
  | some packages => packages.count package *
    match tags.get? "category" with
    | some categories => categories.count category
    | none => if category = "Core" then 1 else 0

/-- The categories that the tags of an entity file it under in a package, in the order in which they are
reached: all of them again for every time that the package is given. -/
def categoriesIn (tags : TagMap) (package : String) : List String :=
  match tags.get? "package" with
  | none => if package = "Unknown" then ["Base"] else []
  | some packages =>
    (List.replicate (packages.count package) ((tags.get? "category").getD ["Core"])).flatten

/-- What an entity adds to the menu: its link under each of its places. -/
def filings (resolve : Resolver) (entity : Entity) : List ((String × String) × Link) :=
  (placesOf entity.tags).map fun place => (place, ⟨entity.name, resolve entity.name none⟩)

section Places

variable (tags : TagMap) (package category : String)

theorem count_pairs (packages categories : List String) :
    (packages.flatMap fun package => categories.map fun category => (package, category)).count (package, category) =
      packages.count package * categories.count category := by
  induction packages with
  | nil => simp
  | cons first rest ih =>
    rw [List.flatMap_cons, List.count_append, ih]
    by_cases same : first = package
    · have pairs : (categories.map fun category => (first, category)).count (package, category) =
          categories.count category := by
        rw [same]
        exact List.count_map_of_injective _ _ (Prod.mk_right_injective package) _
      rw [pairs, same, List.count_cons_self, Nat.add_mul, Nat.one_mul, Nat.add_comm]
    · have absent : (package, category) ∉ categories.map fun category => (first, category) := by
        simp [same]
      rw [List.count_eq_zero_of_not_mem absent, List.count_cons_of_ne same, Nat.zero_add]

theorem count_placesOf : (placesOf tags).count (package, category) = multiplicity tags package category := by
  unfold placesOf multiplicity
  cases tags.get? "package" with
  | none =>
    by_cases here : package = "Unknown" ∧ category = "Base"
    · rw [if_pos here, here.1, here.2]
      rfl
    · rw [if_neg here]
      refine List.count_eq_zero_of_not_mem fun filed => here ?_
      simpa using filed
  | some packages =>
    cases tags.get? "category" with
    | some categories => exact count_pairs package category packages categories
    | none =>
      have core : ["Core"].count category = if category = "Core" then 1 else 0 := by
        by_cases here : category = "Core"
        · rw [if_pos here, here, List.count_singleton_self]
        · rw [if_neg here]
          exact List.count_eq_zero_of_not_mem (by simpa using here)
      dsimp only
      rw [← core]
      exact count_pairs package category packages ["Core"]

theorem filter_pairs (packages categories : List String) :
    ((packages.flatMap fun package => categories.map fun category => (package, category)).filter
      (·.1 == package)).map (·.2) = (List.replicate (packages.count package) categories).flatten := by
  induction packages with
  | nil => rfl
  | cons first rest ih =>
    rw [List.flatMap_cons, List.filter_append, List.map_append, ih]
    by_cases same : first = package
    · subst same
      simp [List.replicate_succ, List.filter_map, Function.comp_def]
    · simp [same, List.filter_map, Function.comp_def]

/-- The places of an entity in one package. -/
theorem filter_placesOf : ((placesOf tags).filter (·.1 == package)).map (·.2) = categoriesIn tags package := by
  unfold placesOf categoriesIn
  cases tags.get? "package" with
  | none =>
    by_cases here : package = "Unknown"
    · simp [here]
    · simp [here, Ne.symm here]
  | some packages =>
    cases tags.get? "category" with
    | some categories => exact filter_pairs package packages categories
    | none => exact filter_pairs package packages ["Core"]

/-- An entity has as many places as its tags give it over all packages and categories, of which only
finitely many count. -/
theorem length_placesOf :
    (placesOf tags).length = ∑ᶠ place : String × String, multiplicity tags place.1 place.2 := by
  have support : Function.support (fun place : String × String => multiplicity tags place.1 place.2) ⊆
      ((placesOf tags).toFinset : Set (String × String)) := by
    intro place filed
    rw [Function.mem_support, ← count_placesOf] at filed
    exact List.mem_toFinset.mpr (List.count_pos_iff.mp (Nat.pos_of_ne_zero filed))
  rw [finsum_eq_sum_of_support_subset _ support, ← List.sum_toFinset_count_eq_length]
  refine Finset.sum_congr rfl fun place _ => ?_
  convert count_placesOf tags place.1 place.2

end Places

section Walk

variable (resolve : Resolver) (entities : List Entity) (package category : String)

theorem stablySorted_inOrder : StablySorted (fun entity => lowercase entity.name) entities (inOrder entities) :=
  stablySorted_mergeSort _ _

theorem mem_inOrder {entity : Entity} : entity ∈ inOrder entities ↔ entity ∈ entities :=
  (stablySorted_inOrder entities).perm.mem_iff

/-- The menu is made of the links of the entities in their order. -/
theorem build_eq_ofPushes : build resolve entities = ofPushes ((inOrder entities).flatMap (filings resolve)) := by
  have each : addEntity resolve = fun menu entity => (filings resolve entity).foldl
      (fun menu entry => menu.push entry.1.1 entry.1.2 entry.2) menu := by
    funext menu entity
    rw [filings, List.foldl_map]
    rfl
  rw [build, ofPushes, List.foldl_flatMap, each]

theorem pushedUnder_filings (entity : Entity) :
    pushedUnder (filings resolve entity) package category =
      List.replicate (multiplicity entity.tags package category) ⟨entity.name, resolve entity.name none⟩ := by
  have kept : (fun entry : (String × String) × Link => entry.1 == (package, category)) ∘
      (fun place => (place, (⟨entity.name, resolve entity.name none⟩ : Link))) = (· == (package, category)) := rfl
  rw [pushedUnder, filings, List.filter_map, kept, List.filter_beq, List.map_map, List.map_replicate, count_placesOf]
  rfl

theorem pushedUnder_walk :
    pushedUnder ((inOrder entities).flatMap (filings resolve)) package category =
      (inOrder entities).flatMap fun entity =>
        List.replicate (multiplicity entity.tags package category) ⟨entity.name, resolve entity.name none⟩ := by
  rw [pushedUnder, List.filter_flatMap, List.map_flatMap]
  exact congrArg (inOrder entities).flatMap (funext (pushedUnder_filings resolve package category))

theorem links?_build :
    (build resolve entities).links? package category =
      if ∀ entity ∈ entities, multiplicity entity.tags package category = 0 then none
      else some ((inOrder entities).flatMap fun entity =>
        List.replicate (multiplicity entity.tags package category) ⟨entity.name, resolve entity.name none⟩) := by
  have nowhere : ((inOrder entities).flatMap fun entity => List.replicate (multiplicity entity.tags package category)
      (⟨entity.name, resolve entity.name none⟩ : Link)) = [] ↔
        ∀ entity ∈ entities, multiplicity entity.tags package category = 0 := by
    simp only [List.flatMap_eq_nil_iff, List.replicate_eq_nil_iff, mem_inOrder]
  rw [build_eq_ofPushes, links?_ofPushes, pushedUnder_walk]
  simp only [nowhere]

theorem categoryNames_build :
    (build resolve entities).categoryNames package =
      ((inOrder entities).flatMap fun entity => categoriesIn entity.tags package).eraseDups := by
  have each (entity : Entity) : ((filings resolve entity).filter (·.1.1 == package)).map (·.1.2) =
      categoriesIn entity.tags package := by
    rw [← filter_placesOf, filings, List.filter_map, List.map_map]
    rfl
  rw [build_eq_ofPushes, categoryNames_ofPushes, List.filter_flatMap, List.map_flatMap]
  simp only [each]

theorem mem_packageNames_build :
    package ∈ (build resolve entities).packageNames ↔
      ∃ entity ∈ entities, ∃ category, multiplicity entity.tags package category ≠ 0 := by
  have filed (entity : Entity) : (∃ category, multiplicity entity.tags package category ≠ 0) ↔
      ∃ category, (package, category) ∈ placesOf entity.tags := by
    simp only [← count_placesOf, ne_eq, List.count_eq_zero, not_not]
  rw [build_eq_ofPushes, mem_packageNames_ofPushes, List.mem_map]
  simp only [filed]
  constructor
  · rintro ⟨entry, inWalk, rfl⟩
    obtain ⟨entity, member, inFilings⟩ := List.mem_flatMap.mp inWalk
    obtain ⟨place, inPlaces, rfl⟩ := List.mem_map.mp inFilings
    exact ⟨entity, (mem_inOrder entities).mp member, place.2, inPlaces⟩
  · rintro ⟨entity, member, category, inPlaces⟩
    have inFilings : ((package, category), ⟨entity.name, resolve entity.name none⟩) ∈ filings resolve entity :=
      List.mem_map_of_mem inPlaces
    exact ⟨_, List.mem_flatMap.mpr ⟨entity, (mem_inOrder entities).mpr member, inFilings⟩, rfl⟩

theorem linkCount_build :
    (build resolve entities).linkCount =
      (entities.map fun entity => ∑ᶠ place : String × String, multiplicity entity.tags place.1 place.2).sum := by
  have each : (List.length ∘ filings resolve) = fun entity : Entity =>
      ∑ᶠ place : String × String, multiplicity entity.tags place.1 place.2 := by
    funext entity
    rw [← length_placesOf, Function.comp_apply, filings, List.length_map]
  rw [build_eq_ofPushes, linkCount_ofPushes, List.length_flatMap, ← each]
  exact ((stablySorted_inOrder entities).perm.map _).sum_nat

end Walk

/-- Every entity stands in the menu where its tags say, as often as they say it and in the order of the
names in lower case; there is nothing else in it. -/
theorem build_files_by_tags (resolve : Resolver) (entities : List Entity) :
    StablySorted (fun entity => lowercase entity.name) entities (inOrder entities) ∧
    (∀ package category, (build resolve entities).links? package category =
      if ∀ entity ∈ entities, multiplicity entity.tags package category = 0 then none
      else some ((inOrder entities).flatMap fun entity =>
        List.replicate (multiplicity entity.tags package category) ⟨entity.name, resolve entity.name none⟩)) ∧
    (build resolve entities).packageNames.Pairwise (· < ·) ∧
    (∀ package, package ∈ (build resolve entities).packageNames ↔
      ∃ entity ∈ entities, ∃ category, multiplicity entity.tags package category ≠ 0) ∧
    (∀ package, ((build resolve entities).categoryNames package).Nodup ∧
      (build resolve entities).categoryNames package =
        ((inOrder entities).flatMap fun entity => categoriesIn entity.tags package).eraseDups) ∧
    (build resolve entities).linkCount =
      (entities.map fun entity => ∑ᶠ place : String × String, multiplicity entity.tags place.1 place.2).sum := by
  refine ⟨stablySorted_inOrder entities, links?_build resolve entities, (build resolve entities).packages.keys_ascending,
    mem_packageNames_build resolve entities, fun package => ⟨?_, categoryNames_build resolve entities package⟩,
    linkCount_build resolve entities⟩
  rw [categoryNames_build]
  exact nodup_eraseDups _

/-- The order in which entities are given has no part in the menu if their names differ in lower case,
and so none in its pages. -/
theorem build_eq_of_perm (resolve : Resolver) {entities others : List Entity}
    (distinct : (entities.map fun entity => lowercase entity.name).Nodup) (perm : entities.Perm others) :
    build resolve entities = build resolve others ∧
      ∀ format : PageFormat, format.menuPage (build resolve entities) = format.menuPage (build resolve others) := by
  have ordered : inOrder entities = inOrder others :=
    (stablySorted_inOrder entities).eq_of_perm (stablySorted_inOrder others) distinct perm
  have same : build resolve entities = build resolve others := by
    rw [build, build, ordered]
  exact ⟨same, fun format => by rw [same]⟩

/-- Entities whose order by name is another one in lower case, two of them in one package. -/
def mixedCase : List Entity :=
  [⟨"Zed", "", .ofPushes [("package", "Mid"), ("category", "Zulu")], []⟩,
    ⟨"alpha", "", .ofPushes [("package", "Mid"), ("category", "Yankee")], []⟩,
    ⟨"Émile", "", .ofPushes [("package", "Unknown")], []⟩]

theorem build_eq_of_perm_of_mixedCase :
    mixedCase.Perm mixedCase.reverse ∧ mixedCase ≠ mixedCase.reverse ∧
      build (Route.resolve ⟨"/api"⟩) mixedCase = build (Route.resolve ⟨"/api"⟩) mixedCase.reverse ∧
      ∀ format : PageFormat, format.menuPage (build (Route.resolve ⟨"/api"⟩) mixedCase) =
        format.menuPage (build (Route.resolve ⟨"/api"⟩) mixedCase.reverse) := by
  have perm : mixedCase.Perm mixedCase.reverse := (List.reverse_perm mixedCase).symm
  exact ⟨perm, by decide +kernel, build_eq_of_perm _ (by decide +kernel) perm⟩

end Menu

end ClassDocs
