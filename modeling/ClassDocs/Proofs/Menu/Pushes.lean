import ClassDocs.Menu
import ClassDocs.Proofs.SortedMap
import Mathlib.Algebra.BigOperators.Finprod

namespace ClassDocs

namespace Menu

/-- The menu after links were added one after the other, each under a package and a category. -/
def ofPushes (pushes : List ((String × String) × Link)) : Menu :=
  pushes.foldl (fun menu entry => menu.push entry.1.1 entry.1.2 entry.2) empty

/-- The links that were added under a package and a category, in their order. -/
def pushedUnder (pushes : List ((String × String) × Link)) (package category : String) : List Link :=
  (pushes.filter (·.1 == (package, category))).map (·.2)

/-- The categories under which links were added to a package, in their order and as often as it was done. -/
def pushedInto (pushes : List ((String × String) × Link)) (package : String) : List String :=
  (pushes.filter (·.1.1 == package)).map (·.1.2)

/-- The names of the categories of a package, in the order of the menu. -/
def categoryNames (menu : Menu) (package : String) : List String :=
  ((menu.packages.get? package).getD []).map (·.name)

/-- The number of links in some categories. -/
def linksIn (categories : List Category) : Nat :=
  (categories.map (·.links.length)).sum

/-- The number of links in the whole menu. -/
def linkCount (menu : Menu) : Nat :=
  (menu.packages.values.map linksIn).sum

section Categories

variable (category other : String) (link : Link) (categories : List Category)

theorem find?_pushCategory :
    ((pushCategory category link categories).find? (·.name == other)).map (·.links) =
      if other = category then
        some (((categories.find? (·.name == category)).map (·.links)).getD [] ++ [link])
      else (categories.find? (·.name == other)).map (·.links) := by
  induction categories with
  | nil =>
    by_cases same : other = category
    · simp [pushCategory, same]
    · simp [pushCategory, same, Ne.symm same]
  | cons first rest ih =>
    rw [pushCategory]
    split
    · rename_i here
      by_cases same : other = category
      · simp [same, here]
      · simp [here, same, Ne.symm same]
    · rename_i elsewhere
      by_cases found : first.name = other
      · have apart : other ≠ category := fun same => elsewhere (found.trans same)
        simp [found, apart]
      · simpa [found, elsewhere] using ih

theorem names_pushCategory :
    (pushCategory category link categories).map (·.name) =
      if (categories.map (·.name)).contains category then categories.map (·.name)
      else categories.map (·.name) ++ [category] := by
  induction categories with
  | nil => rfl
  | cons first rest ih =>
    rw [pushCategory]
    by_cases here : first.name = category
    · simp [here]
    · have elsewhere : category ≠ first.name := Ne.symm here
      rw [if_neg here, List.map_cons, ih, List.map_cons, List.contains_cons, beq_false_of_ne elsewhere, Bool.false_or]
      split
      · rfl
      · rfl

theorem linksIn_pushCategory : linksIn (pushCategory category link categories) = linksIn categories + 1 := by
  induction categories with
  | nil => rfl
  | cons first rest ih =>
    unfold linksIn at ih ⊢
    rw [pushCategory]
    split
    · simp only [List.map_cons, List.sum_cons, List.length_append, List.length_singleton]
      omega
    · simp only [List.map_cons, List.sum_cons, ih]
      omega

end Categories

section Push

variable (menu : Menu) (package category : String) (link : Link)

theorem links?_eq : menu.links? package category =
    (menu.packages.get? package).bind fun categories => (categories.find? (·.name == category)).map (·.links) := by
  unfold links?
  cases menu.packages.get? package with
  | none => rfl
  | some categories =>
    cases found : categories.find? fun candidate => candidate.name == category with
    | none => simp [found]
    | some known => simp [found]

theorem links?_push (otherPackage otherCategory : String) :
    (menu.push package category link).links? otherPackage otherCategory =
      if (otherPackage, otherCategory) = (package, category) then
        some ((menu.links? package category).getD [] ++ [link])
      else menu.links? otherPackage otherCategory := by
  rw [links?_eq, links?_eq, links?_eq, push, SortedMap.get?_alter]
  by_cases samePackage : otherPackage = package
  · subst samePackage
    rw [if_pos rfl, Option.bind_some, find?_pushCategory]
    by_cases sameCategory : otherCategory = category
    · subst sameCategory
      cases menu.packages.get? otherPackage with
      | none => simp
      | some categories => simp
    · cases menu.packages.get? otherPackage with
      | none => simp [sameCategory]
      | some categories => simp [sameCategory]
  · simp [samePackage]

theorem categoryNames_push (other : String) :
    (menu.push package category link).categoryNames other =
      if other = package then
        if (menu.categoryNames package).contains category then menu.categoryNames package
        else menu.categoryNames package ++ [category]
      else menu.categoryNames other := by
  rw [categoryNames, push, SortedMap.get?_alter]
  by_cases same : other = package
  · rw [if_pos same, if_pos same, Option.getD_some, names_pushCategory]
    rfl
  · rw [if_neg same, if_neg same]
    rfl

theorem mem_packageNames_push (other : String) :
    other ∈ (menu.push package category link).packageNames ↔ other = package ∨ other ∈ menu.packageNames := by
  rw [packageNames, packageNames, SortedMap.mem_keys_iff, SortedMap.mem_keys_iff, SortedMap.contains, push,
    SortedMap.get?_alter]
  by_cases same : other = package
  · simp [same]
  · simp [same, SortedMap.contains]

theorem linkCount_push : (menu.push package category link).linkCount = menu.linkCount + 1 := by
  have grows (entries : List (String × List Category)) :
      (((SortedMap.alterEntries package (fun categories => pushCategory category link (categories.getD []))
        entries).map (·.2)).map linksIn).sum = ((entries.map (·.2)).map linksIn).sum + 1 := by
    induction entries with
    | nil => rfl
    | cons first rest ih =>
      rw [SortedMap.alterEntries]
      split
      · simp only [List.map_cons, List.sum_cons, linksIn_pushCategory, Option.getD_none]
        exact Nat.add_comm 1 _
      · split
        · simp only [List.map_cons, List.sum_cons, linksIn_pushCategory, Option.getD_some]
          omega
        · simp only [List.map_cons, List.sum_cons, ih]
          omega
  exact grows menu.packages.entries

end Push

section Pushes

variable (pushes : List ((String × String) × Link)) (package category : String)

theorem ofPushes_concat (last : (String × String) × Link) :
    ofPushes (pushes ++ [last]) = (ofPushes pushes).push last.1.1 last.1.2 last.2 := by
  rw [ofPushes, List.foldl_append]
  rfl

/-- A category holds the links that were added there, and there is none without links. -/
theorem links?_ofPushes :
    (ofPushes pushes).links? package category =
      if pushedUnder pushes package category = [] then none else some (pushedUnder pushes package category) := by
  induction pushes using List.reverseRecOn with
  | nil => rfl
  | append_singleton pushes last ih =>
    obtain ⟨place, link⟩ := last
    rw [ofPushes_concat, links?_push]
    by_cases here : (package, category) = place
    · subst here
      have added : pushedUnder (pushes ++ [((package, category), link)]) package category =
          pushedUnder pushes package category ++ [link] := by
        simp [pushedUnder]
      rw [if_pos rfl, added, if_neg (List.append_ne_nil_of_right_ne_nil _ (List.cons_ne_nil _ _)), ih]
      by_cases none : pushedUnder pushes package category = []
      · rw [if_pos none, none, Option.getD_none]
      · rw [if_neg none, Option.getD_some]
    · have same : pushedUnder (pushes ++ [(place, link)]) package category = pushedUnder pushes package category := by
        simp [pushedUnder, Ne.symm here]
      rw [if_neg here, same, ih]

/-- The categories of a package stand in the order in which they were first added to. -/
theorem categoryNames_ofPushes :
    (ofPushes pushes).categoryNames package = ((pushes.filter (·.1.1 == package)).map (·.1.2)).eraseDups := by
  induction pushes using List.reverseRecOn with
  | nil => rfl
  | append_singleton pushes last ih =>
    rw [ofPushes_concat, categoryNames_push, List.filter_append, List.map_append]
    by_cases here : package = last.1.1
    · subst here
      rw [if_pos rfl, List.filter_cons_of_pos (by simp), List.filter_nil, List.map_singleton, eraseDups_concat, ih]
      simp only [List.contains_iff_mem, List.mem_eraseDups]
    · rw [if_neg here, List.filter_cons_of_neg (by simp [Ne.symm here]), List.filter_nil, List.map_nil,
        List.append_nil, ih]

/-- The packages are those to which a link was added. -/
theorem mem_packageNames_ofPushes : package ∈ (ofPushes pushes).packageNames ↔ package ∈ pushes.map (·.1.1) := by
  induction pushes using List.reverseRecOn with
  | nil => rfl
  | append_singleton pushes last ih =>
    rw [ofPushes_concat, mem_packageNames_push, ih, List.map_append, List.mem_append, List.map_singleton,
      List.mem_singleton, or_comm]

theorem linkCount_ofPushes : (ofPushes pushes).linkCount = pushes.length := by
  induction pushes using List.reverseRecOn with
  | nil => rfl
  | append_singleton pushes last ih => rw [ofPushes_concat, linkCount_push, ih, List.length_append, List.length_singleton]

theorem pushedUnder_eq_nil_iff :
    pushedUnder pushes package category = [] ↔ (package, category) ∉ pushes.map (·.1) := by
  rw [pushedUnder, List.map_eq_nil_iff, List.filter_eq_nil_iff, List.mem_map]
  constructor
  · rintro none ⟨entry, member, here⟩
    exact none entry member (beq_iff_eq.mpr here)
  · intro none entry member here
    exact none ⟨entry, member, beq_iff_eq.mp here⟩

theorem mem_pushedInto : category ∈ pushedInto pushes package ↔ (package, category) ∈ pushes.map (·.1) := by
  rw [pushedInto, List.mem_map, List.mem_map]
  constructor
  · rintro ⟨entry, member, rfl⟩
    obtain ⟨pushed, here⟩ := List.mem_filter.mp member
    exact ⟨entry, pushed, Prod.ext (beq_iff_eq.mp here) rfl⟩
  · rintro ⟨⟨_, link⟩, pushed, rfl⟩
    exact ⟨((package, category), link), List.mem_filter.mpr ⟨pushed, beq_self_eq_true package⟩, rfl⟩

end Pushes

section Entries

variable {menu : Menu} {package : String} {categories : List Category}

theorem categoryNames_of_mem_entries (shown : (package, categories) ∈ menu.packages.entries) :
    menu.categoryNames package = categories.map (·.name) := by
  rw [categoryNames, SortedMap.get?_of_mem_entries shown]
  rfl

theorem links?_of_mem_entries (shown : (package, categories) ∈ menu.packages.entries)
    (distinct : (categories.map (·.name)).Nodup) {category : Category} (member : category ∈ categories) :
    menu.links? package category.name = some category.links := by
  rw [links?_eq, SortedMap.get?_of_mem_entries shown, Option.bind_some, find?_of_nodup_keys Category.name distinct member]
  rfl

/-- A package that the menu shows has a link. -/
theorem categories_ne_nil {pushes : List ((String × String) × Link)}
    (shown : (package, categories) ∈ (ofPushes pushes).packages.entries) : categories ≠ [] := by
  have listed : package ∈ (ofPushes pushes).packageNames := List.mem_map_of_mem shown
  obtain ⟨push, pushed, rfl⟩ := List.mem_map.mp ((mem_packageNames_ofPushes pushes package).mp listed)
  have named : push.1.2 ∈ (ofPushes pushes).categoryNames push.1.1 := by
    rw [categoryNames_ofPushes, List.mem_eraseDups]
    exact (mem_pushedInto pushes _ _).mpr (List.mem_map_of_mem pushed)
  rw [categoryNames_of_mem_entries shown] at named
  obtain ⟨category, member, _⟩ := List.mem_map.mp named
  exact List.ne_nil_of_mem member

end Entries

/-- Adding links one after the other groups them by their packages and categories. No link is lost, and
nothing is shown that holds no link. -/
theorem ofPushes_groups_links (pushes : List ((String × String) × Link)) :
    (∀ package category, (ofPushes pushes).links? package category =
      if (package, category) ∈ pushes.map (·.1) then some (pushedUnder pushes package category) else none) ∧
    (ofPushes pushes).packageNames.Pairwise (· < ·) ∧
    (∀ package, package ∈ (ofPushes pushes).packageNames ↔ package ∈ pushes.map (·.1.1)) ∧
    (∀ package categories, (package, categories) ∈ (ofPushes pushes).packages.entries →
      categories ≠ [] ∧
      (categories.map (·.name)).Nodup ∧
      (∀ name, name ∈ categories.map (·.name) ↔ name ∈ pushedInto pushes package) ∧
      ((categories.map (·.name)).Pairwise fun first second =>
        (pushedInto pushes package).idxOf first < (pushedInto pushes package).idxOf second) ∧
      ∀ category ∈ categories,
        category.links = pushedUnder pushes package category.name ∧ category.links ≠ []) ∧
    (ofPushes pushes).linkCount = pushes.length := by
  have found (package category : String) : (ofPushes pushes).links? package category =
      if (package, category) ∈ pushes.map (·.1) then some (pushedUnder pushes package category) else none := by
    rw [links?_ofPushes, if_congr (pushedUnder_eq_nil_iff pushes package category) rfl rfl, ite_not]
  refine ⟨found, (ofPushes pushes).packages.keys_ascending, mem_packageNames_ofPushes pushes,
    fun package categories shown => ?_, linkCount_ofPushes pushes⟩
  have names : categories.map (·.name) = (pushedInto pushes package).eraseDups := by
    rw [← categoryNames_of_mem_entries shown, categoryNames_ofPushes]
    rfl
  have distinct : (categories.map (·.name)).Nodup := by
    rw [names]
    exact nodup_eraseDups _
  refine ⟨categories_ne_nil shown, distinct, fun name => by rw [names, List.mem_eraseDups], ?_, fun category member => ?_⟩
  · rw [names]
    exact eraseDups_inOrder _
  · have pushed : (package, category.name) ∈ pushes.map (·.1) := by
      rw [← mem_pushedInto, ← List.mem_eraseDups, ← names]
      exact List.mem_map_of_mem member
    have links := links?_of_mem_entries shown distinct member
    rw [found, if_pos pushed] at links
    have same := Option.some.inj links
    refine ⟨same.symm, fun none => ?_⟩
    exact (pushedUnder_eq_nil_iff pushes package category.name).mp (same.trans none) pushed

/-- Links in two packages that have a category in common, which comes back in one of them. -/
def sharedCategory : List ((String × String) × Link) :=
  [(("P", "Zeta"), ⟨"a", "/a"⟩), (("P", "Alpha"), ⟨"b", "/b"⟩), (("A", "Zeta"), ⟨"c", "/c"⟩),
    (("P", "Zeta"), ⟨"a", "/a"⟩)]

theorem ofPushes_groups_links_of_sharedCategory :
    (ofPushes sharedCategory).packageNames = ["A", "P"] ∧
    ("P", [⟨"Zeta", [⟨"a", "/a"⟩, ⟨"a", "/a"⟩]⟩, ⟨"Alpha", [⟨"b", "/b"⟩]⟩]) ∈ (ofPushes sharedCategory).packages.entries ∧
    pushedInto sharedCategory "P" = ["Zeta", "Alpha", "Zeta"] ∧
    ["Zeta", "Alpha"].Pairwise (fun first second =>
      (pushedInto sharedCategory "P").idxOf first < (pushedInto sharedCategory "P").idxOf second) ∧
    pushedUnder sharedCategory "P" "Zeta" = [⟨"a", "/a"⟩, ⟨"a", "/a"⟩] ∧
    (ofPushes sharedCategory).linkCount = 4 := by
  have shown : ("P", [⟨"Zeta", [⟨"a", "/a"⟩, ⟨"a", "/a"⟩]⟩, ⟨"Alpha", [⟨"b", "/b"⟩]⟩]) ∈
      (ofPushes sharedCategory).packages.entries := by decide
  obtain ⟨_, _, _, groups, count⟩ := ofPushes_groups_links sharedCategory
  obtain ⟨_, _, _, order, links⟩ := groups _ _ shown
  exact ⟨by decide, shown, by decide, order, (links _ (List.mem_cons_self ..)).1.symm, count⟩

end Menu

end ClassDocs
