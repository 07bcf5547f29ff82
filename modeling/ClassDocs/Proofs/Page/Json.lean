import ClassDocs.Page.Json
import ClassDocs.Proofs.Json
import ClassDocs.Proofs.SortedMap
import ClassDocs.Proofs.TagMap

namespace ClassDocs

namespace Json

/-- The first value is the second one or stands somewhere inside it. -/
inductive Within (part : Json) : Json → Prop
  | whole : Within part part
  | item {items : List Json} {item : Json} : item ∈ items → Within part item → Within part (.array items)
  | member {members : List (String × Json)} {member : String × Json} :
      member ∈ members → Within part member.2 → Within part (.object members)

/-- No object inside a value has two equal keys. -/
def UniqueKeys (value : Json) : Prop :=
  ∀ members, Within (.object members) value → (members.map (·.1)).Nodup

theorem uniqueKeys_null : UniqueKeys .null := by
  rintro members ⟨⟩

theorem uniqueKeys_number (value : Nat) : UniqueKeys (.number value) := by
  rintro members ⟨⟩

theorem uniqueKeys_string (text : String) : UniqueKeys (.string text) := by
  rintro members ⟨⟩

theorem uniqueKeys_array {items : List Json} (each : ∀ item ∈ items, UniqueKeys item) :
    UniqueKeys (.array items) := by
  intro members within
  cases within with
  | item inside deeper => exact each _ inside members deeper

theorem uniqueKeys_object {members : List (String × Json)} (distinct : (members.map (·.1)).Nodup)
    (each : ∀ member ∈ members, UniqueKeys member.2) : UniqueKeys (.object members) := by
  intro others within
  cases within with
  | whole => exact distinct
  | member inside deeper => exact each _ inside others deeper

end Json

open Json

/-- The tags of the entity and of each of its methods were made by pushing values. -/
def Entity.TagsPushed (entity : Entity) : Prop :=
  (∃ pushes, entity.tags = TagMap.ofPushes pushes) ∧
    ∀ method ∈ entity.methods, ∃ pushes, method.tags = TagMap.ofPushes pushes

namespace JsonPage

section Values

/-- Names with a list of values each, as tags and packages have them. -/
theorem listing_inj {α : Type} {value : α → Json} (inj : ∀ a b, value a = value b → a = b)
    {first second : List (String × List α)}
    (same : (first.map fun entry => (entry.1, Json.array (entry.2.map value))) =
      second.map fun entry => (entry.1, Json.array (entry.2.map value))) : first = second := by
  refine (List.map_inj_right fun entry other equal => ?_).mp same
  obtain ⟨sameName, sameValues⟩ := Prod.mk.inj equal
  exact Prod.ext sameName ((List.map_inj_right inj).mp (Json.array.inj sameValues))

theorem tags_inj {first second : TagMap} (same : tags first = tags second) : first = second :=
  congrArg TagMap.mk (listing_inj (fun _ _ => Json.string.inj) (Json.object.inj same))

theorem method_inj {first second : MethodDoc} (same : method first = method second) : first = second := by
  obtain ⟨name, description, tags, path, firstLine, lastLine, source⟩ := first
  obtain ⟨name', description', tags', path', firstLine', lastLine', source'⟩ := second
  simp only [method, Json.object.injEq, List.cons.injEq, Prod.mk.injEq, Json.string.injEq,
    Json.number.injEq, true_and, and_true] at same
  obtain ⟨rfl, rfl, sameTags, ⟨rfl, rfl, rfl⟩, sameSource⟩ := same
  cases tags_inj sameTags
  cases source with
  | none =>
    cases source' with
    | none => rfl
    | some text' => cases sameSource
  | some text =>
    cases source' with
    | none => cases sameSource
    | some text' => rw [Json.string.inj sameSource]

theorem entityValue_inj {first second : Entity} (same : entityValue first = entityValue second) :
    first = second := by
  obtain ⟨name, description, tags, methods⟩ := first
  obtain ⟨name', description', tags', methods'⟩ := second
  simp only [entityValue, Json.object.injEq, List.cons.injEq, Prod.mk.injEq, Json.string.injEq,
    Json.array.injEq, true_and, and_true] at same
  obtain ⟨rfl, rfl, sameTags, sameMethods⟩ := same
  rw [tags_inj sameTags, (List.map_inj_right fun _ _ => method_inj).mp sameMethods]

theorem link_inj {first second : Link} (same : link first = link second) : first = second := by
  obtain ⟨text, target⟩ := first
  obtain ⟨text', target'⟩ := second
  simp only [link, Json.object.injEq, List.cons.injEq, Prod.mk.injEq, Json.string.injEq, true_and,
    and_true] at same
  obtain ⟨rfl, rfl⟩ := same
  rfl

theorem category_inj {first second : Category} (same : category first = category second) : first = second := by
  obtain ⟨name, links⟩ := first
  obtain ⟨name', links'⟩ := second
  simp only [category, Json.object.injEq, List.cons.injEq, Prod.mk.injEq, Json.string.injEq,
    Json.array.injEq, true_and, and_true] at same
  obtain ⟨rfl, sameLinks⟩ := same
  rw [(List.map_inj_right fun _ _ => link_inj).mp sameLinks]

theorem menuValue_inj {first second : Menu} (same : menuValue first = menuValue second) : first = second := by
  obtain ⟨⟨packages, ascending⟩⟩ := first
  obtain ⟨⟨packages', ascending'⟩⟩ := second
  simp only [menuValue, Json.object.injEq, List.cons.injEq, Prod.mk.injEq, true_and, and_true] at same
  cases listing_inj (fun _ _ => category_inj) same
  rfl

end Values

section Keys

theorem uniqueKeys_listing {α : Type} {value : α → Json} {entries : List (String × List α)}
    (distinct : (entries.map (·.1)).Nodup)
    (each : ∀ entry ∈ entries, ∀ a ∈ entry.2, (value a).UniqueKeys) :
    (Json.object (entries.map fun entry => (entry.1, Json.array (entry.2.map value)))).UniqueKeys := by
  refine uniqueKeys_object ?_ fun member inside => ?_
  · rw [List.map_map]
    exact distinct
  · obtain ⟨entry, inEntries, rfl⟩ := List.mem_map.mp inside
    refine uniqueKeys_array fun item inValues => ?_
    obtain ⟨a, inEntry, rfl⟩ := List.mem_map.mp inValues
    exact each entry inEntries a inEntry

theorem uniqueKeys_tags {tags : TagMap} (pushed : ∃ pushes, tags = TagMap.ofPushes pushes) :
    (JsonPage.tags tags).UniqueKeys := by
  obtain ⟨pushes, rfl⟩ := pushed
  exact uniqueKeys_listing (TagMap.nodup_names_ofPushes pushes) fun _ _ text _ => uniqueKeys_string text

theorem uniqueKeys_method {method : MethodDoc} (pushed : ∃ pushes, method.tags = TagMap.ofPushes pushes) :
    (JsonPage.method method).UniqueKeys := by
  have range : (Json.object [("path", .string method.path), ("start", .number method.first),
      ("end", .number method.last)]).UniqueKeys := by
    refine uniqueKeys_object (by simp) ?_
    simp only [List.forall_mem_cons]
    exact ⟨uniqueKeys_string _, uniqueKeys_number _, uniqueKeys_number _, by simp⟩
  refine uniqueKeys_object (by simp) ?_
  simp only [List.forall_mem_cons]
  refine ⟨uniqueKeys_string _, uniqueKeys_string _, uniqueKeys_tags pushed, range, ?_, by simp⟩
  cases method.source with
  | none => exact uniqueKeys_null
  | some text => exact uniqueKeys_string text

theorem uniqueKeys_entityValue {entity : Entity} (pushed : entity.TagsPushed) :
    (entityValue entity).UniqueKeys := by
  refine uniqueKeys_object (by simp) ?_
  simp only [List.forall_mem_cons]
  refine ⟨uniqueKeys_string _, uniqueKeys_string _, uniqueKeys_tags pushed.1, ?_, by simp⟩
  refine uniqueKeys_array fun item inside => ?_
  obtain ⟨method, inMethods, rfl⟩ := List.mem_map.mp inside
  exact uniqueKeys_method (pushed.2 method inMethods)

theorem uniqueKeys_category (category : Category) : (JsonPage.category category).UniqueKeys := by
  have links : (Json.array (category.links.map link)).UniqueKeys := by
    refine uniqueKeys_array fun item inside => ?_
    obtain ⟨link, _, rfl⟩ := List.mem_map.mp inside
    refine uniqueKeys_object (by simp) ?_
    simp only [List.forall_mem_cons]
    exact ⟨uniqueKeys_string _, uniqueKeys_string _, by simp⟩
  refine uniqueKeys_object (by simp) ?_
  simp only [List.forall_mem_cons]
  exact ⟨uniqueKeys_string _, links, by simp⟩

theorem uniqueKeys_menuValue (menu : Menu) : (menuValue menu).UniqueKeys := by
  refine uniqueKeys_object (by simp) ?_
  simp only [List.forall_mem_cons]
  exact ⟨uniqueKeys_listing menu.packages.nodup_keys fun _ _ category _ => uniqueKeys_category category, by simp⟩

end Keys

/-- A page is the text of one JSON value. -/
theorem pretty_of_page {value other : Json} (same : value.pretty ++ "\n" = other.pretty ++ "\n") :
    value = other := by
  have lists := congrArg String.toList same
  rw [String.toList_append, String.toList_append] at lists
  exact Json.pretty_inj (String.toList_inj.mp (List.append_cancel_right lists))

end JsonPage

/-- A page in JSON form determines what it shows, down to the order of tags and methods and to whether
there is a source; so does the menu. Each is the text of one JSON value, in which no object has two
equal keys. -/
theorem json_pages_lose_nothing :
    (∀ first second : Entity, JsonPage.entity first = JsonPage.entity second → first = second) ∧
    (∀ first second : Menu, JsonPage.menu first = JsonPage.menu second → first = second) ∧
    (∀ entity : Entity, entity.TagsPushed → ∃ value : Json, JsonPage.entity entity = value.pretty ++ "\n" ∧
      (∀ other : Json, JsonPage.entity entity = other.pretty ++ "\n" → other = value) ∧ value.UniqueKeys) ∧
    ∀ menu : Menu, ∃ value : Json, JsonPage.menu menu = value.pretty ++ "\n" ∧
      (∀ other : Json, JsonPage.menu menu = other.pretty ++ "\n" → other = value) ∧ value.UniqueKeys := by
  refine ⟨fun first second same => ?_, fun first second same => ?_, fun entity pushed => ?_, fun menu => ?_⟩
  · exact JsonPage.entityValue_inj (JsonPage.pretty_of_page same)
  · exact JsonPage.menuValue_inj (JsonPage.pretty_of_page same)
  · exact ⟨_, rfl, fun _ same => (JsonPage.pretty_of_page same).symm, JsonPage.uniqueKeys_entityValue pushed⟩
  · exact ⟨_, rfl, fun _ same => (JsonPage.pretty_of_page same).symm, JsonPage.uniqueKeys_menuValue menu⟩

/-- A class with one method, whose texts hold quotes, breaks and a backslash. -/
def quotedEntity (pushes : List (String × String)) : Entity :=
  ⟨"A", "say \"\\\"\n", TagMap.ofPushes pushes, [⟨"f", "\t", TagMap.empty, "a.php", 1, 10, none⟩]⟩

/-- A menu of two packages. -/
def twoPackages (first second : String) : Menu :=
  (Menu.empty.push first "C" ⟨"a", "/a"⟩).push second "C" ⟨"a", "/a"⟩

theorem json_pages_lose_nothing_of_quotedEntity :
    JsonPage.entity (quotedEntity [("see", "x"), ("see", "y"), ("@", "")]) =
      JsonPage.entity (quotedEntity [("see", "x"), ("@", ""), ("see", "y")]) ∧
    quotedEntity [("see", "x"), ("see", "y"), ("@", "")] = quotedEntity [("see", "x"), ("@", ""), ("see", "y")] ∧
    JsonPage.menu (twoPackages "P" "Q") = JsonPage.menu (twoPackages "Q" "P") ∧
    twoPackages "P" "Q" = twoPackages "Q" "P" ∧
    ∃ value : Json, JsonPage.entity (quotedEntity [("see", "x"), ("see", "y")]) = value.pretty ++ "\n" ∧
      value.UniqueKeys := by
  have tags : JsonPage.entity (quotedEntity [("see", "x"), ("see", "y"), ("@", "")]) =
      JsonPage.entity (quotedEntity [("see", "x"), ("@", ""), ("see", "y")]) := rfl
  have packages : JsonPage.menu (twoPackages "P" "Q") = JsonPage.menu (twoPackages "Q" "P") := by
    decide +kernel
  have pushed : (quotedEntity [("see", "x"), ("see", "y")]).TagsPushed := by
    refine ⟨⟨_, rfl⟩, fun method member => ⟨[], ?_⟩⟩
    rw [List.mem_singleton.mp member]
    rfl
  obtain ⟨entities, menus, keys, _⟩ := json_pages_lose_nothing
  obtain ⟨value, page, _, unique⟩ := keys _ pushed
  exact ⟨tags, entities _ _ tags, packages, menus _ _ packages, value, page, unique⟩

end ClassDocs
