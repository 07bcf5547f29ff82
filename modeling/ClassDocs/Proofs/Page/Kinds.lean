import ClassDocs.Page.Format

namespace ClassDocs

theorem prefix_intercalate (separator first : String) (rest : List String) :
    first.toList <+: (separator.intercalate (first :: rest)).toList := by
  rw [String.toList_intercalate, List.map_cons]
  cases rest with
  | nil => simp [List.intercalate]
  | cons second others => simp [List.intercalate]

theorem MarkdownPage.prefix_entity (entity : Entity) :
    ['#', ' '] <+: (MarkdownPage.entity entity).toList := by
  rw [MarkdownPage.entity, String.toList_append]
  refine List.IsPrefix.trans ?_ (List.prefix_append ..)
  refine List.IsPrefix.trans ?_ (prefix_intercalate ..)
  simp

theorem MarkdownPage.prefix_menu (menu : Menu) :
    (MarkdownPage.menu menu).toList = [] ∨ ['#', '#'] <+: (MarkdownPage.menu menu).toList := by
  rw [MarkdownPage.menu]
  cases menu.packages.entries with
  | nil => exact Or.inl rfl
  | cons package rest => exact Or.inr (by simp [menuPackage])

/-- An object shows its first key directly after its opening. -/
theorem Json.prefix_object (key : String) (value : Json) (members : List (String × Json)) :
    ['\x7b', '\n', ' ', ' ', '"'] ++ key.toList.flatMap escapeChar <+:
      (Json.object ((key, value) :: members)).pretty.toList := by
  have first := prefix_intercalate ("," ++ margin 1) (quote key ++ ": " ++ prettyAt 1 value)
    (prettyMembers 1 members)
  have quoted : '"' :: key.toList.flatMap escapeChar <+: (("," ++ margin 1).intercalate
      ((quote key ++ ": " ++ prettyAt 1 value) :: prettyMembers 1 members)).toList :=
    List.IsPrefix.trans (by simp [quote]) first
  simp only [pretty, prettyAt, prettyMembers, layout, List.isEmpty_cons, Bool.false_eq_true, if_false,
    String.toList_append]
  simpa [margin] using quoted.trans (List.prefix_append ..)

theorem JsonPage.prefix_entity (entity : Entity) :
    ['\x7b', '\n', ' ', ' ', '"', 'n', 'a', 'm', 'e'] <+: (JsonPage.entity entity).toList := by
  rw [JsonPage.entity, String.toList_append]
  exact (Json.prefix_object "name" _ _).trans (List.prefix_append ..)

theorem JsonPage.prefix_menu (menu : Menu) :
    ['\x7b', '\n', ' ', ' ', '"', 'p', 'a', 'c', 'k', 'a', 'g', 'e', 's'] <+: (JsonPage.menu menu).toList := by
  rw [JsonPage.menu, String.toList_append]
  exact (Json.prefix_object "packages" _ _).trans (List.prefix_append ..)

/-- The page of a class is never the menu page, whatever is in them. -/
theorem PageFormat.entityPage_ne_menuPage (format : PageFormat) (entity : Entity) (menu : Menu) :
    format.entityPage entity ≠ format.menuPage menu := by
  intro same
  cases format with
  | markdown =>
    have first := MarkdownPage.prefix_entity entity
    rw [show MarkdownPage.entity entity = MarkdownPage.menu menu from same] at first
    rcases MarkdownPage.prefix_menu menu with empty | second
    · simp [empty] at first
    · exact absurd (List.prefix_of_prefix_length_le first second (Nat.le_refl 2)) (by decide)
  | json =>
    have first := JsonPage.prefix_entity entity
    rw [show JsonPage.entity entity = JsonPage.menu menu from same] at first
    have second := JsonPage.prefix_menu menu
    exact absurd (List.prefix_of_prefix_length_le first second (by decide)) (by decide)

end ClassDocs
