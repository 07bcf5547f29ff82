import ClassDocs.Page.Markdown
import ClassDocs.Proofs.Menu.Pushes
import ClassDocs.Proofs.Text.Lines

namespace ClassDocs

/-- A link whose two texts stay on its line, the first of them without the mark that ends it. -/
def Link.Legible (link : Link) : Prop :=
  '\n' ∉ link.text.toList ∧ '\n' ∉ link.target.toList ∧ ¬ "](".toList <:+: link.text.toList

/-- A category whose name stays on its line, with legible links. -/
def Category.Legible (category : Category) : Prop :=
  '\n' ∉ category.name.toList ∧ ∀ link ∈ category.links, link.Legible

/-- A menu whose names and links all stay on their lines. -/
def Menu.Legible (menu : Menu) : Prop :=
  ∀ package ∈ menu.packages.entries, '\n' ∉ package.1.toList ∧ ∀ category ∈ package.2, category.Legible

instance (link : Link) : Decidable link.Legible :=
  inferInstanceAs (Decidable (_ ∧ _ ∧ _))

instance (category : Category) : Decidable category.Legible :=
  inferInstanceAs (Decidable (_ ∧ _))

instance (menu : Menu) : Decidable menu.Legible :=
  inferInstanceAs (Decidable (∀ package ∈ menu.packages.entries, _ ∧ _))

/-- Blocks of text that begin in a way of their own and can be read off the front of a text, as long as
what follows them is of a kind that may follow them. -/
structure Blocks {α : Type} (print : α → List Char) (good : α → Prop)
    (opens follows : List Char → Prop) : Prop where
  opens_print : ∀ a rest, opens (print a ++ rest)
  follows_print : ∀ a rest, follows (print a ++ rest)
  reads : ∀ {a b rest rest'}, good a → good b → follows rest → follows rest' →
    print a ++ rest = print b ++ rest' → a = b ∧ rest = rest'

section Texts

variable {first second rest rest' : List Char}

theorem append_separator_inj {separator : Char} (clean : separator ∉ first) (clean' : separator ∉ second)
    (same : first ++ separator :: rest = second ++ separator :: rest') : first = second ∧ rest = rest' := by
  have pieces := congrArg (splitAtChar separator) same
  rw [splitAtChar_append clean, splitAtChar_append clean'] at pieces
  obtain ⟨rfl, _⟩ := List.cons.inj pieces
  exact ⟨rfl, (List.cons.inj (List.append_cancel_left same)).2⟩

/-- Where a text without the mark goes on to the mark, no part of it can be left out: the only way to
meet the mark earlier would be that the text ends in a bracket, and then a parenthesis is missing. -/
theorem eq_nil_of_bracket {more : List Char} (clean : ¬ "](".toList <:+: first ++ more)
    (same : ']' :: '(' :: rest = more ++ ']' :: '(' :: rest') : more = [] := by
  cases more with
  | nil => rfl
  | cons bracket more =>
    obtain ⟨rfl, behind⟩ := List.cons.inj same
    cases more with
    | nil => exact absurd (List.cons.inj behind).1 (by decide)
    | cons parenthesis more =>
      obtain ⟨rfl, _⟩ := List.cons.inj behind
      exact absurd ⟨first, more, by simp⟩ clean

theorem append_bracket_inj (clean : ¬ "](".toList <:+: first) (clean' : ¬ "](".toList <:+: second)
    (same : first ++ ']' :: '(' :: rest = second ++ ']' :: '(' :: rest') : first = second ∧ rest = rest' := by
  have texts : first = second := by
    rcases List.append_eq_append_iff.mp same with ⟨more, rfl, behind⟩ | ⟨more, rfl, behind⟩
    · rw [eq_nil_of_bracket clean' behind, List.append_nil]
    · rw [eq_nil_of_bracket clean behind, List.append_nil]
  rw [texts] at same
  exact ⟨texts, (List.cons.inj (List.cons.inj (List.append_cancel_left same)).2).2⟩

end Texts

section Blocks

variable {α : Type} {print : α → List Char} {good : α → Prop} {opens follows : List Char → Prop}
  (blocks : Blocks print good opens follows)

include blocks

theorem Blocks.follows_flatMap (list : List α) {rest : List Char} (may : follows rest) :
    follows (list.flatMap print ++ rest) := by
  cases list with
  | nil => exact may
  | cons a list =>
    rw [List.flatMap_cons, List.append_assoc]
    exact blocks.follows_print a _

/-- A sequence of blocks can be read off a text, up to where the text goes on in another way. -/
theorem Blocks.flatMap_append_inj {first second : List α} {rest rest' : List Char}
    (firstGood : ∀ a ∈ first, good a) (secondGood : ∀ a ∈ second, good a)
    (stops : ¬ opens rest) (stops' : ¬ opens rest') (may : follows rest) (may' : follows rest')
    (same : first.flatMap print ++ rest = second.flatMap print ++ rest') : first = second ∧ rest = rest' := by
  induction first generalizing second with
  | nil =>
    cases second with
    | nil => exact ⟨rfl, same⟩
    | cons b second =>
      rw [List.flatMap_nil, List.nil_append, List.flatMap_cons, List.append_assoc] at same
      exact absurd (same ▸ blocks.opens_print b _) stops
  | cons a first ih =>
    cases second with
    | nil =>
      rw [List.flatMap_nil, List.nil_append, List.flatMap_cons, List.append_assoc] at same
      exact absurd (same ▸ blocks.opens_print a _) stops'
    | cons b second =>
      rw [List.flatMap_cons, List.flatMap_cons, List.append_assoc, List.append_assoc] at same
      obtain ⟨aGood, laterGood⟩ := List.forall_mem_cons.mp firstGood
      obtain ⟨bGood, laterGood'⟩ := List.forall_mem_cons.mp secondGood
      obtain ⟨sameBlock, behind⟩ := blocks.reads aGood bGood (blocks.follows_flatMap first may)
        (blocks.follows_flatMap second may') same
      obtain ⟨sameBlocks, sameRest⟩ := ih laterGood laterGood' behind
      exact ⟨by rw [sameBlock, sameBlocks], sameRest⟩

end Blocks

namespace MarkdownPage

theorem menuLink_append (link : Link) (rest : List Char) :
    (menuLink link).toList ++ rest =
      '*' :: ' ' :: '[' :: (link.text.toList ++ ']' :: '(' :: (link.target.toList ++ ')' :: '\n' :: rest)) := by
  simp [menuLink]

theorem menuCategory_append (category : Category) (rest : List Char) :
    (menuCategory category).toList ++ rest = '#' :: '#' :: '#' :: ' ' :: (category.name.toList ++ '\n' :: '\n' ::
      (category.links.flatMap (fun link => (menuLink link).toList) ++ '\n' :: rest)) := by
  simp [menuCategory, List.flatMap_map]

theorem menuPackage_append (package : String × List Category) (rest : List Char) :
    (menuPackage package).toList ++ rest = '#' :: '#' :: ' ' :: (package.1.toList ++ '\n' :: '\n' ::
      (package.2.flatMap (fun category => (menuCategory category).toList) ++ rest)) := by
  simp [menuPackage, List.flatMap_map]

/-- The links of a category: each is one line that begins with a star. -/
theorem linkBlocks : Blocks (fun link => (menuLink link).toList) Link.Legible (['*'] <+: ·) fun _ => True where
  opens_print link rest := by
    rw [menuLink_append]
    exact List.prefix_append ..
  follows_print _ _ := trivial
  reads := by
    rintro ⟨text, target⟩ ⟨text', target'⟩ rest rest' ⟨_, targetLine, clean⟩ ⟨_, targetLine', clean'⟩ _ _ same
    simp only [menuLink_append, List.cons.injEq, true_and] at same
    obtain ⟨sameText, behind⟩ := append_bracket_inj clean clean' same
    have line (target rest : List Char) : target ++ ')' :: '\n' :: rest = (target ++ [')']) ++ '\n' :: rest := by simp
    rw [line, line] at behind
    obtain ⟨sameTarget, sameRest⟩ :=
      append_separator_inj (by simpa using targetLine) (by simpa using targetLine') behind
    have targets := List.append_cancel_right sameTarget
    exact ⟨congrArg₂ Link.mk (String.toList_inj.mp sameText) (String.toList_inj.mp targets), sameRest⟩

/-- The categories of a package: each begins with three number signs and ends with the empty line behind its links. -/
theorem categoryBlocks : Blocks (fun category => (menuCategory category).toList) Category.Legible
    (['#', '#', '#'] <+: ·) fun _ => True where
  opens_print category rest := by
    rw [menuCategory_append]
    exact List.prefix_append ['#', '#', '#'] _
  follows_print _ _ := trivial
  reads := by
    rintro ⟨name, links⟩ ⟨name', links'⟩ rest rest' ⟨nameLine, legible⟩ ⟨nameLine', legible'⟩ _ _ same
    simp only [menuCategory_append, List.cons.injEq, true_and] at same
    obtain ⟨sameName, behind⟩ := append_separator_inj nameLine nameLine' same
    have noStar (rest : List Char) : ¬ ['*'] <+: '\n' :: rest := by simp
    obtain ⟨sameLinks, ends⟩ := linkBlocks.flatMap_append_inj legible legible' (noStar rest) (noStar rest')
      trivial trivial (List.cons.inj behind).2
    exact ⟨congrArg₂ Category.mk (String.toList_inj.mp sameName) sameLinks, (List.cons.inj ends).2⟩

/-- The packages of a menu: each begins with two number signs and a space, and goes on as long as
categories follow. -/
theorem packageBlocks : Blocks (fun package => (menuPackage package).toList)
    (fun package => '\n' ∉ package.1.toList ∧ ∀ category ∈ package.2, category.Legible)
    (['#', '#', ' '] <+: ·) (¬ ['#', '#', '#'] <+: ·) where
  opens_print package rest := by
    rw [menuPackage_append]
    exact List.prefix_append ['#', '#', ' '] _
  follows_print package rest := by
    rw [menuPackage_append]
    simp
  reads := by
    rintro ⟨name, categories⟩ ⟨name', categories'⟩ rest rest' ⟨nameLine, legible⟩ ⟨nameLine', legible'⟩
      ends ends' same
    simp only [menuPackage_append, List.cons.injEq, true_and] at same
    obtain ⟨sameName, behind⟩ := append_separator_inj nameLine nameLine' same
    obtain ⟨sameCategories, sameRest⟩ := categoryBlocks.flatMap_append_inj legible legible' ends ends'
      trivial trivial (List.cons.inj behind).2
    exact ⟨Prod.ext (String.toList_inj.mp sameName) sameCategories, sameRest⟩

end MarkdownPage

/-- The Markdown menu determines the menu that it shows, packages, categories and links in their
order, whatever marks their names begin with. -/
theorem markdown_menu_loses_nothing {first second : Menu} (legible : first.Legible) (legible' : second.Legible)
    (same : MarkdownPage.menu first = MarkdownPage.menu second) : first = second := by
  obtain ⟨⟨packages, ascending⟩⟩ := first
  obtain ⟨⟨packages', ascending'⟩⟩ := second
  have pages : packages.flatMap (fun package => (MarkdownPage.menuPackage package).toList) ++ [] =
      packages'.flatMap (fun package => (MarkdownPage.menuPackage package).toList) ++ [] := by
    simpa [MarkdownPage.menu, List.flatMap_map] using congrArg String.toList same
  obtain ⟨rfl, _⟩ := MarkdownPage.packageBlocks.flatMap_append_inj legible legible' (by simp) (by simp) (by simp)
    (by simp) pages
  rfl

/-- Without the condition on its text a link can be taken for another one. -/
example : MarkdownPage.menuLink ⟨"a](b", "c"⟩ = MarkdownPage.menuLink ⟨"a", "b](c"⟩ := by
  decide

/-- Links under names that look like headings or entries. -/
def markedPushes : List ((String × String) × Link) :=
  [(("# P", "### C"), ⟨"[a]", "](x)"⟩), (("# P", "* ["), ⟨"b]", ")"⟩)]

/-- A link without a text, under a package without a name. -/
def namelessPush : (String × String) × Link :=
  (("", ""), ⟨"", ""⟩)

theorem markdown_menu_loses_nothing_of_markedPushes :
    (Menu.ofPushes (markedPushes ++ [namelessPush])).Legible ∧
    (Menu.ofPushes (namelessPush :: markedPushes)).Legible ∧
    MarkdownPage.menu (Menu.ofPushes (markedPushes ++ [namelessPush])) =
      MarkdownPage.menu (Menu.ofPushes (namelessPush :: markedPushes)) ∧
    Menu.ofPushes (markedPushes ++ [namelessPush]) = Menu.ofPushes (namelessPush :: markedPushes) := by
  have legible : (Menu.ofPushes (markedPushes ++ [namelessPush])).Legible := by decide +kernel
  have legible' : (Menu.ofPushes (namelessPush :: markedPushes)).Legible := by decide +kernel
  have same : MarkdownPage.menu (Menu.ofPushes (markedPushes ++ [namelessPush])) =
      MarkdownPage.menu (Menu.ofPushes (namelessPush :: markedPushes)) := by decide +kernel
  exact ⟨legible, legible', same, markdown_menu_loses_nothing legible legible' same⟩

end ClassDocs
