import ClassDocs.Library.Reflect
import ClassDocs.Proofs.Entity
import ClassDocs.Proofs.Source.Ranges

namespace ClassDocs

theorem FileSystem.outlineAt_eq_ok {files : FileSystem} {key path : String} {outline : ClassOutline}
    (found : files.outlineAt key path = .ok outline) :
    ∃ content, files.read path = .ok content ∧ scan key path content = .ok outline := by
  obtain ⟨content, read, scanned⟩ := bind_eq_ok_iff.mp found
  unfold FileSystem.readSource at read
  split at read
  · rename_i text same
    cases read
    exact ⟨_, same, scanned⟩
  · cases read

theorem FileSystem.path_ne_empty_of_read {files : FileSystem} {path content : String}
    (read : files.read path = .ok content) : path ≠ "" := by
  rintro rfl
  have absent : files.read "" = .error .noSuchFile := rfl
  rw [absent] at read
  cases read

/-- The ancestors of a class are read from files that have not been visited. -/
theorem outlineAt_of_mem_ancestors {files : FileSystem} {classes : Unvisited} {outline : ClassOutline}
    {above : List ClassOutline} (walked : ancestors files classes outline = .ok above) :
    ∀ base ∈ above, ∃ entry ∈ classes, files.outlineAt entry.1 entry.2 = .ok base := by
  fun_induction ancestors files classes outline generalizing above with
  | case1 | case2 =>
    cases walked
    intro base member
    cases member
  | case3 classes outline parent declared entry found ih =>
    obtain ⟨first, read, walked⟩ := bind_eq_ok_iff.mp walked
    obtain ⟨later, rest, walked⟩ := bind_eq_ok_iff.mp walked
    cases walked
    have key : entry.1 = lowercase parent := by simpa using List.find?_some found
    intro base member
    rcases List.mem_cons.mp member with rfl | member
    · exact ⟨entry, List.mem_of_find?_eq_some found, by rw [key]; exact read⟩
    · obtain ⟨other, inRest, atOther⟩ := ih first rest base member
      exact ⟨other, (List.mem_filter.mp inRest).1, atOther⟩

theorem mem_mergeMethods {line : List ClassOutline} {method : MethodOutline}
    (member : method ∈ mergeMethods line) : ∃ outline ∈ line, method ∈ outline.methods := by
  induction line with
  | nil => cases member
  | cons outline above ih =>
    rcases List.mem_append.mp member with own | inherited
    · exact ⟨outline, List.mem_cons_self .., own⟩
    · obtain ⟨base, inAbove, declared⟩ := ih (List.mem_filter.mp inherited).1
      exact ⟨base, List.mem_cons_of_mem _ inAbove, declared⟩

theorem SortedMap.mem_entries_of_get? {α : Type} {map : SortedMap α} {key : String} {value : α}
    (found : map.get? key = some value) : (key, value) ∈ map.entries := by
  obtain ⟨entry, first, rfl⟩ := Option.map_eq_some_iff.mp found
  have same : entry.1 = key := by simpa using List.find?_some first
  rw [← same]
  exact List.mem_of_find?_eq_some first

/-- An indexed file declares the class. -/
def Declares (files : FileSystem) (index : SortedMap String) (outline : ClassOutline) : Prop :=
  ∃ key path content, (key, path) ∈ index.entries ∧ files.read path = .ok content ∧
    scan key path content = .ok outline

theorem declares_of_outlineAt {files : FileSystem} {index : SortedMap String} {key path : String}
    {outline : ClassOutline} (inIndex : (key, path) ∈ index.entries)
    (read : files.outlineAt key path = .ok outline) : Declares files index outline := by
  obtain ⟨content, text, scanned⟩ := FileSystem.outlineAt_eq_ok read
  exact ⟨key, path, content, inIndex, text, scanned⟩

/-- A class that is found is one that an indexed file declares, but for its methods, each of which an
indexed file declares. -/
theorem reflect_origin {files : FileSystem} {index : SortedMap String} {name : String}
    {outline : ClassOutline} (found : reflect files index name = .ok outline) :
    (∃ own, Declares files index own ∧ outline = { own with methods := outline.methods }) ∧
      ∀ method ∈ outline.methods, ∃ base, Declares files index base ∧ method ∈ base.methods := by
  unfold reflect at found
  dsimp only at found
  split at found
  · cases found
  · rename_i path atKey
    obtain ⟨own, read, found⟩ := bind_eq_ok_iff.mp found
    obtain ⟨above, walked, found⟩ := bind_eq_ok_iff.mp found
    cases found
    have declared := declares_of_outlineAt (SortedMap.mem_entries_of_get? atKey) read
    refine ⟨⟨own, declared, rfl⟩, fun method member => ?_⟩
    obtain ⟨base, inLine, inBase⟩ := mem_mergeMethods member
    rcases List.mem_cons.mp inLine with rfl | inAbove
    · exact ⟨_, declared, inBase⟩
    · obtain ⟨entry, unvisited, atEntry⟩ := outlineAt_of_mem_ancestors walked base inAbove
      exact ⟨base, declares_of_outlineAt (List.mem_filter.mp unvisited).1 atEntry, inBase⟩

/-- Every method of a class, own or inherited, was found in the text of an indexed file. -/
theorem reflect_methods {files : FileSystem} {index : SortedMap String} {name : String}
    {outline : ClassOutline} (found : reflect files index name = .ok outline) :
    ∀ method ∈ outline.methods, method.path ∈ index.values ∧
      ∃ content, files.read method.path = .ok content ∧
        Scan.Fits method.path (lines content.toList) (lines content.toList).length method := by
  intro method member
  obtain ⟨base, ⟨key, path, content, inIndex, read, scanned⟩, inBase⟩ := (reflect_origin found).2 method member
  have fits := Scan.fits_of_scan scanned method inBase
  rw [fits.own]
  exact ⟨List.mem_map.mpr ⟨_, inIndex, rfl⟩, content, read, fits⟩

section SameFiles

variable {files later : FileSystem}

theorem FileSystem.outlineAt_congr {path : String} (same : later.read path = files.read path) (key : String) :
    later.outlineAt key path = files.outlineAt key path := by
  simp only [FileSystem.outlineAt, FileSystem.readSource, same]

theorem FileSystem.extract_congr {path : String} (same : later.read path = files.read path)
    (first last : Nat) : later.extract path first last = files.extract path first last := by
  simp only [FileSystem.extract, FileSystem.readSource, same]

theorem ancestors_congr {classes : Unvisited} (same : ∀ entry ∈ classes, later.read entry.2 = files.read entry.2)
    (outline : ClassOutline) : ancestors later classes outline = ancestors files classes outline := by
  fun_induction ancestors files classes outline with
  | case1 classes outline orphan => rw [ancestors, orphan]
  | case2 classes outline parent declared absent =>
    rw [ancestors, declared]
    dsimp only
    split
    · rfl
    · rename_i found
      simp [absent] at found
  | case3 classes outline parent declared entry found ih =>
    rw [ancestors, declared]
    dsimp only
    split
    · rename_i absent
      simp [absent] at found
    · rename_i other atParent
      cases Option.some.inj (atParent.symm.trans found)
      rw [FileSystem.outlineAt_congr (same entry (List.mem_of_find?_eq_some found))]
      congr 1
      funext base
      rw [ih base fun other member => same other (List.mem_filter.mp member).1]

/-- Finding a class reads the indexed files and no others. -/
theorem reflect_congr {index : SortedMap String}
    (same : ∀ path ∈ index.values, later.read path = files.read path) (name : String) :
    reflect later index name = reflect files index name := by
  have sameEntry : ∀ entry ∈ index.entries, later.read entry.2 = files.read entry.2 :=
    fun entry member => same entry.2 (List.mem_map_of_mem member)
  unfold reflect
  dsimp only
  split
  · rfl
  · rename_i path atKey
    have sameAbove : ∀ entry ∈ Unvisited.without index.entries (lowercase name),
        later.read entry.2 = files.read entry.2 :=
      fun entry member => sameEntry entry (List.mem_filter.mp member).1
    rw [FileSystem.outlineAt_congr (sameEntry _ (SortedMap.mem_entries_of_get? atKey))]
    congr 1
    funext outline
    rw [ancestors_congr sameAbove]

end SameFiles

theorem Entity.shownSource_extract {files : FileSystem} {method : MethodOutline} {content : String}
    (read : files.read method.path = .ok content)
    (visible : slice content method.first method.last ≠ "") :
    Entity.shownSource files.extract method = some (slice content method.first method.last) := by
  have named : method.path.isEmpty = false := by
    simpa using FileSystem.path_ne_empty_of_read read
  have shown : files.extract method.path method.first method.last =
      .ok (slice content method.first method.last) := by
    simp only [FileSystem.extract, FileSystem.readSource, read, named]
    rfl
  have filled : (slice content method.first method.last).isEmpty = false := by simpa using visible
  simp only [Entity.shownSource, shown, filled, Bool.false_eq_true, if_false]

/-- What is documented of a class depends on the indexed files and on no others. -/
theorem Entity.document_congr {files later : FileSystem} {index : SortedMap String}
    (same : ∀ path ∈ index.values, later.read path = files.read path) (context : CommentContext)
    (name : String) :
    Entity.document (reflect later index) later.extract context name =
      Entity.document (reflect files index) files.extract context name := by
  simp only [Entity.document, reflect_congr same]
  cases found : reflect files index name with
  | error error => rfl
  | ok outline =>
    have each : outline.methods.mapM (Entity.documentMethod later.extract context) =
        outline.methods.mapM (Entity.documentMethod files.extract context) := by
      refine mapM_congr_left fun method member => ?_
      have sameFile := same _ (reflect_methods found method member).1
      simp only [Entity.documentMethod, Entity.shownSource, FileSystem.extract_congr sameFile]
    change Entity.ofOutline later.extract context outline = Entity.ofOutline files.extract context outline
    simp only [Entity.ofOutline, each]

/-- The range of a reported method cuts out its source, from its declaration on. Hence a documented
class shows the source of every method, own or inherited, as long as the files of the index read the
same when the sources are cut out. -/
theorem methods_show_their_source :
    (∀ {name path content : String} {outline : ClassOutline}, scan name path content = .ok outline →
      ∀ method ∈ outline.methods, 0 < method.first ∧ method.first ≤ method.last ∧
        ∃ line, (lines content.toList)[method.first - 1]? = some line ∧
          methodDeclaration? line = some method.name.toList ∧
          (splitAtChar '\n' (slice content method.first method.last).toList).length =
            method.last - method.first + 1 ∧
          (splitAtChar '\n' (slice content method.first method.last).toList).head? =
            some (trimStart line) ∧
          trimStart line ≠ []) ∧
    ∀ {files later : FileSystem} {index : SortedMap String} {context : CommentContext} {name : String}
      {entity : Entity}, (∀ path ∈ index.values, later.read path = files.read path) →
      Entity.document (reflect files index) later.extract context name = .ok entity →
      (∀ doc ∈ entity.methods, ∃ text, doc.source = some text) ∧
      ∃ outline, reflect files index name = .ok outline ∧ ∀ method ∈ outline.methods,
        ∃ doc ∈ entity.methods, doc.name = method.name ∧ doc.path = method.path ∧
          doc.first = method.first ∧ doc.last = method.last ∧
          ∃ content, files.read method.path = .ok content ∧
            doc.source = some (slice content method.first method.last) := by
  constructor
  · intro name path content outline found method member
    have fits := Scan.fits_of_scan found method member
    exact ⟨fits.positive, fits.ordered, fits.slice⟩
  · intro files later index context name entity unchanged documented
    obtain ⟨outline, found, documented⟩ := bind_eq_ok_iff.mp documented
    have listed := Entity.perm_methods_of_ofOutline documented
    have shown : ∀ method ∈ outline.methods, ∃ content, files.read method.path = .ok content ∧
        Entity.shownSource later.extract method = some (slice content method.first method.last) := by
      intro method member
      obtain ⟨indexed, content, read, fits⟩ := reflect_methods found method member
      have same := (unchanged _ indexed).trans read
      exact ⟨content, read, Entity.shownSource_extract same fits.slice_ne_empty⟩
    refine ⟨fun doc member => ?_, outline, found, fun method member => ?_⟩
    · obtain ⟨method, inOutline, atMethod⟩ := List.mem_map.mp (listed.mem_iff.mp (List.mem_map_of_mem member))
      obtain ⟨_, _, _, _, source⟩ := Entity.documentMethod_eq_ok atMethod
      obtain ⟨content, _, visible⟩ := shown method inOutline
      exact ⟨_, source.trans visible⟩
    · obtain ⟨doc, inEntity, atMethod⟩ := List.mem_map.mp (listed.mem_iff.mpr (List.mem_map_of_mem member))
      obtain ⟨named, path, first, last, source⟩ := Entity.documentMethod_eq_ok atMethod.symm
      obtain ⟨content, read, visible⟩ := shown method member
      exact ⟨doc, inEntity, named, path, first, last, content, read, source.trans visible⟩

/-- A class with one method. -/
def baseText : String :=
  "class Base \x7b\n\tfunction run()\n\t\x7b\n\t\x7d\n\x7d\n"

/-- The class, and another one that extends it. -/
def baseAndChild : FileSystem := ⟨[
  (["base.php"], .text baseText),
  (["child.php"], .text "class Child extends Base \x7b\n\tfunction go() \x7b\x7d\n\x7d\n")], []⟩

def baseAndChildIndex : SortedMap String :=
  ⟨[("base", "base.php"), ("child", "child.php")], by decide⟩

theorem methods_show_their_source_of_child :
    (∃ outline, scan "base" "base.php" baseText = .ok outline ∧
      ∃ method ∈ outline.methods, method.name = "run" ∧ method.first = 2 ∧ method.last = 4 ∧
        (splitAtChar '\n' (slice baseText method.first method.last).toList).length = 3) ∧
    ∃ entity, Entity.document (reflect baseAndChild baseAndChildIndex) baseAndChild.extract
        ⟨fun entity _ => entity, id, TagRules.standard⟩ "Child" = .ok entity ∧
      entity.methods.map (·.name) = ["go", "run"] ∧
      ∀ doc ∈ entity.methods, ∃ text, doc.source = some text := by
  have scanned : scan "base" "base.php" baseText =
      .ok ⟨"Base", "base.php", none, none, [⟨"run", "base.php", none, 2, 4⟩]⟩ :=
    eq_ok_of_toOption (by decide +kernel)
  have found : reflect baseAndChild baseAndChildIndex "Child" = .ok ⟨"Child", "child.php", none,
      some "Base", [⟨"go", "child.php", none, 2, 2⟩, ⟨"run", "base.php", none, 2, 4⟩]⟩ :=
    eq_ok_of_toOption (by decide +kernel)
  have each : List.mapM (Entity.documentMethod baseAndChild.extract
      ⟨fun entity _ => entity, id, TagRules.standard⟩)
      [⟨"go", "child.php", none, 2, 2⟩, ⟨"run", "base.php", none, 2, 4⟩] = .ok [
        ⟨"go", "", TagMap.empty, "child.php", 2, 2, some "function go() \x7b\x7d"⟩,
        ⟨"run", "", TagMap.empty, "base.php", 2, 4, some "function run()\n\x7b\n\x7d"⟩] :=
    eq_ok_of_toOption (by decide +kernel)
  have documented : Entity.document (reflect baseAndChild baseAndChildIndex) baseAndChild.extract
      ⟨fun entity _ => entity, id, TagRules.standard⟩ "Child" = .ok ⟨"Child", "", TagMap.empty, [
        ⟨"go", "", TagMap.empty, "child.php", 2, 2, some "function go() \x7b\x7d"⟩,
        ⟨"run", "", TagMap.empty, "base.php", 2, 4, some "function run()\n\x7b\n\x7d"⟩]⟩ := by
    refine bind_eq_ok_iff.mpr ⟨_, found, bind_eq_ok_iff.mpr ⟨_, rfl, bind_eq_ok_iff.mpr ⟨_, each, ?_⟩⟩⟩
    rw [List.mergeSort_of_pairwise (by decide)]
    rfl
  refine ⟨⟨_, scanned, _, List.mem_cons_self .., rfl, rfl, rfl, ?_⟩, _, documented, rfl, ?_⟩
  · obtain ⟨_, _, _, _, _, length, _⟩ := methods_show_their_source.1 scanned _ (List.mem_cons_self ..)
    exact length
  · exact (methods_show_their_source.2 (fun _ _ => rfl) documented).1

end ClassDocs
