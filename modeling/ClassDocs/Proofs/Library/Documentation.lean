import ClassDocs.Proofs.Library.Lookup
import ClassDocs.Proofs.Library.Sources
import ClassDocs.Proofs.Source.DocBlocks

namespace ClassDocs

/-- The doc blocks that the declarations of a class and of its methods take, each with its first and
its last line in its file and with its text. -/
inductive ClassOutline.HasBlock (files : FileSystem) (outline : ClassOutline) : Nat × Nat → String → Prop
  | ofClass {content : String} {declared : Nat} {block : Nat × Nat}
      (read : files.read outline.path = .ok content)
      (atClass : Scan.ClassAt outline.path (lines content.toList) declared)
      (pending : Scan.pendingBlock outline.path (lines content.toList) declared = some block) :
      HasBlock files outline block (Scan.blockText (lines content.toList) block)
  | ofMethod {method : MethodOutline} {content : String} {block : Nat × Nat}
      (member : method ∈ outline.methods) (read : files.read method.path = .ok content)
      (pending : Scan.pendingBlock method.path (lines content.toList) (method.first - 1) = some block) :
      HasBlock files outline block (Scan.blockText (lines content.toList) block)

section Found

variable {files : FileSystem} {index : SortedMap String} {name : String} {outline : ClassOutline}

theorem reflect_class_comment (found : reflect files index name = .ok outline) :
    outline.path ∈ index.values ∧ ∃ content declared, files.read outline.path = .ok content ∧
      Scan.ClassAt outline.path (lines content.toList) declared ∧
      outline.comment = (Scan.pendingBlock outline.path (lines content.toList) declared).map
        (Scan.blockText (lines content.toList)) := by
  obtain ⟨own, ⟨key, path, content, inIndex, read, scanned⟩, same⟩ := (reflect_origin found).1
  obtain ⟨atPath, declared, atClass, comment⟩ := Scan.class_comment_of_scan scanned
  have samePath : outline.path = path := by rw [same]; exact atPath
  have sameComment : outline.comment = own.comment := by rw [same]
  rw [samePath, sameComment]
  exact ⟨List.mem_map.mpr ⟨_, inIndex, rfl⟩, content, declared, read, atClass, comment⟩

theorem reflect_method_comment (found : reflect files index name = .ok outline) {method : MethodOutline}
    (member : method ∈ outline.methods) :
    method.path ∈ index.values ∧ ∃ content, files.read method.path = .ok content ∧
      method.comment = (Scan.pendingBlock method.path (lines content.toList) (method.first - 1)).map
        (Scan.blockText (lines content.toList)) := by
  obtain ⟨base, ⟨key, path, content, inIndex, read, scanned⟩, inBase⟩ := (reflect_origin found).2 method member
  have samePath := (Scan.fits_of_scan scanned method inBase).own
  rw [samePath]
  exact ⟨List.mem_map.mpr ⟨_, inIndex, rfl⟩, content, read, Scan.method_comment_of_scan scanned method inBase⟩

/-- The comments of a class that is found are the doc blocks in front of the declarations. -/
theorem mem_comments_iff_hasBlock (found : reflect files index name = .ok outline) {comment : String} :
    comment ∈ outline.comments ↔ ∃ block, outline.HasBlock files block comment := by
  obtain ⟨_, content, declared, read, atClass, ofClass⟩ := reflect_class_comment found
  rw [ClassOutline.mem_comments]
  constructor
  · rintro (own | ⟨method, member, own⟩)
    · rw [ofClass] at own
      obtain ⟨block, pending, rfl⟩ := Option.map_eq_some_iff.mp own
      exact ⟨block, .ofClass read atClass pending⟩
    · obtain ⟨_, text, atMethod, ofMethod⟩ := reflect_method_comment found member
      rw [ofMethod] at own
      obtain ⟨block, pending, rfl⟩ := Option.map_eq_some_iff.mp own
      exact ⟨block, .ofMethod member atMethod pending⟩
  · rintro ⟨block, attached⟩
    cases attached with
    | ofClass again otherClass pending =>
      cases Except.ok.inj (read.symm.trans again)
      cases atClass.unique otherClass
      exact Or.inl (by rw [ofClass, pending]; rfl)
    | ofMethod member atMethod pending =>
      obtain ⟨_, text, again, ofMethod⟩ := reflect_method_comment found member
      cases Except.ok.inj (atMethod.symm.trans again)
      exact Or.inr ⟨_, member, by rw [ofMethod, pending]; rfl⟩

theorem ClassOutline.HasBlock.oneLine_iff (found : reflect files index name = .ok outline)
    (noReturn : ∀ path ∈ index.values, ∀ content, files.read path = .ok content → '\r' ∉ content.toList)
    {block : Nat × Nat} {comment : String} (attached : outline.HasBlock files block comment) :
    OneLine comment.toList ↔ block.1 = block.2 := by
  cases attached with
  | ofClass read atClass pending =>
    have clean := noReturn _ (reflect_class_comment found).1 _ read
    exact Scan.oneLine_blockText_iff (fun line member => oneLine_of_mem_lines clean member) pending
  | ofMethod member read pending =>
    have clean := noReturn _ (reflect_method_comment found member).1 _ read
    exact Scan.oneLine_blockText_iff (fun line member => oneLine_of_mem_lines clean member) pending

end Found

namespace Entity

variable {reflector : Reflector} {read : SourceReader} {context : CommentContext} {name : String}

theorem document_succeeds_iff :
    (∃ entity, document reflector read context name = .ok entity) ↔
      ∃ outline, reflector name = .ok outline ∧ ∀ comment ∈ outline.comments, ¬ OneLine comment.toList := by
  constructor
  · rintro ⟨entity, documented⟩
    obtain ⟨outline, found, documented⟩ := bind_eq_ok_iff.mp documented
    exact ⟨outline, found, ofOutline_succeeds_iff.mp ⟨entity, documented⟩⟩
  · rintro ⟨outline, found, broken⟩
    obtain ⟨entity, documented⟩ := ofOutline_succeeds_iff.mpr broken
    exact ⟨entity, bind_eq_ok_iff.mpr ⟨outline, found, documented⟩⟩

theorem document_eq_error_iff {error : DocError} :
    document reflector read context name = .error error ↔
      reflector name = .error error ∨
        error = .malformedComment 1 ∧ ∃ outline, reflector name = .ok outline ∧
          ∃ comment ∈ outline.comments, OneLine comment.toList := by
  unfold document
  cases found : reflector name with
  | error other => simp [bind, Except.bind]
  | ok outline =>
    have fails := ofOutline_failsOnly read context outline
    have oneLine : (¬ ∃ entity, ofOutline read context outline = .ok entity) ↔
        ∃ comment ∈ outline.comments, OneLine comment.toList := by
      rw [ofOutline_succeeds_iff]
      simp
    constructor
    · intro failed
      cases fails error failed
      exact Or.inr ⟨rfl, outline, rfl, oneLine.mp (fails.eq_error_iff.mp failed)⟩
    · rintro (failed | ⟨rfl, _, ⟨⟩, single⟩)
      · cases failed
      · exact fails.eq_error_iff.mpr (oneLine.mpr single)

theorem document_malformed_iff {files : FileSystem} {index : SortedMap String} {count : Nat} :
    document (reflect files index) read context name = .error (.malformedComment count) ↔
      count = 1 ∧ ∃ outline, reflect files index name = .ok outline ∧
        ∃ block comment, outline.HasBlock files block comment ∧ OneLine comment.toList := by
  rw [document_eq_error_iff]
  constructor
  · rintro (failed | ⟨same, outline, found, comment, member, single⟩)
    · rcases reflect_eq_error failed with ⟨unknown, _⟩ | ⟨ofFile, _⟩
      · cases unknown
      · exact ofFile.elim
    · cases same
      obtain ⟨block, attached⟩ := (mem_comments_iff_hasBlock found).mp member
      exact ⟨rfl, outline, found, block, comment, attached, single⟩
  · rintro ⟨rfl, outline, found, block, comment, attached, single⟩
    exact Or.inr ⟨rfl, outline, found, comment, (mem_comments_iff_hasBlock found).mpr ⟨block, attached⟩, single⟩

/-- A class is documented exactly if it is found and none of its doc blocks is one line, whatever is
left of the sources of its methods; the methods then are those that were found, by name. The doc blocks
are those of the class files, where one line is what begins and ends on the same one. -/
theorem document_fails_on_one_line_blocks :
    (∀ (reflector : Reflector) (read : SourceReader) (context : CommentContext) (name : String),
      ((∃ entity, document reflector read context name = .ok entity) ↔
        ∃ outline, reflector name = .ok outline ∧
          ∀ comment ∈ outline.comments, '\n' ∈ comment.toList ∨ '\r' ∈ comment.toList) ∧
      (∀ error, document reflector read context name = .error error ↔
        reflector name = .error error ∨
          error = .malformedComment 1 ∧ ∃ outline, reflector name = .ok outline ∧
            ∃ comment ∈ outline.comments, '\n' ∉ comment.toList ∧ '\r' ∉ comment.toList) ∧
      ∀ entity, document reflector read context name = .ok entity →
        ∃ (outline : ClassOutline) (sorted : List MethodOutline), reflector name = .ok outline ∧ sorted.Perm outline.methods ∧
          sorted.Pairwise (fun first second => first.name ≤ second.name) ∧
          (∀ shared, sorted.filter (·.name == shared) = outline.methods.filter (·.name == shared)) ∧
          entity.methods.map .ok = sorted.map (documentMethod read context) ∧
          entity.methods.map (fun doc => (doc.name, doc.path, doc.first, doc.last)) =
            sorted.map fun method => (method.name, method.path, method.first, method.last)) ∧
    ∀ (files : FileSystem) (index : SortedMap String),
      (∀ path ∈ index.values, ∀ content, files.read path = .ok content → '\r' ∉ content.toList) →
      ∀ (read : SourceReader) (context : CommentContext) (name : String) (count : Nat),
        document (reflect files index) read context name = .error (.malformedComment count) ↔
          count = 1 ∧ ∃ outline, reflect files index name = .ok outline ∧
            ∃ line comment, outline.HasBlock files (line, line) comment := by
  refine ⟨fun reflector read context name => ⟨?_, fun error => ?_, fun entity documented => ?_⟩, ?_⟩
  · simpa only [not_oneLine_iff] using document_succeeds_iff
  · simpa only [oneLine_iff] using document_eq_error_iff
  · obtain ⟨outline, found, documented⟩ := bind_eq_ok_iff.mp documented
    have each := methods_of_ofOutline documented
    exact ⟨outline, sortedMethods outline, found, perm_sortedMethods outline, pairwise_sortedMethods outline,
      filter_sortedMethods outline, each, ranges_of_documented each⟩
  · intro files index noReturn read context name count
    rw [document_malformed_iff]
    refine and_congr_right fun _ => exists_congr fun outline => and_congr_right fun found => ?_
    constructor
    · rintro ⟨⟨first, last⟩, comment, attached, single⟩
      cases (attached.oneLine_iff found noReturn).mp single
      exact ⟨first, comment, attached⟩
    · rintro ⟨line, comment, attached⟩
      exact ⟨(line, line), comment, attached, (attached.oneLine_iff found noReturn).mpr rfl⟩

/-- A class with a method whose doc block is one line. -/
def oneLineText : String :=
  "class Worker \x7b\n\t/** Runs. */\n\tfunction run() \x7b\x7d\n\x7d\n"

/-- The class, and another one that inherits the method. -/
def oneLineBlock : FileSystem := ⟨[
  (["worker.php"], .text oneLineText),
  (["clerk.php"], .text "/**\n * A clerk.\n */\nclass Clerk extends Worker \x7b\n\x7d\n")], []⟩

def oneLineIndex : SortedMap String :=
  ⟨[("clerk", "clerk.php"), ("worker", "worker.php")], by decide⟩

/-- A class with two methods, and no file for their source. -/
def twoMethods : ClassOutline :=
  ⟨"A", "", some "/**\r */", none, [⟨"g", "a.php", none, 5, 7⟩, ⟨"f", "b.php", none, 2, 2⟩]⟩

theorem document_fails_on_one_line_blocks_of_inherited :
    document (reflect oneLineBlock oneLineIndex) oneLineBlock.extract
        ⟨fun entity _ => entity, id, TagRules.standard⟩ "Clerk" = .error (.malformedComment 1) ∧
    ∃ entity, document (fun _ => .ok twoMethods) FileSystem.empty.extract
        ⟨fun entity _ => entity, id, TagRules.standard⟩ "A" = .ok entity ∧
      (entity.methods.map fun doc => (doc.name, doc.path, doc.first, doc.last)).Perm
        [("g", "a.php", 5, 7), ("f", "b.php", 2, 2)] := by
  constructor
  · have noReturn : ∀ path ∈ oneLineIndex.values, ∀ content, oneLineBlock.read path = .ok content →
        '\r' ∉ content.toList := by
      have checked : ∀ path ∈ oneLineIndex.values,
          ∀ content ∈ (oneLineBlock.read path).toOption, '\r' ∉ content.toList := by decide +kernel
      intro path member content read
      exact checked path member content (by rw [read]; rfl)
    have found : reflect oneLineBlock oneLineIndex "Clerk" = .ok ⟨"Clerk", "clerk.php",
        some "/**\n * A clerk.\n */", some "Worker", [⟨"run", "worker.php", some "/** Runs. */", 3, 3⟩]⟩ :=
      eq_ok_of_toOption (by decide +kernel)
    have read : oneLineBlock.read "worker.php" = .ok oneLineText := eq_ok_of_toOption (by decide +kernel)
    have pending : Scan.pendingBlock "worker.php" (lines oneLineText.toList) 2 = some (2, 2) := by decide +kernel
    exact (document_fails_on_one_line_blocks.2 _ _ noReturn _ _ _ _).mpr
      ⟨rfl, _, found, 2, _, .ofMethod (List.mem_singleton_self _) read pending⟩
  · have general := document_fails_on_one_line_blocks.1 (fun _ => .ok twoMethods) FileSystem.empty.extract
      ⟨fun entity _ => entity, id, TagRules.standard⟩ "A"
    obtain ⟨entity, documented⟩ := general.1.mpr ⟨twoMethods, rfl, by decide⟩
    obtain ⟨outline, sorted, found, perm, _, _, _, ranges⟩ := general.2.2 entity documented
    cases found
    exact ⟨entity, documented, ranges ▸ perm.map _⟩

end Entity

end ClassDocs
