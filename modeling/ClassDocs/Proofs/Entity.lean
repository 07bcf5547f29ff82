import ClassDocs.Entity
import ClassDocs.Proofs.Except
import ClassDocs.Proofs.Sorting
import ClassDocs.Proofs.Text.Lines

namespace ClassDocs

/-- The doc blocks of a class: its own, if it has one, and then those of its methods. -/
def ClassOutline.comments (outline : ClassOutline) : List String :=
  outline.comment.toList ++ outline.methods.filterMap (·.comment)

theorem ClassOutline.mem_comments {outline : ClassOutline} {comment : String} :
    comment ∈ outline.comments ↔
      outline.comment = some comment ∨ ∃ method ∈ outline.methods, method.comment = some comment := by
  simp [ClassOutline.comments]

theorem mem_unifyBreaks {text : List Char} (broken : '\n' ∈ text ∨ '\r' ∈ text) : '\n' ∈ unifyBreaks text := by
  fun_induction unifyBreaks text with
  | case1 => simp at broken
  | case2 | case3 => exact List.mem_cons_self ..
  | case4 c rest _ noReturn ih =>
    by_cases feed : c = '\n'
    · rw [feed]
      exact List.mem_cons_self ..
    · refine List.mem_cons_of_mem c (ih ?_)
      simpa [Ne.symm feed, Ne.symm noReturn] using broken

namespace Comment

theorem parse_of_oneLine (context : CommentContext) {comment : String} (single : OneLine comment.toList) :
    parse context comment = .error (.malformedComment 1) := by
  obtain ⟨noFeed, noReturn⟩ := oneLine_iff.mp single
  simp [parse, unifyBreaks_of_not_mem noReturn, splitAtChar_of_not_mem noFeed]

theorem parse_of_broken (context : CommentContext) {comment : String} (broken : ¬ OneLine comment.toList) :
    ∃ doc, parse context comment = .ok doc := by
  obtain ⟨first, rest, parts⟩ := List.append_of_mem (mem_unifyBreaks (not_oneLine_iff.mp broken))
  have one := List.length_pos_iff.mpr (splitAtChar_ne_nil '\n' first)
  have another := List.length_pos_iff.mpr (splitAtChar_ne_nil '\n' rest)
  have several : ¬ (splitAtChar '\n' (unifyBreaks comment.toList)).length < 2 := by
    rw [parts, splitAtChar_append_separator, List.length_append]
    omega
  unfold parse
  dsimp only
  rw [if_neg several]
  exact ⟨_, rfl⟩

theorem parse?_succeeds_iff (context : CommentContext) (comment : Option String) :
    (∃ doc, parse? context comment = .ok doc) ↔ ∀ text ∈ comment, ¬ OneLine text.toList := by
  cases comment with
  | none => exact iff_of_true ⟨_, rfl⟩ (by simp)
  | some text =>
    constructor
    · rintro ⟨doc, read⟩ _ ⟨⟩ single
      cases (parse_of_oneLine context single).symm.trans read
    · intro broken
      exact parse_of_broken context (broken text rfl)

theorem parse?_fails_malformed (context : CommentContext) (comment : Option String) :
    FailsOnly (· = .malformedComment 1) (parse? context comment) := by
  cases comment with
  | none => exact .ok _
  | some text =>
    intro error failed
    by_cases single : OneLine text.toList
    · exact Except.error.inj (failed.symm.trans (parse_of_oneLine context single))
    · obtain ⟨doc, read⟩ := parse_of_broken context single
      cases read.symm.trans failed

end Comment

namespace Entity

variable {read : SourceReader} {context : CommentContext}

theorem documentMethod_eq_ok {method : MethodOutline} {doc : MethodDoc}
    (documented : documentMethod read context method = .ok doc) :
    doc.name = method.name ∧ doc.path = method.path ∧ doc.first = method.first ∧
      doc.last = method.last ∧ doc.source = shownSource read method := by
  obtain ⟨comment, _, documented⟩ := bind_eq_ok_iff.mp documented
  cases documented
  exact ⟨rfl, rfl, rfl, rfl, rfl⟩

/-- The source of a method has no part in whether it can be documented. -/
theorem documentMethod_succeeds_iff {method : MethodOutline} :
    (∃ doc, documentMethod read context method = .ok doc) ↔
      ∀ comment ∈ method.comment, ¬ OneLine comment.toList := by
  rw [← Comment.parse?_succeeds_iff context]
  constructor
  · rintro ⟨doc, documented⟩
    obtain ⟨parsed, done, _⟩ := bind_eq_ok_iff.mp documented
    exact ⟨parsed, done⟩
  · rintro ⟨parsed, done⟩
    exact ⟨_, bind_eq_ok_iff.mpr ⟨parsed, done, rfl⟩⟩

theorem ofOutline_succeeds_iff {outline : ClassOutline} :
    (∃ entity, ofOutline read context outline = .ok entity) ↔
      ∀ comment ∈ outline.comments, ¬ OneLine comment.toList := by
  constructor
  · rintro ⟨entity, documented⟩ comment member
    obtain ⟨parsed, own, documented⟩ := bind_eq_ok_iff.mp documented
    obtain ⟨docs, each, _⟩ := bind_eq_ok_iff.mp documented
    rcases ClassOutline.mem_comments.mp member with ofClass | ⟨method, declared, ofMethod⟩
    · exact (Comment.parse?_succeeds_iff context _).mp ⟨parsed, own⟩ comment ofClass
    · exact documentMethod_succeeds_iff.mp (mapM_succeeds_iff.mp ⟨docs, each⟩ method declared) comment ofMethod
  · intro broken
    obtain ⟨parsed, own⟩ := (Comment.parse?_succeeds_iff context outline.comment).mpr fun comment ofClass =>
      broken comment (ClassOutline.mem_comments.mpr (Or.inl ofClass))
    obtain ⟨docs, each⟩ := mapM_succeeds_iff.mpr fun method declared =>
      documentMethod_succeeds_iff.mpr fun comment ofMethod =>
        broken comment (ClassOutline.mem_comments.mpr (Or.inr ⟨method, declared, ofMethod⟩))
    exact ⟨_, bind_eq_ok_iff.mpr ⟨parsed, own, bind_eq_ok_iff.mpr ⟨docs, each, rfl⟩⟩⟩

theorem ofOutline_failsOnly (read : SourceReader) (context : CommentContext) (outline : ClassOutline) :
    FailsOnly (· = .malformedComment 1) (ofOutline read context outline) :=
  (Comment.parse?_fails_malformed context outline.comment).bind fun _ =>
    (FailsOnly.mapM fun method _ =>
      (Comment.parse?_fails_malformed context method.comment).bind fun _ => .ok _).bind fun _ => .ok _

/-- The order of a page, for methods some of which could not be documented. -/
def inOrder : Except DocError MethodDoc → Except DocError MethodDoc → Bool
  | .ok first, .ok second => decide (first.name ≤ second.name)
  | _, _ => true

/-- The methods of an outline in the order of the page. -/
def sortedMethods (outline : ClassOutline) : List MethodOutline :=
  outline.methods.mergeSort fun first second => decide (first.name ≤ second.name)

/-- It makes no difference whether methods are documented before or after they are sorted. -/
theorem methods_of_ofOutline {outline : ClassOutline} {entity : Entity}
    (documented : ofOutline read context outline = .ok entity) :
    entity.methods.map .ok = (sortedMethods outline).map (documentMethod read context) := by
  obtain ⟨comment, _, documented⟩ := bind_eq_ok_iff.mp documented
  obtain ⟨docs, each, documented⟩ := bind_eq_ok_iff.mp documented
  cases documented
  have named : ∀ first ∈ outline.methods, ∀ second ∈ outline.methods,
      decide (first.name ≤ second.name) =
        inOrder (documentMethod read context first) (documentMethod read context second) := by
    intro first inFirst second inSecond
    obtain ⟨doc, atFirst⟩ := mapM_succeeds_iff.mp ⟨docs, each⟩ first inFirst
    obtain ⟨other, atSecond⟩ := mapM_succeeds_iff.mp ⟨docs, each⟩ second inSecond
    rw [atFirst, atSecond, inOrder, (documentMethod_eq_ok atFirst).1, (documentMethod_eq_ok atSecond).1]
  rw [sortedMethods, List.map_mergeSort named, mapM_eq_ok_iff.mp each]
  exact List.map_mergeSort fun _ _ _ _ => rfl

theorem ranges_of_documented {docs : List MethodDoc} {methods : List MethodOutline}
    (each : docs.map .ok = methods.map (documentMethod read context)) :
    docs.map (fun doc => (doc.name, doc.path, doc.first, doc.last)) =
      methods.map fun method => (method.name, method.path, method.first, method.last) := by
  induction docs generalizing methods with
  | nil =>
    cases methods with
    | nil => rfl
    | cons method methods => cases each
  | cons doc docs ih =>
    cases methods with
    | nil => cases each
    | cons method methods =>
      obtain ⟨here, later⟩ := List.cons.inj each
      obtain ⟨named, path, first, last, _⟩ := documentMethod_eq_ok here.symm
      rw [List.map_cons, List.map_cons, ih later, named, path, first, last]

theorem stablySorted_methods (outline : ClassOutline) :
    StablySorted (·.name) outline.methods (sortedMethods outline) :=
  stablySorted_mergeSort _ _

theorem perm_sortedMethods (outline : ClassOutline) : (sortedMethods outline).Perm outline.methods :=
  (stablySorted_methods outline).perm

theorem pairwise_sortedMethods (outline : ClassOutline) :
    (sortedMethods outline).Pairwise fun first second => first.name ≤ second.name :=
  (stablySorted_methods outline).ascending

/-- Methods of one name keep the order in which they were found. -/
theorem filter_sortedMethods (outline : ClassOutline) (name : String) :
    (sortedMethods outline).filter (·.name == name) = outline.methods.filter (·.name == name) :=
  (stablySorted_methods outline).stable name

/-- A documented class has one entry for each method of its outline. -/
theorem perm_methods_of_ofOutline {outline : ClassOutline} {entity : Entity}
    (documented : ofOutline read context outline = .ok entity) :
    (entity.methods.map .ok).Perm (outline.methods.map (documentMethod read context)) := by
  rw [methods_of_ofOutline documented]
  exact (perm_sortedMethods outline).map _

end Entity

end ClassDocs
