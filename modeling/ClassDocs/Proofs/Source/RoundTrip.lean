import ClassDocs.Proofs.Source.ClassText
import ClassDocs.Proofs.Source.ScanRun

namespace ClassDocs

namespace Scan

/-- A line is code if it does not begin with a slash. -/
theorem State.atCode_of_trimStart {state : State} {line rest : List Char} {c : Char}
    (place : state.place = .between) (outside : state.inBlock = false)
    (starts : trimStart line = c :: rest) (noSlash : c ≠ '/') : state.AtCode line := by
  obtain ⟨more, trimmed⟩ := trim_eq_cons starts
  refine ⟨place, outside, ?_, by simp [trimmed]⟩
  rw [trimmed]
  refine Bool.eq_false_iff.mpr fun doc => noSlash ?_
  exact (List.cons_prefix_cons.mp (List.isPrefixOf_iff_prefix.mp doc)).1.symm

theorem trimStart_of_methodDeclaration? {line name : List Char}
    (declared : methodDeclaration? line = some name) : ∃ c rest, trimStart line = c :: rest ∧ c ≠ '/' := by
  cases starts : trimStart line with
  | nil =>
    have skipped : skipModifiers methodModifiers [] = [] := skipModifiers_eq_self rfl
    rw [methodDeclaration?, starts, skipped] at declared
    cases declared
  | cons c rest =>
    refine ⟨c, rest, rfl, ?_⟩
    rintro rfl
    have skipped : skipModifiers methodModifiers ('/' :: rest) = '/' :: rest := skipModifiers_eq_self rfl
    rw [methodDeclaration?, starts, skipped] at declared
    cases declared

theorem State.AtCode.step_eq {state : State} {line : List Char} (code : state.AtCode line) (path : String)
    (number : Nat) : state.step path number line = state.readCode path number line := by
  simp [State.step, code.between, code.outside, code.noDoc, code.visible]

theorem State.ReadsMethod.step_eq {state : State} {line name : List Char}
    (reads : state.ReadsMethod line name) (path : String) (number : Nat) :
    state.step path number line = state.declareMethod path name number line (lineBraces false line) := by
  obtain ⟨outline, found⟩ := Option.isSome_iff_exists.mp reads.known
  rw [reads.toAtCode.step_eq]
  simp [State.readCode, reads.outside, found, reads.inside, reads.declared]

/-- The lines inside a doc block are kept until one closes it. -/
theorem run_docBlock {path : String} {state : State} {text : List (List Char)}
    (unclosed : ∀ line ∈ text, ¬ ['*', '/'] <:+: line) (number : Nat) {before : List (List Char)}
    (place : state.place = .docBlock before) :
    run path state number text = { state with place := .docBlock (text.reverse ++ before) } := by
  induction text generalizing state number before with
  | nil => rw [run, List.reverse_nil, List.nil_append, ← place]
  | cons line text ih =>
    have opened : closesBlock line = false :=
      Bool.eq_false_iff.mpr fun closed => unclosed line (List.mem_cons_self ..) (occursIn_iff.mp closed)
    have step : state.step path number line = { state with place := .docBlock (line :: before) } := by
      simp [State.step, place, State.continueDoc, opened]
    rw [run, step, ih (fun other member => unclosed other (List.mem_cons_of_mem _ member)) _ rfl]
    simp

/-- A printed doc block becomes the pending one. -/
theorem run_doc {path : String} {state : State} (place : state.place = .between)
    (outside : state.inBlock = false) (doc : DocText) (number : Nat) :
    run path state number doc.print = { state with pending := some doc.comment } := by
  obtain ⟨found, classDepth, depth, pending, _, _⟩ := state
  subst place outside
  have opens : State.step path ⟨found, classDepth, depth, pending, .between, false⟩ number ['/', '*', '*'] =
      ⟨found, classDepth, depth, pending, .docBlock [['/', '*', '*']], false⟩ := rfl
  have closes : ∀ before number, State.step path ⟨found, classDepth, depth, pending, .docBlock before, false⟩
      number [' ', '*', '/'] = ⟨found, classDepth, depth,
        some (String.ofList (joinLines ([' ', '*', '/'] :: before).reverse)), .between, false⟩ :=
    fun _ _ => rfl
  rw [DocText.print, run, opens, run_append, run_docBlock doc.unclosed _ rfl, run, run, closes]
  simp [DocText.comment, DocText.print]

/-- Lines whose braces balance leave a method open that they stand in. -/
theorem run_body {path : String} {state : State} {text : List (List Char)} {depth base top : Int}
    {method : MethodOutline} (balanced : Balanced depth state.inBlock text) (number : Nat)
    (place : state.place = .method method base true) (deeper : base < top)
    (nesting : state.depth = top + depth) :
    run path state number text = { state with depth := top, inBlock := false } := by
  induction text generalizing state number depth with
  | nil =>
    obtain ⟨zero, outside⟩ := balanced
    rw [zero, Int.add_zero] at nesting
    rw [run, ← nesting, ← outside]
  | cons line text ih =>
    obtain ⟨above, rest⟩ := balanced
    have step : state.step path number line = state.advance (lineBraces state.inBlock line) := by
      have inside : ¬ state.depth + (lineBraces state.inBlock line).net ≤ base := by omega
      simp [State.step, place, State.continueMethod, State.settleMethod, State.advance, inside]
    have nested : (state.advance (lineBraces state.inBlock line)).depth =
        top + (depth + (lineBraces state.inBlock line).net) := by
      rw [State.advance_depth, nesting, Int.add_assoc]
    have inner : Balanced (depth + (lineBraces state.inBlock line).net)
        (state.advance (lineBraces state.inBlock line)).inBlock text := rest
    rw [run, step, ih inner _ place nested]
    rfl

/-- What is known in the body of a class between its methods. -/
def State.inClass (outline : ClassOutline) (pending : Option String) : State :=
  ⟨some outline, 0, 1, pending, .between, false⟩

theorem run_docLines (path : String) (outline : ClassOutline) (number : Nat) (method : MethodText) :
    run path (.inClass outline none) number method.docLines =
      .inClass outline (method.doc.map DocText.comment) := by
  unfold MethodText.docLines
  cases method.doc with
  | none => rfl
  | some doc => exact run_doc rfl rfl doc number

theorem readsMethod_declaration (outline : ClassOutline) (pending : Option String) (method : MethodText)
    (ending : List Char) :
    (State.inClass outline pending).ReadsMethod (method.declaration ++ ending) method.name.letters := by
  have declared := method.methodDeclaration?_declaration ending
  obtain ⟨c, rest, starts, noSlash⟩ := trimStart_of_methodDeclaration? declared
  exact ⟨State.atCode_of_trimStart rfl rfl starts noSlash, rfl, rfl, declared⟩

/-- What is known inside a method of the class, at a nesting. -/
def State.inMethod (outline : ClassOutline) (method : MethodOutline) (depth : Int) (opened : Bool) : State :=
  ⟨some outline, 0, depth, none, .method method 1 opened, false⟩

theorem step_bodiless (path : String) (outline : ClassOutline) (pending : Option String) (number : Nat)
    (method : MethodText) :
    State.step path (.inClass outline pending) number (method.declaration ++ [';']) =
      .inClass { outline with methods := outline.methods ++
        [(State.inClass outline pending).outlineAt path method.name.letters number] } none := by
  have reads := readsMethod_declaration outline pending method [';']
  have braces := (method.declaration_plainCode.append (show PlainCode [';'] by decide)).lineBraces
  have semicolon : (trim (method.declaration ++ [';'])).getLast? = some ';' := by
    rw [trim_append_singleton (by rfl), List.getLast?_concat]
  rw [reads.step_eq, braces]
  simp [State.declareMethod, semicolon, State.addMethod, State.inClass, State.outlineAt, LineBraces.net]

theorem step_declaration (path : String) (outline : ClassOutline) (pending : Option String) (number : Nat)
    (method : MethodText) :
    State.step path (.inClass outline pending) number method.declaration =
      .inMethod outline ((State.inClass outline pending).outlineAt path method.name.letters number) 1 false := by
  have reads := readsMethod_declaration outline pending method []
  rw [List.append_nil] at reads
  rw [reads.step_eq, method.declaration_plainCode.lineBraces]
  simp [State.declareMethod, method.getLast?_trim_declaration, State.settleMethod, State.inClass,
    State.inMethod, State.outlineAt, LineBraces.net]

/-- A braced body completes the method in front of it, on the line of its closing brace. -/
theorem run_braced (path : String) (outline : ClassOutline) (method : MethodOutline) (number : Nat)
    (body : BodyText) :
    run path (.inMethod outline method 1 false) number (['\t', '\x7b'] :: (body.inner ++ [['\t', '\x7d']])) =
      .inClass { outline with methods := outline.methods ++
        [{ method with last := number + 1 + body.inner.length }] } none := by
  have opens : State.step path (.inMethod outline method 1 false) number ['\t', '\x7b'] =
      .inMethod outline method 2 true := rfl
  have inner : run path (.inMethod outline method 2 true) (number + 1) body.inner =
      .inMethod outline method 2 true := run_body body.balanced _ rfl (by decide) rfl
  have closes : ∀ last, State.step path (.inMethod outline method 2 true) last ['\t', '\x7d'] =
      .inClass { outline with methods := outline.methods ++ [{ method with last := last }] } none :=
    fun _ => rfl
  rw [run, opens, run_append, inner, run, run, closes]

/-- The printed code of a method adds it to the class, with the doc block that was pending. -/
theorem run_code (path : String) (outline : ClassOutline) (pending : Option String) (number : Nat)
    (method : MethodText) :
    run path (.inClass outline pending) number method.code =
      .inClass { outline with methods := outline.methods ++
        [{ (State.inClass outline pending).outlineAt path method.name.letters number with
          last := number + (method.code.length - 1) }] } none := by
  unfold MethodText.code
  cases method.body with
  | none =>
    rw [run, run, step_bodiless]
    rfl
  | some body =>
    have last : number + 1 + 1 + body.inner.length = number + (body.inner.length + 2) := by omega
    rw [run, step_declaration, run_braced, last]
    simp

theorem run_methods (path : String) (outline : ClassOutline) (number : Nat) (methods : List MethodText) :
    run path (.inClass outline none) number (methods.flatMap MethodText.print) =
      .inClass { outline with
        methods := outline.methods ++ MethodText.outlines path number methods } none := by
  induction methods generalizing outline number with
  | nil => simp [run, MethodText.outlines]
  | cons method methods ih =>
    rw [List.flatMap_cons, run_append, MethodText.print, run_append, run_docLines, run_code,
      ← MethodText.print, ih, MethodText.outlines, List.append_assoc]
    rfl

/-- The heading of a class is read with the doc block in front of it, and opens the body. -/
theorem step_heading (path : String) (written : ClassText) (pending : Option String) (number : Nat) :
    State.step path ⟨none, 0, 0, pending, .between, false⟩ number written.heading =
      .inClass {
        name := String.ofList written.name.letters
        path := path
        comment := pending
        parent := written.parent.map fun parent => String.ofList parent.letters
        methods := [] } none := by
  have code : State.AtCode ⟨none, 0, 0, pending, .between, false⟩ written.heading :=
    State.atCode_of_trimStart rfl rfl (by rfl) (show 'c' ≠ '/' by decide)
  rw [code.step_eq]
  simp [State.readCode, written.classDeclaration?_heading, written.lineBraces_heading, State.declareClass,
    State.passLine, State.inClass, LineBraces.net, Function.comp_def]

theorem step_opening (path : String) (number : Nat) : State.step path {} number "<?php".toList = {} := by
  have code : State.AtCode {} "<?php".toList :=
    State.atCode_of_trimStart rfl rfl (by rfl) (show '<' ≠ '/' by decide)
  have undeclared : classDeclaration? "<?php".toList = none := by decide +kernel
  rw [code.step_eq]
  simp only [State.readCode, undeclared]
  rfl

theorem step_closing (path : String) (outline : ClassOutline) (number : Nat) :
    State.step path (.inClass outline none) number ['\x7d'] =
      { State.inClass outline none with depth := 0 } := by
  have code : State.AtCode (.inClass outline none) ['\x7d'] :=
    State.atCode_of_trimStart rfl rfl (by rfl) (show '\x7d' ≠ '/' by decide)
  have undeclared : methodDeclaration? ['\x7d'] = none := by decide +kernel
  rw [code.step_eq]
  simp only [State.readCode, undeclared]
  rfl

theorem run_print (path : String) (written : ClassText) :
    run path {} 1 written.print = { State.inClass (written.outline path) none with depth := 0 } := by
  have doc : run path {} 2 written.docLines =
      ⟨none, 0, 0, written.doc.map DocText.comment, .between, false⟩ := by
    unfold ClassText.docLines
    cases written.doc with
    | none => rfl
    | some doc => exact run_doc rfl rfl doc 2
  have number : 2 + written.docLines.length + 1 = written.docLines.length + 3 := by omega
  rw [ClassText.print, run, step_opening, run_append, doc, run, step_heading, number, run_append,
    run_methods, run, run, step_closing]
  rfl

end Scan

theorem ClassText.lines_source (written : ClassText) (ended : Bool) :
    lines (written.source ended).toList = written.print := by
  have single : ∀ line ∈ "<?php".toList :: (written.docLines ++ written.heading ::
      written.methods.flatMap MethodText.print), OneLine line := by
    intro line member
    simp only [List.mem_cons, List.mem_append, List.mem_flatMap] at member
    rcases member with rfl | inDoc | rfl | ⟨method, _, inside⟩
    · decide
    · exact docLines_oneLine written.doc line inDoc
    · exact written.heading_oneLine
    · rcases List.mem_append.mp inside with inDoc | inCode
      · exact docLines_oneLine method.doc line inDoc
      · exact method.code_oneLine line inCode
  have shape : written.print = ("<?php".toList :: (written.docLines ++ written.heading ::
      written.methods.flatMap MethodText.print)) ++ [['\x7d']] := by
    simp [ClassText.print]
  rw [ClassText.source, String.toList_ofList, shape]
  exact lines_joinLines_append single (by decide) (by decide) ended

/-- Scanning undoes printing: of every class that can be written the scanner reports the name, the
parent, the doc block and the methods, each with its own doc block and its own lines. -/
theorem scan_source (written : ClassText) (ended : Bool) (name path : String) :
    scan name path (written.source ended) = .ok (written.outline path) := by
  rw [scan, written.lines_source, Scan.run_print]
  rfl

end ClassDocs
