import ClassDocs.Proofs.Comment.TagLine

namespace ClassDocs

namespace Comment

/-- A line of prose as it can be written into a comment. An at sign in front of it stands alone or
before white space, since a name directly after it would make the line a tag. -/
structure ProseText where
  text : List Char
  single : OneLine text
  noTag : ∀ c rest, text = '@' :: c :: rest → isBlank c = true

/-- A tag as it can be written into a comment, with the white space that parts name and text. -/
structure TagText where
  name : List Char
  gap : List Char
  text : List Char
  named : name ≠ []
  solid : ∀ c ∈ name, isBlank c = false
  blank : ∀ c ∈ gap, isBlank c = true
  gapSingle : OneLine gap
  single : OneLine text
  flush : ∀ c rest, text = c :: rest → isBlank c = false
  parted : text ≠ [] → gap ≠ []

/-- What one line inside a written comment holds. -/
inductive Entry where
  | prose (line : ProseText)
  | tag (line : TagText)

/-- The line of an entry, with the marker in front. -/
def Entry.print : Entry → List Char
  | .prose line => ' ' :: '*' :: ' ' :: line.text
  | .tag line => ' ' :: '*' :: ' ' :: '@' :: (line.name ++ (line.gap ++ line.text))

/-- The comment block of some entries, between its two delimiter lines. -/
def print (entries : List Entry) : String :=
  String.ofList (joinLines (['/', '*', '*'] :: (entries.map Entry.print ++ [[' ', '*', '/']])))

/-- Entries that hold the given prose and the given tags, each in its own order and mixed in any
way. A tag counts as its name and text; how wide the gap between them is written is left open. -/
inductive Interleaving : List (List Char) → List (List Char × List Char) → List Entry → Prop
  | done : Interleaving [] [] []
  | prose {body tags entries} (line : ProseText) :
      Interleaving body tags entries → Interleaving (line.text :: body) tags (.prose line :: entries)
  | tag {body tags entries} (line : TagText) :
      Interleaving body tags entries →
      Interleaving body ((line.name, line.text) :: tags) (.tag line :: entries)

theorem stripMarker_marked (rest : List Char) : stripMarker (' ' :: '*' :: ' ' :: rest) = rest := rfl

theorem ProseText.splitTag?_eq_none (line : ProseText) : splitTag? line.text = none := by
  unfold splitTag?
  split
  · rename_i rest same
    have nameless : rest.takeWhile (fun c => !isBlank c) = [] := by
      cases rest with
      | nil => rfl
      | cons c rest => exact List.takeWhile_cons_of_neg (by simp [line.noTag c rest same])
    simp [nameless]
  · rfl

theorem TagText.tagLine (line : TagText) :
    TagLine ('@' :: (line.name ++ (line.gap ++ line.text))) line.name line.gap line.text where
  whole := rfl
  named := line.named
  solid := line.solid
  blank := line.blank
  single := fun feed => (line.single _ feed).1 rfl
  flush := line.flush
  parted := fun none => Classical.byContradiction fun some => line.parted some none

/-- What reading makes of a printed entry. -/
def Entry.line : Entry → Line
  | .prose line => .prose line.text
  | .tag line => .tag (String.ofList line.name) (String.ofList line.text)

theorem Entry.read_print (entry : Entry) : Line.read entry.print = entry.line := by
  cases entry with
  | prose line => simp only [Line.read, Entry.print, stripMarker_marked, line.splitTag?_eq_none, Entry.line]
  | tag line => simp only [Line.read, Entry.print, stripMarker_marked, line.tagLine.splitTag?_eq, Entry.line]

theorem TagText.name_oneLine (line : TagText) : OneLine line.name := by
  intro c member
  have solid := line.solid c member
  constructor
  · rintro rfl
    exact absurd solid (by decide)
  · rintro rfl
    exact absurd solid (by decide)

theorem Entry.print_oneLine (entry : Entry) : OneLine entry.print := by
  have marker : OneLine [' ', '*', ' '] := by decide
  cases entry with
  | prose line => exact marker.append line.single
  | tag line =>
    have marked : OneLine [' ', '*', ' ', '@'] := by decide
    exact marked.append (line.name_oneLine.append (line.gapSingle.append line.single))

/-- Reading the lines inside a printed comment gives its entries. -/
theorem lines_print (entries : List Entry) :
    splitAtChar '\n' (unifyBreaks (print entries).toList) =
      ['/', '*', '*'] :: (entries.map Entry.print ++ [[' ', '*', '/']]) := by
  have single : ∀ line ∈ ['/', '*', '*'] :: (entries.map Entry.print ++ [[' ', '*', '/']]),
      OneLine line := by
    intro line member
    rcases List.mem_cons.mp member with rfl | member
    · decide
    rcases List.mem_append.mp member with inside | last
    · obtain ⟨entry, _, rfl⟩ := List.mem_map.mp inside
      exact entry.print_oneLine
    · rw [List.mem_singleton.mp last]
      decide
  have noReturn := not_mem_joinLines (c := '\r') (by decide) fun line member found =>
    (single line member _ found).2 rfl
  rw [print, String.toList_ofList, unifyBreaks_of_not_mem noReturn]
  exact splitAtChar_joinLines (by simp) single

theorem Interleaving.prose_lines {body : List (List Char)} {tags : List (List Char × List Char)}
    {entries : List Entry} (mixed : Interleaving body tags entries) :
    (entries.map Entry.line).filterMap Line.prose? = body := by
  induction mixed with
  | done => rfl
  | prose line _ ih =>
    have kept : (Entry.prose line).line.prose? = some line.text := rfl
    rw [List.map_cons, List.filterMap_cons_some kept, ih]
  | tag line _ ih => rw [List.map_cons, List.filterMap_cons_none rfl, ih]

theorem Interleaving.tag_lines {body : List (List Char)} {tags : List (List Char × List Char)}
    {entries : List Entry} (mixed : Interleaving body tags entries) (context : CommentContext) :
    (entries.map Entry.line).filterMap (Line.tag? context) =
      tags.map fun tag => (String.ofList tag.1,
        context.rules.apply context.resolve (String.ofList tag.1) (String.ofList tag.2)) := by
  induction mixed with
  | done => rfl
  | prose line _ ih => rw [List.map_cons, List.filterMap_cons_none rfl, ih]
  | tag line _ ih =>
    have kept : (Entry.tag line).line.tag? context = some (String.ofList line.name,
        context.rules.apply context.resolve (String.ofList line.name) (String.ofList line.text)) := rfl
    rw [List.map_cons, List.filterMap_cons_some kept, ih, List.map_cons]

/-- Reading undoes printing. The prose and the tags of a comment come back whole and in order, and
neither the way in which they are mixed nor the width of a gap shows in the result. -/
theorem parse_print_of_interleaving {body : List (List Char)} {tags : List (List Char × List Char)}
    {entries : List Entry} (mixed : Interleaving body tags entries) (context : CommentContext) :
    parse context (print entries) = .ok {
      description :=
        if trim (joinLines body) = [] then ""
        else context.format (String.ofList (trim (joinLines body)))
      tags := TagMap.ofPushes (tags.map fun tag => (String.ofList tag.1,
        context.rules.apply context.resolve (String.ofList tag.1) (String.ofList tag.2))) } := by
  have inner : (entries.map Entry.print).map Line.read = entries.map Entry.line := by
    rw [List.map_map]
    exact List.map_congr_left fun entry _ => entry.read_print
  have enough : ¬ (entries.map Entry.print ++ [[' ', '*', '/']]).length + 1 < 2 := by simp
  simp only [parse, lines_print, List.length_cons, if_neg enough, List.tail_cons,
    List.dropLast_concat, inner, mixed.prose_lines, mixed.tag_lines, describe, List.isEmpty_iff]

theorem parse_print_mixed_comment :
    ∃ entries, Interleaving [['*', ' ', 'a'], ['@', ' ', 'b']]
        [(['u', 's', 'e', 's'], ['A', ':', ':', 'b']), (['r', 'e', 't', 'u', 'r', 'n'], [])] entries ∧
      print entries = "/**\n * @uses \t A::b\n * * a\n * @return \n * @ b\n */" ∧
      parse ⟨fun entity _ => entity, fun text => "[" ++ text ++ "]", TagRules.standard⟩ (print entries) =
        .ok ⟨"[* a\n@ b]", ⟨[("uses", ["<a href=\"A\">A::b</a>"]), ("return", [""])]⟩⟩ := by
  have mixed := Interleaving.tag ⟨['u', 's', 'e', 's'], [' ', '\t', ' '], ['A', ':', ':', 'b'],
      by decide, by simp [isBlank], by simp [isBlank], by decide, by decide, by rintro _ _ ⟨⟩; rfl, by decide⟩
    (.prose ⟨['*', ' ', 'a'], by decide, by rintro _ _ ⟨⟩⟩
    (.tag ⟨['r', 'e', 't', 'u', 'r', 'n'], [' '], [],
      by decide, by simp [isBlank], by simp [isBlank], by decide, by decide, by rintro _ _ ⟨⟩, by decide⟩
    (.prose ⟨['@', ' ', 'b'], by decide, by rintro _ _ ⟨⟩; rfl⟩ .done)))
  exact ⟨_, mixed, by cbv, (parse_print_of_interleaving mixed _).trans (congrArg Except.ok (by decide +kernel))⟩

end Comment

end ClassDocs
