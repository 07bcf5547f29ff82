import ClassDocs.Markup.Container
import ClassDocs.Markup.Emphasis
import ClassDocs.Markup.LinkParts
import ClassDocs.Markup.RawHtml

namespace ClassDocs

namespace Markup

/-- Where the marks of running text stand. -/
structure Scope where
  text : Array Char
  /-- Where the block of the text ends. -/
  stop : Nat
  kinds : List ContainerKind
  inTable : Bool
  definitions : Definitions

/-- The text between two positions of a document. -/
def slice (text : Array Char) (start stop : Nat) : List Char :=
  (text.extract start stop).toList

/-- What follows a position in its block. -/
def Scope.after (scope : Scope) (place : Nat) : List Char :=
  slice scope.text place scope.stop

/-- How to go on with the nodes after a mark. -/
inductive Move where
  | next
  /-- Leave out nodes up to a position. -/
  | jump (place : Nat)
  /-- Leave out so many nodes. -/
  | pass (count : Nat)
  /-- Let the bracket that ends at a position be the end of no label. -/
  | bar (place : Nat)

/-- A node whose text in front of a position is used up. -/
def Node.beginAt (node : Node) (place : Nat) : Node :=
  { node with start := max node.start place }

/-- Change the first node that ends at a position or later. -/
def changeAt (place : Nat) (change : Node → Node) : List Node → List Node
  | [] => []
  | node :: rest =>
    if node.stop < place then node :: changeAt place change rest else change node :: rest

/-- The nodes to go on with. -/
def Move.apply (move : Move) (nodes : List Node) : List Node :=
  match move with
  | .next => nodes
  | .jump place =>
    match nodes.dropWhile (fun node => decide (node.stop ≤ place)) with
    | [] => []
    | node :: rest => node.beginAt place :: rest
  | .pass count => nodes.drop count
  | .bar place => changeAt place (fun node => { node with body := .closing false }) nodes

theorem length_changeAt (place : Nat) (change : Node → Node) (nodes : List Node) :
    (changeAt place change nodes).length = nodes.length := by
  induction nodes with
  | nil => rfl
  | cons node rest ih =>
    simp only [changeAt]
    split <;> simp [ih]

/-- No move adds nodes. -/
theorem Move.length_apply_le (move : Move) (nodes : List Node) :
    (move.apply nodes).length ≤ nodes.length := by
  cases move with
  | next => exact Nat.le_refl _
  | jump place =>
    have shorter := (List.dropWhile_sublist (l := nodes) fun node => decide (node.stop ≤ place)).length_le
    simp only [apply]
    split
    · exact Nat.zero_le _
    · rename_i left
      rw [left] at shorter
      exact shorter
  | pass count => simp only [apply, List.length_drop]; omega
  | bar place => exact Nat.le_of_eq (length_changeAt place _ nodes)

/-- The text of a code span. A line end becomes a blank, without the marks of containers after it, and
one blank is dropped at both ends if there is one at both and something else between. In a table a
backslash in front of a pipe is dropped. -/
def codeText (scope : Scope) (start stop : Nat) : List Char :=
  let flat := flatten (slice scope.text start (stop + 1))
  if flat.head? == some ' ' && flat.getLast? == some ' ' && !flat.all (· == ' ') then
    flat.tail.dropLast
  else flat
where
  /-- The text on one line, given with the first backtick after it. -/
  flatten (text : List Char) : List Char :=
    match text with
    | [] => []
    | [_] => []
    | c :: next :: rest =>
      if isBreak c then
        ' ' :: flatten ((next :: rest).drop (marksLength scope.kinds (next :: rest)))
      else if scope.inTable && c == '\\' && next == '|' then flatten (next :: rest)
      else c :: flatten (next :: rest)
  termination_by text.length
  decreasing_by all_goals simp only [List.length_cons, List.length_drop]; omega

/-- Read a run of backticks: a code span up to the next run of the same length. A backslash in front
takes the first backtick out of the run. -/
def readTicks (scope : Scope) (count : Nat) (escaped : Bool) (node : Node) (rest : List Node) :
    List Node × Move :=
  let wanted := if escaped then count - 1 else count
  let closes (other : Node) : Bool :=
    match other.body with
    | .ticks size _ => size == wanted
    | _ => false
  let plain : List Node × Move := ([{ node with body := .text }], .next)
  if wanted = 0 then plain
  else match rest.findIdx? closes, rest.find? closes with
    | some index, some closing =>
      let code : Body := .code (codeText scope node.stop closing.start)
      if escaped then
        ([⟨node.start, node.start + 1, .text, []⟩, ⟨node.start + 1, closing.stop, code, []⟩],
          .pass (index + 1))
      else ([⟨node.start, closing.stop, code, []⟩], .pass (index + 1))
    | _, _ => plain

/-- Read what begins with an opening angle bracket, `next` being where the text after it begins: an
address or a piece of HTML. -/
def readAngle (scope : Scope) (node : Node) (next : Nat) : Node × Move :=
  let text := scope.after next
  let address (target : List Char) (used : Nat) : Node × Move :=
    (⟨node.start, next + used, .link ⟨target, []⟩,
      [⟨node.start + 1, next + used - 1, .text, []⟩]⟩, .jump (next + used))
  match autoUri? text with
  | some (uri, used) => address uri used
  | none =>
    match autoMail? text with
    | some (mail, used) => address ("mailto:".toList ++ mail) used
    | none =>
      match specialHtml? text with
      | some used => (⟨node.start, next + used, .html, []⟩, .jump (next + used))
      | none =>
        match tag? (some (marksLength scope.kinds)) text with
        | some tag =>
          (⟨node.start, next + tag.used, .shownHtml ('<' :: tag.kept), []⟩, .jump (next + tag.used))
        | none => ({ node with body := .text }, .next)

/-- The length of spaces with at most one line end among them, and the marks of containers after
that. -/
def separatorLength (kinds : List ContainerKind) (text : List Char) : Nat :=
  let spaces := countWhile isSpace text
  match lineEnd? (text.drop spaces) with
  | none => spaces
  | some size =>
    let line := text.drop (spaces + size)
    let marks := marksLength kinds line
    spaces + size + marks + countWhile isSpace (line.drop marks)

/-- Where the text goes on after the line end at a position: where the next node begins that lies
behind it. -/
def lineStart? (nodes : List Node) (place : Nat) : Option Nat :=
  match nodes.find? (fun node => decide (place + 1 < node.stop)) with
  | some node => if place < node.start then some node.start else none
  | none => none

/-- Read the title of an inline link after its opening mark. The result is the title and how much was
read. -/
def inlineTitle? (inTable : Bool) (nodes : List Node) (opening closing : Char) (place : Nat)
    (text : List Char) : Option (List Char × Nat) :=
  let add (chars : List Char) (used : Nat) (title : List Char × Nat) : List Char × Nat :=
    (chars ++ title.1, title.2 + used)
  match text with
  | [] => none
  | c :: rest =>
    if c == closing then some ([], 1)
    else if c == opening then none
    else match if isBreak c then lineStart? nodes place else none with
      | some start =>
        (inlineTitle? inTable nodes opening closing start (rest.drop (start - place - 1))).map
          (add ['\n'] (start - place))
      | none =>
        match if c == '&' then entity? rest else none with
        | some (value, used) =>
          (inlineTitle? inTable nodes opening closing (place + used + 1) (rest.drop used)).map
            (add value (used + 1))
        | none =>
          let piped := inTable && c == '\\' && rest.take 2 == ['\\', '|']
          let used := if piped then 2 else 0
          let behind := rest.drop used
          if c == '\\' && behind.head?.any isAsciiSymbol then
            (inlineTitle? inTable nodes opening closing (place + used + 2) behind.tail).map
              (add (behind.take 1) (used + 2))
          else
            (inlineTitle? inTable nodes opening closing (place + used + 1) behind).map
              (add [if piped then '|' else c] (used + 1))
termination_by text.length
decreasing_by all_goals simp only [List.length_cons, List.length_drop, List.length_tail]; omega

/-- The destination and title of an inline link, read after the text in brackets, which ends at
`place`, and how much was read. -/
def inlineTarget? (scope : Scope) (nodes : List Node) (place : Nat) : Option (LinkTarget × Nat) :=
  match scope.after place with
  | '(' :: rest => do
    let gap := separatorLength scope.kinds rest
    let (target, size) ← target? (rest.drop gap)
    let afterTarget := gap + size
    let atTitle := afterTarget + separatorLength scope.kinds (rest.drop afterTarget)
    let title := match rest.drop atTitle with
      | [] => none
      | c :: text => do
        let closing ← titleClosing? c
        inlineTitle? scope.inTable nodes c closing (place + atTitle + 2) text
    let (title, stop) := match title with
      | some (title, used) =>
        let afterTitle := atTitle + used + 1
        (title, afterTitle + separatorLength scope.kinds (rest.drop afterTitle))
      | none => ([], atTitle)
    if (rest.drop stop).head? == some ')' then
      some (⟨unescape scope.inTable target, title⟩, stop + 2)
    else none
  | _ => none

/-- A label, with the marks of containers left out at the starts of its lines, and how much was
read. -/
def Scope.label? (scope : Scope) (text : List Char) : Option (List Char × Nat) :=
  Markup.label? (fun line => some (marksLength scope.kinds line)) scope.inTable text

/-- Where the text in brackets between two positions leads as a label of its own. -/
def ownTarget? (scope : Scope) (start stop : Nat) : Option LinkTarget := do
  let (label, used) ← scope.label? (slice scope.text start stop)
  if used = stop - start then scope.definitions.find? label else none

/-- Where a label after a text in brackets leads, if that text is the label itself or is followed by
one, and how to go on. The text in brackets lies between two positions and is followed by nodes. -/
def readReference (scope : Scope) (mayRefer : Bool) (start stop : Nat) (rest : List Node) :
    Option LinkTarget × Move :=
  let own (move : Move) : Option LinkTarget × Move :=
    match if mayRefer then ownTarget? scope start stop else none with
    | some target => (some target, move)
    | none => (none, .next)
  match rest with
  | [] => own .next
  | next :: _ =>
    match scope.after next.start with
    | '[' :: ']' :: _ => own (.pass 2)
    | text =>
      match scope.label? text with
      | none => own .next
      | some (label, used) =>
        let last := next.start + used
        match rest.findIdx? (fun node => decide (last ≤ node.stop)) with
        | none => (none, .next)
        | some index =>
          match scope.definitions.find? label with
          | some target => (some target, .pass (index + 1))
          | none => (none, .bar last)

/-- A bracket that waits for its closing one. -/
structure Bracket where
  isImage : Bool
  /-- Whether it can still begin a link; brackets around a link cannot. -/
  active : Bool := true
  node : Node
  /-- The nodes in front of the bracket, in reverse. -/
  before : List Node

/-- Nodes in reverse, those after a bracket put behind the bracket as text. -/
def Bracket.flatten (bracket : Bracket) (inside : List Node) : List Node :=
  inside ++ { bracket.node with body := .text } :: bracket.before

/-- Brackets that cannot begin a link any more, because there are no links inside links. -/
def deactivate (brackets : List Bracket) : List Bracket :=
  brackets.map fun bracket => if bracket.isImage then bracket else { bracket with active := false }

/-- What a mark gives. -/
structure MarkReading where
  brackets : List Bracket
  /-- The nodes after the innermost open bracket, in reverse. -/
  nodes : List Node
  move : Move

/-- A link or image from its bracket up to a position. -/
def closeBracket (bracket : Bracket) (outer : List Bracket) (inside : List Node)
    (target : LinkTarget) (stop : Nat) (move : Move) : MarkReading :=
  let children := if inside.any (·.body.isMark) then emphasize inside.reverse else inside.reverse
  let body : Body := if bracket.isImage then .image target else .link target
  ⟨if bracket.isImage then outer else deactivate outer,
    ⟨bracket.node.start, stop, body, children⟩ :: bracket.before, move⟩

/-- Read a closing bracket. -/
def readClosing (scope : Scope) (brackets : List Bracket) (nodes : List Node) (mayRefer : Bool)
    (node : Node) (rest : List Node) : MarkReading :=
  let literal : Node := { node with body := .text }
  match brackets with
  | [] => ⟨[], literal :: nodes, .next⟩
  | bracket :: outer =>
    if !bracket.active then ⟨outer, literal :: bracket.flatten nodes, .next⟩
    else match inlineTarget? scope rest node.stop with
      | some (target, used) =>
        let stop := node.stop + used
        closeBracket bracket outer nodes target stop (.jump stop)
      | none =>
        match readReference scope mayRefer (bracket.node.stop - 1) node.stop rest with
        | (some target, move) => closeBracket bracket outer nodes target node.stop move
        | (none, move) => ⟨outer, literal :: bracket.flatten nodes, move⟩

/-- Read a node, with the nodes after it. -/
def readNode (scope : Scope) (brackets : List Bracket) (nodes : List Node) (node : Node)
    (rest : List Node) : MarkReading :=
  match node.body with
  | .angle =>
    match rest with
    | [] => ⟨brackets, { node with body := .text } :: nodes, .next⟩
    | next :: _ =>
      let (read, move) := readAngle scope node next.start
      ⟨brackets, read :: nodes, move⟩
  | .ticks count escaped =>
    let (read, move) := readTicks scope count escaped node rest
    ⟨brackets, read.reverse ++ nodes, move⟩
  | .opening isImage => ⟨{ isImage := isImage, node := node, before := nodes } :: brackets, [], .next⟩
  | .closing mayRefer => readClosing scope brackets nodes mayRefer node rest
  | _ => ⟨brackets, node :: nodes, .next⟩

/-- Resolve links, code and HTML from left to right, with the open brackets and the nodes after the
innermost of them in reverse. Brackets that were not closed stand for themselves. -/
def readNodes (scope : Scope) (brackets : List Bracket) (done nodes : List Node) : List Node :=
  match nodes with
  | [] => (brackets.foldl (fun inside bracket => bracket.flatten inside) done).reverse
  | node :: rest =>
    let reading := readNode scope brackets done node rest
    readNodes scope reading.brackets reading.nodes (reading.move.apply rest)
termination_by nodes.length
decreasing_by
  have shorter := (readNode scope brackets done node rest).move.length_apply_le rest
  simp only [List.length_cons]
  omega

mutual

/-- Resolve the marks inside a node, which lies in containers and perhaps in a table. -/
def resolveNode (text : Array Char) (definitions : Definitions) (kinds : List ContainerKind)
    (inTable : Bool) : Node → Node
  | ⟨start, stop, body, children⟩ =>
    let inner := match body with
      | .quote => kinds ++ [.quote]
      | .item indent => kinds ++ [.item indent]
      | _ => kinds
    let within := match body with
      | .table => true
      | _ => inTable
    let nodes := resolveNodes text definitions inner within children
    if nodes.any (·.body.isMark) then
      ⟨start, stop, body, emphasize (readNodes ⟨text, stop, inner, within, definitions⟩ [] [] nodes)⟩
    else ⟨start, stop, body, nodes⟩

/-- Resolve the marks inside nodes. -/
def resolveNodes (text : Array Char) (definitions : Definitions) (kinds : List ContainerKind)
    (inTable : Bool) : List Node → List Node
  | [] => []
  | node :: rest =>
    resolveNode text definitions kinds inTable node :: resolveNodes text definitions kinds inTable rest

end

end Markup

end ClassDocs
