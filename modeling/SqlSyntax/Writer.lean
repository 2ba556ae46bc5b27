import SqlSyntax.Emission

/-!
# The writer

A writer is the buffer a renderer writes into: the text so far, the render options, and how
many levels of expressions and queries are open.  Every operation returns the new writer; those
that can fail return the fault beside it, and a failing operation leaves its partial text
behind.

A node can be handed to a writer in two forms.  Given by its emission, computed for the options
and the levels left, `maxDepth - depth`, it is appended whole (`node`, `list`, `capture`).
Given by its steps (`Step`), the calls its renderer makes, it is run call by call on the writer
(`perform`, `performAll`), child nodes included; that every node's steps write exactly its
emission, wherever they run, is proved in `SqlSyntax.Proofs.Writer` and
`SqlSyntax.Proofs.Program`.
-/

namespace SqlSyntax

/-- A render buffer: the options, the number of open levels, and the text written so far. -/
structure Writer where
  options : RenderOptions
  depth : Nat := 0
  text : String := ""
  deriving DecidableEq, Repr

namespace Writer

/-- A fresh writer for the options. -/
def init (o : RenderOptions) : Writer := { options := o }

/-- The levels still allowed. -/
def budget (w : Writer) : Nat := w.options.maxDepth - w.depth

/-- Appends a text. -/
def pushStr (w : Writer) (s : String) : Writer := { w with text := w.text ++ s }

/-- Appends a character. -/
def push (w : Writer) (c : Char) : Writer := w.pushStr (String.singleton c)

/-- Appends as many blanks as the indent width. -/
def indent (w : Writer) : Writer :=
  w.pushStr (String.ofList (List.replicate w.options.indent ' '))

/-- Appends an emission's text and reports its fault. -/
def append (w : Writer) (e : Emission) : Writer × Option SqlError :=
  (w.pushStr e.text, e.fault)

/-- Writes a keyword, or reports that the dialect lacks it, writing nothing. -/
def keyword {α : Type} [Keyword α] (w : Writer) (k : α) : Writer × Option SqlError :=
  w.append (Emission.keyword w.options.dialect k)

/-- Renders a node with the levels left; a failing node leaves its partial text. -/
def node (w : Writer) (render : RenderOptions → Nat → Emission) : Writer × Option SqlError :=
  w.append (render w.options w.budget)

/-- Renders nodes with the separator between each two of them, stopping at the first that
fails. -/
def list (w : Writer) (items : List (RenderOptions → Nat → Emission)) (sep : String) :
    Writer × Option SqlError :=
  w.append (Emission.sepBy sep (items.map fun r => r w.options w.budget))

/-- Renders a node apart from the buffer: its text if it succeeds, else its fault.  The writer
does not change. -/
def capture (w : Writer) (render : RenderOptions → Nat → Emission) : Except SqlError String :=
  (render w.options w.budget).result

/-- Runs the body one level deeper and then steps back up a level; with no level left it
refuses with the depth error and runs nothing. -/
def nested {β : Type} (w : Writer) (body : Writer → Writer × β) : Except SqlError (Writer × β) :=
  if w.options.maxDepth ≤ w.depth then .error (.tooDeep w.options.maxDepth)
  else
    let (inner, r) := body { w with depth := w.depth + 1 }
    .ok ({ inner with depth := inner.depth - 1 }, r)

/-- The error for a construct the writer's dialect lacks. -/
def unsupported (w : Writer) (feature : String) : SqlError :=
  .unsupportedFeature feature w.options.dialect

/-- The error for a statement the writer's dialect cannot write. -/
def unrecognized (w : Writer) (statement : String) : SqlError :=
  .unrenderable statement w.options.dialect

end Writer

/-! ## Steps

A node's renderer is a sequence of calls on the writer: appending text, writing a keyword,
failing, rendering a child node (alone, as one item of a separated list, or apart from the
buffer) and running a body one level deeper.  A `Step` is one such call, and a child node is
given by its own steps, so rendering a tree runs every step of every node on the one writer,
which carries the buffer and the depth from each call to the next. -/

/-- One call a renderer makes on a writer. -/
inductive Step where
  /-- Appends a text. -/
  | pushStr (s : String)
  /-- Appends as many blanks as the indent width. -/
  | indent
  /-- Appends a keyword, or reports that the writer's dialect lacks it. -/
  | keyword (spelling : String) (supported : Dialect → Bool)
  /-- Stops with a fault. -/
  | fail (e : SqlError)
  /-- Renders a child node: runs its steps on this writer. -/
  | node (body : List Step)
  /-- Renders child nodes in order, the separator between each two, stopping at the first
  that fails. -/
  | list (items : List (List Step)) (sep : String)
  /-- Renders a child node apart from the buffer, which is put back afterwards. -/
  | capture (body : List Step)
  /-- Runs the body one level deeper. -/
  | nested (body : List Step)

/-- The step that writes a keyword of a catalog. -/
def Step.keywordOf {α : Type} [Keyword α] (k : α) : Step :=
  .keyword (Keyword.spelling k) (fun d => Keyword.supports d k)

namespace Writer

mutual

/-- Takes one step: the writer after it and the fault it reports. -/
def perform (w : Writer) : Step → Writer × Option SqlError
  | .pushStr s => (w.pushStr s, none)
  | .indent => (w.indent, none)
  | .keyword s supported =>
    if supported w.options.dialect then (w.pushStr s, none) else (w, some (w.unsupported s))
  | .fail e => (w, some e)
  | .node body => performAll w body
  | .list items sep => performItems w sep false items
  | .capture body =>
    match performAll { w with text := "" } body with
    | (inner, r) => ({ inner with text := w.text }, r)
  | .nested body =>
    match w.nested fun inner => performAll inner body with
    | .ok r => r
    | .error f => (w, some f)

/-- Takes steps in order until one reports a fault. -/
def performAll (w : Writer) : List Step → Writer × Option SqlError
  | [] => (w, none)
  | s :: ss =>
    match w.perform s with
    | (w', some f) => (w', some f)
    | (w', none) => performAll w' ss

/-- Renders the items of a list in order until one reports a fault, each after the separator
when an item came before it (`leading`). -/
def performItems (w : Writer) (sep : String) (leading : Bool) :
    List (List Step) → Writer × Option SqlError
  | [] => (w, none)
  | p :: ps =>
    match performAll (if leading then w.pushStr sep else w) p with
    | (w', some f) => (w', some f)
    | (w', none) => performItems w' sep true ps

end

/-- Renders a node given by its steps apart from the buffer: the text it writes if it succeeds,
else its fault.  The buffer is put back either way. -/
def captureAll (w : Writer) (body : List Step) : Writer × Except SqlError String :=
  match performAll { w with text := "" } body with
  | (inner, some f) => ({ inner with text := w.text }, .error f)
  | (inner, none) => ({ inner with text := w.text }, .ok inner.text)

end Writer

end SqlSyntax
