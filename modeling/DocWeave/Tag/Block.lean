/-
Doc blocks: the tag lines of one declaration.  Lines are grouped by kind, the
kinds in the order they first came up and the lines of a kind in the order
they were added.  A sealed block takes no more lines.  A block prints as a
comment whose closer occurs nowhere inside it.
-/
import DocWeave.Text.Quoted

namespace DocWeave

/-- The kinds of lines in a doc block. -/
inductive TagKind
  | text | moduleName | namespaceName | parent | param | access | returns
  | memberOf | override | constructor | property
  deriving DecidableEq, Repr

/-- Breaks every closer `*/` of a text by a backslash. -/
def escapeCloser : Text → Text
  | [] => []
  | '*' :: '/' :: rest => '*' :: '\\' :: '/' :: escapeCloser rest
  | c :: rest => c :: escapeCloser rest

/-- Lines grouped by kind. -/
abbrev TagGroups := List (TagKind × List Text)

/-- Adds a line to the group of its kind, or in a new group at the end. -/
def TagGroups.insert (kind : TagKind) (line : Text) : TagGroups → TagGroups
  | [] => [(kind, [line])]
  | group :: rest =>
      if group.1 = kind then (group.1, group.2 ++ [line]) :: rest
      else group :: TagGroups.insert kind line rest

/-- The lines of a kind. -/
def TagGroups.linesOf (kind : TagKind) : TagGroups → List Text
  | [] => []
  | group :: rest => if group.1 = kind then group.2 else TagGroups.linesOf kind rest

structure DocBlock where
  groups : TagGroups := []
  isSealed : Bool := false
  deriving DecidableEq, Repr

/-- Why a line could not be added. -/
inductive BlockError
  | sealedBlock
  deriving DecidableEq, Repr

def BlockError.message : BlockError → Text
  | .sealedBlock => "TagSet is frozen".toList

def DocBlock.empty : DocBlock := {}

/-- Adds a line; a sealed block refuses it. -/
def DocBlock.add (block : DocBlock) (kind : TagKind) (line : Text) :
    Except BlockError DocBlock :=
  if block.isSealed then .error .sealedBlock
  else .ok { block with groups := block.groups.insert kind line }

/-- Adds several lines; nothing is refused when there are none. -/
def DocBlock.extend (block : DocBlock) (kind : TagKind) (lines : List Text) :
    Except BlockError DocBlock :=
  lines.foldlM (fun b line => b.add kind line) block

/-- Closes the block to further lines. -/
def DocBlock.seal (block : DocBlock) : DocBlock :=
  { block with isSealed := true }

/-- The sealed block of some lines with their kinds, added in order. -/
def DocBlock.ofEntries (entries : List (TagKind × Text)) : DocBlock :=
  { groups := entries.foldl (fun groups e => groups.insert e.1 e.2) []
    isSealed := true }

def DocBlock.get (block : DocBlock) (kind : TagKind) : List Text :=
  block.groups.linesOf kind

def DocBlock.count (block : DocBlock) (kind : TagKind) : Nat :=
  (block.get kind).length

def DocBlock.kinds (block : DocBlock) : List TagKind :=
  block.groups.map (·.1)

/-- Whether the block has lines of a kind. -/
def DocBlock.contains (block : DocBlock) (kind : TagKind) : Bool :=
  block.kinds.contains kind

/-- All lines with their kinds, group after group. -/
def DocBlock.entries (block : DocBlock) : List (TagKind × Text) :=
  block.groups.flatMap fun group => group.2.map fun line => (group.1, line)

/-- All lines, group after group. -/
def DocBlock.lines (block : DocBlock) : List Text :=
  block.entries.map (·.2)

/-- A line inside a printed block. -/
def framedLine (line : Text) : Text :=
  if line.isEmpty then " *".toList else " * ".toList ++ escapeCloser line

/-- Prints a block over several lines. -/
def DocBlock.render (block : DocBlock) : Text :=
  Text.unlines (["/**".toList] ++ block.lines.map framedLine ++ [" */".toList])

/-- Prints a block on one line. -/
def DocBlock.renderInline (block : DocBlock) : Text :=
  "/** ".toList ++ escapeCloser ([' '].intercalate block.lines) ++ " */".toList

/-- Shows the lines of a block in quotes. -/
def DocBlock.debugText (block : DocBlock) : Text :=
  "TagSet(".toList ++ Text.quotedList block.lines ++ ")".toList

/-- A sealed block refuses every line. -/
theorem DocBlock.add_of_sealed {block : DocBlock} (h : block.isSealed = true)
    (kind : TagKind) (line : Text) : block.add kind line = .error .sealedBlock := by
  rw [DocBlock.add, if_pos h]

/-- An open block takes every line. -/
theorem DocBlock.add_of_open {block : DocBlock} (h : block.isSealed = false)
    (kind : TagKind) (line : Text) :
    block.add kind line = .ok { block with groups := block.groups.insert kind line } := by
  rw [DocBlock.add, if_neg (by simp [h])]

end DocWeave
