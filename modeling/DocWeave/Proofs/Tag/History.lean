/-
The history of a doc block.  Lines are added to a block one at a time or several
at once until it is sealed; from then on every line is refused.  Whatever calls
have been made, and whichever of them have failed, a block holds the lines of
those that succeeded, grouped by kind.
-/
import DocWeave.Proofs.Reconcile.Entries

namespace DocWeave

/-- A call on a doc block. -/
inductive BlockCall
  | add (kind : TagKind) (line : Text)
  | extend (kind : TagKind) (lines : List Text)
  | close
  deriving DecidableEq, Repr

/-- The operation a call asks for. -/
def BlockCall.apply (block : DocBlock) : BlockCall → Except BlockError DocBlock
  | .add kind line => block.add kind line
  | .extend kind lines => block.extend kind lines
  | .close => .ok block.seal

/-- The lines a call brings, with their kind. -/
def BlockCall.offered : BlockCall → List (TagKind × Text)
  | .add kind line => [(kind, line)]
  | .extend kind lines => lines.map (kind, ·)
  | .close => []

/-- The block a call leaves, and the error it has ended with if it failed. -/
structure BlockOutcome where
  block : DocBlock
  error : Option BlockError
  deriving DecidableEq, Repr

/-- What the caller is told. -/
def BlockOutcome.result (outcome : BlockOutcome) : Except BlockError DocBlock :=
  match outcome.error with
  | none => .ok outcome.block
  | some e => .error e

/-- Adds lines one after another.  The first one refused ends the call, and what
has been added before it stays. -/
def DocBlock.addEach (kind : TagKind) : List Text → DocBlock → BlockOutcome
  | [], block => ⟨block, none⟩
  | line :: rest, block =>
      match block.add kind line with
      | .ok next => next.addEach kind rest
      | .error e => ⟨block, some e⟩

def BlockCall.outcome (block : DocBlock) : BlockCall → BlockOutcome
  | .add kind line => block.addEach kind [line]
  | .extend kind lines => block.addEach kind lines
  | .close => ⟨block.seal, none⟩

/-- The block after some calls, those that failed included. -/
def DocBlock.after (block : DocBlock) (calls : List BlockCall) : DocBlock :=
  calls.foldl (fun b call => (call.outcome b).block) block

/-- The lines of the calls that succeeded, in the order of the calls. -/
def DocBlock.accepted : List BlockCall → DocBlock → List (TagKind × Text)
  | [], _ => []
  | call :: rest, block =>
      let outcome := call.outcome block
      (if outcome.error = none then call.offered else []) ++ outcome.block.accepted rest

theorem DocBlock.extend_eq_result (kind : TagKind) (lines : List Text) (block : DocBlock) :
    block.extend kind lines = (block.addEach kind lines).result := by
  induction lines generalizing block with
  | nil => rfl
  | cons line rest ih =>
      simp only [DocBlock.extend, List.foldlM_cons, DocBlock.addEach]
      rcases block.add kind line with e | next
      · rfl
      · exact ih next

/-- The caller is told what became of the block. -/
theorem BlockCall.apply_eq_result (block : DocBlock) (call : BlockCall) :
    call.apply block = (call.outcome block).result := by
  cases call with
  | add kind line =>
      rw [BlockCall.apply, BlockCall.outcome, ← DocBlock.extend_eq_result]
      simp [DocBlock.extend]
  | extend kind lines => exact block.extend_eq_result kind lines
  | close => rfl

theorem DocBlock.addEach_of_open {block : DocBlock} (h : block.isSealed = false)
    (kind : TagKind) (lines : List Text) :
    block.addEach kind lines =
      ⟨{ groups := (lines.map (kind, ·)).foldl (fun g e => g.insert e.1 e.2) block.groups
         isSealed := false }, none⟩ := by
  induction lines generalizing block with
  | nil => simp [DocBlock.addEach, ← h]
  | cons line rest ih =>
      rw [DocBlock.addEach, DocBlock.add_of_open h]
      exact ih h

theorem DocBlock.addEach_of_sealed {block : DocBlock} (h : block.isSealed = true)
    (kind : TagKind) (lines : List Text) :
    block.addEach kind lines = ⟨block, if lines = [] then none else some .sealedBlock⟩ := by
  cases lines with
  | nil => rfl
  | cons line rest => simp [DocBlock.addEach, DocBlock.add_of_sealed h]

/-- An open block takes all that a call brings. -/
theorem BlockCall.outcome_of_open {block : DocBlock} (h : block.isSealed = false)
    (call : BlockCall) :
    call.outcome block =
      ⟨{ groups := call.offered.foldl (fun g e => g.insert e.1 e.2) block.groups
         isSealed := decide (call = .close) }, none⟩ := by
  cases call with
  | add kind line => exact DocBlock.addEach_of_open h kind [line]
  | extend kind lines => exact DocBlock.addEach_of_open h kind lines
  | close => rfl

/-- A sealed block stays as it is, and a call that brings a line fails. -/
theorem BlockCall.outcome_of_sealed {block : DocBlock} (h : block.isSealed = true)
    (call : BlockCall) :
    call.outcome block =
      ⟨block, if call.offered = [] then none else some .sealedBlock⟩ := by
  cases call with
  | add kind line => exact DocBlock.addEach_of_sealed h kind [line]
  | extend kind lines =>
      simp [BlockCall.outcome, BlockCall.offered, DocBlock.addEach_of_sealed h]
  | close => simp [BlockCall.outcome, BlockCall.offered, DocBlock.seal, ← h]

theorem DocBlock.after_of_sealed {block : DocBlock} (h : block.isSealed = true)
    (calls : List BlockCall) : block.after calls = block := by
  induction calls with
  | nil => rfl
  | cons call rest ih =>
      have hafter : block.after (call :: rest) = (call.outcome block).block.after rest := rfl
      rw [hafter, BlockCall.outcome_of_sealed h, ih]

/-- Calls leave a block with the lines that were accepted, added one by one, and
sealed if it was sealed or one of them has sealed it. -/
theorem DocBlock.after_eq (block : DocBlock) (calls : List BlockCall) :
    block.after calls =
      { groups := (block.accepted calls).foldl (fun g e => g.insert e.1 e.2) block.groups
        isSealed := block.isSealed || decide (.close ∈ calls) } := by
  induction calls generalizing block with
  | nil => simp [DocBlock.after, DocBlock.accepted]
  | cons call rest ih =>
      have hafter : block.after (call :: rest) = (call.outcome block).block.after rest := rfl
      rw [hafter, ih, DocBlock.accepted]
      cases hsealed : block.isSealed with
      | false =>
          simp [BlockCall.outcome_of_open hsealed, List.foldl_append, eq_comm]
      | true =>
          rw [BlockCall.outcome_of_sealed hsealed]
          by_cases hnothing : call.offered = []
          · simp [hnothing, hsealed]
          · simp [hnothing, hsealed]

/-- After any calls on an empty block, it holds the lines of those that succeeded.
The next call succeeds unless the block has been closed and the call brings lines;
it changes nothing if it fails, and adds all its lines if it succeeds.  A closed
block never changes again. -/
theorem DocBlock.after_holds_accepted (calls : List BlockCall) :
    let block := DocBlock.empty.after calls
    block.Holds (DocBlock.empty.accepted calls) ∧
      (∀ call : BlockCall, call.apply block = (call.outcome block).result ∧
        (call.outcome block).error =
          (if .close ∈ calls ∧ call.offered ≠ [] then some .sealedBlock else none) ∧
        ((call.outcome block).error ≠ none → (call.outcome block).block = block) ∧
        ((call.outcome block).error = none → ∀ kind,
          (call.outcome block).block.get kind =
            block.get kind ++ linesUnder kind call.offered)) ∧
      (.close ∈ calls → ∀ later, block.after later = block) := by
  intro block
  have hblock : block = _ := DocBlock.empty.after_eq calls
  have hsealed : block.isSealed = decide (.close ∈ calls) := by rw [hblock]; rfl
  refine ⟨DocBlock.holds_of_groups (by rw [hblock]; rfl), ?_, ?_⟩
  · intro call
    refine ⟨call.apply_eq_result block, ?_⟩
    by_cases hclosed : .close ∈ calls
    · rw [BlockCall.outcome_of_sealed (hsealed.trans (decide_eq_true hclosed))]
      by_cases hnothing : call.offered = []
      · simp [hnothing]
      · simp [hnothing, hclosed]
    · rw [BlockCall.outcome_of_open (hsealed.trans (decide_eq_false hclosed))]
      simp [hclosed, DocBlock.get, TagGroups.linesOf_foldl_insert]
  · intro hclosed later
    exact DocBlock.after_of_sealed (hsealed.trans (decide_eq_true hclosed)) later

namespace HistoryWitness

/-- Calls before and after the block is closed, two of them without lines. -/
def calls : List BlockCall :=
  [.add .param "a".toList, .extend .text ["b".toList, "c".toList], .extend .access [],
    .add .param "d".toList, .close, .extend .text ["e".toList], .extend .returns []]

end HistoryWitness

theorem DocBlock.after_holds_accepted_closed :
    DocBlock.empty.accepted HistoryWitness.calls =
        [(.param, "a".toList), (.text, "b".toList), (.text, "c".toList), (.param, "d".toList)] ∧
      (DocBlock.empty.after HistoryWitness.calls).Holds
        (DocBlock.empty.accepted HistoryWitness.calls) ∧
      ∀ later, (DocBlock.empty.after HistoryWitness.calls).after later =
        DocBlock.empty.after HistoryWitness.calls :=
  have ⟨hholds, _, hclosed⟩ := DocBlock.after_holds_accepted HistoryWitness.calls
  ⟨by decide, hholds, hclosed (by decide)⟩

end DocWeave
