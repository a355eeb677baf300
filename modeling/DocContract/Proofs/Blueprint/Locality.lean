import DocContract.Proofs.Blueprint.Account
import DocContract.Proofs.Text.Lines

/-!
Blueprints are read locally.  Complete lines that leave no block open are read as they are on their
own, and the text behind them as if it stood alone, but for the numbers of its lines.
-/

namespace DocContract.Blueprint

open DocContract.Text

def Block.moved (count : Nat) : Block → Block
  | .closed tag start body => .closed tag (start + count) body
  | .unclosed tag start => .unclosed tag (start + count)

def Fence.moved (count : Nat) (fence : Fence) : Fence :=
  { fence with start := fence.start + count }

def Problem.moved (count : Nat) (problem : Problem) : Problem :=
  { problem with line := problem.line + count }

def Marker.moved (count : Nat) (marker : Marker) : Marker :=
  { marker with lineStart := marker.lineStart + count, lineEnd := marker.lineEnd + count }

def movedResult (count : Nat) : Except Problem Marker → Except Problem Marker
  | .ok found => .ok (found.moved count)
  | .error problem => .error (problem.moved count)

section

variable {lines more body : List (List Char)} {number count : Nat}

theorem blocks_moved (number count : Nat) (lines : List (List Char)) :
    blocks (number + count) lines = (blocks number lines).map (Block.moved count) := by
  induction number, lines using blocks.induct with
  | case1 number => rw [blocks, blocks, List.map_nil]
  | case2 number line rest plain ih =>
    rw [Nat.add_right_comm] at ih
    simp only [blocks, plain, ih]
  | case3 number line rest tag opening missing ih =>
    rw [Nat.add_right_comm] at ih
    simp only [blocks, opening, missing, ih, List.map_cons, Block.moved]
  | case4 number line rest tag opening index found ih =>
    rw [show number + index + 2 + count = number + count + index + 2 by omega] at ih
    simp only [blocks, opening, found, ih, List.map_cons, Block.moved]

theorem fences_moved (number count : Nat) (lines : List (List Char)) :
    fences (number + count) lines =
      ((fences number lines).mapError (· + count)).map (List.map (Fence.moved count)) := by
  induction number, lines using fences.induct with
  | case1 number => rw [fences, fences]; rfl
  | case2 number line rest plain ih =>
    rw [Nat.add_right_comm] at ih
    simp only [fences, plain, ih]
  | case3 number line rest width info opening missing =>
    simp only [fences, opening, missing]
    rfl
  | case4 number line rest width info opening index found ih =>
    rw [show number + index + 2 + count = number + count + index + 2 by omega] at ih
    simp only [fences, opening, found, ih]
    cases fences (number + index + 2) (rest.drop (index + 1)) with
    | error line => rfl
    | ok others =>
      simp only [Except.mapError, Except.map, List.map_cons, Fence.moved, Nat.add_right_comm]

theorem fenceOf?_moved (words : List String) (found : List Fence) :
    fenceOf? words (found.map (Fence.moved count)) =
      (fenceOf? words found).map (Fence.moved count) :=
  List.find?_map

/-- A block is read in the same way wherever it stands. -/
theorem marker_moved (kind : MarkerKind) (start count : Nat) (body : List (List Char)) :
    marker kind (start + count) body = movedResult count (marker kind start body) := by
  have fenced := fences_moved (start + 1) count body
  rw [Nat.add_right_comm] at fenced
  simp only [marker, fenced]
  cases fences (start + 1) body with
  | error line => rfl
  | ok found =>
    have decoded (table : Toml.Entries) (markdown : Option String) :
        ((Payload.decode kind table).mapError (⟨start + count, .invalidPayload kind ·⟩) >>=
          fun payload => .ok
            ⟨payload, table, markdown, start + count, start + count + body.length + 1⟩) =
          movedResult count ((Payload.decode kind table).mapError
            (⟨start, .invalidPayload kind ·⟩) >>=
              fun payload => .ok ⟨payload, table, markdown, start, start + body.length + 1⟩) := by
      cases Payload.decode kind table with
      | error fault => rfl
      | ok payload =>
        have last : start + count + body.length + 1 = start + body.length + 1 + count := by omega
        rw [last]
        rfl
    simp only [Except.mapError, Except.map, fenceOf?_moved, bind, Except.bind, pure, Except.pure]
    have texts : Fence.text ∘ Fence.moved count = Fence.text := rfl
    simp only [Option.map_map, texts]
    cases fenceOf? ["toml"] found with
    | none => exact decoded [] _
    | some fence =>
      simp only [Option.map_some]
      have text : (fence.moved count).text = fence.text := rfl
      cases written : Toml.parse? fence.text with
      | none =>
        simp only [text, written]
        rfl
      | some table =>
        simp only [text, written]
        exact decoded table _

theorem read_moved (count : Nat) (block : Block) :
    (block.moved count).read = movedResult count block.read := by
  cases block with
  | unclosed tag start => rfl
  | closed tag start body =>
    simp only [Block.moved, Block.read]
    cases MarkerKind.ofTag? (String.ofList tag) with
    | none => rfl
    | some kind => exact marker_moved kind start count body

/-- If no block is left open, the lines behind are cut on their own. -/
theorem blocks_append (number : Nat) (lines more : List (List Char))
    (complete : ∀ tag start, .unclosed tag start ∉ blocks number lines) :
    blocks number (lines ++ more) =
      blocks number lines ++ blocks (number + lines.length) more := by
  induction number, lines using blocks.induct with
  | case1 number => simp [blocks]
  | case2 number line rest plain ih =>
    simp only [blocks, plain] at complete
    rw [List.cons_append, blocks, blocks]
    simp only [plain, ih complete, List.length_cons]
    rw [Nat.add_right_comm, Nat.add_assoc]
  | case3 number line rest tag opening missing ih =>
    simp only [blocks, opening, missing] at complete
    exact absurd List.mem_cons_self (complete tag number)
  | case4 number line rest tag opening index found ih =>
    simp only [blocks, opening, found] at complete
    have behind := ih fun tag start member => complete tag start (List.mem_cons_of_mem _ member)
    obtain ⟨bound, _⟩ := List.findIdx?_eq_some_iff_getElem.mp found
    -- The first closing line is in the lines in front, whatever follows them.
    have closing : (rest ++ more).findIdx? (closes tag) = some index := by
      rw [List.findIdx?_append, found, Option.some_or]
    have next : number + index + 2 + (rest.drop (index + 1)).length =
        number + (line :: rest).length := by
      rw [List.length_drop, List.length_cons]
      omega
    rw [List.cons_append, blocks, blocks]
    simp only [opening, found, closing]
    rw [List.take_append_of_le_length (Nat.le_of_lt bound), List.drop_append_of_le_length bound,
      behind, next, List.cons_append]

theorem successes_append (results others : List (Except ε α)) :
    successes (results ++ others) = successes results ++ successes others := by
  rw [successes_eq_filterMap, List.filterMap_append, ← successes_eq_filterMap,
    ← successes_eq_filterMap]

theorem failures_append (results others : List (Except ε α)) :
    failures (results ++ others) = failures results ++ failures others := by
  induction results with
  | nil => rfl
  | cons result rest ih =>
    cases result with
    | ok value => exact ih
    | error fault => exact congrArg (fault :: ·) ih

theorem successes_moved (results : List (Except Problem Marker)) :
    successes (results.map (movedResult count)) = (successes results).map (Marker.moved count) := by
  induction results with
  | nil => rfl
  | cons result rest ih =>
    cases result with
    | ok found => exact congrArg (found.moved count :: ·) ih
    | error problem => exact ih

theorem failures_moved (results : List (Except Problem Marker)) :
    failures (results.map (movedResult count)) =
      (failures results).map (Problem.moved count) := by
  induction results with
  | nil => rfl
  | cons result rest ih =>
    cases result with
    | ok found => exact ih
    | error problem => exact congrArg (problem.moved count :: ·) ih

theorem unclosed_of_problems {path text : String}
    (complete : ∀ problem ∈ (parse path text).problems, ∀ tag, problem.flaw ≠ .unclosedMarker tag)
    (tag : List Char) (start : Nat) : .unclosed tag start ∉ blocks 1 (splitLines text.toList) := by
  intro member
  have reported : ⟨start, .unclosedMarker (String.ofList tag)⟩ ∈ (parse path text).problems :=
    mem_failures_iff.mpr (List.mem_map_of_mem (f := Block.read) member)
  exact complete _ reported _ rfl

end

/-- Complete lines in which every block is closed and the text behind them are read separately: the
markers and problems are those of the lines and those of the text, at its place. -/
theorem parse_append_lines (path front back : String) (ends : EndsLine front.toList)
    (complete : ∀ problem ∈ (parse path front).problems, ∀ tag,
      problem.flaw ≠ .unclosedMarker tag) :
    (parse path (front ++ back)).markers =
        (parse path front).markers ++
          (parse path back).markers.map (Marker.moved (lines front).length) ∧
      (parse path (front ++ back)).problems =
        (parse path front).problems ++
          (parse path back).problems.map (Problem.moved (lines front).length) := by
  have size : (lines front).length = (splitLines front.toList).length := List.length_map ..
  have cut : blocks 1 (splitLines (front ++ back).toList) =
      blocks 1 (splitLines front.toList) ++
        (blocks 1 (splitLines back.toList)).map (Block.moved (lines front).length) := by
    rw [String.toList_append, splitLines_append ends,
      blocks_append _ _ _ (unclosed_of_problems complete), blocks_moved, size]
  have read : Block.read ∘ Block.moved (lines front).length =
      movedResult (lines front).length ∘ Block.read :=
    funext (read_moved _)
  simp only [parse, cut, List.map_append, List.map_map, read]
  rw [successes_append, failures_append, ← List.map_map, successes_moved, failures_moved]
  exact ⟨rfl, rfl⟩

/-- A rule, and an identifier with a fence that is not closed. -/
def flawedLines : String :=
  "`@cpt:rule`\n`@/cpt:rule`\n`@cpt:id`\n```toml\n`@/cpt:id`\n"

def closingLines : String :=
  "```\n`@/cpt:id`\n`@cpt:prompt`\n"

/-- The fence stays open although the lines behind have what would close it. -/
theorem parse_flawedLines :
    EndsLine flawedLines.toList ∧
      (∀ problem ∈ (parse "PRD.md" flawedLines).problems, ∀ tag,
        problem.flaw ≠ .unclosedMarker tag) ∧
      (parse "PRD.md" (flawedLines ++ closingLines)).markers =
        (parse "PRD.md" flawedLines).markers ++
          (parse "PRD.md" closingLines).markers.map (Marker.moved (lines flawedLines).length) ∧
      (parse "PRD.md" (flawedLines ++ closingLines)).problems =
        (parse "PRD.md" flawedLines).problems ++
          (parse "PRD.md" closingLines).problems.map
            (Problem.moved (lines flawedLines).length) ∧
      errorMessages (parse "PRD.md" (flawedLines ++ closingLines)) =
        ["line 4: unclosed code fence in `@cpt:id`", "line 8: unclosed marker `@cpt:prompt`"] := by
  have closed : (parse "PRD.md" flawedLines).problems.all (fun problem =>
      match problem.flaw with
      | .unclosedMarker _ => false
      | _ => true) = true := by
    decide +kernel
  have ends : EndsLine flawedLines.toList := .inr (by decide +kernel)
  have complete : ∀ problem ∈ (parse "PRD.md" flawedLines).problems, ∀ tag,
      problem.flaw ≠ .unclosedMarker tag := by
    intro problem member tag same
    have other := List.all_eq_true.mp closed problem member
    rw [same] at other
    cases other
  obtain ⟨markers, problems⟩ :=
    parse_append_lines "PRD.md" flawedLines closingLines ends complete
  exact ⟨ends, complete, markers, problems, by decide +kernel⟩

end DocContract.Blueprint
