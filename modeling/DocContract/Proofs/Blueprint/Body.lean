import DocContract.Blueprint.Document
import DocContract.Proofs.Outline.Reading

/-!
The body of a block is kept as it is written.  Between a fence and the first line that closes it,
lines that look like tags or like other fences are text.
-/

namespace DocContract.Blueprint

open DocContract.Text

variable {line tag word : List Char} {lines body : List (List Char)} {width number : Nat}

theorem findIdx?_of_first {test : α → Bool} {front rest : List α} {stop : α}
    (before : ∀ item ∈ front, test item = false) (here : test stop = true) :
    (front ++ stop :: rest).findIdx? test = some front.length := by
  rw [List.findIdx?_append, List.findIdx?_eq_none_iff.mpr before, Option.none_or,
    List.findIdx?_cons, here]
  simp

/-- The line has nothing but so many backticks or more, and blanks around them. -/
def IsBareFence (width : Nat) (line : List Char) : Prop :=
  ∃ count, width ≤ count ∧ trimChars line = List.replicate count '`'

theorem closesFence_iff (wide : 3 ≤ width) :
    closesFence width line = true ↔ IsBareFence width line := by
  simp only [closesFence, Bool.and_eq_true, decide_eq_true_eq]
  constructor
  · rintro ⟨⟨_, enough⟩, marks⟩
    refine ⟨_, enough, List.eq_replicate_iff.mpr ⟨rfl, fun c member => ?_⟩⟩
    simpa using List.all_eq_true.mp marks c member
  · rintro ⟨count, enough, trimmed⟩
    rw [trimmed, List.length_replicate]
    exact ⟨⟨Nat.le_trans wide enough, enough⟩, by simp⟩

theorem closesFence_replicate (wide : 3 ≤ width) :
    closesFence width (List.replicate width '`') = true := by
  refine (closesFence_iff wide).mpr ⟨width, Nat.le_refl width, ?_⟩
  have kept : (List.replicate width '`').dropWhile isBlank = List.replicate width '`' := by
    rw [List.dropWhile_replicate, if_neg (by decide)]
  rw [trimChars, kept, dropEndWhile, List.reverse_replicate, kept, List.reverse_replicate]

theorem closes_of_marks (tag rest : List Char) : closes tag ('`' :: '`' :: rest) = false := by
  have trimmed : ∃ kept, trimChars ('`' :: '`' :: rest) = '`' :: '`' :: kept := by
    rw [trimChars, List.dropWhile_cons_of_neg (by decide)]
    refine ⟨if rest.all isBlank then [] else dropEndWhile isBlank rest, ?_⟩
    rw [show '`' :: '`' :: rest = ['`', '`'] ++ rest from rfl, dropEndWhile_append]
    split <;> rfl
  obtain ⟨kept, trimmed⟩ := trimmed
  rw [closes, trimmed]
  rfl

/-- A fence is opened by its backticks with a word of letters behind them. -/
theorem fenceOpening?_word (wide : 3 ≤ width)
    (visible : word.any isBlank = false) (unmarked : '`' ∉ word) :
    fenceOpening? (List.replicate width '`' ++ word) = some (width, word.map Char.toLower) := by
  obtain ⟨size, rfl⟩ : ∃ size, width = size + 1 := ⟨width - 1, by omega⟩
  have marks : (List.replicate (size + 1) '`' ++ word).dropWhile isBlank =
      List.replicate (size + 1) '`' ++ word := by
    rw [List.replicate_succ, List.cons_append]
    exact List.dropWhile_cons_of_neg (by decide)
  have next : word.head? ≠ some '`' := fun first => unmarked (List.mem_of_head? first)
  have plain := List.any_eq_false.mp visible
  have front : word.dropWhile isBlank = word := by
    cases word with
    | nil => rfl
    | cons c rest => exact List.dropWhile_cons_of_neg (plain c List.mem_cons_self)
  have taken : word.takeWhile (fun c => !isBlank c) = word :=
    List.takeWhile_eq_self_iff.mpr fun c inside => by simpa using plain c inside
  rw [fenceOpening?, marks]
  simp only [takeWhile_run next, dropWhile_run next, List.length_replicate, front, taken]
  exact if_pos ⟨wide, unmarked⟩

/-- Lines none of which closes the fence are what it holds. -/
theorem fences_single {first last : List Char} (opening : fenceOpening? first = some (width, word))
    (inside : ∀ line ∈ body, closesFence width line = false)
    (closing : closesFence width last = true) :
    fences number (first :: (body ++ [last])) = .ok [⟨word, number + 1, body⟩] := by
  rw [fences]
  simp only [opening, findIdx?_of_first inside closing, List.take_left', List.drop_append,
    Nat.add_sub_cancel_left, List.drop_of_length_le (Nat.le_succ _)]
  simp [fences, Except.map]

theorem blocks_single {first last : List Char} (opening : openingTag? first = some tag)
    (inside : ∀ line ∈ body, closes tag line = false) (closing : closes tag last = true) :
    blocks number (first :: (body ++ [last])) = [.closed tag number body] := by
  rw [blocks]
  simp only [opening, findIdx?_of_first inside closing, List.take_left', List.drop_append,
    Nat.add_sub_cancel_left, List.drop_of_length_le (Nat.le_succ _)]
  simp [blocks]

/-- A block without a table has its first body, if what it declares may be left out. -/
theorem marker_untabled {kind : MarkerKind} {payload : Payload} {found : List Fence}
    (fenced : fences (number + 1) lines = .ok found) (untabled : fenceOf? ["toml"] found = none)
    (decoded : Payload.decode kind [] = .ok payload) :
    marker kind number lines =
      .ok ⟨payload, [], (fenceOf? ["markdown", "md"] found).map Fence.text, number,
        number + lines.length + 1⟩ := by
  simp [marker, fenced, untabled, decoded, Except.mapError, bind, Except.bind, pure, Except.pure]

/-- The lines of a prompt with the body in a fence of so many backticks. -/
def promptLines (width : Nat) (body : List String) : List String :=
  let marks := String.ofList (List.replicate width '`')
  ["`@cpt:prompt`", marks ++ "markdown"] ++ body ++ [marks, "`@/cpt:prompt`"]

def promptInner (width : Nat) (body : List String) : List (List Char) :=
  let marks := List.replicate width '`'
  (marks ++ "markdown".toList) :: (body.map String.toList ++ [marks])

theorem splitLines_promptLines {ending : String} {body : List String} (width : Nat)
    (whole : ∀ line ∈ body, IsLine line.toList) (ends : ending = "" ∨ ending = "\n") :
    splitLines (joinLines (promptLines width body) ++ ending).toList =
      "`@cpt:prompt`".toList :: (promptInner width body ++ ["`@/cpt:prompt`".toList]) := by
  let marks := List.replicate width '`'
  let others := ["`@cpt:prompt`", String.ofList (marks ++ "markdown".toList)] ++ body ++
    [String.ofList marks]
  have lines : promptLines width body = others ++ ["`@/cpt:prompt`"] := by
    simp [promptLines, others, marks]
  have plain : ∀ line ∈ others, IsLine line.toList := by
    have front : IsLine (marks ++ "markdown".toList) :=
      isLine_of_forall (by simp +contextual [marks, or_imp])
    have back : IsLine marks := isLine_of_forall (by simp +contextual [marks])
    simp only [others, List.forall_mem_append, List.forall_mem_cons, String.toList_ofList]
    exact ⟨⟨⟨by decide, front, List.forall_mem_nil _⟩, whole⟩, back, List.forall_mem_nil _⟩
  rw [lines, splitLines_joinLines plain (by decide) (by decide) ends]
  simp [promptInner, others, marks]

/-- A prompt is read with its body as it is written, whatever stands in the lines of this, as long
as none closes the fence or the block.  Nothing else is read. -/
theorem parse_promptLines (path ending : String) (width : Nat) (body : List String)
    (wide : 3 ≤ width) (whole : ∀ line ∈ body, IsLine line.toList)
    (fenced : ∀ line ∈ body, ¬ IsBareFence width line.toList)
    (within : ∀ line ∈ body, trim line ≠ "`@/cpt:prompt`")
    (ends : ending = "" ∨ ending = "\n") :
    let blueprint := parse path (joinLines (promptLines width body) ++ ending)
    blueprint.problems = [] ∧
      blueprint.markers = [⟨.prompt, [], some (joinLines body), 1, body.length + 4⟩] := by
  let tag := "prompt".toList
  have held : ∀ line ∈ body.map String.toList,
      closesFence width line = false ∧ closes tag line = false := by
    intro line member
    obtain ⟨written, listed, rfl⟩ := List.mem_map.mp member
    refine ⟨Bool.eq_false_iff.mpr (mt (closesFence_iff wide).mp (fenced written listed)), ?_⟩
    refine Bool.eq_false_iff.mpr fun closing => within written listed ?_
    rw [trim, beq_iff_eq.mp closing]
    rfl
  have inner : ∀ line ∈ promptInner width body, closes tag line = false := by
    obtain ⟨size, rfl⟩ : ∃ size, width = size + 2 := ⟨width - 2, by omega⟩
    simp only [promptInner, List.forall_mem_cons, List.forall_mem_append]
    exact ⟨closes_of_marks _ _, fun line member => (held line member).2, closes_of_marks _ _,
      List.forall_mem_nil _⟩
  have block : blocks 1 (splitLines (joinLines (promptLines width body) ++ ending).toList) =
      [.closed tag 1 (promptInner width body)] := by
    rw [splitLines_promptLines width whole ends]
    exact blocks_single (by decide) inner (by decide)
  have opening : fenceOpening? (List.replicate width '`' ++ "markdown".toList) =
      some (width, "markdown".toList) :=
    fenceOpening?_word wide rfl (by decide)
  have found : fences 2 (promptInner width body) =
      .ok [⟨"markdown".toList, 3, body.map String.toList⟩] :=
    fences_single opening (fun line member => (held line member).1) (closesFence_replicate wide)
  have read : Block.read (.closed tag 1 (promptInner width body)) =
      .ok ⟨.prompt, [], some (joinLines body), 1, body.length + 4⟩ := by
    have kind : MarkerKind.ofTag? (String.ofList tag) = some .prompt := by decide
    have stop : 1 + (promptInner width body).length + 1 = body.length + 4 := by
      simp [promptInner]
      omega
    simp only [Block.read, kind]
    rw [marker_untabled found (by simp [fenceOf?]) rfl, stop]
    simp [fenceOf?, Fence.text]
  simp only [parse, block, List.map_cons, List.map_nil, read]
  exact ⟨rfl, rfl⟩

/-- A body that looks like a rule with a table, and then like a shorter fence that stays open. -/
def ruleLikeBody : List String :=
  ["`@cpt:rule`", "```toml", "kind = \"style\"", "```", "`@/cpt:rule`", "", "  ```markdown"]

theorem parse_ruleLikeBody :
    (∀ line ∈ ruleLikeBody, IsLine line.toList) ∧
      (∀ line ∈ ruleLikeBody, ¬ IsBareFence 4 line.toList) ∧
      (∀ line ∈ ruleLikeBody, trim line ≠ "`@/cpt:prompt`") ∧
      (parse "PRD.md" (joinLines (promptLines 4 ruleLikeBody) ++ "\n")).problems = [] ∧
      (parse "PRD.md" (joinLines (promptLines 4 ruleLikeBody) ++ "\n")).markers =
        [⟨.prompt, [], some (joinLines ruleLikeBody), 1, 11⟩] := by
  have whole : ∀ line ∈ ruleLikeBody, IsLine line.toList := by decide
  have unclosed : ∀ line ∈ ruleLikeBody, closesFence 4 line.toList = false := by decide
  have fenced : ∀ line ∈ ruleLikeBody, ¬ IsBareFence 4 line.toList := by
    intro line member bare
    have closing := (closesFence_iff (by decide)).mpr bare
    exact Bool.false_ne_true ((unclosed line member).symm.trans closing)
  have within : ∀ line ∈ ruleLikeBody, trim line ≠ "`@/cpt:prompt`" := by decide
  exact ⟨whole, fenced, within,
    parse_promptLines "PRD.md" "\n" 4 ruleLikeBody (by decide) whole fenced within (.inr rfl)⟩

end DocContract.Blueprint
