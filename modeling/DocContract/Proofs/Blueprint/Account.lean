import DocContract.Blueprint.Document
import DocContract.Proofs.Blueprint.Blocks
import Mathlib.Data.List.Nodup
import Mathlib.Data.List.Perm.Basic

namespace DocContract.Blueprint

open DocContract.Text

variable {lines body : List (List Char)} {number start stop other : Nat} {kind : MarkerKind}

/-- Fenced code starts behind the first of so many lines with numbers from that one on, and a fence
that is not closed is one of them. -/
def FencesWithin (number length : Nat) : Except Nat (List Fence) → Prop
  | .ok found => ∀ fence ∈ found, number < fence.start ∧ fence.start < number + length
  | .error line => number ≤ line ∧ line < number + length

theorem FencesWithin.of_le {later length total : Nat} {result : Except Nat (List Fence)}
    (within : FencesWithin later length result) (least : number ≤ later)
    (most : later + length ≤ number + total) : FencesWithin number total result := by
  cases result with
  | ok found =>
    intro fence member
    obtain ⟨behind, before⟩ := within fence member
    exact ⟨Nat.lt_of_le_of_lt least behind, Nat.lt_of_lt_of_le before most⟩
  | error line => exact ⟨Nat.le_trans least within.1, Nat.lt_of_lt_of_le within.2 most⟩

theorem fencesWithin_fences (number : Nat) (lines : List (List Char)) :
    FencesWithin number lines.length (fences number lines) := by
  induction number, lines using fences.induct with
  | case1 number =>
    rw [fences]
    exact nofun
  | case2 number line rest plain ih =>
    simp only [fences, plain]
    exact ih.of_le (Nat.le_succ number) (by rw [List.length_cons]; omega)
  | case3 number line rest width info opening missing =>
    simp only [fences, opening, missing]
    exact ⟨Nat.le_refl number, by rw [List.length_cons]; omega⟩
  | case4 number line rest width info opening index closing ih =>
    obtain ⟨bound, _⟩ := List.findIdx?_eq_some_iff_getElem.mp closing
    simp only [fences, opening, closing]
    have behind : FencesWithin number (line :: rest).length
        (fences (number + index + 2) (rest.drop (index + 1))) :=
      ih.of_le (by omega) (by rw [List.length_drop, List.length_cons]; omega)
    cases later : fences (number + index + 2) (rest.drop (index + 1)) with
    | error line => rwa [later] at behind
    | ok others =>
      rw [later] at behind
      refine List.forall_mem_cons.mpr ⟨⟨Nat.lt_succ_self number, ?_⟩, behind⟩
      simp only [List.length_cons]
      omega

/-- The problem is that of the block that the line with the number opens.  It is reported for that
line, or for one inside the block if it is about fenced code. -/
inductive Concerns (lines : List (List Char)) (number : Nat) : Problem → Prop where
  | unclosedMarker (tag : String) (outer : Outer lines number)
      (opened : tagAt? lines number = some tag.toList)
      (endless : ∀ stop, ¬ FirstClosing lines tag.toList number stop) :
      Concerns lines number ⟨number, .unclosedMarker tag⟩
  | unknownMarker (tag : String) (stop : Nat) (block : IsBlock lines tag.toList number stop)
      (unknown : MarkerKind.ofTag? tag = none) :
      Concerns lines number ⟨number, .unknownMarker tag⟩
  | invalidPayload (kind : MarkerKind) (stop : Nat) (fault : DecodeFault)
      (block : IsBlock lines kind.tag.toList number stop) :
      Concerns lines number ⟨number, .invalidPayload kind fault⟩
  | unclosedFence (kind : MarkerKind) (stop line : Nat)
      (block : IsBlock lines kind.tag.toList number stop) (behind : number < line)
      (before : line < stop) :
      Concerns lines number ⟨line, .unclosedFence kind⟩
  | invalidToml (kind : MarkerKind) (stop line : Nat)
      (block : IsBlock lines kind.tag.toList number stop) (behind : number < line)
      (before : line < stop) :
      Concerns lines number ⟨line, .invalidToml kind⟩

theorem Concerns.unique {problem : Problem} (first : Concerns lines number problem)
    (second : Concerns lines other problem) : number = other := by
  cases first with
  | unclosedMarker => cases second; rfl
  | unknownMarker => cases second; rfl
  | invalidPayload => cases second; rfl
  | unclosedFence kind stop line block behind before =>
    cases second with
    | unclosedFence _ last _ later after ahead =>
      exact block.start_unique later behind before after ahead
  | invalidToml kind stop line block behind before =>
    cases second with
    | invalidToml _ last _ later after ahead =>
      exact block.start_unique later behind before after ahead

theorem kind_of_decode {entries : Toml.Entries} {payload : Payload}
    (decoded : Payload.decode kind entries = .ok payload) : payload.kind = kind := by
  cases kind <;> simp only [Payload.decode, bind, Except.bind, pure, Except.pure] at decoded
  case prompt | sample => cases decoded; rfl
  all_goals
    split at decoded
    · cases decoded
    · cases decoded
      rfl

theorem tag_of_ofTag? {tag : String} (found : MarkerKind.ofTag? tag = some kind) :
    kind.tag = tag := by
  simpa using List.find?_some found

/-- What a block may give: a marker from its first to its last line, or a problem. -/
inductive Outcome (lines : List (List Char)) (start stop : Nat) : Except Problem Marker → Prop where
  | marker (found : Marker) (first : found.lineStart = start) (last : found.lineEnd = stop)
      (block : IsBlock lines found.kind.tag.toList start stop) :
      Outcome lines start stop (.ok found)
  | problem (found : Problem) (concerns : Concerns lines start found) :
      Outcome lines start stop (.error found)

theorem outcome_marker (block : IsBlock lines kind.tag.toList start (start + body.length + 1)) :
    Outcome lines start (start + body.length + 1) (Blueprint.marker kind start body) := by
  have within := fencesWithin_fences (start + 1) body
  cases fenced : fences (start + 1) body with
  | error line =>
    rw [fenced] at within
    obtain ⟨least, most⟩ := within
    rw [Blueprint.marker, fenced]
    exact .problem _ (.unclosedFence kind _ line block (by omega) (by omega))
  | ok found =>
    have decoded (table : Toml.Entries) :
        Outcome lines start (start + body.length + 1)
          ((Payload.decode kind table).mapError (⟨start, .invalidPayload kind ·⟩) >>=
            fun payload => .ok
              ⟨payload, table, (fenceOf? ["markdown", "md"] found).map Fence.text, start,
                start + body.length + 1⟩) := by
      cases decoding : Payload.decode kind table with
      | ok payload =>
        obtain rfl : payload.kind = kind := kind_of_decode decoding
        exact .marker _ rfl rfl block
      | error fault => exact .problem _ (.invalidPayload kind _ fault block)
    simp only [Blueprint.marker, fenced, Except.mapError, bind, Except.bind, pure, Except.pure]
    cases first : fenceOf? ["toml"] found with
    | none => exact decoded []
    | some fence =>
      cases written : Toml.parse? fence.text with
      | some table =>
        simp only [written]
        exact decoded table
      | none =>
        rw [fenced] at within
        obtain ⟨least, most⟩ := within fence (List.mem_of_find?_eq_some first)
        simp only [written]
        exact .problem _ (.invalidToml kind _ fence.start block (by omega) (by omega))

theorem Fits.outcome {block : Block} (fits : Fits lines block) :
    Outcome lines block.start block.stop block.read := by
  cases fits with
  | unclosed tag start outer opened endless =>
    rw [← String.toList_ofList (l := tag)] at opened endless
    exact .problem _ (.unclosedMarker _ outer opened endless)
  | closed tag start body block =>
    rw [← String.toList_ofList (l := tag)] at block
    cases known : MarkerKind.ofTag? (String.ofList tag) with
    | none =>
      simp only [Block.read, known]
      exact .problem _ (.unknownMarker _ _ block known)
    | some kind =>
      rw [← tag_of_ofTag? known] at block
      simp only [Block.read, known]
      exact outcome_marker block

theorem Fits.marker {block : Block} {marker : Marker} (fits : Fits lines block)
    (read : block.read = .ok marker) :
    marker.lineStart = block.start ∧ marker.lineEnd = block.stop ∧
      IsBlock lines marker.kind.tag.toList block.start block.stop := by
  have given := fits.outcome
  rw [read] at given
  cases given with
  | marker _ first last spanned => exact ⟨first, last, spanned⟩

theorem Fits.concerns {block : Block} {problem : Problem} (fits : Fits lines block)
    (read : block.read = .error problem) : Concerns lines block.start problem := by
  have given := fits.outcome
  rw [read] at given
  cases given with
  | problem _ concerns => exact concerns

theorem successes_eq_filterMap (results : List (Except ε α)) :
    successes results = results.filterMap Except.toOption := by
  induction results with
  | nil => rfl
  | cons result rest ih =>
    cases result with
    | ok value => rw [successes, ih]; rfl
    | error fault => rw [successes, ih]; rfl

theorem toOption_eq_some_iff {result : Except ε α} {value : α} :
    result.toOption = some value ↔ result = .ok value := by
  cases result <;> simp [Except.toOption]

theorem mem_successes_iff {results : List (Except ε α)} {value : α} :
    value ∈ successes results ↔ .ok value ∈ results := by
  induction results with
  | nil => simp [successes]
  | cons result rest ih => cases result <;> simp [successes, ih]

theorem mem_failures_iff {results : List (Except ε α)} {fault : ε} :
    fault ∈ failures results ↔ .error fault ∈ results := by
  induction results with
  | nil => simp [failures]
  | cons result rest ih => cases result <;> simp [failures, ih]

theorem countP_results (wanted : Except ε α → Bool) (results : List (Except ε α)) :
    (successes results).countP (fun value => wanted (.ok value)) +
        (failures results).countP (fun fault => wanted (.error fault)) =
      results.countP wanted := by
  induction results with
  | nil => rfl
  | cons result rest ih =>
    cases result <;> simp only [successes, failures, List.countP_cons] <;> omega

/-- The blocks of a text, from its first line on. -/
theorem cut_lines (lines : List (List Char)) : Cut lines 1 (blocks 1 lines) := by
  apply cut_blocks (startsAt_one lines)
  intro tag start stop block before
  obtain rfl : start = 0 := Nat.lt_one_iff.mp before
  have opened := block.opened
  simp [tagAt?, lineAt?] at opened

open Classical in
/-- How many markers start at the line, and how many problems are those of the block that it opens.
-/
noncomputable def outcomes (lines : List (List Char)) (blueprint : Blueprint) (number : Nat) :
    Nat :=
  blueprint.markers.countP (fun marker => marker.lineStart = number) +
    blueprint.problems.countP (fun problem => Concerns lines number problem)

/-- The blocks of the lines are accounted for.  Each marker spans a block of its kind, and each
problem is that of a block; every line that opens a block and does not lie inside another one gives
one of them. -/
structure Accounts (lines : List (List Char)) (blueprint : Blueprint) : Prop where
  spans : ∀ marker ∈ blueprint.markers, 1 ≤ marker.lineStart ∧ marker.lineEnd ≤ lines.length ∧
    IsBlock lines marker.kind.tag.toList marker.lineStart marker.lineEnd
  apart : blueprint.markers.Pairwise fun first second => first.lineEnd < second.lineStart
  once : ∀ number tag, tagAt? lines number = some tag →
    Inside lines number ∧ outcomes lines blueprint number = 0 ∨
      ¬ Inside lines number ∧ outcomes lines blueprint number = 1
  reported : ∀ problem ∈ blueprint.problems, ∃ number, Concerns lines number problem

theorem bounds_of_lineAt? {line : List Char} (located : lineAt? lines number = some line) :
    1 ≤ number ∧ number ≤ lines.length := by
  cases number with
  | zero => cases located
  | succ index =>
    obtain ⟨bound, _⟩ := List.getElem?_eq_some_iff.mp located
    omega

theorem IsBlock.bounds {tag : List Char} (block : IsBlock lines tag start stop) :
    1 ≤ start ∧ stop ≤ lines.length := by
  obtain ⟨line, located, _⟩ := Option.bind_eq_some_iff.mp block.opened
  obtain ⟨last, closing, _⟩ := block.closed.closes
  exact ⟨(bounds_of_lineAt? located).1, (bounds_of_lineAt? closing).2⟩

theorem Block.start_le_stop (block : Block) : block.start ≤ block.stop := by
  cases block with
  | closed tag start body => simp only [Block.start, Block.stop]; omega
  | unclosed tag start => exact Nat.le_refl _

theorem Cut.nodup {found : List Block} (cut : Cut lines number found) :
    (found.map Block.start).Nodup := by
  rw [List.Nodup, List.pairwise_map]
  apply cut.apart.imp
  intro first second apart same
  have := first.start_le_stop
  omega

/-- One block begins at a line that opens one outside all others, and none at any other line. -/
theorem Cut.count_start {found : List Block} (cut : Cut lines number found)
    (least : number ≤ other) :
    (Outer lines other → (found.map Block.start).count other = 1) ∧
      (¬ Outer lines other → (found.map Block.start).count other = 0) := by
  constructor
  · intro outer
    obtain ⟨block, member, rfl⟩ := cut.complete other least outer
    exact List.count_eq_one_of_mem cut.nodup (List.mem_map_of_mem member)
  · intro covered
    rw [List.count_eq_zero]
    intro member
    obtain ⟨block, inside, rfl⟩ := List.mem_map.mp member
    exact covered (cut.fits block inside).outer

/-- The markers and problems counted for a line are those of the block that begins there. -/
theorem outcomes_parse (path text : String) (number : Nat) :
    outcomes (splitLines text.toList) (Blueprint.parse path text) number =
      ((blocks 1 (splitLines text.toList)).map Block.start).count number := by
  classical
  have cut := cut_lines (splitLines text.toList)
  let wanted : Except Problem Marker → Bool
    | .ok marker => marker.lineStart = number
    | .error problem => Concerns (splitLines text.toList) number problem
  have counted := countP_results wanted ((blocks 1 (splitLines text.toList)).map Block.read)
  rw [List.countP_map] at counted
  rw [List.count, List.countP_map, outcomes]
  refine Eq.trans ?_ (counted.trans (List.countP_congr ?_))
  · simp only [wanted, Blueprint.parse]
  · intro block member
    have given := (cut.fits block member).outcome
    simp only [Function.comp_apply, beq_iff_eq]
    generalize block.read = result at given
    cases given with
    | marker found first last block => simp [wanted, first]
    | problem found concerns =>
      simp only [wanted, decide_eq_true_eq]
      exact ⟨concerns.unique, fun same => same ▸ concerns⟩

/-- The markers and problems of a blueprint account for the blocks of its text. -/
theorem parse_accounts (path text : String) :
    Accounts (splitLines text.toList) (Blueprint.parse path text) := by
  have cut := cut_lines (splitLines text.toList)
  refine ⟨?_, ?_, ?_, ?_⟩
  · intro marker member
    obtain ⟨block, inside, read⟩ := List.mem_map.mp (mem_successes_iff.mp member)
    obtain ⟨first, last, spanned⟩ := (cut.fits block inside).marker read
    rw [first, last]
    exact ⟨spanned.bounds.1, spanned.bounds.2, spanned⟩
  · simp only [Blueprint.parse, successes_eq_filterMap, List.filterMap_map]
    rw [List.pairwise_filterMap]
    apply cut.apart.imp_of_mem
    intro block behind inside after apart marker read next later
    have read : block.read = .ok marker := toOption_eq_some_iff.mp read
    have later : behind.read = .ok next := toOption_eq_some_iff.mp later
    rw [((cut.fits block inside).marker read).2.1, ((cut.fits behind after).marker later).1]
    exact apart
  · intro number tag opened
    obtain ⟨line, located, _⟩ := Option.bind_eq_some_iff.mp opened
    obtain ⟨one, none⟩ := cut.count_start (bounds_of_lineAt? located).1
    rw [outcomes_parse]
    by_cases inside : Inside (splitLines text.toList) number
    · exact .inl ⟨inside, none fun outer => (outer_iff.mp outer).2 inside⟩
    · exact .inr ⟨inside, one (outer_iff.mpr ⟨⟨tag, opened⟩, inside⟩)⟩
  · intro problem member
    obtain ⟨block, inside, read⟩ := List.mem_map.mp (mem_failures_iff.mp member)
    exact ⟨block.start, (cut.fits block inside).concerns read⟩

/-- The markers of the kinds are all the markers, each of them once. -/
theorem markersOf_partition (blueprint : Blueprint) :
    (MarkerKind.all.flatMap blueprint.markersOf).Perm blueprint.markers := by
  unfold markersOf
  induction blueprint.markers with
  | nil => rfl
  | cons marker rest ih =>
    have own : (MarkerKind.all.flatMap fun kind =>
        if marker.kind == kind then [marker] else []) = [marker] := by
      cases marker.kind <;> rfl
    have split (kind : MarkerKind) : (marker :: rest).filter (fun other => other.kind == kind) =
        (if marker.kind == kind then [marker] else []) ++
          rest.filter fun other => other.kind == kind := by
      rw [List.filter_cons]
      cases marker.kind == kind <;> rfl
    simp only [split]
    refine (List.flatMap_append_perm _ _ _).symm.trans ?_
    rw [own]
    exact ih.cons marker

end DocContract.Blueprint
