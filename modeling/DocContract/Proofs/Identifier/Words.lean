import DocContract.Proofs.Outline.Fencing
import DocContract.Proofs.Outline.Scanning
import DocContract.Proofs.Text.Separated
import Mathlib.Data.Nat.Find

/-!
The identifiers of a line, read off its words.  A word that starts with an identifier is reported by
the longest one that it starts with.
-/

namespace DocContract.Identifier

open DocContract.Text DocContract.Outline

variable {chars id other word rest line : List Char} {found : List (List Char)} {offset : Nat}
variable {before : Option Char} {c : Char}

/-- The text is an identifier as documents write it: `cpt` and two or more runs of small letters and
digits, with dashes between them. -/
def IsWritten (id : List Char) : Prop :=
  ∃ parts, 2 ≤ parts.length ∧ (∀ part ∈ parts, part ≠ [] ∧ ∀ c ∈ part, isSlugChar c = true) ∧
    id = opening ++ joinWith '-' parts

/-- The identifier is the longest one that the text starts with. -/
structure Leads (chars id : List Char) : Prop where
  starts : id <+: chars
  written : IsWritten id
  longest : ∀ other, other <+: chars → IsWritten other → other.length ≤ id.length

theorem IsWritten.leads (written : IsWritten id) : Leads id id where
  starts := List.prefix_rfl
  written := written
  longest _ starts _ := starts.length_le

theorem Leads.unique (first : Leads chars id) (second : Leads chars other) : id = other := by
  have least := second.longest id first.starts first.written
  have most := first.longest other second.starts second.written
  exact (List.prefix_of_prefix_length_le first.starts second.starts least).eq_of_length_le most

/-- A text that starts with an identifier is read at least as far as that goes. -/
theorem exists_idAt? (starts : id <+: chars) (written : IsWritten id) :
    ∃ read, idAt? chars = some read ∧ id.length ≤ read.length := by
  obtain ⟨rest, rfl⟩ := starts
  obtain ⟨parts, enough, runs, rfl⟩ := written
  have nonempty : parts ≠ [] := by
    rintro rfl
    cases enough
  obtain ⟨read, after, found, count, size⟩ :=
    exists_separated? nonempty runs (by decide : isSlugChar '-' = false) rest
  have behind : afterOpening? opening (opening ++ joinWith '-' parts ++ rest) =
      some (joinWith '-' parts ++ rest) :=
    afterOpening?_eq_some_iff.mpr (List.append_assoc ..)
  refine ⟨opening ++ joinWith '-' read, ?_, ?_⟩
  · rw [idAt?, behind]
    simp [found, Nat.le_trans enough count]
  · rw [List.length_append, List.length_append]
    omega

theorem leads_of_idAt? (found : idAt? chars = some id) : Leads chars id := by
  obtain ⟨rest, behind, parted⟩ := Option.bind_eq_some_iff.mp found
  obtain ⟨⟨parts, after⟩, read, made⟩ := Option.bind_eq_some_iff.mp parted
  simp only [Option.ite_none_right_eq_some, Option.some.injEq] at made
  obtain ⟨enough, rfl⟩ := made
  have cut := separates_of_separated? read
  obtain rfl := afterOpening?_eq_some_iff.mp behind
  refine ⟨?_, ⟨parts, enough, cut.runs, rfl⟩, ?_⟩
  · rw [cut.whole, ← List.append_assoc]
    exact List.prefix_append _ _
  · intro other starts written
    obtain ⟨longer, same, size⟩ := exists_idAt? starts written
    obtain rfl := Option.some.inj (found.symm.trans same)
    exact size

theorem idAt?_eq_some_iff : idAt? chars = some id ↔ Leads chars id := by
  refine ⟨leads_of_idAt?, fun leads => ?_⟩
  obtain ⟨read, found, _⟩ := exists_idAt? leads.starts leads.written
  rw [found, (leads_of_idAt? found).unique leads]

instance (id : List Char) : Decidable (IsWritten id) :=
  decidable_of_iff (idAt? id = some id) <| by
    rw [idAt?_eq_some_iff]
    exact ⟨Leads.written, IsWritten.leads⟩

def leadingId? (word : List Char) : Option (List Char) :=
  let size := Nat.findGreatest (fun size => IsWritten (word.take size)) word.length
  if IsWritten (word.take size) then some (word.take size) else none

theorem leads_of_leadingId? (found : leadingId? word = some id) : Leads word id := by
  simp only [leadingId?, Option.ite_none_right_eq_some, Option.some.injEq] at found
  obtain ⟨written, rfl⟩ := found
  refine ⟨List.take_prefix _ _, written, fun other starts own => ?_⟩
  have taken : word.take other.length = other := (List.prefix_iff_eq_take.mp starts).symm
  have least : other.length ≤
      Nat.findGreatest (fun size => IsWritten (word.take size)) word.length :=
    Nat.le_findGreatest starts.length_le (taken.symm ▸ own)
  rw [List.length_take]
  exact Nat.le_min.mpr ⟨least, starts.length_le⟩

theorem idAt?_eq_leadingId? (word : List Char) : idAt? word = leadingId? word := by
  refine Option.ext fun id => ?_
  rw [idAt?_eq_some_iff]
  refine ⟨fun leads => ?_, fun found => leads_of_leadingId? found⟩
  have taken : word.take id.length = id := (List.prefix_iff_eq_take.mp leads.starts).symm
  have written : IsWritten (word.take
      (Nat.findGreatest (fun size => IsWritten (word.take size)) word.length)) :=
    Nat.findGreatest_spec (P := fun size => IsWritten (word.take size)) leads.starts.length_le
      (taken.symm ▸ leads.written)
  have found : leadingId? word = some _ := if_pos written
  rw [found, (leads_of_leadingId? found).unique leads]

theorem leadingId?_eq_some_iff : leadingId? word = some id ↔ Leads word id := by
  rw [← idAt?_eq_leadingId?, idAt?_eq_some_iff]

/-- The words of the line: the runs of letters, digits, underscores and dashes. -/
def words (line : List Char) : List (List Char) :=
  runs isWordChar line

theorem IsWritten.isWordChar (written : IsWritten id) : ∀ c ∈ id, isWordChar c = true := by
  obtain ⟨parts, _, runs, rfl⟩ := written
  have plain (c : Char) (inside : isSlugChar c = true) : Identifier.isWordChar c = true := by
    simp only [isSlugChar, Bool.or_eq_true] at inside
    rcases inside with letter | digit
    · simp [Identifier.isWordChar, isAsciiAlphanumeric, isAsciiLetter, letter]
    · simp [Identifier.isWordChar, isAsciiAlphanumeric, digit]
  refine List.forall_mem_append.mpr ⟨List.all_eq_true.mp rfl, fun c member => ?_⟩
  rcases mem_joinWith member with rfl | ⟨part, listed, inside⟩
  · rfl
  · exact plain c ((runs part listed).2 c inside)

theorem IsWritten.ne_nil (written : IsWritten id) : id ≠ [] := by
  obtain ⟨parts, _, _, rfl⟩ := written
  exact List.cons_ne_nil _ _

theorem leadingId?_append (members : ∀ c ∈ word, isWordChar c = true)
    (ended : ∀ c ∈ rest.head?, isWordChar c = false) :
    leadingId? (word ++ rest) = leadingId? word := by
  have within {id : List Char} (written : IsWritten id) : id <+: word ++ rest ↔ id <+: word := by
    refine ⟨fun starts => ?_, fun starts => starts.trans (List.prefix_append _ _)⟩
    obtain ⟨tail, whole⟩ := starts
    rcases List.append_eq_append_iff.mp whole with ⟨more, rfl, _⟩ | ⟨beyond, rfl, rfl⟩
    · exact List.prefix_append _ _
    · cases beyond with
      | nil => simp
      | cons c more =>
        have inside := written.isWordChar c (by simp)
        exact absurd inside (by simp [ended c rfl])
  refine Option.ext fun id => ?_
  rw [leadingId?_eq_some_iff, leadingId?_eq_some_iff]
  constructor
  · intro leads
    exact ⟨(within leads.written).mp leads.starts, leads.written, fun other starts written =>
      leads.longest other ((within written).mpr starts) written⟩
  · intro leads
    exact ⟨(within leads.written).mpr leads.starts, leads.written, fun other starts written =>
      leads.longest other ((within written).mp starts) written⟩

theorem idsFrom_other (outside : isWordChar c = false) :
    idsFrom offset before (c :: rest) = idsFrom (offset + 1) (some c) rest := by
  have none : idAt? (c :: rest) = none := by
    refine Option.eq_none_iff_forall_ne_some.mpr fun id found => ?_
    have leads := idAt?_eq_some_iff.mp found
    obtain ⟨d, more, rfl⟩ := List.exists_cons_of_ne_nil leads.written.ne_nil
    obtain ⟨rfl, _⟩ := List.cons_prefix_cons.mp leads.starts
    exact Bool.false_ne_true (outside.symm.trans (leads.written.isWordChar d List.mem_cons_self))
  rw [idsFrom, none]
  exact ite_self _

/-- Inside a word no identifier begins. -/
theorem exists_idsFrom_inside (members : ∀ c ∈ word, isWordChar c = true)
    (inside : isWordChar c = true) (offset : Nat) (rest : List Char) :
    ∃ later last, idsFrom offset (some c) (word ++ rest) = idsFrom later (some last) rest := by
  induction word generalizing offset c with
  | nil => exact ⟨offset, c, rfl⟩
  | cons next more ih =>
    obtain ⟨own, others⟩ := List.forall_mem_cons.mp members
    obtain ⟨later, last, same⟩ := ih others own (offset + 1)
    refine ⟨later, last, ?_⟩
    rw [List.cons_append, idsFrom, ← same]
    exact if_pos inside

/-- From left to right, each word gives the longest identifier that it starts with. -/
theorem map_snd_idsFrom (cut : HasRuns isWordChar line found) (offset : Nat)
    (before : Option Char)
    (clear : ∀ c ∈ line.head?, isWordChar c = true → before.any isWordChar = false) :
    (idsFrom offset before line).map Prod.snd = found.filterMap leadingId? := by
  induction cut generalizing offset before with
  | nil => rfl
  | other outside _ ih =>
    rw [idsFrom_other outside]
    exact ih _ _ fun c _ _ => outside
  | @run word rest found nonempty members ended _ ih =>
    obtain ⟨c, more, rfl⟩ := List.exists_cons_of_ne_nil nonempty
    obtain ⟨own, others⟩ := List.forall_mem_cons.mp members
    have free : before.any isWordChar = false := clear c rfl own
    obtain ⟨later, last, skip⟩ := exists_idsFrom_inside others own (offset + 1) rest
    have behind : (idsFrom later (some last) rest).map Prod.snd = found.filterMap leadingId? :=
      ih later _ fun d first inside => absurd inside (by simp [ended d first])
    have whole : idAt? (c :: (more ++ rest)) = leadingId? (c :: more) := by
      rw [idAt?_eq_leadingId?, ← List.cons_append, leadingId?_append members ended]
    rw [List.cons_append, idsFrom, skip, whole, if_neg (by simp [free]), List.filterMap_cons]
    cases leadingId? (c :: more) with
    | none => exact behind
    | some id => rw [List.map_cons, behind]

def idsOnLine (text : String) (number : Nat) : List String :=
  ((scanIdentifiers text).filter (·.line = number)).map (·.id)

theorem map_snd_withRoles (definedAfter : Option Nat) (found : List (Nat × List Char)) :
    (withRoles definedAfter found).map Prod.snd = found.map Prod.snd := by
  induction found generalizing definedAfter with
  | nil => rfl
  | cons entry rest ih =>
    rw [withRoles]
    split <;> rw [List.map_cons, ih, List.map_cons]

theorem map_id_mentionsOfLine (number : Nat) (line : List Char) :
    (mentionsOfLine number line).map (·.id) =
      ((words line).filterMap leadingId?).map String.ofList := by
  have ids := map_snd_idsFrom (hasRuns_runs isWordChar line) 0 none fun _ _ _ => rfl
  rw [words, ← ids, ← map_snd_withRoles (indexOf? definitionMark line), List.map_map,
    mentionsOfLine, List.map_map]
  rfl

theorem idsOnLine_eq (text : String) (number : Nat) :
    idsOnLine text number =
      ((outsideFences none 1 (splitLines text.toList)).filter (·.1 = number)).flatMap
        fun entry => ((words entry.2).filterMap leadingId?).map String.ofList := by
  rw [idsOnLine, scanIdentifiers, mentionsOfLines]
  induction outsideFences none 1 (splitLines text.toList) with
  | nil => rfl
  | cons entry rest ih =>
    obtain ⟨place, line⟩ := entry
    have placed : ∀ mention ∈ mentionsOfLine place line, mention.line = place := by
      intro mention member
      obtain ⟨_, _, rfl⟩ := List.mem_map.mp member
      rfl
    rw [List.flatMap_cons, List.filter_append, List.map_append, ih]
    by_cases here : place = number
    · rw [List.filter_eq_self.mpr fun mention member => by simp [placed mention member, here],
        map_id_mentionsOfLine, List.filter_cons_of_pos (by simp [here]), List.flatMap_cons]
    · rw [List.filter_eq_nil_iff.mpr fun mention member => by simp [placed mention member, here],
        List.filter_cons_of_neg (by simp [here])]
      rfl

theorem idsOnLine_line {text : String} {index : Nat}
    (stands : (splitLines text.toList)[index]? = some line) :
    idsOnLine text (index + 1) =
      if Outside (splitLines text.toList) index then
        ((words line).filterMap leadingId?).map String.ofList
      else [] := by
  rw [idsOnLine_eq, Nat.add_comm, filter_outsideFences_none stands]
  split
  · exact List.flatMap_singleton ..
  · rfl

/-- Reporting words by what they start with is reporting those that are identifiers if no other
starts with one. -/
theorem filterMap_leadingId?_eq_iff (found : List (List Char)) :
    found.filterMap leadingId? = found.filter (IsWritten ·) ↔
      ∀ word ∈ found, ∀ id, id <+: word → IsWritten id → IsWritten word := by
  induction found with
  | nil => simp
  | cons word rest ih =>
    rw [List.forall_mem_cons, ← ih]
    by_cases written : IsWritten word
    · have whole : leadingId? word = some word := leadingId?_eq_some_iff.mpr written.leads
      rw [List.filterMap_cons_some whole, List.filter_cons_of_pos (by simpa using written)]
      simp [written]
    rw [List.filter_cons_of_neg (by simpa using written)]
    cases leading : leadingId? word with
    | none =>
      rw [List.filterMap_cons_none leading]
      have no : ∀ id, id <+: word → IsWritten id → IsWritten word := by
        intro id starts own
        obtain ⟨read, found, _⟩ := exists_idAt? starts own
        rw [idAt?_eq_leadingId?, leading] at found
        cases found
      exact (and_iff_right no).symm
    | some id =>
      rw [List.filterMap_cons_some leading]
      have leads := leadingId?_eq_some_iff.mp leading
      -- One more word is reported than there are identifiers, whatever the other words are.
      have fewer : (rest.filter (IsWritten ·)).length ≤ (rest.filterMap leadingId?).length := by
        rw [← List.countP_eq_length_filter, List.length_filterMap_eq_countP]
        refine List.countP_mono_left fun word _ written => ?_
        rw [leadingId?_eq_some_iff.mpr (of_decide_eq_true written).leads]
        rfl
      refine iff_of_false (fun same => ?_) fun all => written (all.1 id leads.starts leads.written)
      have size := congrArg List.length same
      rw [List.length_cons] at size
      omega

/-- On a line of a fence nothing is reported, and on another one, from left to right, the longest
identifiers that its words start with.  These are the words that are identifiers exactly if no other
word of the line starts with one. -/
theorem idsOnLine_words (text : String) (index : Fin (splitLines text.toList).length) :
    let lines := splitLines text.toList
    let reported := idsOnLine text (index + 1)
    let leading := ((words lines[index]).filterMap leadingId?).map String.ofList
    let whole := ((words lines[index]).filter (IsWritten ·)).map String.ofList
    (¬ Outside lines index → reported = []) ∧
      (Outside lines index → reported = leading ∧
        (reported = whole ↔
          ∀ word ∈ words lines[index], ∀ id, id <+: word → IsWritten id → IsWritten word)) := by
  intro lines reported leading whole
  have read : reported = if Outside lines index then leading else [] :=
    idsOnLine_line (List.getElem?_eq_getElem index.isLt)
  refine ⟨fun inside => by rw [read, if_neg inside], fun outside => ?_⟩
  rw [if_pos outside] at read
  refine ⟨read, ?_⟩
  rw [read, ← filterMap_leadingId?_eq_iff]
  exact (List.map_injective_iff.mpr fun _ _ => String.ofList_injective).eq_iff

/-- The word is no identifier, but its part in front of the underscore is reported. -/
theorem idsOnLine_overhang :
    Outside (splitLines "See cpt-app-fr-login_v2.\n".toList) 0 ∧
      (words "See cpt-app-fr-login_v2.".toList).filter (IsWritten ·) = [] ∧
      idsOnLine "See cpt-app-fr-login_v2.\n" 1 = ["cpt-app-fr-login"] := by
  decide +kernel

end DocContract.Identifier
