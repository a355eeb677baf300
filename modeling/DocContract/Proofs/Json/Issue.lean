import DocContract.Issue
import DocContract.Proofs.Json.Record

/-!
Issues in JSON.  The context of an issue stands among its other members, so an issue is read back
only if no key of the context is one of theirs.
-/

namespace DocContract

open DocContract.Json DocContract.Sorted

@[simp] theorem IssueCode.ofName?_name (code : IssueCode) : ofName? code.name = some code := by
  cases code <;> decide +kernel

@[simp] theorem Severity.ofName?_name (severity : Severity) :
    ofName? severity.name = some severity := by
  cases severity <;> rfl

namespace Issue

/-- Members beside which those of an issue can stand: their keys are other ones, and their values
are read back from text. -/
def Foreign (members : List (String × Json)) : Prop :=
  ∀ member ∈ members, member.1 ∉ ownKeys ∧ Exact member.2

@[simp] theorem foreign_nil : Foreign [] := nofun

@[simp] theorem foreign_cons (key : String) (value : Json) (more : List (String × Json)) :
    Foreign ((key, value) :: more) ↔ (key ∉ ownKeys ∧ Exact value) ∧ Foreign more :=
  List.forall_mem_cons

/-- An issue whose context keeps apart from its other members, with a line that is read back. -/
structure Lossless (issue : Issue) : Prop where
  line : ∀ line ∈ issue.line, line < UInt64.size
  context : Foreign issue.context.entries

/-- An issue that is recovered from its JSON value, and from both ways to write that as text. -/
structure SurvivesJson (issue : Issue) : Prop where
  apart : ∀ key ∈ issue.context.keys, key ∉ ownKeys
  value : ofJson? issue.toJson = some issue
  compact : (parse? issue.toJson.compact).bind ofJson? = some issue
  indented : (parse? (issue.toJson.indented ++ "\n")).bind ofJson? = some issue

variable {issue : Issue} {members : List (String × Json)} {key : String}

theorem lossless_ofEntries {severity : Severity} {code : IssueCode} {path message : String}
    {line : Option Nat} (counted : ∀ number ∈ line, number < UInt64.size)
    (foreign : Foreign members) : (ofEntries severity code path line message members).Lossless where
  line := counted
  context entry member := foreign entry (KeyMap.mem_entries_ofList member)

theorem lossless_at {severity : Severity} {code : IssueCode} {path message : String} {line : Nat}
    (small : line < UInt64.size) (foreign : Foreign members) :
    (ofEntries severity code path (some line) message members).Lossless :=
  lossless_ofEntries (by simpa using small) foreign

theorem members_eq (issue : Issue) :
    issue.members =
      [("code", .string issue.code.name), ("severity", .string issue.severity.name),
        ("message", .string issue.message), ("path", .string issue.path)] ++
      optionalMember "line" Json.nat issue.line ++ issue.context.entries := rfl

/-- Whatever the context holds, what is found first under the keys of an issue is its own. -/
theorem member?_members (issue : Issue) :
    member? issue.members "code" = some (.string issue.code.name) ∧
      member? issue.members "severity" = some (.string issue.severity.name) ∧
      member? issue.members "message" = some (.string issue.message) ∧
      member? issue.members "path" = some (.string issue.path) := by
  simp [members_eq, member?, List.lookup_cons]

theorem Foreign.filter_own (foreign : Foreign members) (own : key ∈ ownKeys) :
    members.filter (fun member => member.1 == key) = [] := by
  refine List.filter_eq_nil_iff.mpr fun member inside same => (foreign member inside).1 ?_
  rwa [eq_of_beq same]

/-- The members that are kept as the context are those that it was written for. -/
theorem Foreign.filter_members (foreign : Foreign issue.context.entries) :
    issue.members.filter (fun member => !ownKeys.contains member.1) = issue.context.entries := by
  have kept : issue.context.entries.filter (fun member => !ownKeys.contains member.1) =
      issue.context.entries := by
    refine List.filter_eq_self.mpr fun member inside => ?_
    simpa using (foreign member inside).1
  rw [members_eq, List.filter_append, List.filter_append, kept]
  cases issue.line <;> simp [optionalMember, ownKeys]

theorem Foreign.fields?_toJson (foreign : Foreign issue.context.entries) :
    fields? ownKeys issue.toJson =
      some [some (.string issue.code.name), some (.string issue.severity.name),
        some (.string issue.message), some (.string issue.path), issue.line.map Json.nat] := by
  have own : ∀ key ∈ ownKeys,
      issue.context.entries.filter (fun member => member.1 == key) = [] :=
    fun key member => foreign.filter_own member
  simp only [ownKeys, List.forall_mem_cons] at own
  rw [toJson, members_eq, fields?_object]
  simp [ownKeys, own]

theorem Lossless.optional?_line (lossless : issue.Lossless) :
    optional? (below? UInt64.size) (issue.line.map Json.nat) = some issue.line := by
  have small := lossless.line
  cases found : issue.line with
  | none => rfl
  | some line => simp [optional?, below?, Json.nat, small line found]

theorem Lossless.ofJson?_toJson (lossless : issue.Lossless) :
    ofJson? issue.toJson = some issue := by
  have fields := lossless.context.fields?_toJson
  have context : KeyMap.ofList (issue.members.filter fun member => !ownKeys.contains member.1) =
      issue.context := by
    rw [lossless.context.filter_members, KeyMap.ofList_entries]
  rw [toJson] at fields ⊢
  simp only [ofJson?, fields, context, variant?, text?_string, lossless.optional?_line,
    Option.bind_some, IssueCode.ofName?_name, Severity.ofName?_name, bind]

theorem Lossless.exact_toJson (lossless : issue.Lossless) : Exact issue.toJson := by
  have line : ExactMembers (optionalMember "line" Json.nat issue.line) := by
    intro member inside
    obtain ⟨number, found, rfl⟩ := Option.map_eq_some_iff.mp (Option.mem_toList.mp inside)
    exact exact_nat (lossless.line number found)
  have context : ExactMembers issue.context.entries :=
    fun member inside => (lossless.context member inside).2
  rw [toJson, members_eq]
  exact exact_object (by simp [line, context])

theorem Lossless.survivesJson (lossless : issue.Lossless) : issue.SurvivesJson where
  apart key member := by
    obtain ⟨value, inside⟩ := KeyMap.mem_keys_iff.mp member
    exact (lossless.context (key, value) inside).1
  value := lossless.ofJson?_toJson
  compact := by
    rw [parse?_compact lossless.exact_toJson, Option.bind_some, lossless.ofJson?_toJson]
  indented := by
    rw [parse?_indented lossless.exact_toJson, Option.bind_some, lossless.ofJson?_toJson]

end Issue

end DocContract
