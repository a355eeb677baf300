import DocContract.Command.Run
import DocContract.Proofs.Files.Store
import DocContract.Proofs.Schema.RoundTrip
import Mathlib.Data.List.Perm.Basic

/-!
Commands in a tree of files: those that fail leave it as it is, and compiling once more, in whatever
order the blueprints are given, finds the schema in place.
-/

namespace DocContract.Command

open DocContract.FileStore

variable {store after : FileStore} {request : CompileRequest} {blueprints : List Blueprint}
  {paths : List String} {path : String} {schema : Schema} {changed : Bool}

/-- How the request ends and the tree that it leaves. -/
def Request.runIn (request : Request) (store : FileStore) : Outcome × FileStore :=
  (request.outcome : StateM FileStore Outcome).run store

theorem Request.runIn_of_ok {request : Request} {outcome : Outcome}
    (run : (request.run : ExceptT Failure (StateM FileStore) Outcome).run.run store =
      (.ok outcome, after)) : request.runIn store = (outcome, after) := by
  rw [Request.runIn, Request.outcome, StateT.run_bind, run]
  rfl

theorem Request.runIn_of_error {request : Request} {failure : Failure}
    (run : (request.run : ExceptT Failure (StateM FileStore) Outcome).run.run store =
      (.error failure, after)) : request.runIn store = (failure.outcome, after) := by
  rw [Request.runIn, Request.outcome, StateT.run_bind, run]
  rfl

/-- The blueprints are those in the files at the paths. -/
def ReadsAs (store : FileStore) : List String → List Blueprint → Prop :=
  List.Forall₂ fun path blueprint =>
    ∃ text, store.readText path = .ok text ∧ Blueprint.parse path text = blueprint

theorem ReadsAs.map_path (reads : ReadsAs store paths blueprints) :
    blueprints.map Blueprint.path = paths := by
  induction reads with
  | nil => rfl
  | cons read _ ih =>
    obtain ⟨text, -, rfl⟩ := read
    rw [List.map_cons, ih]
    rfl

theorem run_loadBlueprint (store : FileStore) (path : String) :
    (loadBlueprint path : ExceptT Failure (StateM FileStore) Blueprint).run.run store =
      (((store.readText path).mapError (.unreadableBlueprint path)).map (Blueprint.parse path),
        store) := by
  rw [loadBlueprint, ExceptT.run_bind, StateT.run_bind, run_readText]
  cases store.readText path <;> rfl

theorem run_loadBlueprints (reads : ReadsAs store paths blueprints) :
    (paths.mapM loadBlueprint : ExceptT Failure (StateM FileStore) (List Blueprint)).run.run
      store = (.ok blueprints, store) := by
  induction reads with
  | nil => rfl
  | @cons path _ _ _ read _ ih =>
    obtain ⟨text, held, rfl⟩ := read
    have first := run_loadBlueprint store path
    rw [held] at first
    rw [List.mapM_cons, run_bind_ok first, run_bind_ok ih]
    rfl

theorem run_loadBlueprints_unreadable {fault : FileFault} (member : path ∈ paths)
    (unreadable : store.readText path = .error fault) :
    ∃ failure,
      (paths.mapM loadBlueprint : ExceptT Failure (StateM FileStore) (List Blueprint)).run.run
        store = (.error failure, store) := by
  induction paths with
  | nil => cases member
  | cons first more ih =>
    rw [List.mapM_cons]
    have run := run_loadBlueprint store first
    cases held : store.readText first with
    | error fault =>
      rw [held] at run
      exact ⟨_, run_bind_error run _⟩
    | ok text =>
      rw [held] at run
      have later : path ∈ more := by
        rcases List.mem_cons.mp member with rfl | later
        · rw [held] at unreadable
          cases unreadable
        · exact later
      obtain ⟨failure, rest⟩ := ih later
      exact ⟨failure, by rw [run_bind_ok run, run_bind_error rest]⟩

theorem readsAs_or_unreadable (store : FileStore) (paths : List String) :
    (∃ blueprints, ReadsAs store paths blueprints) ∨
      ∃ path ∈ paths, ∃ fault, store.readText path = .error fault := by
  induction paths with
  | nil => exact .inl ⟨[], .nil⟩
  | cons path more ih =>
    cases held : store.readText path with
    | error fault => exact .inr ⟨path, List.mem_cons_self, fault, held⟩
    | ok text =>
      rcases ih with ⟨blueprints, reads⟩ | ⟨other, member, unreadable⟩
      · exact .inl ⟨_, .cons ⟨text, held, rfl⟩ reads⟩
      · exact .inr ⟨other, List.mem_cons_of_mem _ member, unreadable⟩

/-- Saving a schema looks for its text first. -/
theorem run_save (store : FileStore) (path : String) (schema : Schema) :
    (schema.save path : ExceptT SchemaFileFault (StateM FileStore) Bool).run.run store =
      if (store.readText path).toOption = some schema.render then (.ok false, store)
      else
        (do
          ExceptT.adapt (.unwritable path) (FileAccess.writeInFolders path schema.render)
          return true : ExceptT SchemaFileFault (StateM FileStore) Bool).run.run store := by
  have read : (FileAccess.readText path : ExceptT FileFault (StateM FileStore) String).run.run
      store = (store.readText path, store) := rfl
  rw [Schema.save, run_bind_ok (run_attempt read)]
  split <;> rfl

theorem save_of_held (held : store.readText path = .ok schema.render) :
    (schema.save path : ExceptT SchemaFileFault (StateM FileStore) Bool).run.run store =
      (.ok false, store) := by
  rw [run_save, held]
  exact if_pos rfl

theorem written_of_save
    (saved : (schema.save path : ExceptT SchemaFileFault (StateM FileStore) Bool).run.run store =
      (.ok changed, after)) : Written store path schema.render after := by
  rw [run_save] at saved
  split at saved
  · next found =>
    cases saved
    cases held : store.readText path with
    | error fault =>
      rw [held] at found
      cases found
    | ok text =>
      rw [held] at found
      cases found
      exact ⟨held, .refl _ _⟩
  · rcases run : (FileAccess.writeInFolders path schema.render :
      ExceptT FileFault (StateM FileStore) Unit).run.run store with ⟨fault | value, middle⟩
    · rw [run_bind_error (run_adapt _ run)] at saved
      cases saved
    · rw [run_bind_ok (run_adapt _ run)] at saved
      cases saved
      exact written_of_writeInFolders run

def sound (blueprints : List Blueprint) : List Blueprint :=
  blueprints.filter fun blueprint => !blueprint.hasErrors

def faulty (blueprints : List Blueprint) : List Blueprint :=
  blueprints.filter (·.hasErrors)

/-- How compiling these blueprints ends when the schema is in its file. -/
def CompileRequest.ended (request : CompileRequest) (changed : Bool) (schema : Schema)
    (blueprints : List Blueprint) : Outcome :=
  let summary : CompileSummary := ⟨request.out, changed, schema, faulty blueprints⟩
  { exitCode := if (faulty blueprints).isEmpty then 0 else 1
    output := printed request.json summary.toJson summary.lines }

theorem runIn_compile_unreadable {fault : FileFault} (member : path ∈ request.blueprints)
    (unreadable : store.readText path = .error fault) :
    ∃ failure : Failure, (Request.compile request).runIn store = (failure.outcome, store) := by
  obtain ⟨failure, run⟩ := run_loadBlueprints_unreadable member unreadable
  exact ⟨failure, Request.runIn_of_error (run_bind_error run _)⟩

theorem run_compile {result : Except CompileFault Schema}
    (compiled : Schema.compile (sound blueprints) = result) (store : FileStore) :
    (ExceptT.mk (pure ((Schema.compile (blueprints.filter fun blueprint =>
      !blueprint.hasErrors)).mapError .uncompilable)) :
      ExceptT Failure (StateM FileStore) Schema).run.run store =
        (result.mapError .uncompilable, store) := by
  rw [← compiled]
  rfl

theorem runIn_compile_uncompilable {fault : CompileFault}
    (reads : ReadsAs store request.blueprints blueprints)
    (refused : Schema.compile (sound blueprints) = .error fault) :
    (Request.compile request).runIn store = ((Failure.uncompilable fault).outcome, store) := by
  apply Request.runIn_of_error
  rw [Request.run, CompileRequest.run, run_bind_ok (run_loadBlueprints reads),
    run_bind_error (run_compile refused store)]

theorem runIn_compile_saved (reads : ReadsAs store request.blueprints blueprints)
    (compiled : Schema.compile (sound blueprints) = .ok schema)
    (saved : (schema.save request.out :
      ExceptT SchemaFileFault (StateM FileStore) Bool).run.run store = (.ok changed, after)) :
    (Request.compile request).runIn store =
      (request.ended changed schema blueprints, after) := by
  apply Request.runIn_of_ok
  rw [Request.run, CompileRequest.run, run_bind_ok (run_loadBlueprints reads),
    run_bind_ok (run_compile compiled store), run_bind_ok (run_adapt _ saved)]
  rfl

theorem runIn_compile_unsaved {fault : SchemaFileFault}
    (reads : ReadsAs store request.blueprints blueprints)
    (compiled : Schema.compile (sound blueprints) = .ok schema)
    (unsaved : (schema.save request.out :
      ExceptT SchemaFileFault (StateM FileStore) Bool).run.run store = (.error fault, after)) :
    (Request.compile request).runIn store = ((Failure.schemaFile fault).outcome, after) := by
  apply Request.runIn_of_error
  rw [Request.run, CompileRequest.run, run_bind_ok (run_loadBlueprints reads),
    run_bind_ok (run_compile compiled store), run_bind_error (run_adapt _ unsaved)]

theorem saved_of_exitCode {outcome : Outcome}
    (ran : (Request.compile request).runIn store = (outcome, after))
    (succeeded : outcome.exitCode ≠ 2) :
    ∃ blueprints schema changed, ReadsAs store request.blueprints blueprints ∧
      Schema.compile (sound blueprints) = .ok schema ∧
      (schema.save request.out : ExceptT SchemaFileFault (StateM FileStore) Bool).run.run store =
        (.ok changed, after) ∧
      outcome = request.ended changed schema blueprints := by
  have notFailed (failure : Failure) (tree : FileStore) :
      (Request.compile request).runIn store ≠ (failure.outcome, tree) := by
    intro failed
    rw [ran] at failed
    cases failed
    exact succeeded rfl
  rcases readsAs_or_unreadable store request.blueprints with
    ⟨blueprints, reads⟩ | ⟨path, member, fault, unreadable⟩
  · cases compiled : Schema.compile (sound blueprints) with
    | error fault => exact absurd (runIn_compile_uncompilable reads compiled) (notFailed _ _)
    | ok schema =>
      rcases saved : (schema.save request.out :
        ExceptT SchemaFileFault (StateM FileStore) Bool).run.run store with ⟨fault | changed, tree⟩
      · exact absurd (runIn_compile_unsaved reads compiled saved) (notFailed _ _)
      · obtain ⟨rfl, rfl⟩ := Prod.mk.inj (ran.symm.trans (runIn_compile_saved reads compiled saved))
        exact ⟨blueprints, schema, changed, reads, compiled, saved, rfl⟩
  · obtain ⟨failure, failed⟩ := runIn_compile_unreadable member unreadable
    exact absurd failed (notFailed _ _)

theorem ReadsAs.rearrange {others : List String} (reads : ReadsAs store paths blueprints)
    (perm : others.Perm paths) :
    ∃ rereads, ReadsAs store others rereads ∧ rereads.Perm blueprints :=
  List.perm_comp_forall₂ perm reads

theorem ReadsAs.spared {written : Place → Prop} (reads : ReadsAs store paths blueprints)
    (spares : Spares written store after)
    (apart : ∀ path ∈ paths, ∀ place, after.locate path.toList = .ok place → ¬ written place) :
    ReadsAs after paths blueprints := by
  refine List.Forall₂.imp ?_ ((List.forall₂_and_left _ _).mpr ⟨apart, reads⟩)
  rintro path blueprint ⟨apart, text, held, parsed⟩
  exact ⟨text, spares.readText held apart, parsed⟩

theorem ReadsAs.onePerPath (reads : ReadsAs store paths blueprints)
    (distinct : (paths.map Pathname.steps).Nodup) : OnePerPath (sound blueprints) := by
  intro first member second other same
  rw [← reads.map_path, List.map_map] at distinct
  exact List.inj_on_of_nodup_map distinct (List.mem_of_mem_filter member)
    (List.mem_of_mem_filter other) same

theorem compile_sound_of_perm {rereads : List Blueprint} (perm : rereads.Perm blueprints)
    (unique : OnePerPath (sound blueprints)) :
    Schema.compile (sound rereads) = Schema.compile (sound blueprints) := by
  have ordered : Compile.ordered (sound blueprints) = Compile.ordered (sound rereads) :=
    Compile.ordered_eq_of_perm (perm.symm.filter _) unique
  simp only [Schema.compile, ordered]

theorem exitCode_ended_of_perm {rereads : List Blueprint} (perm : rereads.Perm blueprints)
    (schema : Schema) (first second : Bool) :
    (request.ended first schema rereads).exitCode =
      (request.ended second schema blueprints).exitCode := by
  have faults : (faulty rereads).isEmpty = (faulty blueprints).isEmpty :=
    (perm.filter _).isEmpty_eq
  simp only [CompileRequest.ended, faults]

/-- What a compile command that has ended well leaves behind. -/
structure Succeeds (store : FileStore) (request : CompileRequest) (outcome : Outcome)
    (after : FileStore) (blueprints : List Blueprint) (schema : Schema) : Prop where
  /-- The blueprints are those that the files hold. -/
  reads : ReadsAs store request.blueprints blueprints
  compiled : Schema.compile (sound blueprints) = .ok schema
  ended : ∃ changed, outcome = request.ended changed schema blueprints
  /-- The schema is in its file, and no other file has changed. -/
  written : Written store request.out schema.render after
  accepted : (Schema.load request.out : ExceptT SchemaFileFault (StateM FileStore) Schema).run.run
    after = (.ok schema, after)
  /-- With the blueprints in any order, the command finds the schema as it is, if no two paths are
  the same and none leads to the schema's file.  It may be a new folder through which they do. -/
  repeated {paths : List String} (perm : paths.Perm request.blueprints)
    (apart : ∀ path ∈ request.blueprints,
      after.locate path.toList ≠ after.locate request.out.toList)
    (distinct : (request.blueprints.map Pathname.steps).Nodup) :
    ∃ rereads, ReadsAs after paths rereads ∧
      (Request.compile { request with blueprints := paths }).runIn after =
        (request.ended false schema rereads, after) ∧
      (request.ended false schema rereads).exitCode = outcome.exitCode

theorem succeeds_of_save {outcome : Outcome} (reads : ReadsAs store request.blueprints blueprints)
    (compiled : Schema.compile (sound blueprints) = .ok schema)
    (saved : (schema.save request.out :
      ExceptT SchemaFileFault (StateM FileStore) Bool).run.run store = (.ok changed, after))
    (ended : outcome = request.ended changed schema blueprints) :
    Succeeds store request outcome after blueprints schema := by
  have written := written_of_save saved
  obtain ⟨_, made⟩ := Compile.compile_eq_ok_iff.mp compiled
  have accepted : Schema.ofText request.out schema.render = .ok schema :=
    Schema.ofText_render (made ▸ rfl) (made ▸ rfl) request.out
  refine ⟨reads, compiled, ⟨changed, ended⟩, written, ?_, ?_⟩
  · rw [Schema.run_load written.held, accepted]
  · intro paths perm apart distinct
    -- A blueprint that held the schema's place would be read as the schema's text.
    have kept : ReadsAs after request.blueprints blueprints := by
      refine reads.spared written.spared fun path member place reached here => ?_
      exact apart path member (reached.trans here.symm)
    obtain ⟨rereads, again, rearranged⟩ := kept.rearrange perm
    have recompiled : Schema.compile (sound rereads) = .ok schema :=
      (compile_sound_of_perm rearranged (reads.onePerPath distinct)).trans compiled
    refine ⟨rereads, again, ?_, ?_⟩
    · exact runIn_compile_saved again recompiled (save_of_held written.held)
    · rw [ended, exitCode_ended_of_perm rearranged]

theorem run_write_refused {blueprint : Blueprint} (problems : blueprint.hasErrors)
    (folder : String) (store : FileStore) :
    (Handbook.write folder blueprint :
      ExceptT Handbook.Fault (StateM FileStore) (List String)).run.run store =
        (.error (.refused blueprint), store) := by
  have nothing : Handbook.files? blueprint = none := if_pos problems
  rw [Handbook.write, nothing]
  rfl

theorem runIn_generate_refused {request : GenerateRequest} {text : String}
    (held : store.readText request.blueprint = .ok text)
    (problems : (Blueprint.parse request.blueprint text).hasErrors) :
    ((Request.generate request).runIn store).1.exitCode = 1 ∧
      ((Request.generate request).runIn store).2 = store := by
  have loaded := run_loadBlueprint store request.blueprint
  rw [held] at loaded
  have refused := run_write_refused problems request.folder store
  obtain ⟨outcome, code, run⟩ : ∃ outcome : Outcome, outcome.exitCode = 1 ∧
      (Request.run (.generate request) : ExceptT Failure (StateM FileStore) Outcome).run.run
        store = (.ok outcome, store) := by
    rw [Request.run, GenerateRequest.run, run_bind_ok loaded, run_bind_ok (run_attempt refused)]
    dsimp only
    split <;> exact ⟨_, rfl, rfl⟩
  rw [Request.runIn_of_ok run]
  exact ⟨code, rfl⟩

/-- A compile command of which a blueprint cannot be read, or whose blueprints without problems do
not make a schema, fails and leaves the tree as it is; one that does not fail leaves the schema in
its file.  Nothing is generated from a blueprint with problems. -/
theorem runIn_keeps_files (store : FileStore) :
    (∀ request : CompileRequest,
      ((∃ path ∈ request.blueprints, ∃ fault, store.readText path = .error fault) ∨
        (∃ blueprints fault, ReadsAs store request.blueprints blueprints ∧
          Schema.compile (sound blueprints) = .error fault) →
        ((Request.compile request).runIn store).1.exitCode = 2 ∧
          ((Request.compile request).runIn store).2 = store) ∧
      ∀ outcome after, (Request.compile request).runIn store = (outcome, after) →
        outcome.exitCode = 0 ∨ outcome.exitCode = 1 →
        ∃ blueprints schema, Succeeds store request outcome after blueprints schema) ∧
      ∀ (request : GenerateRequest) text, store.readText request.blueprint = .ok text →
        (Blueprint.parse request.blueprint text).hasErrors →
        ((Request.generate request).runIn store).1.exitCode = 1 ∧
          ((Request.generate request).runIn store).2 = store := by
  refine ⟨fun request => ⟨?_, ?_⟩, ?_⟩
  · rintro (⟨path, member, fault, unreadable⟩ | ⟨blueprints, fault, reads, refused⟩)
    · obtain ⟨failure, failed⟩ := runIn_compile_unreadable member unreadable
      rw [failed]
      exact ⟨rfl, rfl⟩
    · rw [runIn_compile_uncompilable reads refused]
      exact ⟨rfl, rfl⟩
  · intro outcome after ran code
    have succeeded : outcome.exitCode ≠ 2 := by omega
    obtain ⟨blueprints, schema, changed, reads, compiled, saved, ended⟩ :=
      saved_of_exitCode ran succeeded
    exact ⟨blueprints, schema, succeeds_of_save reads compiled saved ended⟩
  · intro request text held problems
    exact runIn_generate_refused held problems

/-- A blueprint that declares one heading of the level. -/
def scopeText (level : String) : String :=
  "`@cpt:blueprint`\n```toml\nartifact = \"PRD\"\n```\n`@/cpt:blueprint`\n" ++
    "`@cpt:heading`\n```toml\nid = \"scope\"\nlevel = " ++ level ++ "\n```\n`@/cpt:heading`\n"

/-- A folder with a blueprint, one that is not closed, and one with a level that there is not. -/
def kitStore : FileStore where
  entries := [(["PRD.md"], .file (.text (scopeText "2"))),
    (["OPEN.md"], .file (.text "`@cpt:heading`\n")),
    (["DEEP.md"], .file (.text (scopeText "9")))]
  base := []

/-- The first two blueprints make a schema in a new folder, twice; with the third they make none. -/
theorem runIn_keeps_files_of_kit :
    ((Request.compile ⟨["PRD.md", "ADR.md"], "out/kit.json", true⟩).runIn kitStore).2 = kitStore ∧
      ((Request.compile ⟨["DEEP.md"], "out/kit.json", true⟩).runIn kitStore).2 = kitStore ∧
      (∃ outcome after blueprints schema rereads,
        (Request.compile ⟨["PRD.md", "OPEN.md"], "out/kit.json", true⟩).runIn kitStore =
          (outcome, after) ∧ outcome.exitCode = 1 ∧
        Succeeds kitStore ⟨["PRD.md", "OPEN.md"], "out/kit.json", true⟩ outcome after blueprints
          schema ∧
        (Request.compile ⟨["OPEN.md", "PRD.md"], "out/kit.json", true⟩).runIn after =
          (CompileRequest.ended ⟨["PRD.md", "OPEN.md"], "out/kit.json", true⟩ false schema rereads,
            after)) ∧
      ((Request.generate ⟨"OPEN.md", "out", true⟩).runIn kitStore).2 = kitStore := by
  obtain ⟨compiling, generating⟩ := runIn_keeps_files kitStore
  refine ⟨?_, ?_, ?_, ?_⟩
  · exact ((compiling _).1 (.inl ⟨"ADR.md", by decide, .missing, rfl⟩)).2
  · have reads : ReadsAs kitStore ["DEEP.md"] [Blueprint.parse "DEEP.md" (scopeText "9")] :=
      .cons ⟨_, rfl, rfl⟩ .nil
    have refused : Schema.compile (sound [Blueprint.parse "DEEP.md" (scopeText "9")]) =
        .error (.invalidLevel "PRD" "scope" 9) := by
      decide +kernel
    exact ((compiling _).1 (.inr ⟨_, _, reads, refused⟩)).2
  · let request : CompileRequest := ⟨["PRD.md", "OPEN.md"], "out/kit.json", true⟩
    let ended := (Request.compile request).runIn kitStore
    have code : ended.1.exitCode = 1 := by decide +kernel
    obtain ⟨blueprints, schema, succeeds⟩ := (compiling request).2 ended.1 ended.2 rfl (.inr code)
    have apart : ∀ path ∈ request.blueprints,
        ended.2.locate path.toList ≠ ended.2.locate request.out.toList := by
      decide +kernel
    obtain ⟨rereads, -, again, -⟩ :=
      succeeds.repeated (List.Perm.swap "PRD.md" "OPEN.md" []) apart (by decide +kernel)
    exact ⟨_, _, blueprints, schema, rereads, rfl, code, succeeds, again⟩
  · exact (generating _ "`@cpt:heading`\n" rfl (by decide +kernel)).2

end DocContract.Command
