import DocContract.Files.Store

namespace DocContract

open DocContract.Text

variable {α β : Type}

namespace FileStore

variable {store middle after : FileStore} {place other start : Place} {entry : Entry}
  {path text : String} {chars : List Char} {parts : List (List Char)} {written : Place → Prop}

theorem entryAt?_put_self (proper : place ≠ []) :
    (store.put place entry).entryAt? place = some entry := by
  simp [entryAt?, put, proper]

theorem lookup_filter_ne (entries : List (Place × Entry)) (distinct : other ≠ place) :
    (entries.filter fun entry => entry.1 != place).lookup other = entries.lookup other := by
  induction entries with
  | nil => rfl
  | cons first rest ih =>
    obtain ⟨held, entry⟩ := first
    by_cases erased : held = place
    · subst erased
      have apart : (other == held) = false := beq_eq_false_iff_ne.mpr distinct
      simp [List.lookup_cons, apart, ih]
    · simp [List.lookup_cons, erased, ih]

theorem entryAt?_erase_self (proper : place ≠ []) :
    (store.erase place).entryAt? place = none := by
  rw [entryAt?, if_neg proper, List.lookup_eq_none_iff]
  intro entry kept
  have apart := (List.mem_filter.mp kept).2
  simpa [bne, BEq.comm] using apart

theorem entryAt?_erase_of_ne (distinct : other ≠ place) :
    (store.erase place).entryAt? other = store.entryAt? other := by
  simp only [entryAt?, erase, lookup_filter_ne _ distinct]

theorem entryAt?_put_of_ne (distinct : other ≠ place) :
    (store.put place entry).entryAt? other = store.entryAt? other := by
  have apart : (other == place) = false := beq_eq_false_iff_ne.mpr distinct
  simp [entryAt?, put, erase, List.lookup_cons, apart, lookup_filter_ne _ distinct]

/-- The root is never written, since it is a folder. -/
theorem ne_nil_of_not_folder (notFolder : store.entryAt? place ≠ some .folder) : place ≠ [] := by
  rintro rfl
  exact notFolder rfl

section

variable {ε : Type} {action : ExceptT ε (StateM FileStore) α}

theorem bind_eq_ok {first : Except ε α} {next : α → Except ε β} {result : β}
    (done : first >>= next = .ok result) :
    ∃ value, first = .ok value ∧ next value = .ok result := by
  cases first with
  | error fault => cases done
  | ok value => exact ⟨value, rfl, done⟩

theorem run_bind_ok {value : α} (run : action.run.run store = (.ok value, middle))
    (next : α → ExceptT ε (StateM FileStore) β) :
    (action >>= next).run.run store = (next value).run.run middle := by
  rw [ExceptT.run_bind, StateT.run_bind, run]
  rfl

theorem run_bind_error {fault : ε} (run : action.run.run store = (.error fault, middle))
    (next : α → ExceptT ε (StateM FileStore) β) :
    (action >>= next).run.run store = (.error fault, middle) := by
  rw [ExceptT.run_bind, StateT.run_bind, run]
  rfl

theorem run_attempt {δ : Type} {result : Except ε α}
    (run : action.run.run store = (result, middle)) :
    (liftM action.run : ExceptT δ (StateM FileStore) (Except ε α)).run.run store =
      (.ok result, middle) := by
  have lifted : (liftM action.run : ExceptT δ (StateM FileStore) (Except ε α)).run =
      Except.ok <$> action.run := rfl
  rw [lifted, StateT.run_map, run]
  rfl

theorem run_adapt {δ : Type} {result : Except ε α} (blame : ε → δ)
    (run : action.run.run store = (result, middle)) :
    (ExceptT.adapt blame action).run.run store = (result.mapError blame, middle) := by
  have adapted : (ExceptT.adapt blame action).run = Except.mapError blame <$> action.run := rfl
  rw [adapted, StateT.run_map, run]
  rfl

end

/-- Folders stay, and other places than the written ones hold what they held, but for new folders
where nothing stood. -/
structure Spares (written : Place → Prop) (store after : FileStore) : Prop where
  base : after.base = store.base
  folder : ∀ place, store.entryAt? place = some .folder → after.entryAt? place = some .folder
  entry : ∀ place, ¬ written place → after.entryAt? place = store.entryAt? place ∨
    store.entryAt? place = none ∧ after.entryAt? place = some .folder

theorem Spares.refl (written : Place → Prop) (store : FileStore) : Spares written store store :=
  ⟨rfl, fun _ held => held, fun _ _ => .inl rfl⟩

theorem Spares.trans (first : Spares written store middle) (second : Spares written middle after) :
    Spares written store after where
  base := second.base.trans first.base
  folder place held := second.folder place (first.folder place held)
  entry place spared := by
    rcases first.entry place spared with same | ⟨free, made⟩
    · rw [← same]
      exact second.entry place spared
    · exact .inr ⟨free, second.folder place made⟩

theorem Spares.mono (spares : Spares (fun _ => False) store after) (written : Place → Prop) :
    Spares written store after where
  base := spares.base
  folder := spares.folder
  entry place _ := spares.entry place not_false

theorem spares_put_folder (free : store.entryAt? place = none) :
    Spares (fun _ => False) store (store.put place .folder) where
  base := rfl
  folder other held := by
    by_cases same : other = place
    · subst same
      rw [free] at held
      cases held
    · rwa [entryAt?_put_of_ne same]
  entry other _ := by
    by_cases same : other = place
    · subst same
      have notFolder : store.entryAt? other ≠ some .folder := by simp [free]
      exact .inr ⟨free, entryAt?_put_self (ne_nil_of_not_folder notFolder)⟩
    · exact .inl (entryAt?_put_of_ne same)

/-- A change of one place that is no folder spares all others. -/
theorem spares_of_entryAt? (base : after.base = store.base)
    (notFolder : store.entryAt? place ≠ some .folder)
    (same : ∀ other, other ≠ place → after.entryAt? other = store.entryAt? other) :
    Spares (· = place) store after where
  base := base
  folder other held := by
    have distinct : other ≠ place := by
      rintro rfl
      exact notFolder held
    rwa [same other distinct]
  entry other distinct := .inl (same other distinct)

theorem spares_put_file (notFolder : store.entryAt? place ≠ some .folder) (content : Content) :
    Spares (· = place) store (store.put place (.file content)) :=
  spares_of_entryAt? rfl notFolder fun _ => entryAt?_put_of_ne

theorem spares_erase (notFolder : store.entryAt? place ≠ some .folder) :
    Spares (· = place) store (store.erase place) :=
  spares_of_entryAt? rfl notFolder fun _ => entryAt?_erase_of_ne

theorem Spares.walk (spares : Spares written store after)
    (reached : store.walk start parts = .ok place) : after.walk start parts = .ok place := by
  induction parts generalizing start with
  | nil => exact reached
  | cons part parts ih =>
    rw [FileStore.walk] at reached ⊢
    cases standing : store.entryAt? start with
    | none => simp [standing] at reached
    | some entry =>
      cases entry with
      | file content => simp [standing] at reached
      | folder =>
        simp only [standing] at reached
        simp only [spares.folder start standing]
        exact ih reached

theorem Spares.locate (spares : Spares written store after)
    (reached : store.locate chars = .ok place) : after.locate chars = .ok place := by
  rw [FileStore.locate] at reached ⊢
  split at reached
  · cases reached
  · next nonempty =>
    rw [if_neg nonempty, spares.base]
    exact spares.walk reached

theorem content_eq_ok_iff {content : Content} : store.content path = .ok content ↔
    ∃ place, store.locate path.toList = .ok place ∧
      store.entryAt? place = some (.file content) := by
  constructor
  · intro held
    obtain ⟨place, reached, standing⟩ := bind_eq_ok held
    refine ⟨place, reached, ?_⟩
    split at standing
    · cases standing
    · cases standing
    · next entry =>
      cases standing
      exact entry
  · rintro ⟨place, reached, standing⟩
    rw [FileStore.content, reached]
    simp only [bind, Except.bind, standing]
    rfl

theorem readText_eq_ok_iff : store.readText path = .ok text ↔
    ∃ place, store.locate path.toList = .ok place ∧
      store.entryAt? place = some (.file (.text text)) := by
  constructor
  · intro done
    obtain ⟨content, held, read⟩ := bind_eq_ok done
    cases content with
    | text held =>
      cases read
      exact content_eq_ok_iff.mp held
    | bytes => cases read
  · intro standing
    rw [readText, content_eq_ok_iff.mpr standing]
    rfl

theorem Spares.readText (spares : Spares written store after)
    (held : store.readText path = .ok text)
    (apart : ∀ place, after.locate path.toList = .ok place → ¬ written place) :
    after.readText path = .ok text := by
  obtain ⟨place, reached, standing⟩ := readText_eq_ok_iff.mp held
  have stillReached := spares.locate reached
  refine readText_eq_ok_iff.mpr ⟨place, stillReached, ?_⟩
  rcases spares.entry place (apart place stillReached) with same | ⟨free, -⟩
  · rw [same, standing]
  · rw [free] at standing
    cases standing

/-- Reading changes nothing, whatever a fault is taken for. -/
theorem run_readText {ε : Type} (blame : FileFault → ε) (store : FileStore) (path : String) :
    (ExceptT.adapt blame (FileAccess.readText path : ExceptT FileFault (StateM FileStore) String)
      ).run.run store = ((store.readText path).mapError blame, store) :=
  run_adapt blame rfl

/-- The file that the path leads to holds the text, and no other file has changed. -/
structure Written (store : FileStore) (path text : String) (after : FileStore) : Prop where
  held : after.readText path = .ok text
  spared : Spares (fun place => after.locate path.toList = .ok place) store after

theorem withoutSlashes_eq (noSlash : path.toList.getLast? ≠ some '/') :
    withoutSlashes path = path.toList := by
  have kept : dropEndWhile (· == '/') path.toList = path.toList := by
    rw [dropEndWhile, List.reverse_eq_iff]
    rw [← List.head?_reverse] at noSlash
    cases reversed : path.toList.reverse with
    | nil => rfl
    | cons last before =>
      rw [reversed] at noSlash
      exact List.dropWhile_cons_of_neg (by simpa using noSlash)
  rw [withoutSlashes, kept]
  split
  · next empty => simp [empty]
  · rfl

theorem written_of_write (done : store.write path (.text text) = .ok after) :
    Written store path text after := by
  obtain ⟨place, reached, written⟩ := bind_eq_ok done
  simp only at written
  split at written
  · cases written
  · next usable =>
    obtain ⟨noSlash, notFolder⟩ := not_or.mp usable
    cases written
    rw [withoutSlashes_eq noSlash] at reached
    have spared := spares_put_file notFolder (.text text)
    -- The way leads through folders, and the written place is none.
    have reachedAfter := spared.locate reached
    have standing : (store.put place (.file (.text text))).entryAt? place = _ :=
      entryAt?_put_self (ne_nil_of_not_folder notFolder)
    refine ⟨readText_eq_ok_iff.mpr ⟨place, reachedAfter, standing⟩, ?_⟩
    simpa [reachedAfter, eq_comm] using spared

/-- Where a file is removed nothing is left, and no other file has changed. -/
theorem missing_of_remove (done : store.remove path = .ok after) :
    after.content path = .error .missing ∧
      Spares (fun place => after.locate path.toList = .ok place) store after := by
  obtain ⟨content, held, erased⟩ := bind_eq_ok done
  obtain ⟨place, reached, standing⟩ := content_eq_ok_iff.mp held
  rw [reached] at erased
  cases erased
  have notFolder : store.entryAt? place ≠ some .folder := by simp [standing]
  have spared := spares_erase notFolder
  have reachedAfter := spared.locate reached
  constructor
  · rw [FileStore.content, reachedAfter]
    simp only [bind, Except.bind, entryAt?_erase_self (ne_nil_of_not_folder notFolder)]
    rfl
  · simpa [reachedAfter, eq_comm] using spared

theorem mem_files_iff : path ∈ store.files ↔
    ∃ place content, (place, .file content) ∈ store.entries ∧
      store.pathBelow? place = some path := by
  rw [files, List.mem_mergeSort, List.mem_filterMap]
  constructor
  · rintro ⟨⟨place, entry⟩, member, found⟩
    cases entry with
    | folder => simp at found
    | file content => exact ⟨place, content, member, by simpa using found⟩
  · rintro ⟨place, content, member, found⟩
    exact ⟨(place, .file content), member, by simpa using found⟩

theorem files_ofFolder (name : String) : (ofFolder name).files = [] := by
  refine List.eq_nil_iff_forall_not_mem.mpr fun path member => ?_
  obtain ⟨place, content, inside, _⟩ := mem_files_iff.mp member
  simp [ofFolder] at inside

theorem Written.of_spares (spares : Spares (fun _ => False) store middle)
    (done : Written middle path text after) : Written store path text after where
  held := done.held
  spared := (spares.mono _).trans done.spared

/-- An action that writes no file. -/
def AddsFolders (action : ExceptT FileFault (StateM FileStore) α) : Prop :=
  ∀ store, Spares (fun _ => False) store (action.run.run store).2

theorem AddsFolders.pure (value : α) :
    AddsFolders (Pure.pure value : ExceptT FileFault (StateM FileStore) α) :=
  fun store => .refl _ store

theorem AddsFolders.throw (fault : FileFault) :
    AddsFolders (MonadExcept.throw fault : ExceptT FileFault (StateM FileStore) α) :=
  fun store => .refl _ store

theorem AddsFolders.bind {action : ExceptT FileFault (StateM FileStore) α}
    {next : α → ExceptT FileFault (StateM FileStore) β} (first : AddsFolders action)
    (second : ∀ value, AddsFolders (next value)) : AddsFolders (action >>= next) := by
  intro store
  have start := first store
  rcases run : action.run.run store with ⟨fault | value, middle⟩
  · rw [run] at start
    rwa [run_bind_error run]
  · rw [run] at start
    rw [run_bind_ok run]
    exact start.trans (second value middle)

theorem AddsFolders.tryCatch {action : ExceptT FileFault (StateM FileStore) α}
    {handler : FileFault → ExceptT FileFault (StateM FileStore) α} (first : AddsFolders action)
    (second : ∀ fault, AddsFolders (handler fault)) :
    AddsFolders (MonadExcept.tryCatch action handler) := by
  intro store
  have start := first store
  rw [ExceptT.run_tryCatch, StateT.run_bind]
  rcases run : action.run.run store with ⟨fault | value, middle⟩
  · rw [run] at start
    exact start.trans (second fault middle)
  · rw [run] at start
    exact start

theorem AddsFolders.lift {action : StateM FileStore α}
    (quiet : ∀ store, (action.run store).2 = store) :
    AddsFolders (liftM action : ExceptT FileFault (StateM FileStore) α) := by
  intro store
  have same : ((liftM action : ExceptT FileFault (StateM FileStore) α).run.run store).2 = store :=
    quiet store
  rw [same]
  exact .refl _ store

/-- A change that fails leaves the tree as it is. -/
theorem run_change (next : FileStore → Except FileFault FileStore) (store : FileStore) :
    (change next).run.run store = match next store with
      | .ok after => (.ok (), after)
      | .error fault => (.error fault, store) := by
  have start : (change next).run.run store = (match next store with
      | .ok after => (set after : ExceptT FileFault (StateM FileStore) Unit)
      | .error fault => throw fault).run.run store := rfl
  rw [start]
  cases next store <;> rfl

theorem spares_makeFolder (done : store.makeFolder path = .ok after) :
    Spares (fun _ => False) store after := by
  obtain ⟨place, _, made⟩ := bind_eq_ok done
  simp only at made
  split at made
  · cases made
  · next free =>
    cases made
    exact spares_put_folder (by simpa using free)

theorem addsFolders_makeFolder (path : String) :
    AddsFolders (FileAccess.makeFolder path : ExceptT FileFault (StateM FileStore) Unit) := by
  intro store
  have run : (FileAccess.makeFolder path : ExceptT FileFault (StateM FileStore) Unit).run.run
      store = _ := run_change (fun store => store.makeFolder path) store
  rw [run]
  split
  · next made => exact spares_makeFolder made
  · exact .refl _ store

theorem addsFolders_ensureFolder (path : String) :
    AddsFolders (FileAccess.ensureFolder path : ExceptT FileFault (StateM FileStore) Unit) := by
  refine .tryCatch (addsFolders_makeFolder path) fun fault => ?_
  refine .bind (.lift fun store => rfl) fun found => ?_
  split
  · exact .pure ()
  · exact .throw fault

theorem addsFolders_ensureFirst (paths : List String) :
    AddsFolders (FileAccess.ensureFirst paths : ExceptT FileFault (StateM FileStore) Unit) := by
  induction paths with
  | nil => exact .pure ()
  | cons path around ih =>
    refine .tryCatch (addsFolders_ensureFolder path) fun fault => ?_
    split
    · exact .throw fault
    · exact .bind ih fun _ => addsFolders_ensureFolder path

theorem addsFolders_ensureFolders (path : String) :
    AddsFolders (FileAccess.ensureFolders path : ExceptT FileFault (StateM FileStore) Unit) :=
  addsFolders_ensureFirst _

/-- Folders are made where they are missing, and then the text is written. -/
theorem written_of_writeInFolders
    (done : (FileAccess.writeInFolders path text :
      ExceptT FileFault (StateM FileStore) Unit).run.run store = (.ok (), after)) :
    Written store path text after := by
  have spares := addsFolders_ensureFolders ((Pathname.parent? path).getD "") store
  rcases made : (FileAccess.ensureFolders ((Pathname.parent? path).getD "") :
      ExceptT FileFault (StateM FileStore) Unit).run.run store with ⟨fault | value, middle⟩
  · rw [FileAccess.writeInFolders, run_bind_error made] at done
    cases done
  · rw [FileAccess.writeInFolders, run_bind_ok made] at done
    rw [made] at spares
    have run : (FileAccess.writeText path text : ExceptT FileFault (StateM FileStore) Unit).run.run
        middle = _ := run_change (fun store => store.write path (.text text)) middle
    have wrote := run.symm.trans done
    split at wrote
    · next written =>
      cases wrote
      exact (written_of_write written).of_spares spares
    · cases wrote

end FileStore

end DocContract
