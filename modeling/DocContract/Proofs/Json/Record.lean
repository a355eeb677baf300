import DocContract.Proofs.Json.RoundTrip
import DocContract.Proofs.Sorted.Entries
import DocContract.Schema.Encoding

namespace DocContract

open DocContract.Json DocContract.Sorted

variable {α : Type} {encode : α → Json} {read : Json → Option α} {absent : α}

namespace Json

def single? : List (String × Json) → Option (Option Json)
  | [] => some none
  | [member] => some (some member.2)
  | _ => none

theorem fields?_object (names : List String) (members : List (String × Json)) :
    fields? names (.object members) =
      names.mapM fun name => single? (members.filter fun member => member.1 == name) := rfl

@[simp] theorem single?_singleton (key : String) (value : Json) :
    single? [(key, value)] = some (some value) := rfl

@[simp] theorem text?_string (text : String) : text? (.string text) = some text := rfl

@[simp] theorem bool?_bool (value : Bool) : bool? (.bool value) = some value := rfl

theorem mapM_map_eq_some {β : Type} {write : α → β} {read : β → Option α} (items : List α)
    (reads : ∀ item, read (write item) = some item) : (items.map write).mapM read = some items := by
  have same : read ∘ write = fun item => pure (id item) := funext reads
  rw [List.mapM_map, same, List.mapM_pure, List.map_id]
  rfl

theorem list?_array (items : List α) (reads : ∀ item, read (encode item) = some item) :
    list? read (.array (items.map encode)) = some items :=
  mapM_map_eq_some items reads

/-- A value that may be missing or null is read from where it was written, or from nowhere. -/
theorem optional?_map (value : Option α) (reads : ∀ value, read (encode value) = some value)
    (notNull : ∀ value, encode value ≠ .null) :
    optional? read (value.map encode) = some value := by
  cases value with
  | none => rfl
  | some value =>
    rw [Option.map_some, optional?.eq_def]
    split
    · next shape => cases shape
    · next shape => exact absurd (Option.some.inj shape) (notNull value)
    · next written shape =>
      cases shape
      rw [reads]
      rfl

@[simp] theorem byte?_nat (value : UInt8) : byte? (.nat value.toNat) = some value := by
  have small : value.toNat < UInt8.size := value.toNat_lt
  simp [byte?, below?, Json.nat, small]

@[simp] theorem word?_nat (value : UInt32) : word? (.nat value.toNat) = some value := by
  have small : value.toNat < UInt32.size := value.toNat_lt
  simp [word?, below?, Json.nat, small]

end Json

@[simp] theorem single?_optionalMember (key : String) (value : Option α) :
    single? (optionalMember key encode value) = some (value.map encode) := by
  cases value <;> rfl

@[simp] theorem filter_optionalMember (key name : String) (value : Option α) :
    (optionalMember key encode value).filter (fun member => member.1 == name) =
      if key == name then optionalMember key encode value else [] := by
  cases value <;> by_cases same : key = name <;> simp [optionalMember, same]

theorem mapOfJson?_mapJson (map : KeyMap α) (reads : ∀ value, read (encode value) = some value) :
    mapOfJson? read (mapJson encode map) = some map := by
  have entries : entries? read (mapJson encode map) = some map.entries := by
    apply mapM_map_eq_some
    rintro ⟨key, value⟩
    exact congrArg (Option.map (Prod.mk key)) (reads value)
  rw [mapOfJson?, entries, Option.map_some, KeyMap.ofList_entries]

theorem setOfJson?_strings (set : KeySet) : setOfJson? (Json.strings set.members) = some set := by
  have names : list? text? (Json.strings set.members) = some set.members :=
    list?_array set.members fun _ => rfl
  rw [setOfJson?, names, Option.map_some, KeySet.ofList_members]

/-- What is left out where it is empty is read as the empty one. -/
theorem default?_unlessEmpty {isEmpty : α → Bool} (value : α)
    (reads : ∀ value, read (encode value) = some value)
    (absentOnly : isEmpty value = true → value = absent) :
    default? read absent ((if isEmpty value then none else some value).map encode) =
      some value := by
  by_cases empty : isEmpty value = true
  · rw [if_pos empty, absentOnly empty]
    rfl
  · rw [if_neg empty]
    exact reads value

@[simp] theorem exact_string (text : String) : Exact (.string text) :=
  .scalar (.string text)

@[simp] theorem exact_ofOption (value : Option α) (each : ∀ value, Exact (encode value)) :
    Exact (.ofOption encode value) := by
  cases value with
  | none => exact .scalar .null
  | some value => exact each value

@[simp] theorem exact_bool (value : Bool) : Exact (.bool value) :=
  .scalar (.bool value)

theorem exact_nat {value : Nat} (small : value < UInt64.size) : Exact (.nat value) :=
  .scalar (.integer ⟨by omega, Int.ofNat_lt.mpr small⟩)

@[simp] theorem exact_byte (value : UInt8) : Exact (.nat value.toNat) :=
  exact_nat (Nat.lt_trans value.toNat_lt (by decide))

@[simp] theorem exact_word (value : UInt32) : Exact (.nat value.toNat) :=
  exact_nat (Nat.lt_trans value.toNat_lt (by decide))

@[simp] theorem exact_strings (texts : List String) : Exact (Json.strings texts) := by
  apply Exact.array
  simp

def ExactMembers (members : List (String × Json)) : Prop :=
  ∀ member ∈ members, Exact member.2

@[simp] theorem exactMembers_nil : ExactMembers [] := nofun

@[simp] theorem exactMembers_cons (key : String) (value : Json) (more : List (String × Json)) :
    ExactMembers ((key, value) :: more) ↔ Exact value ∧ ExactMembers more :=
  List.forall_mem_cons

@[simp] theorem exactMembers_append (members more : List (String × Json)) :
    ExactMembers (members ++ more) ↔ ExactMembers members ∧ ExactMembers more :=
  List.forall_mem_append

theorem exactMembers_optionalMember (key : String) (value : Option α)
    (each : ∀ value, Exact (encode value)) : ExactMembers (optionalMember key encode value) := by
  cases value <;> simp [optionalMember, each]

theorem exact_object {members : List (String × Json)} (exact : ExactMembers members) :
    Exact (.object members) :=
  .object members exact

theorem exact_mapJson (map : KeyMap α) (each : ∀ value, Exact (encode value)) :
    Exact (mapJson encode map) := by
  apply exact_object
  intro member inside
  obtain ⟨entry, -, rfl⟩ := List.mem_map.mp inside
  exact each entry.2

end DocContract
