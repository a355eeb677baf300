import DocContract.Proofs.Schema.RoundTrip

/-!
The digest of a schema file identifies its contracts: contracts with the same digest are the same,
or they show two messages with the same SHA-256.
-/

namespace DocContract

open DocContract.Json DocContract.Sorted DocContract.Text

variable {schema : Schema} {path text : String}

theorem hexDigit_inj {value other : Nat} (small : value < 16) (otherSmall : other < 16)
    (same : hexDigit value = hexDigit other) : value = other := by
  have all : ∀ value < 16, ∀ other < 16, hexDigit value = hexDigit other → value = other := by
    decide
  exact all value small other otherSmall same

theorem Digest.hexText_inj {bytes others : List UInt8} (same : hexText bytes = hexText others) :
    bytes = others := by
  rw [hexText, hexText, String.ofList_inj] at same
  induction bytes generalizing others with
  | nil =>
    cases others with
    | nil => rfl
    | cons => cases same
  | cons byte more ih =>
    cases others with
    | nil => cases same
    | cons other remaining =>
      obtain ⟨high, rest⟩ := List.cons.inj same
      obtain ⟨low, rest⟩ := List.cons.inj rest
      have bound := byte.toNat_lt
      have otherBound := other.toNat_lt
      have highDigit := hexDigit_inj (by omega) (by omega) high
      have lowDigit := hexDigit_inj (Nat.mod_lt _ (by decide)) (Nat.mod_lt _ (by decide)) low
      have sameByte : byte = other := UInt8.toNat.inj (by omega)
      rw [sameByte, ih rest]

theorem toList_loop (bytes : ByteArray) (start : Nat) (listed : List UInt8) :
    ByteArray.toList.loop bytes start listed = listed.reverse ++ bytes.data.toList.drop start := by
  fun_induction ByteArray.toList.loop bytes start listed with
  | case1 start listed inside ih =>
    have first : bytes.data.toList.drop start =
        bytes.get! start :: bytes.data.toList.drop (start + 1) := by
      have inRange : start < bytes.data.toList.length := inside
      rw [List.drop_eq_getElem_cons inRange]
      simp [ByteArray.get!, inside]
    rw [ih, first]
    simp
  | case2 start listed behind =>
    have nothing : bytes.data.toList.drop start = [] :=
      List.drop_eq_nil_of_le (Nat.le_of_not_lt behind)
    rw [nothing, List.append_nil]

theorem utf8_inj {other : String} (same : text.toUTF8.toList = other.toUTF8.toList) :
    text = other := by
  have listed (bytes : ByteArray) : bytes.toList = bytes.data.toList := toList_loop bytes 0 []
  rw [listed, listed] at same
  exact String.toByteArray_inj.mp (ByteArray.ext (Array.toList_inj.mp same))

def digestBytes (artifacts : KeyMap Contract) : List UInt8 :=
  (digestSource artifacts).toUTF8.toList

theorem contractsDigest_eq (artifacts : KeyMap Contract) :
    contractsDigest artifacts =
      "sha256:" ++ Digest.hexText (Digest.sha256 (digestBytes artifacts)) := rfl

theorem exact_contractsJson (artifacts : KeyMap Contract) : Exact (contractsJson artifacts) :=
  exact_mapJson artifacts Contract.exact_toJson

theorem contractsOfJson?_digestSource (artifacts : KeyMap Contract) :
    (Json.parse? (digestSource artifacts)).bind contractsOfJson? = some artifacts := by
  rw [digestSource, parse?_compact (exact_contractsJson artifacts), Option.bind_some]
  exact mapOfJson?_mapJson artifacts Contract.ofJson?_toJson

theorem digestBytes_inj {artifacts others : KeyMap Contract}
    (same : digestBytes artifacts = digestBytes others) : artifacts = others := by
  have source : digestSource artifacts = digestSource others := utf8_inj same
  have read := contractsOfJson?_digestSource artifacts
  rw [source, contractsOfJson?_digestSource] at read
  exact (Option.some.inj read).symm

theorem sha256_eq_of_contractsDigest {artifacts others : KeyMap Contract}
    (same : contractsDigest artifacts = contractsDigest others) :
    Digest.sha256 (digestBytes artifacts) = Digest.sha256 (digestBytes others) := by
  rw [contractsDigest_eq, contractsDigest_eq, String.append_right_inj] at same
  exact Digest.hexText_inj same

/-- A schema that is accepted records the digest of its contracts. -/
theorem Schema.digest_of_ofText (accepted : Schema.ofText path text = .ok schema) :
    schema.digest = contractsDigest schema.artifacts := by
  rw [Schema.ofText] at accepted
  split at accepted
  · cases accepted
  · simp only at accepted
    split at accepted
    · cases accepted
    · split at accepted
      · cases accepted
      · next recorded =>
        cases accepted
        simpa using recorded

theorem Schema.digest_of_load {store after : FileStore}
    (loaded : (Schema.load path : ExceptT SchemaFileFault (StateM FileStore) Schema).run.run store =
      (.ok schema, after)) : schema.digest = contractsDigest schema.artifacts := by
  rw [Schema.run_load_eq] at loaded
  obtain ⟨accepted, -⟩ := Prod.mk.inj loaded
  cases held : store.readText path with
  | error fault =>
    rw [held] at accepted
    cases accepted
  | ok text =>
    rw [held] at accepted
    exact Schema.digest_of_ofText accepted

/-- Different contracts have different bytes.  So the contracts of an accepted file that records the
digest of some contracts are these, or the bytes of both have the same SHA-256 and differ. -/
theorem contractsDigest_identifies :
    (∀ artifacts others : KeyMap Contract, digestBytes artifacts = digestBytes others →
      artifacts = others) ∧
      ∀ (store after : FileStore) path schema artifacts,
        (Schema.load path : ExceptT SchemaFileFault (StateM FileStore) Schema).run.run store =
          (.ok schema, after) →
        schema.digest = contractsDigest artifacts →
          schema.artifacts = artifacts ∨
            digestBytes schema.artifacts ≠ digestBytes artifacts ∧
              Digest.sha256 (digestBytes schema.artifacts) =
                Digest.sha256 (digestBytes artifacts) := by
  refine ⟨fun artifacts others same => digestBytes_inj same, ?_⟩
  intro store after path schema artifacts loaded recorded
  have sameDigest : contractsDigest schema.artifacts = contractsDigest artifacts :=
    (Schema.digest_of_load loaded).symm.trans recorded
  by_cases same : digestBytes schema.artifacts = digestBytes artifacts
  · exact .inl (digestBytes_inj same)
  · exact .inr ⟨same, sha256_eq_of_contractsDigest sameDigest⟩

/-- The contracts of a small schema, put in in two orders, and the file that the schema is saved as.
-/
theorem contractsDigest_identifies_saved :
    ∃ artifacts others : KeyMap Contract, artifacts.keys = ["ADR", "PRD"] ∧
      digestBytes artifacts = digestBytes others ∧ artifacts = others ∧
      ∃ store : FileStore,
        (Schema.load "schema.json" : ExceptT SchemaFileFault (StateM FileStore) Schema).run.run
          store = (.ok (Schema.ofContracts artifacts), store) ∧
        (artifacts = others ∨ digestBytes artifacts ≠ digestBytes others ∧
          Digest.sha256 (digestBytes artifacts) = Digest.sha256 (digestBytes others)) := by
  let record : Contract := ⟨"ADR", some "A \"decision\"", [], ∅⟩
  let requirements : Contract := ⟨"PRD", none, [], ∅⟩
  let artifacts := KeyMap.ofList [("ADR", record), ("PRD", requirements)]
  let others := KeyMap.ofList [("PRD", requirements), ("ADR", record)]
  let schema := Schema.ofContracts artifacts
  let store : FileStore := ⟨[(["schema.json"], .file (.text schema.render))], []⟩
  have sameSource : digestSource artifacts = digestSource others := by decide +kernel
  have sameBytes : digestBytes artifacts = digestBytes others :=
    congrArg (fun source => source.toUTF8.toList) sameSource
  have held : store.readText "schema.json" = .ok schema.render := rfl
  have loaded : (Schema.load "schema.json" :
      ExceptT SchemaFileFault (StateM FileStore) Schema).run.run store = (.ok schema, store) := by
    rw [Schema.run_load held, Schema.ofText_render rfl rfl]
  have recorded : schema.digest = contractsDigest others := by
    rw [contractsDigest_eq, ← sameBytes]
    rfl
  exact ⟨artifacts, others, by decide +kernel, sameBytes,
    contractsDigest_identifies.1 artifacts others sameBytes, store, loaded,
    contractsDigest_identifies.2 store store "schema.json" schema others loaded recorded⟩

end DocContract
