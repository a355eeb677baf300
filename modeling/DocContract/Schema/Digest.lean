import DocContract.Digest
import DocContract.Schema.Encoding

namespace DocContract

open DocContract.Sorted

/-- The text that the digest is made from: the contracts without blanks. -/
def digestSource (artifacts : KeyMap Contract) : String :=
  (contractsJson artifacts).compact

/-- The digest of the contracts. -/
def contractsDigest (artifacts : KeyMap Contract) : String :=
  "sha256:" ++ Digest.ofText (digestSource artifacts)

/-- The schema with these contracts, in the current version and format. -/
def Schema.ofContracts (artifacts : KeyMap Contract) : Schema where
  version := Schema.currentVersion
  kind := Schema.currentKind
  digest := contractsDigest artifacts
  artifacts

end DocContract
