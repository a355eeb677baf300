import DocContract.Command.Run

namespace DocContract.Command

/-- The fault that the system reports by this number, which may stand for its negation. -/
def systemFault (code : UInt32) (details : String) : FileFault :=
  let number := if code < 0x80000000 then code else 0 - code
  match number with
  | 2 => .missing
  | 17 => .occupied
  | 20 => .throughFile
  | 21 => .isFolder
  | _ => .other (details ++ " (os error " ++ Text.natText number.toNat ++ ")")

def faultOfError : IO.Error → FileFault
  | .alreadyExists _ code details => systemFault code details
  | .otherError code details => systemFault code details
  | .resourceBusy code details => systemFault code details
  | .resourceVanished code details => systemFault code details
  | .unsupportedOperation code details => systemFault code details
  | .hardwareFault code details => systemFault code details
  | .unsatisfiedConstraints code details => systemFault code details
  | .illegalOperation code details => systemFault code details
  | .protocolError code details => systemFault code details
  | .timeExpired code details => systemFault code details
  | .interrupted _ code details => systemFault code details
  | .noFileOrDirectory _ code details => systemFault code details
  | .invalidArgument _ code details => systemFault code details
  | .permissionDenied _ code details => systemFault code details
  | .resourceExhausted _ code details => systemFault code details
  | .inappropriateType _ code details => systemFault code details
  | .noSuchThing _ code details => systemFault code details
  | .unexpectedEof => .other "unexpected end of file"
  | .userError text => .other text

def withFaults (action : IO α) : ExceptT FileFault IO α :=
  ExceptT.mk (tryCatch (Except.ok <$> action) fun error => return .error (faultOfError error))

instance : FileAccess IO where
  readText path := do
    let bytes ← withFaults (IO.FS.readBinFile path)
    match String.fromUTF8? bytes with
    | some text => return text
    | none => throw .notText
  writeText path text := withFaults (IO.FS.writeFile path text)
  makeFolder path := withFaults (IO.FS.createDir path)

/-- What is printed for a command line that asks for nothing. -/
def usageText (fault : UsageFault) : String :=
  "error: " ++ fault.message ++ "\n\nFor more information, try '--help'.\n"

end DocContract.Command

open DocContract.Command in
def main (words : List String) : IO UInt32 := do
  match Request.ofWords words with
  | .error fault =>
    IO.eprint (usageText fault)
    return 2
  | .ok request =>
    let outcome ← request.outcome
    IO.print outcome.output
    IO.eprint outcome.errors
    return outcome.exitCode.toUInt32
