import JsonExtract.Command.Arguments
import JsonExtract.Command.Plan

/-!
# The command line

Reads the arguments, the source of the command and the variables that it needs, and writes the
report.  No server can be reached from here: the network refuses every call.
-/

namespace JsonExtract.CommandLine

def failureText : IO.Error → String
  | .alreadyExists _ code details | .otherError code details | .resourceBusy code details
  | .resourceVanished code details | .unsupportedOperation code details
  | .hardwareFault code details | .unsatisfiedConstraints code details
  | .illegalOperation code details | .protocolError code details | .timeExpired code details
  | .interrupted _ code details | .noFileOrDirectory _ code details
  | .invalidArgument _ code details | .permissionDenied _ code details
  | .resourceExhausted _ code details | .inappropriateType _ code details
  | .noSuchThing _ code details => details ++ " (os error " ++ toString code ++ ")"
  | .unexpectedEof => "unexpected end of file"
  | .userError text => text

def octets : Source → IO ByteArray
  | .nothing => return .empty
  | .input => do (← IO.getStdin).readBinToEnd
  | .file path => IO.FS.readBinFile path

def text (source : Source) : IO (Except Problem String) := do
  try
    return source.text (← octets source).toList
  catch failure =>
    return .error (.io (failureText failure))

def environment (names : List String) : IO Variables.Lookup := do
  let entries ← names.mapM fun name => return (name, ← IO.getEnv name)
  return fun name => (entries.lookup name).join

def deliver (report : Report) : IO UInt32 := do
  IO.print report.output
  for note in report.notes do
    IO.eprintln note
  return UInt32.ofNat report.status

def run (arguments : List String) : IO UInt32 := do
  match Arguments.invocation arguments with
  | .error stop => deliver stop.report
  | .ok invocation =>
    let text ← text invocation.command.source
    let lookup ← environment (invocation.command.references text)
    let (_, report) := (invocation.plan lookup text).perform .standard fun _ => .after 0 .refused
    deliver report

end JsonExtract.CommandLine

def main (arguments : List String) : IO UInt32 :=
  JsonExtract.CommandLine.run arguments
