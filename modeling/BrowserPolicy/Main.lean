import BrowserPolicy.Gateway.Run
import BrowserPolicy.Log.Filter

namespace BrowserPolicy

def configPath : String := "fpolicy.yaml"

def filterVariable : String := "RUST_LOG"

def SystemError.ofError : IO.Error → SystemError
  | .noFileOrDirectory .. => .noSuchFile
  | .permissionDenied .. => .permissionDenied
  | .inappropriateType .. => .isDirectory
  | e => .other (toString e)

def readConfigFile : IO (Except ReadFault String) := do
  try
    return Config.textOfOctets (← IO.FS.readBinFile configPath)
  catch e =>
    return .error (.system (SystemError.ofError e))

/-- Runs the gateway and prints its log. There is no network here, so that no address can be
bound. -/
def runGateway : IO UInt32 := do
  let filter := Log.Filter.ofText ((← IO.getEnv filterVariable).getD "")
  let run := Gateway.Run.start (← readConfigFile) fun _ => .error .addressNotAvailable
  for line in Log.lines filter run.events do
    IO.println line
  return (run.exitCode.getD 0).toUInt32

end BrowserPolicy

def main : IO UInt32 :=
  BrowserPolicy.runGateway
