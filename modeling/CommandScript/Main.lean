import CommandScript.CommandLine.Perform

/-!
# The program

The program answers its command line. A run is computed before anything of it is
shown: it names the files that it looks for, and as long as it names a new one,
that file is loaded and the run is computed again. Then what the run wrote, drew,
logged and paused happens in its order.
-/

namespace CommandScript.Program

open CommandScript.CommandLine

def load? (path : Path) : IO (Option (List UInt8)) := do
  try
    let bytes ← IO.FS.readBinFile (String.ofList path.toText)
    return some bytes.toList
  catch _ => return none

/-- The names and values of environment entries, which zero bytes end. -/
def environmentOf (bytes : List UInt8) : Table :=
  match Utf8.decodeFile bytes with
  | .error _ => ∅
  | .ok text => .ofList ((Text.splitAt '\x00' text).filterMap (Text.splitFirst? '='))

def environment : IO Table := do
  return ((← load? (Path.ofText "/proc/self/environ")).map environmentOf).getD ∅

/-- The outcome of a request, when all files that it looks for are loaded. -/
partial def settle (resources : Resources) (tried : List Path) (request : Request) :
    IO (Outcome Unit Status) := do
  let outcome : Outcome Unit Status := request.answer resources ()
  match (Event.soughtPaths outcome.events).find? (!tried.contains ·) with
  | none => return outcome
  | some path =>
    let known := match ← load? path with
      | some bytes => (path, bytes) :: resources.files.known
      | none => resources.files.known
    settle { resources with files := { resources.files with known := known } } (path :: tried)
      request

def isVerbose : Request → Bool
  | .perform job => job.isVerbose
  | _ => false

def pause : Nat → IO Unit
  | 0 => return ()
  | seconds + 1 => do
    IO.sleep 1000
    pause seconds

/-- Lets an event happen. -/
def replay (verbose : Bool) : Event → IO Unit
  | .wrote text | .drew text => do
    let output ← IO.getStdout
    output.putStr (String.ofList text)
    output.flush
  | .paused seconds => pause seconds
  | .logged entry =>
    if isReported verbose entry then IO.eprintln (String.ofList entry.line) else return ()
  | .replayed | .sought _ => return ()

/-- Answers a command line and gives the exit status. -/
def run (words : List String) : IO UInt32 := do
  let request := Request.ofWords (words.map String.toList)
  let resources : Resources :=
    { environment := ← environment, longestPause := some Resources.clockLimit }
  let outcome ← settle resources [] request
  outcome.events.forM (replay (isVerbose request))
  match outcome.result with
  | .ok status => return status.code.toUInt32
  | .error e =>
    IO.eprintln (String.ofList e.message)
    return 1

end CommandScript.Program

def main (words : List String) : IO UInt32 := CommandScript.Program.run words
