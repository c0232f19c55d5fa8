import MapScout.Deployment.Control
import Std.Time.DateTime.Timestamp
/-!
# The program

Runs one process on a network of its own.  Requests to it are read from standard input, one JSON object
a line, and each is answered by one line of JSON.  The process is told to stop when the input ends.
-/

namespace MapScout.Program

/-- What is said about the command line. -/
def usage : String := "usage: mapscout (" ++ " | ".intercalate CommandLine.commandNames ++ ") [flags]"

/-- The headers that an object lists. -/
def headers? : Json → Option (List Web.Header)
  | .object members => members.mapM fun (name, value) => do
    pure { name := ← name, value := bytesOf (← value.text?) }
  | _ => none

/-- The request in a line, and the address that it goes to. -/
def request? (line : String) : Option (String × Web.Request) := do
  let r ← (← Json.ofBytes? (bytesOf line)).record? ["url", "method", "headers", "body"]
  let url ← (← r.required "url" Json.text?) |> Web.Url.ofText?
  let method ← r.optional "method" Json.text? "GET"
  let headers ← r.optional "headers" headers? []
  let body ← r.optional "body" Json.text? ""
  pure (url.authority, .make method url.target headers (bytesOf body))

/-- The line that reports an answer. -/
def answerLine : Option Web.Response → String
  | none => Json.null.toText
  | some r => (Json.fields [("status", .nat r.status), ("body", .text (Utf8.decodeLossy r.body))]).toText

/-- The environment variables that are set and count. -/
def environment : IO (List (String × String)) := do
  let flags := CommandLine.commonFlags ++ CommandLine.commandNames.flatMap CommandLine.flagsOf
  (flags.filterMap (·.variable_)).filterMapM fun name => do
    pure ((← IO.getEnv name).map fun value => (name, value))

/-- The files that can be read. -/
def readFiles (paths : List String) : IO (List (String × Bytes)) :=
  paths.filterMapM fun (path : String) => do
    try
      let contents ← IO.FS.readBinFile path
      pure (some (path, contents.toList))
    catch _ => pure none

/-- The files that an invocation needs. -/
def filesFor (inv : Invocation) : IO (List (String × Bytes)) := do
  let settingsFiles ← readFiles inv.settingsFile.toList
  match Settings.load (settingsFiles.lookup ·) inv.settings inv.settingsFile with
  | .error _ => pure settingsFiles
  | .ok s => pure (settingsFiles ++ (← readFiles (s.accountsFile.toList ++ s.mockPayload.toList)))

/-- Brings the clocks of a network up to date. -/
def catchUp (start : Nat) (n : Network) : IO Network := do
  pure (n.await (fun _ => false) ((← IO.monoMsNow) - start - n.now)).2

/-- Answers requests until the process or the input ends. -/
partial def serve (start : Nat) (input output : IO.FS.Stream) (n : Network) : IO Network := do
  let n ← catchUp start n
  if (n.exit? 0).isSome then return n
  let line ← input.getLine
  if line.isEmpty then return (n.stop 0).2
  let n ← catchUp start n
  match request? line with
  | none => serve start input output n
  | some (address, r) =>
    let (answer, n) := n.fetch address r
    output.putStrLn (answerLine answer)
    output.flush
    serve start input output n

/-- Carries out an invocation and gives the exit code. -/
def run (inv : Invocation) : IO UInt32 := do
  let files ← filesFor inv
  let now ← Std.Time.Timestamp.now
  let empty : Network := { epoch := now.toMillisecondsSinceUnixEpoch.val }
  let n := (empty.spawn (empty.launch inv (files.lookup ·))).2.settle
  let n ← serve (← IO.monoMsNow) (← IO.getStdin) (← IO.getStdout) n
  match n.exit? 0 with
  | none => pure 0
  | some e =>
    if let some message := e.message then IO.eprintln ("Error: " ++ message)
    pure (UInt32.ofNat e.code)

/-- Reads the command line and carries it out. -/
def start (args : List String) : IO UInt32 := do
  match CommandLine.readInvocation (← environment) args with
  | .ok inv => run inv
  | .error halt =>
    if halt.exitCode = 0 then IO.println usage else IO.eprintln usage
    pure (UInt32.ofNat halt.exitCode)

end MapScout.Program

def main (args : List String) : IO UInt32 := MapScout.Program.start args
