import EditorShell.Builtin.Flags
import EditorShell.Command
import EditorShell.Json.Printer
import EditorShell.Url

/-!
# Simulated transfers

`curl` and `wget` look at the URL, answer as if a server had answered, and write nothing.
-/

namespace EditorShell
namespace Builtin
namespace Transfer

/-- The options of `curl` that take the next argument. -/
def valueOptions : List String :=
  ["-X", "--request", "-H", "--header", "-d", "--data", "-o", "--output"]

/-- What `curl` was asked for. -/
structure Request where
  method : String
  headOnly : Bool
  url : Option String

/-- Reads the arguments of `curl`; the last URL and the last method count. -/
def request (r : Request) : List String → Except Failure Request
  | [] => .ok r
  | arg :: args =>
    if valueOptions.contains arg then
      match args with
      | [] => .error (.usage ("curl: option " ++ arg ++ ": requires parameter"))
      | value :: args =>
        if arg = "-X" || arg = "--request" then request { r with method := Text.upper value } args
        else request r args
    else if arg = "-I" || arg = "--head" then request { r with headOnly := true } args
    else if Text.startsWith arg "-" then request r args
    else request { r with url := some arg } args

/-- The host and the path of a URL; one that is refused makes the command fail. -/
def hostAndPath (url : String) : Except Failure (String × String) :=
  (Url.hostAndPath url).mapError fun error => .crashed error.message

/-- The answer that tells the request. -/
def body (method host path : String) : String :=
  Json.render (.ascii (some 2)) (.object [("method", .string method), ("host", .string host),
    ("path", .string path), ("status", .string "ok"), ("simulated", .bool true)])

/-- Shows the request as the answer of a server, or with `-I` the head of one. -/
def curl (_ : Surroundings) (_ : Session) (args : List String) : Outcome := do
  let r ← request ⟨"GET", false, none⟩ args
  match r.url with
  | none =>
    throw (.usage "curl: no URL specified!\ncurl: try 'curl --help' for more information")
  | some url =>
    let (host, path) ← hostAndPath url
    if r.headOnly then
      return .ok "HTTP/1.1 200 OK\nContent-Type: application/json\nServer: simulated"
    else return .ok (body r.method host path)

/-- The name under which a download is saved: the last segment of the path. -/
def fileName (path : String) : String :=
  let name := Path.name (Text.trimEnd (· == '/') path)
  if name = "" then "index.html" else name

/-- What `wget` prints for a URL. -/
def download (url : String) : Except Failure String := do
  let (host, path) ← hostAndPath url
  return Text.joinLines ["Resolving " ++ host ++ "... done.",
    "HTTP request sent, awaiting response... 200 OK",
    "'" ++ fileName path ++ "' saved (simulated, nothing written)"]

/-- Tells of downloads, one block for each URL. -/
def wget (_ : Surroundings) (_ : Session) (args : List String) : Outcome := do
  let urls := withoutHyphen args
  if urls.isEmpty then throw (.usage "wget: missing URL\nUsage: wget [OPTION]... [URL]...")
  return .ok ("\n\n".intercalate (← urls.mapM download))

/-- The commands of this module. -/
def commands : List Command := [
  ⟨⟨"curl", "Transfer a URL (simulated)", "curl [-I] [-X method] <url>", "network", .always⟩,
    .view curl⟩,
  ⟨⟨"wget", "Download a URL (simulated)", "wget <url>", "network", .always⟩, .view wget⟩]

end Transfer
end Builtin
end EditorShell
