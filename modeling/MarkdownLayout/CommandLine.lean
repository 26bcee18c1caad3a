import MarkdownLayout.CommandLine.Arguments
import MarkdownLayout.Exchange.ProfileFile
import MarkdownLayout.Exchange.Rendering
import MarkdownLayout.Json.Printer
import MarkdownLayout.Loading.Dispatch
import MarkdownLayout.Loading.LocalImage
import MarkdownLayout.Markdown

/-!
The command line: renders a file of Markdown and prints its outline or its JSON form, and may then load the
images that lie beside it.
-/

namespace MarkdownLayout

structure CommandOutcome where
  exitCode : UInt8 := 0
  output : String := ""
  errors : String := ""
  deriving DecidableEq, Repr, Inhabited

namespace CommandOutcome

def failure (reason : String) : CommandOutcome :=
  { exitCode := 1, errors := reason ++ "\n" }

end CommandOutcome

def OutputFormat.print (format : OutputFormat) (rendering : Rendering) : String :=
  match format with
  | .outline => rendering.outline
  | .json => Json.pretty rendering.toData ++ "\n"

namespace CommandLine

def usage : String :=
  "Usage: markdown-layout [OPTIONS] <INPUT>\n"

def helpText : String :=
  "Render Markdown files into a layout tree\n\n" ++ usage ++ "\n" ++
  "Options:\n" ++
  "  -p, --profile <PROFILE>      formatting profile (TOML); the built-in one is used otherwise\n" ++
  "  -f, --format <FORMAT>        outline (the default) or json\n" ++
  "      --load-images            read referenced local images and report each completion\n" ++
  "      --log-level <LOG_LEVEL>  log filter\n" ++
  "  -h, --help                   print this text\n"

variable {m : Type → Type} [Monad m]

def loadProfile (files : FileAccess m) (path : String) : m (Except String Profile) := do
  match ← files.readText path with
  | .error reason => pure (.error ("I/O error: " ++ reason))
  | .ok text => pure ((Profile.ofToml? text).mapError fun _ => "invalid formatting profile")

def profileOf (files : FileAccess m) : Option String → m (Except String Profile)
  | none => pure (.ok .standard)
  | some path => do
    let profile ← loadProfile files path
    pure (profile.mapError fun reason => "Error loading profile " ++ path ++ ": " ++ reason)

/-- The rendering of the input file. Its image paths resolve beside it. -/
def renderInput (files : FileAccess m) (arguments : Arguments) : m (Except String Rendering) := do
  match ← files.readText arguments.input with
  | .error reason => pure (.error ("Error reading " ++ arguments.input ++ ": " ++ reason))
  | .ok markdown =>
    match ← profileOf files arguments.profile with
    | .error reason => pure (.error reason)
    | .ok profile =>
      let directory ← files.directoryOf? arguments.input
      let options : RenderOptions := { base := directory.map Url.ofDirectory }
      pure ((Rendering.ofMarkdown? options profile markdown).mapError fun e => "Error: " ++ e.report)

def reportLine : LoadReport → String
  | .image id (some data) =>
    "image #" ++ toString id ++ ": " ++ toString data.bytes.size ++ " bytes from " ++ data.url.text ++ "\n"
  | .image id none => "image #" ++ toString id ++ ": failed\n"
  | .allLoaded => "all images loaded\n"

def loadImages (files : FileAccess m) (images : List PendingImage) : m String := do
  let dispatch : Dispatch := { generation := .first, images }
  let reports ← dispatch.runInTurn (ImageCache.load files.loadImage)
  pure (String.join (reports.map reportLine))

def render (files : FileAccess m) (arguments : Arguments) : m CommandOutcome := do
  match ← renderInput files arguments with
  | .error reason => pure (.failure reason)
  | .ok rendering =>
    let loaded ← if arguments.loadsImages then loadImages files rendering.images else pure ""
    pure { output := arguments.format.print rendering ++ loaded }

def run (files : FileAccess m) (words : List String) : m CommandOutcome :=
  match command? words with
  | .error e => pure { exitCode := 2, errors := "error: " ++ e.message ++ "\n\n" ++ usage }
  | .ok .help => pure { output := helpText }
  | .ok (.render arguments) => render files arguments

end CommandLine

end MarkdownLayout
