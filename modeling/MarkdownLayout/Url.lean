import MarkdownLayout.Text.Quoted

/-!
Absolute URLs in their normalised form, and the text of one.
-/

namespace MarkdownLayout

inductive Host where
  | name (text : String)
  | ipv4 (address : Nat)
  | ipv6 (pieces : List Nat)
  deriving DecidableEq, Repr, Inhabited

inductive UrlPath where
  | opaqueText (text : String)
  | segments (segments : List String)
  deriving DecidableEq, Repr, Inhabited

/-- All parts are already percent-encoded; a port that is the scheme's default is left out. -/
structure Url where
  scheme : String
  username : String
  password : String
  host : Option Host
  port : Option Nat
  path : UrlPath
  query : Option String
  fragment : Option String
  deriving DecidableEq, Repr, Inhabited

namespace Host

def ipv4Text (address : Nat) : String :=
  String.intercalate "." ([24, 16, 8, 0].map fun shift => toString (address / Nat.pow 2 shift % 256))

def longestZeroRun (pieces : List Nat) : Nat × Nat :=
  let runs := (List.range pieces.length).map fun start =>
    (start, ((pieces.drop start).takeWhile (· == 0)).length)
  runs.foldl (fun best run => if best.2 < run.2 then run else best) (0, 0)

def ipv6Text (pieces : List Nat) : String :=
  let join (ps : List Nat) := String.intercalate ":" (ps.map Text.hexadecimal)
  let (start, length) := longestZeroRun pieces
  if length < 2 then join pieces
  else join (pieces.take start) ++ "::" ++ join (pieces.drop (start + length))

def text : Host → String
  | name s => s
  | ipv4 address => ipv4Text address
  | ipv6 pieces => "[" ++ ipv6Text pieces ++ "]"

end Host

namespace UrlPath

def text : UrlPath → String
  | opaqueText s => s
  | segments ss => String.join (ss.map ("/" ++ ·))

end UrlPath

namespace Url

def credentials (url : Url) : String :=
  if url.username = "" && url.password = "" then ""
  else url.username ++ (if url.password = "" then "" else ":" ++ url.password) ++ "@"

/-- A path that starts with an empty segment needs `/.` in front where no host stands before it. -/
def authority (url : Url) : String :=
  match url.host with
  | some host =>
    "//" ++ url.credentials ++ host.text ++ (url.port.map fun p => ":" ++ toString p).getD ""
  | none =>
    match url.path with
    | .segments ("" :: _ :: _) => "/."
    | _ => ""

def text (url : Url) : String :=
  url.scheme ++ ":" ++ url.authority ++ url.path.text ++ (url.query.map ("?" ++ ·)).getD "" ++
    (url.fragment.map ("#" ++ ·)).getD ""

end Url

end MarkdownLayout
