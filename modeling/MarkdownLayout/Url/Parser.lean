import MarkdownLayout.Url.HostParser

/-!
Reading URLs, alone or relative to a base. Schemes of the web and of files have a fixed syntax: they always
have a hierarchy, their backslashes count as slashes, and their dots in paths are resolved.
-/

namespace MarkdownLayout.Url

def defaultPort? (scheme : String) : Option Nat :=
  match scheme with
  | "http" => some 80
  | "ws" => some 80
  | "https" => some 443
  | "wss" => some 443
  | "ftp" => some 21
  | _ => none

def isSpecial (scheme : String) : Bool :=
  scheme == "file" || (defaultPort? scheme).isSome

def cleaned (s : String) : List Char :=
  let isOuter (c : Char) : Bool := c.toNat ≤ 0x20
  let inner := (((s.toList.dropWhile isOuter).reverse.dropWhile isOuter).reverse)
  inner.filter fun c => c != '\t' && c != '\n' && c != '\r'

def splitScheme (cs : List Char) : Option (String × List Char) :=
  let isSchemeChar (c : Char) : Bool := c.isAlphanum || c == '+' || c == '-' || c == '.'
  match cs with
  | [] => none
  | first :: _ =>
    if first.isAlpha then
      match cs.dropWhile isSchemeChar with
      | ':' :: rest => some (String.ofList ((cs.takeWhile isSchemeChar).map Char.toLower), rest)
      | _ => none
    else none

def isSlash (special : Bool) (c : Char) : Bool :=
  c == '/' || special && c == '\x5c'

def endsPath (c : Char) : Bool :=
  c == '?' || c == '#'

def isDrive (cs : List Char) : Bool :=
  match cs with
  | [letter, mark] => letter.isAlpha && (mark == ':' || mark == '|')
  | _ => false

def isNormalizedDrive (segment : String) : Bool :=
  match segment.toList with
  | [letter, ':'] => letter.isAlpha
  | _ => false

def startsWithDrive (cs : List Char) : Bool :=
  match cs with
  | letter :: mark :: rest =>
    isDrive [letter, mark] && (match rest with
      | [] => true
      | c :: _ => isSlash true c || endsPath c)
  | _ => false

/-- The path without its last segment; the drive letter of a file stays. -/
def shortened (scheme : String) (path : List String) : List String :=
  match path with
  | [only] => if scheme == "file" && isNormalizedDrive only then path else []
  | _ => path.dropLast

def isSingleDot (cs : List Char) : Bool :=
  [".", "%2e"].contains (String.ofList (cs.map Char.toLower))

def isDoubleDot (cs : List Char) : Bool :=
  ["..", ".%2e", "%2e.", "%2e%2e"].contains (String.ofList (cs.map Char.toLower))

def appendSegment (scheme : String) (path : List String) (segment : List Char) (final : Bool) : List String :=
  if isDoubleDot segment then
    let up := shortened scheme path
    if final then up ++ [""] else up
  else if isSingleDot segment then if final then path ++ [""] else path
  else
    let encoded := Percent.encode Percent.path segment
    match scheme == "file" && path.isEmpty && isDrive segment, segment with
    | true, letter :: _ => path ++ [String.ofList [letter, ':']]
    | _, _ => path ++ [encoded]

def walkPath (scheme : String) : List String → List Char → List Char → List String
  | path, segment, [] => appendSegment scheme path segment.reverse true
  | path, segment, c :: rest =>
    if isSlash (isSpecial scheme) c then
      walkPath scheme (appendSegment scheme path segment.reverse false) [] rest
    else walkPath scheme path (c :: segment) rest

def fragmentOf (cs : List Char) : Option String :=
  match cs with
  | '#' :: rest => some (Percent.encode Percent.fragment rest)
  | _ => none

def queryAndFragment (scheme : String) (cs : List Char) : Option String × Option String :=
  match cs with
  | '?' :: rest =>
    let encodeSet := if isSpecial scheme then Percent.specialQuery else Percent.query
    (some (Percent.encode encodeSet (rest.takeWhile (· != '#'))), fragmentOf (rest.dropWhile (· != '#')))
  | _ => (none, fragmentOf cs)

def withTail (url : Url) (cs : List Char) : Url :=
  let (query, fragment) := queryAndFragment url.scheme cs
  { url with query := query, fragment := fragment }

def withPath (url : Url) (start : List String) (cs : List Char) : Url :=
  let path := cs.takeWhile fun c => !endsPath c
  let url := { url with path := .segments (walkPath url.scheme start [] path) }
  url.withTail (cs.dropWhile fun c => !endsPath c)

/-- An absolute path: one leading slash is dropped, and without a path a special scheme still has the root. -/
def withAbsolutePath (url : Url) (cs : List Char) : Url :=
  match cs with
  | [] => if isSpecial url.scheme then url.withPath [] [] else { url with path := .segments [] }
  | c :: rest =>
    if isSlash (isSpecial url.scheme) c then url.withPath [] rest
    else if !isSpecial url.scheme && endsPath c then { url with path := .segments [] }.withTail cs
    else url.withPath [] cs

def blank (scheme : String) : Url :=
  { scheme := scheme, username := "", password := "", host := none, port := none
    path := .segments [], query := none, fragment := none }

def splitCredentials (cs : List Char) : Option (List Char) × List Char :=
  let hostPart := (cs.reverse.takeWhile (· != '@')).reverse
  if hostPart.length = cs.length then (none, cs)
  else (some (cs.take (cs.length - hostPart.length - 1)), hostPart)

def splitPort : Bool → List Char → List Char × Option (List Char)
  | _, [] => ([], none)
  | inBrackets, c :: rest =>
    if c == ':' && !inBrackets then ([], some rest)
    else
      let inside := if c == '[' then true else if c == ']' then false else inBrackets
      let (host, port) := splitPort inside rest
      (c :: host, port)

def port? (scheme : String) (text : List Char) : Option (Option Nat) :=
  if text.isEmpty then some none
  else if text.all Char.isDigit then
    let n := text.foldl (fun n c => 10 * n + (c.toNat - 0x30)) 0
    if 65535 < n then none else some (if defaultPort? scheme = some n then none else some n)
  else none

def parseAuthority? (scheme : String) (cs : List Char) : Option Url := do
  let special := isSpecial scheme
  let ends (c : Char) : Bool := isSlash special c || endsPath c
  let authority := cs.takeWhile fun c => !ends c
  let rest := cs.dropWhile fun c => !ends c
  let (credentials, hostAndPort) := splitCredentials authority
  let (hostText, portText) := splitPort false hostAndPort
  let userText := (credentials.getD []).takeWhile (· != ':')
  let passwordText := ((credentials.getD []).dropWhile (· != ':')).drop 1
  if hostText.isEmpty && (special || credentials.isSome || portText.isSome) then none
  else do
    let host ← if hostText.isEmpty then some (.name "") else Host.parse? special hostText
    let port ← port? scheme (portText.getD [])
    let url := { blank scheme with
      username := Percent.encode Percent.credentials userText
      password := Percent.encode Percent.credentials passwordText
      host := some host
      port := port }
    pure (url.withAbsolutePath rest)

/-- Schemes of the web accept any number of slashes before their host. -/
def parseSpecialAuthority? (scheme : String) (cs : List Char) : Option Url :=
  parseAuthority? scheme (cs.dropWhile (isSlash true))

def baseSegments (base : Url) : List String :=
  match base.path with
  | .segments segments => segments
  | .opaqueText _ => []

/-- A path that starts at the root of a file's host, which keeps the drive of a base file. -/
def fileRooted (url : Url) (base : Option Url) (cs : List Char) : Url :=
  let drive := match base.map baseSegments with
    | some (first :: _) => if isNormalizedDrive first && !startsWithDrive cs then [first] else []
    | _ => []
  url.withPath drive cs

def parseFileHost? (url : Url) (cs : List Char) : Option Url :=
  let ends (c : Char) : Bool := isSlash true c || endsPath c
  let hostText := cs.takeWhile fun c => !ends c
  let rest := cs.dropWhile fun c => !ends c
  if isDrive hostText then some (url.withPath [] cs)
  else if hostText.isEmpty then some (url.withAbsolutePath rest)
  else do
    let host ← Host.parse? true hostText
    let host := if host = .name "localhost" then .name "" else host
    pure ({ url with host := some host }.withAbsolutePath rest)

/-- The url that keeps the place of its base and adds what is left: nothing, a query, a fragment or a path. -/
def fromBasePlace (url base : Url) (cs : List Char) (step : List String → List String) : Url :=
  let same := { url with path := base.path }
  match cs with
  | [] => { same with query := base.query }
  | '?' :: _ => same.withTail cs
  | '#' :: _ => { same with query := base.query, fragment := fragmentOf cs }
  | _ => url.withPath (step (baseSegments base)) cs

def leadingSlashes (special : Bool) (cs : List Char) : Nat :=
  ((cs.take 2).takeWhile (isSlash special)).length

def parseFile? (base : Option Url) (cs : List Char) : Option Url :=
  let fileBase := base.filter fun b => b.scheme == "file"
  let url := { blank "file" with host := some (.name "") }
  let atBase := { url with host := (fileBase.bind Url.host).or url.host }
  match leadingSlashes true cs, fileBase with
  | 0, none => some (url.withPath [] cs)
  | 0, some b =>
    let step (path : List String) := if startsWithDrive cs then [] else shortened "file" path
    some (fromBasePlace atBase b cs step)
  | 1, _ => some (fileRooted atBase fileBase (cs.drop 1))
  | _, _ => parseFileHost? url (cs.drop 2)

def parseRelative? (base : Url) (cs : List Char) : Option Url :=
  let special := isSpecial base.scheme
  let place := { base with query := none, fragment := none }
  match leadingSlashes special cs with
  | 0 => some (fromBasePlace place base cs (shortened base.scheme))
  | 1 => some (place.withPath [] (cs.drop 1))
  | _ =>
    if special then parseSpecialAuthority? base.scheme (cs.drop 2) else parseAuthority? base.scheme (cs.drop 2)

def parseOpaquePath (scheme : String) (cs : List Char) : Url :=
  let path := Percent.encode Percent.controls (cs.takeWhile fun c => !endsPath c)
  { blank scheme with path := .opaqueText path }.withTail (cs.dropWhile fun c => !endsPath c)

def parseWithScheme? (scheme : String) (base : Option Url) (cs : List Char) : Option Url :=
  if scheme == "file" then parseFile? base cs
  else if isSpecial scheme then
    match base.filter fun b => b.scheme == scheme with
    | some b => parseRelative? b cs
    | none => parseSpecialAuthority? scheme cs
  else
    match cs with
    | '/' :: '/' :: rest => parseAuthority? scheme rest
    | '/' :: rest => some ((blank scheme).withPath [] rest)
    | _ => some (parseOpaquePath scheme cs)

def parseWithoutScheme? (base : Url) (cs : List Char) : Option Url :=
  match base.path with
  | .opaqueText _ =>
    match cs with
    | '#' :: _ => some { base with fragment := fragmentOf cs }
    | _ => none
  | .segments _ => if base.scheme == "file" then parseFile? (some base) cs else parseRelative? base cs

def resolve? (base : Option Url) (s : String) : Option Url :=
  let cs := cleaned s
  match splitScheme cs with
  | some (scheme, rest) => parseWithScheme? scheme base rest
  | none => base.bind fun b => parseWithoutScheme? b cs

def parse? (s : String) : Option Url :=
  resolve? none s

end MarkdownLayout.Url
