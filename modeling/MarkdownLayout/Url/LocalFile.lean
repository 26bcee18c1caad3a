import MarkdownLayout.Url.Parser

/-!
Files of this machine as URLs. A file name is bytes between slashes, nearly always text.
-/

namespace MarkdownLayout.Url

def ofDirectory (path : String) : Url :=
  let components := (Host.splitOn '/' path.toList).filter fun part => !part.isEmpty
  let segments := components.map (Percent.encode Percent.fileComponent)
  { blank "file" with host := some (.name ""), path := .segments (segments ++ [""]) }

def isLetterByte (byte : UInt8) : Bool :=
  (0x41 ≤ byte && byte ≤ 0x5a) || (0x61 ≤ byte && byte ≤ 0x7a)

def endsInDrive (path : List UInt8) : Bool :=
  match path.reverse with
  | mark :: letter :: _ :: _ => isLetterByte letter && (mark == 0x3a || mark == 0x7c)
  | _ => false

/-- The absolute path that a file URL without a host names. A drive is a directory. -/
def localPath? (url : Url) : Option (List UInt8) :=
  match url.scheme == "file" && (url.host == none || url.host == some (.name "")), url.path with
  | true, .segments segments =>
    let path := segments.flatMap fun segment => 0x2f :: Percent.decode segment.toList
    some (if endsInDrive path then path ++ [0x2f] else path)
  | _, _ => none

end MarkdownLayout.Url
