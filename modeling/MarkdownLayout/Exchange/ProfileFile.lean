import MarkdownLayout.Exchange.Profile
import MarkdownLayout.Toml.Reader

/-!
Profile files: TOML text that holds a formatting profile.
-/

namespace MarkdownLayout

inductive ProfileError where
  | malformed
  | unreadable (error : ReadingError)
  deriving DecidableEq, Repr, Inhabited

namespace ProfileError

def message? : ProfileError → Option String
  | malformed => none
  | unreadable error => error.message?

end ProfileError

def Profile.ofToml? (text : String) : Except ProfileError Profile :=
  match Toml.read text with
  | none => .error .malformed
  | some data =>
    match ofData .ignored data with
    | .ok profile => .ok profile
    | .error e => .error (.unreadable e)

end MarkdownLayout
