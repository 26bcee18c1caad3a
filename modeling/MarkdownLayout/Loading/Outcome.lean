import MarkdownLayout.Url

/-!
What loading an image comes to.
-/

namespace MarkdownLayout

structure ImageData where
  url : Url
  bytes : ByteArray
  deriving Inhabited

instance : DecidableEq ImageData := fun first second =>
  decidable_of_iff (first.url = second.url ∧ first.bytes.data = second.bytes.data) <| by
    rw [ImageData.mk.injEq, ByteArray.ext_iff]

inductive LoadError where
  | unsupportedScheme (scheme : String)
  | unreadable (url : Url) (reason : String)
  | other (reason : String)
  deriving DecidableEq, Repr, Inhabited

namespace LoadError

def message : LoadError → String
  | unsupportedScheme scheme => "no loader for " ++ scheme ++ ":// urls"
  | unreadable url reason => "failed to read " ++ url.text ++ ": " ++ reason
  | other reason => reason

end LoadError

abbrev LoadOutcome := Except LoadError ImageData

end MarkdownLayout
