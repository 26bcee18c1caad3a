import MarkdownLayout.Scalar

/-!
Self-describing values: what a profile file or a value in an exchange format holds before it is read as a
style, a node or a profile.
-/

namespace MarkdownLayout

inductive Data where
  | null
  | bool (value : Bool)
  | integer (value : Int)
  | real (value : Scalar)
  | text (value : String)
  | list (items : List Data)
  | record (fields : List (String × Data))
  deriving Repr, Inhabited

namespace Data

/-- Fields with `name` bound to `value`; an earlier binding of the name keeps its place. -/
def setField (name : String) (value : Data) : List (String × Data) → List (String × Data)
  | [] => [(name, value)]
  | (other, old) :: rest =>
    if other == name then (name, value) :: rest else (other, old) :: setField name value rest

def get? (name : String) : Data → Option Data
  | record fields => fields.lookup name
  | _ => none

end Data

end MarkdownLayout
