import MarkdownLayout.Data
import MarkdownLayout.Color

/-!
Reading records out of self-describing values. Fields are read in the order of their names and the first
failure counts; a missing field is noticed only after that, in the order in which the record declares them.
A list may stand for a record: it holds the values in the order of declaration.
-/

namespace MarkdownLayout

inductive ReadingError where
  | invalidColor (text : String)
  | unknownVariant (name : String) (expected : List String)
  | missingField (name : String)
  | mismatch
  deriving DecidableEq, Repr, Inhabited

namespace ReadingError

def ticked (name : String) : String :=
  "`" ++ name ++ "`"

def expectedText : List String → String
  | [first, second] => ticked first ++ " or " ++ ticked second
  | names => "one of " ++ String.intercalate ", " (names.map ticked)

def message? : ReadingError → Option String
  | invalidColor text => some (Color.invalidMessage text)
  | unknownVariant name expected =>
    some ("unknown variant " ++ ticked name ++ ", expected " ++ expectedText expected)
  | missingField name => some ("missing field " ++ ticked name)
  | mismatch => none

end ReadingError

abbrev Reading (α : Type) := Except ReadingError α

/-- Whether a list that stands for a record may be longer than it. -/
inductive Surplus where
  | ignored
  | refused
  deriving DecidableEq, Repr, Inhabited

namespace Exchange

/-- The record that a list stands for. At least the first `required` fields have to be there. -/
def recordOfItems (surplus : Surplus) (names : List String) (required : Nat) (items : List α) :
    Reading (List (String × α)) :=
  if items.length < required || (surplus = .refused && names.length < items.length) then .error .mismatch
  else .ok (names.zip items)

def fieldsOf (surplus : Surplus) (names : List String) (required : Nat) : Data → Reading (List (String × Data))
  | .record fields => .ok fields
  | .list items => recordOfItems surplus names required items
  | _ => .error .mismatch

def field? (read : α → Reading β) (fields : List (String × α)) (name : String) : Reading (Option β) :=
  match fields.lookup name with
  | none => .ok none
  | some value => (read value).map some

def nullable? (read : Data → Reading β) (fields : List (String × Data)) (name : String) :
    Reading (Option β) :=
  match fields.lookup name with
  | none => .ok none
  | some .null => .ok none
  | some value => (read value).map some

def required (name : String) : Option β → Reading β
  | some value => .ok value
  | none => .error (.missingField name)

def text : Data → Reading String
  | .text s => .ok s
  | _ => .error .mismatch

def bool : Data → Reading Bool
  | .bool b => .ok b
  | _ => .error .mismatch

def count : Data → Reading Nat
  | .integer n => if 0 ≤ n && n < 0x10000000000000000 then .ok n.toNat else .error .mismatch
  | _ => .error .mismatch

def byte : Data → Reading UInt8
  | .integer n => if 0 ≤ n && n < 256 then .ok (UInt8.ofNat n.toNat) else .error .mismatch
  | _ => .error .mismatch

def listOf (read : Data → Reading β) : Data → Reading (List β)
  | .list items => items.mapM read
  | _ => .error .mismatch

/-- One of several named alternatives: its name, or a record with the name as its only key and null. -/
def variant (table : List (String × β)) : Data → Reading β
  | .text name => named name
  | .record [(name, .null)] => named name
  | _ => .error .mismatch
where
  named (name : String) : Reading β :=
    match table.lookup name with
    | some value => .ok value
    | none => .error (.unknownVariant name (table.map Prod.fst))

def ofOption (write : β → Data) : Option β → Data
  | some value => write value
  | none => .null

end Exchange

end MarkdownLayout
