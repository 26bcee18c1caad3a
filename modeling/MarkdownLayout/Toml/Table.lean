import MarkdownLayout.Data

/-!
Tables of TOML while they are put together. A table may be named by a header once, may be filled by dotted keys
in the section where they first named it, and can be neither once it is a plain value.
-/

namespace MarkdownLayout.Toml

/-- A table is implicit as long as only longer headers or keys have named it, and dotted when keys did. Of an
array of tables the last comes first, and is the one that headers mean. -/
inductive Entry where
  | value (data : Data)
  | table (isImplicit isDotted : Bool) (fields : List (String × Entry))
  | tables (items : List Entry)
  deriving Inhabited

namespace Entry

def setEntry (name : String) (entry : Entry) : List (String × Entry) → List (String × Entry)
  | [] => [(name, entry)]
  | (other, old) :: rest =>
    if other == name then (name, entry) :: rest else (other, old) :: setEntry name entry rest

/-- Changes the fields of the table at the end of a path; tables missing on the way are added. Dotted keys may
not enter a table that a header has named. -/
def alter (dotted : Bool) (change : Bool → List (String × Entry) → Option (List (String × Entry))) :
    List String → Entry → Option Entry
  | [], table isImplicit isDotted fields => (change isDotted fields).map (table isImplicit isDotted)
  | name :: path, table isImplicit isDotted fields =>
    let inside : Option Entry :=
      match fields.lookup name with
      | none => alter dotted change path (table true dotted [])
      | some (table isImplicit' isDotted' fields') =>
        if dotted && !isImplicit' then none else alter dotted change path (table isImplicit' isDotted' fields')
      | some (tables (last :: earlier)) =>
        (alter dotted change path last).map fun last => tables (last :: earlier)
      | _ => none
    inside.map fun entry => table isImplicit isDotted (setEntry name entry fields)
  | _, _ => none

def splitLast : List String → List String × String
  | [] => ([], "")
  | [name] => ([], name)
  | name :: rest =>
    let (path, last) := splitLast rest
    (name :: path, last)

def assign (path : List String) (data : Data) (entry : Entry) : Option Entry :=
  let (parents, name) := splitLast path
  alter true (fun isDotted fields =>
    if isDotted == parents.isEmpty || (fields.lookup name).isSome then none
    else some (fields ++ [(name, value data)])) parents entry

def assignBelow (header path : List String) (data : Data) (entry : Entry) : Option Entry :=
  alter false (fun _ fields =>
    match assign path data (table false false fields) with
    | some (table _ _ fields) => some fields
    | _ => none) header entry

def openTable (path : List String) (entry : Entry) : Option Entry :=
  let (parents, name) := splitLast path
  alter false (fun _ fields =>
    match fields.lookup name with
    | none => some (fields ++ [(name, table false false [])])
    | some (table true false inside) => some (setEntry name (table false false inside) fields)
    | _ => none) parents entry

def openItem (path : List String) (entry : Entry) : Option Entry :=
  let (parents, name) := splitLast path
  let fresh := table false false []
  alter false (fun _ fields =>
    match fields.lookup name with
    | none => some (fields ++ [(name, tables [fresh])])
    | some (tables items) => some (setEntry name (tables (fresh :: items)) fields)
    | _ => none) parents entry

mutual

def toData : Entry → Data
  | value data => data
  | table _ _ fields => .record (fieldsToData fields)
  | tables items => .list (itemsToData items).reverse

def fieldsToData : List (String × Entry) → List (String × Data)
  | [] => []
  | (name, entry) :: rest => (name, entry.toData) :: fieldsToData rest

def itemsToData : List Entry → List Data
  | [] => []
  | entry :: rest => entry.toData :: itemsToData rest

end

end Entry

end MarkdownLayout.Toml
