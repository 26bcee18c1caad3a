import MarkdownLayout.Toml.Scalar
import MarkdownLayout.Toml.Table

/-!
Reading TOML text into a record.
-/

namespace MarkdownLayout.Toml

mutual

def readValue : Nat → List Char → Option (Data × List Char)
  | 0, _ => none
  | _, [] => none
  | fuel + 1, c :: rest =>
    if isQuote c then (readString c rest).map fun (s, rest) => (.text s, rest)
    else if c = '[' then readItems fuel [] rest
    else if c = '\x7b' then readInline fuel (.table false false []) rest
    else readWord (c :: rest)

def readItems : Nat → List Data → List Char → Option (Data × List Char)
  | 0, _, _ => none
  | fuel + 1, items, cs => do
    match ← skipLines? cs.length cs with
    | ']' :: rest => some (.list items.reverse, rest)
    | cs =>
      let (item, rest) ← readValue fuel cs
      match ← skipLines? rest.length rest with
      | ',' :: rest => readItems fuel (item :: items) rest
      | ']' :: rest => some (.list (item :: items).reverse, rest)
      | _ => none

def readInline : Nat → Entry → List Char → Option (Data × List Char)
  | 0, _, _ => none
  | fuel + 1, entry, cs => do
    match ← skipLines? cs.length cs with
    | '\x7d' :: rest => some (entry.toData, rest)
    | cs =>
      let (path, rest) ← readKey cs.length cs
      let (item, rest) ← readValue fuel (skipBlanks (← afterChar? '=' rest))
      let entry ← entry.assign path item
      match ← skipLines? rest.length rest with
      | ',' :: rest => readInline fuel entry rest
      | '\x7d' :: rest => some (entry.toData, rest)
      | _ => none

end

structure Document where
  root : Entry := .table false false []
  header : List String := []
  deriving Inhabited

def readLine (document : Document) (cs : List Char) : Option (Document × List Char) :=
  match cs with
  | '[' :: '[' :: rest => do
    let (path, rest) ← readKey rest.length rest
    let root ← document.root.openItem path
    pure ({ root, header := path }, ← afterChar? ']' (← afterChar? ']' rest))
  | '[' :: rest => do
    let (path, rest) ← readKey rest.length rest
    let root ← document.root.openTable path
    pure ({ root, header := path }, ← afterChar? ']' rest)
  | cs => do
    let (path, rest) ← readKey cs.length cs
    let rest := skipBlanks (← afterChar? '=' rest)
    let (item, rest) ← readValue (2 * rest.length + 2) rest
    let root ← document.root.assignBelow document.header path item
    pure ({ document with root }, rest)

def readLines : Nat → Document → List Char → Option Data
  | 0, _, _ => none
  | fuel + 1, document, cs => do
    match ← skipLines? cs.length cs with
    | [] => some document.root.toData
    | cs =>
      let (document, rest) ← readLine document cs
      let rest ← afterComment? (skipBlanks rest)
      match rest with
      | [] => some document.root.toData
      | rest => readLines fuel document (← afterNewline? rest)

def read (s : String) : Option Data :=
  let cs := match s.toList with
    | '\ufeff' :: rest => rest
    | cs => cs
  readLines (cs.length + 1) {} cs

end MarkdownLayout.Toml
