import ConverterKit.Toml.Value

/-!
# Documents

A document is a text of lines. Each line is empty, sets a key, or is the header of a table; a value
may run over several lines. The lines build up the document one after another: settings go into the
table of the last header, and a table takes its place in the document when the next header, or the
end, closes it.

## Main definitions

* `Toml.Line`, `Toml.lines`: the lines of a document
* `Toml.Draft`: a document in the making
* `Toml.parse?`: the document of a text
-/

namespace ConverterKit

namespace Toml

open Reader

/-- A line of a document. -/
inductive Line where
  /-- Nothing, or a comment. -/
  | blank
  /-- A key is set. -/
  | setting (path : List String) (name : String) (item : Item)
  /-- The header of a table. -/
  | table (path : List String) (name : String)
  /-- The header of one more table of an array. -/
  | member (path : List String) (name : String)

/-- The header of a table, or of a member of an array of tables. -/
def header : Reader Line :=
  (do
    expect ['[', '[']
    let (path, name) ← key
    expect [']', ']']
    return .member path name) <|>
  (do
    expect ['[']
    let (path, name) ← key
    expect [']']
    return .table path name)

/-- A line without its end. -/
def lineContent : Reader Line :=
  header <|>
    (do
      let (path, name, item) ← assignment (value depthLimit)
      return .setting path name item) <|>
    pure .blank

/-- Lines up to the end of the text, at most the given number. -/
def linesUpTo : Nat → Reader (List Line)
  | 0 => do
    endOfText
    return []
  | n + 1 => (do endOfText; return []) <|> (do
    blanks
    let line ← lineContent
    lineEnd
    (line :: ·) <$> linesUpTo n)

/-- The lines of a text. A byte order mark may stand in front. -/
def lines? (text : List Char) : Option (List Line) :=
  let text := match text with
    | c :: rest => if c = Char.ofNat 0xFEFF then rest else text
    | [] => []
  readAll? (linesUpTo text.length) text

/-- The table that settings go into at the moment. -/
inductive Place where
  /-- The document itself. -/
  | top
  /-- A table with a header. -/
  | table (path : List String) (name : String)
  /-- A new member of an array of tables. -/
  | member (path : List String) (name : String)

/-- A document in the making. -/
structure Draft where
  /-- What has taken its place in the document. -/
  closed : Entries := []
  /-- Where the open table belongs. -/
  place : Place := .top
  /-- What has been set in the open table. -/
  entries : Entries := []

namespace Draft

/-- Put the open table in its place. -/
def close (d : Draft) : Option Entries :=
  match d.place with
  | .top => some d.entries
  | .table path name =>
    (update (fun parent => some (Named.set name (.table .header d.entries) parent, ()))
      path d.closed).map Prod.fst
  | .member path name =>
    (update (fun parent =>
      match Named.find? name parent with
      | some (.tables members) =>
        some (Named.set name (.tables (members ++ [d.entries])) parent, ())
      | _ => none) path d.closed).map Prod.fst

/-- Open the table of a header. It must not have been written before, but may have been made as a
parent by headers, and then keeps what it has. -/
def openTable (path : List String) (name : String) (closed : Entries) : Option Draft := do
  let (closed, entries) ← update (fun parent =>
    match Named.find? name parent with
    | none => some (parent, [])
    | some (.table .implied entries) => some (Named.erase name parent, entries)
    | some _ => none) path closed
  return { closed, place := .table path name, entries }

/-- Open a new member of an array of tables. -/
def openMember (path : List String) (name : String) (closed : Entries) : Option Draft := do
  let (closed, _) ← update (fun parent =>
    match Named.find? name parent with
    | none => some (Named.set name (.tables []) parent, ())
    | some (.tables _) => some (parent, ())
    | some _ => none) path closed
  return { closed, place := .member path name, entries := [] }

/-- Take a line into account. -/
def addLine (d : Draft) : Line → Option Draft
  | .blank => some d
  | .setting path name item => do
    let entries ← setDotted name item path d.entries
    return { d with entries }
  | .table path name => do openTable path name (← d.close)
  | .member path name => do openMember path name (← d.close)

end Draft

/-- The document of a text, or nothing if the text is not a document. -/
def parse? (text : List Char) : Option Entries := do
  let lines ← lines? text
  let draft ← lines.foldlM Draft.addLine {}
  draft.close

end Toml

end ConverterKit
