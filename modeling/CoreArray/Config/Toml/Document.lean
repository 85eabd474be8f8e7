import CoreArray.Config.Toml.Value
set_option autoImplicit false

/-!
# Settings from TOML documents (SPEC §10.4)

A configuration file is a TOML document.  Only the keys at its top give settings,
but all of it must be well formed, and no key may be given twice.

A document is a tree of tables.  A header opens a table, in which the lines after
it give keys values; the points of a key lead on to tables within.  A table that a
header made cannot be reached by points, nor be opened by another header, and no
key is put directly into a table that points did not make.
-/

namespace CoreArray.Toml

/-- What made a table. -/
inductive Origin where
  /-- A header of its own, or the start of the document. -/
  | header
  /-- The header of a table within it. -/
  | implied
  /-- The points of a key. -/
  | dotted
  deriving DecidableEq, Repr, Inhabited

/-- What a key of a table stands for. -/
inductive Node where
  | value (setting : Setting)
  | table (origin : Origin) (entries : List (String × Node))
  /-- Several tables, of which only the last can still change. -/
  | tables (last : List (String × Node))
  deriving Inhabited

/-- The keys of a table with what they stand for. -/
abbrev Entries : Type := List (String × Node)

namespace Entries

/-- What a key stands for. -/
def get? (entries : Entries) (key : String) : Option Node :=
  (entries.find? fun (other, _) => other == key).map Prod.snd

/-- Let a key stand for something. -/
def put (entries : Entries) (key : String) (node : Node) : Entries :=
  (key, node) :: entries.filter fun (other, _) => other != key

/-- Change the table that a path leads to, given what made it and its entries.  What
the path lacks is made on the way, by `origin`; points do not lead through the table
of a header. -/
def changeAt (origin : Origin) (change : Origin → Entries → Option Entries) :
    List String → Origin → Entries → Option Entries
  | [], made, entries => change made entries
  | key :: path, _, entries =>
      match entries.get? key with
      | none => do
          let inner ← changeAt origin change path origin []
          return entries.put key (.table origin inner)
      | some (.value _) => none
      | some (.table made inner) =>
          if origin = .dotted && made = .header then none
          else do
            let inner ← changeAt origin change path made inner
            return entries.put key (.table made inner)
      | some (.tables last) => do
          let last ← changeAt origin change path .header last
          return entries.put key (.tables last)

/-- Give a key a value in the table that points lead to. -/
def assign (entries : Entries) (key : List String) (setting : Setting) : Option Entries :=
  match key.getLast? with
  | none => none
  | some last =>
      let path := key.dropLast
      let change (made : Origin) (entries : Entries) : Option Entries :=
        if (path.isEmpty || made = .dotted) && (entries.get? last).isNone then
          some (entries.put last (.value setting))
        else none
      changeAt .dotted change path .header entries

/-- Open the table of a header. -/
def openTable (entries : Entries) (key : List String) : Option Entries :=
  match key.getLast? with
  | none => none
  | some last =>
      let change (_ : Origin) (entries : Entries) : Option Entries :=
        match entries.get? last with
        | none => some (entries.put last (.table .header []))
        | some (.table .implied inner) => some (entries.put last (.table .header inner))
        | some _ => none
      changeAt .implied change key.dropLast .header entries

/-- Open the next of several tables. -/
def openNext (entries : Entries) (key : List String) : Option Entries :=
  match key.getLast? with
  | none => none
  | some last =>
      let change (_ : Origin) (entries : Entries) : Option Entries :=
        match entries.get? last with
        | none | some (.tables _) => some (entries.put last (.tables []))
        | some _ => none
      changeAt .implied change key.dropLast .header entries

end Entries

/-- A document so far: its top table, and the path of the open one. -/
structure Document where
  top : Entries
  path : List String
  deriving Inhabited

namespace Document

/-- The document without keys. -/
def empty : Document := ⟨[], []⟩

/-- Give a key of the open table a value. -/
def assign (document : Document) (key : List String) (setting : Setting) : Option Document := do
  let change (_ : Origin) (entries : Entries) : Option Entries := entries.assign key setting
  let top ← Entries.changeAt .implied change document.path .header document.top
  return { document with top }

/-- Open the table of a header. -/
def openTable (document : Document) (key : List String) : Option Document :=
  (document.top.openTable key).map fun top => ⟨top, key⟩

/-- Open the next of several tables. -/
def openNext (document : Document) (key : List String) : Option Document :=
  (document.top.openNext key).map fun top => ⟨top, key⟩

/-- The settings at the top of a document. -/
def settings (document : Document) : Settings :=
  document.top.map fun (key, node) =>
    match node with
    | .value setting => (key, setting)
    | _ => (key, .other)

/-- Read a line that is not blank, and the rest. -/
def readLine (document : Document) (text : List Char) : Option (Document × List Char) :=
  match text with
  | '[' :: '[' :: rest => do
      let (key, rest) ← readKey rest
      match rest with
      | ']' :: ']' :: rest => return (← document.openNext key, rest)
      | _ => none
  | '[' :: rest => do
      let (key, rest) ← readKey rest
      match rest with
      | ']' :: rest => return (← document.openTable key, rest)
      | _ => none
  | text => do
      let (key, rest) ← readKey text
      match rest with
      | '=' :: rest => do
          let (value, rest) ← readValue (rest.length + 1) 0 (skipBlanks rest)
          return (← document.assign key value, rest)
      | _ => none

/-- Read the lines of a document. -/
def readLines : (fuel : Nat) → Document → List Char → Option Document
  | 0, _, _ => none
  | fuel + 1, document, text => do
      match ← skipGaps (text.length + 1) text with
      | [] => return document
      | text => do
          let (document, rest) ← document.readLine text
          readLines fuel document (← finishLine rest)

end Document

/-- Read the settings of a document; a mark of the byte order may precede it. -/
def read (text : String) : Option Settings :=
  let chars := match text.toList with
    | '\ufeff' :: rest => rest
    | chars => chars
  (Document.readLines (chars.length + 1) .empty chars).map Document.settings

end CoreArray.Toml
