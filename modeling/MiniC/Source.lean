/-
  MiniC.Source — reading a source text from a file.

  A disk tells what a path leads to. One that is known as a tree of files is asked by
  following the path from directory to directory (`Tree.follow`). Before a source is read,
  its path is put into its shortest form; the bytes found there have to be well-formed
  UTF-8. A text that holds the null character is no path at all. Every line end of the text,
  a carriage return with or without a line feed, is read as a line feed; a byte order mark is
  kept.
-/

import MiniC.Text.Utf8

namespace MiniC

/-! ## Files and directories -/

inductive Entry where
  | directory
  | file (bytes : List UInt8)
  deriving DecidableEq, Repr

/-- Why there is nothing to read. -/
inductive ReadFault where
  | notFound
  | isDirectory
  | notDirectory
  | nameTooLong
  | notUtf8 (fault : Text.Utf8.Fault)
  deriving DecidableEq, Repr

def ReadFault.message : ReadFault → String
  | .notFound => "No such file or directory"
  | .isDirectory => "Is a directory"
  | .notDirectory => "Not a directory"
  | .nameTooLong => "File name too long"
  | .notUtf8 f => s!"not valid UTF-8 ({f.message})"

/-- What a path leads to. -/
abbrev Disk := String → Except ReadFault Entry

namespace Path

/-- Is the text a path? The null character stands in none. -/
def isPath (text : String) : Bool := !text.toList.contains '\x00'

/-- The names in a path; the empty ones are kept. -/
def split (path : String) : List String := path.splitOn "/"

/-- The names in a path that lead anywhere. -/
def names (path : String) : List String := (split path).filter fun n => n ≠ "" ∧ n ≠ "."

/-- What a path starts with when it does not start from the working directory. Two slashes
are told apart from one, and more count as one. -/
def root (path : String) : String :=
  match (path.toList.takeWhile (· == '/')).length with
  | 0 => ""
  | 2 => "//"
  | _ => "/"

/-- The path without empty names and names of the directory itself. -/
def shorten (path : String) : String :=
  let short := root path ++ "/".intercalate (names path)
  if short = "" then "." else short

/-- The most bytes that a name may have, and that a path may have. -/
def longestName : Nat := 255

def longestPath : Nat := 4095

end Path

/-- What lies in the working directory and below it, by path. -/
structure Tree where
  entries : List (List String × Entry)
  deriving Repr

/-- Where a path has led: into the working directory, by a path below it, or out of it. -/
inductive Place where
  | inside (path : List String)
  | outside
  deriving DecidableEq, Repr

namespace Tree

def ofNames (files : List (String × Entry)) : Tree :=
  ⟨files.map fun (name, e) => (Path.names name, e)⟩

/-- What lies at a path below the working directory. A directory is there as soon as
something lies in it. -/
def find? (tree : Tree) (path : List String) : Option Entry :=
  match tree.entries.lookup path with
  | some e => some e
  | none =>
    if path.isEmpty || tree.entries.any (fun e => path.isPrefixOf e.1) then some .directory
    else none

/-- What lies at a place; outside the working directory only directories are known. -/
def at? (tree : Tree) : Place → Option Entry
  | .inside path => tree.find? path
  | .outside => some .directory

/-- Go on from a place by one name. -/
def step (tree : Tree) (here : Place) (name : String) : Except ReadFault Place :=
  if tree.at? here != some .directory then .error .notDirectory
  else if name = "" ∨ name = "." then .ok here
  else
    match here with
    | .inside path =>
      if name = ".." then .ok (if path.isEmpty then .outside else .inside path.dropLast)
      else if name.utf8ByteSize > Path.longestName then .error .nameTooLong
      else if (tree.find? (path ++ [name])).isSome then .ok (.inside (path ++ [name]))
      else .error .notFound
    | .outside =>
      if name = ".." then .ok .outside
      else if name.utf8ByteSize > Path.longestName then .error .nameTooLong
      else .error .notFound

/-- Follow a path to its end. -/
def follow (tree : Tree) : Disk := fun path =>
  if path = "" then .error .notFound
  else if path.utf8ByteSize > Path.longestPath then .error .nameTooLong
  else do
    let start : Place := if Path.root path = "" then .inside [] else .outside
    let place ← (Path.split path).foldlM tree.step start
    match tree.at? place with
    | some e => .ok e
    | none => .error .notFound

end Tree

/-- The bytes of the file at a path. -/
def Disk.bytes (disk : Disk) (path : String) : Except ReadFault (List UInt8) :=
  match disk path with
  | .error f => .error f
  | .ok .directory => .error .isDirectory
  | .ok (.file bytes) => .ok bytes

/-! ## Source texts -/

structure SourceError where
  path : String
  fault : ReadFault
  deriving DecidableEq, Repr

def SourceError.message (e : SourceError) : String :=
  s!"Cannot read source '{e.path}': {e.fault.message}"

/-- Why there is no source text. -/
inductive LoadFault where
  | notPath
  | unreadable (e : SourceError)
  deriving DecidableEq, Repr

def LoadFault.message : LoadFault → String
  | .notPath => "embedded null byte"
  | .unreadable e => e.message

/-- Every line end as a line feed. -/
def unifyLineEnds : List Char → List Char
  | [] => []
  | '\r' :: '\n' :: r => '\n' :: unifyLineEnds r
  | '\r' :: r => '\n' :: unifyLineEnds r
  | c :: r => c :: unifyLineEnds r

/-- The source text that a list of bytes holds. -/
def sourceOfBytes (bytes : List UInt8) : Except Text.Utf8.Fault String :=
  (Text.Utf8.decode bytes).map fun cs => String.ofList (unifyLineEnds cs)

/-- The source text of the file at a path in its shortest form. -/
def Disk.source (disk : Disk) (path : String) : Except SourceError String :=
  match disk.bytes path with
  | .error f => .error ⟨path, f⟩
  | .ok bytes =>
    match sourceOfBytes bytes with
    | .error f => .error ⟨path, .notUtf8 f⟩
    | .ok text => .ok text

/-- The source text of the file at `path`. -/
def loadSource (disk : Disk) (path : String) : Except LoadFault String :=
  if Path.isPath path then (disk.source (Path.shorten path)).mapError .unreadable
  else .error .notPath

end MiniC
