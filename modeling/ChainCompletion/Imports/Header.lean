/-
# Imports.Header -- reading the head of a document

The head of a document is read line by line, blanks at both ends of a line aside.
It goes on through empty lines, comments and declarations, and ends before the
first other line.  A comment line starts with two slashes, or with a slash and a
star; the latter lasts until a line that holds a star and a slash, which may be the
same line.  A declaration is a line that starts with `package` or `import` and a
space; the declared name ends at the first semicolon.  Static imports lend no type
names but count as declarations.

New imports go after the last declaration, or to the top when there is none.
-/
import ChainCompletion.Distinct
import ChainCompletion.Imports.Scope
import ChainCompletion.Text.Blank
import ChainCompletion.Thread

namespace ChainCompletion

open Text

set_option autoImplicit false

/-- What a line of the head says, outside comments. -/
inductive HeaderLine where
  /-- Nothing: the line is empty, or a comment that ends with it. -/
  | silent
  /-- Nothing, and a comment goes on after it. -/
  | opensComment
  | package (name : String)
  | importType (name : String)
  | importPackage (name : String)
  | importStatic
  /-- The line does not belong to the head. -/
  | other
  deriving DecidableEq

namespace HeaderLine

/-- The end of a comment that may span lines. -/
def commentEnd : List Char := "*/".toList

/-- The name in a declaration, after its keyword. -/
def declaredName (text : List Char) : List Char :=
  trim (before ';' text)

/-- What an import declares, after its keyword. -/
def ofImport (text : List Char) : HeaderLine :=
  let text := trimLeft text
  if "static ".toList.isPrefixOf text then .importStatic
  else
    let name := declaredName text
    match stripEnd? ".*".toList name with
    | some opened => .importPackage (String.ofList opened)
    | none => .importType (String.ofList name)

/-- What a trimmed line says. -/
def ofTrimmed (text : List Char) : HeaderLine :=
  if text.isEmpty || "//".toList.isPrefixOf text then .silent
  else if "/*".toList.isPrefixOf text then
    if occursIn commentEnd text then .silent else .opensComment
  else
    match stripStart? "package ".toList text with
    | some rest => .package (String.ofList (declaredName rest))
    | none =>
        match stripStart? "import ".toList text with
        | some rest => ofImport rest
        | none => .other

end HeaderLine

/-- How far the head has been read. -/
structure HeaderScan where
  package : Option String
  types : List String
  onDemand : List String
  inComment : Bool
  /-- The offset after the lines read. -/
  offset : Nat
  /-- The offset after the last declaration. -/
  insertOffset : Nat
  /-- Whether the last declaration lacks a line break. -/
  needsNewline : Bool
  deriving DecidableEq

namespace HeaderScan

/-- Before the first line. -/
def start : HeaderScan := ⟨none, [], [], false, 0, 0, false⟩

/-- After a declaration on the given line, which has been counted. -/
def declared (scan : HeaderScan) (line : List Char) : HeaderScan :=
  { scan with
    insertOffset := scan.offset
    needsNewline := line.getLast? ≠ some '\n' }

/-- Reads one line; tells when the head ends with it. -/
def readLine (scan : HeaderScan) (line : List Char) : HeaderScan × Option Unit :=
  let text := trim line
  let scan := { scan with offset := scan.offset + byteLength line }
  if scan.inComment then
    ({ scan with inComment := !occursIn HeaderLine.commentEnd text }, none)
  else
    match HeaderLine.ofTrimmed text with
    | .silent => (scan, none)
    | .opensComment => ({ scan with inComment := true }, none)
    | .package name => ({ scan with package := some name }.declared line, none)
    | .importType name => ({ scan with types := addNew scan.types name }.declared line, none)
    | .importPackage name =>
        ({ scan with onDemand := addNew scan.onDemand name }.declared line, none)
    | .importStatic => (scan.declared line, none)
    | .other => (scan, some ())

/-- Reads the head of a document. -/
def ofChars (source : List Char) : HeaderScan :=
  (workOff readLine start (lines source)).1

end HeaderScan

/-- The scope that the head of a document gives. -/
def ImportScope.ofSource (source : String) : ImportScope :=
  let chars := source.toList
  let scan := HeaderScan.ofChars chars
  { package := scan.package
    types := scan.types
    onDemand := scan.onDemand
    insertAt := (LineStarts.ofChars chars).locate scan.insertOffset
    needsNewline := scan.needsNewline }

end ChainCompletion
