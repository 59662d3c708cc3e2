/-
The table of a TOML document, put together from the sections under its headers.
The members of a table come in the order in which their headers first mention
them, and all that lies below a member comes with it. A table whose own header
stands twice breaks off at the second.
-/

import ReportMerge.Toml.Line

namespace ReportMerge.Toml

/-- What stands under a header: the path below the table that is being put together, whether each
such header opens a further element, and the entries. -/
structure Section where
  path : List String
  repeated : Bool
  entries : List (String × Tree)

namespace Section

/-- A header opens a new element of the very table that is being put together. -/
def opensElement (part : Section) : Bool := part.repeated && part.path.isEmpty

def below (part : Section) : Section := { part with path := part.path.tail }

/-- The sections of a list of lines. The entries in front of the first header make a section if
there are any. -/
def ofLines? (current : Option Section) : List Line → Option (List Section)
  | [] => some current.toList
  | .header repeated path :: lines => do
      let sections ← ofLines? (some { path, repeated, entries := [] }) lines
      return current.toList ++ sections
  | .entry path value :: lines => do
      let part := current.getD { path := [], repeated := false, entries := [] }
      let entries ← insertAt value path part.entries
      ofLines? (some { part with entries }) lines

end Section

/-- What a table is made of, in order: entries of its own, members that headers mention, and a
header that may not stand there. -/
inductive Row
  | entries (own : List (String × Tree))
  | member (name : String) (parts : List Section)
  | clash

def under (name : String) (parts : List Section) : List Section :=
  parts.filter fun part => part.path.head? == some name

def apartFrom (name : String) (parts : List Section) : List Section :=
  parts.filter fun part => part.path.head? != some name

theorem length_apartFrom (name : String) (parts : List Section) :
    (apartFrom name parts).length ≤ parts.length :=
  List.length_filter_le _ _

/-- The rows of a table. Its own header may stand once, and then not as that of an element. -/
def rows (headed : Bool) : List Section → List Row
  | [] => []
  | part :: parts =>
      match part.path with
      | [] =>
          if headed || part.repeated then [.clash]
          else .entries part.entries :: rows true parts
      | name :: _ =>
          .member name ((part :: under name parts).map Section.below)
            :: rows headed (apartFrom name parts)
termination_by parts => parts.length
decreasing_by
  · simp
  · have shorter := length_apartFrom name parts
    simp only [List.length_cons]
    omega

def elements : List Section → List (Section × List Section)
  | [] => []
  | opening :: parts =>
      (opening, parts.takeWhile (!·.opensElement))
        :: elements (parts.dropWhile (!·.opensElement))
termination_by parts => parts.length
decreasing_by
  have shorter := (List.dropWhile_sublist (!·.opensElement) (l := parts)).length_le
  simp only [List.length_cons]
  omega

def joinMembers (first : List (String × Tree)) (rest : List (String × Tree) × Ending) :
    List (String × Tree) × Ending :=
  (first ++ rest.1, rest.2)

/-- The members of the rows up to a header that may not stand there. -/
def membersOfRows (member : List Section → Tree) : List Row → List (String × Tree) × Ending
  | [] => ([], .closed)
  | .entries own :: others => joinMembers own (membersOfRows member others)
  | .member name parts :: others =>
      joinMembers [(name, member parts)] (membersOfRows member others)
  | .clash :: _ => ([], .torn)

def membersWithin (lone : Option LoneHeader) (headed : Bool) :
    Nat → List Section → List (String × Tree) × Ending
  | 0, _ => ([], .closed)
  | depth + 1, parts =>
      let member (below : List Section) : Tree :=
        match below with
        | first :: _ =>
            if first.opensElement then
              .tables lone ((elements below).map fun (opening, inside) =>
                let (members, ending) :=
                  joinMembers opening.entries (membersWithin lone true depth inside)
                .table (.header none) members ending)
            else
              let (members, ending) := membersWithin lone false depth below
              .table (.header lone) members ending
        | [] => .table (.header lone) [] .closed
      membersOfRows member (rows headed parts)

def loneHeader? : List Section → Option LoneHeader
  | [part] => part.path.getLast?.map fun name => { name, bare := part.entries.isEmpty }
  | _ => none

def tableOfSections (parts : List Section) : Tree :=
  let depth := (parts.map fun part => part.path.length).foldl max 0
  let (members, ending) := membersWithin (loneHeader? parts) false (depth + 1) parts
  .table (.header none) members ending

def tableOfText? (text : String) : Option Tree := do
  let lines ← linesOfText? text
  let parts ← Section.ofLines? none lines
  return tableOfSections parts

end ReportMerge.Toml
