/-
Documents of sections that hold plain values only. Where no two sections share a
name, the table of such a document has one member for each section, in order, and
nothing in it has broken off.
-/

import ReportMerge.Toml.Table
import ReportMerge.Proofs.Toml.Line
import ReportMerge.Proofs.Reading.Records

namespace ReportMerge.Toml

abbrev Entries := List (String × Plain)

def Entries.members (entries : Entries) : List (String × Tree) :=
  entries.map fun (name, plain) => (name, plain.tree)

def Entries.lines (entries : Entries) : List Line :=
  entries.map fun (name, plain) => .entry [name] plain.tree

def linesOf : List (String × Entries) → List Line
  | [] => []
  | (name, entries) :: sections =>
      .header false [name] :: entries.lines ++ linesOf sections

/-- A text whose lines are those of some sections. -/
def SpelledBy (text : String) (sections : List (String × Entries)) : Prop :=
  ∃ tokens, Token.Written text.toList tokens ∧ Spells tokens (linesOf sections)

def Section.ofEntries : String × Entries → Section
  | (name, entries) => { path := [name], repeated := false, entries := entries.members }

theorem ofLines?_entries (part : Section) (entries : Entries) (lines : List Line) :
    Section.ofLines? (some part) (entries.lines ++ lines) =
      Section.ofLines? (some { part with entries := part.entries ++ entries.members }) lines := by
  induction entries generalizing part with
  | nil =>
      change _ = Section.ofLines? (some { part with entries := part.entries ++ [] }) lines
      rw [List.append_nil]
      rfl
  | cons entry entries ih =>
      obtain ⟨name, plain⟩ := entry
      change Section.ofLines? (some { part with entries := part.entries ++ [(name, plain.tree)] })
        (Entries.lines entries ++ lines) = _
      rw [ih]
      simp only [List.append_assoc]
      rfl

theorem ofLines?_linesOf (sections : List (String × Entries)) (current : Option Section) :
    Section.ofLines? current (linesOf sections) =
      some (current.toList ++ sections.map Section.ofEntries) := by
  induction sections generalizing current with
  | nil =>
      rw [List.map_nil, List.append_nil]
      rfl
  | cons part sections ih =>
      obtain ⟨name, entries⟩ := part
      have opened : Section.ofLines? (some { path := [name], repeated := false, entries := [] })
          (entries.lines ++ linesOf sections) =
          some (Section.ofEntries (name, entries) :: sections.map Section.ofEntries) := by
        rw [ofLines?_entries, ih]
        rfl
      change (do
        let sections ← Section.ofLines? (some { path := [name], repeated := false, entries := [] })
          (entries.lines ++ linesOf sections)
        return current.toList ++ sections) = _
      rw [opened]
      rfl

section

variable {name : String} {sections : List (String × Entries)}
  (absent : name ∉ sections.map Prod.fst)

include absent

theorem head?_path_ne {part : Section} (member : part ∈ sections.map Section.ofEntries) :
    part.path.head? ≠ some name := by
  obtain ⟨⟨other, entries⟩, given, rfl⟩ := List.mem_map.mp member
  rintro ⟨⟩
  exact absent (List.mem_map.mpr ⟨_, given, rfl⟩)

theorem under_of_not_mem : under name (sections.map Section.ofEntries) = [] := by
  rw [under, List.filter_eq_nil_iff]
  intro part member
  simpa using head?_path_ne absent member

theorem apartFrom_of_not_mem :
    apartFrom name (sections.map Section.ofEntries) = sections.map Section.ofEntries := by
  rw [apartFrom, List.filter_eq_self]
  intro part member
  simpa using head?_path_ne absent member

end

def Section.own (entries : List (String × Tree)) : Section :=
  { path := [], repeated := false, entries }

theorem rows_ofEntries {sections : List (String × Entries)}
    (distinct : (sections.map Prod.fst).Nodup) :
    rows false (sections.map Section.ofEntries) =
      sections.map fun (name, entries) => .member name [Section.own entries.members] := by
  induction sections with
  | nil =>
      rw [List.map_nil, rows]
      rfl
  | cons part sections ih =>
      obtain ⟨name, entries⟩ := part
      obtain ⟨absent, others⟩ := List.nodup_cons.mp distinct
      rw [List.map_cons, rows]
      simp only [Section.ofEntries]
      rw [under_of_not_mem absent, apartFrom_of_not_mem absent, ih others]
      rfl

theorem membersWithin_own (lone : Option LoneHeader) (depth : Nat)
    (entries : List (String × Tree)) :
    membersWithin lone false (depth + 1) [Section.own entries] = (entries, .closed) := by
  have single : rows false [Section.own entries] = [.entries entries] := by
    rw [rows]
    simp only [Section.own, Bool.or_self, Bool.false_eq_true, if_false]
    rw [rows]
  rw [membersWithin, single]
  change (entries ++ [], Ending.closed) = _
  rw [List.append_nil]

/-- A document without headers is nothing but its entries. -/
theorem tableOfSections_own (entries : List (String × Tree)) :
    tableOfSections [Section.own entries] = .table (.header none) entries .closed := by
  unfold tableOfSections
  change Tree.table _ (membersWithin none false (0 + 1) [Section.own entries]).1
    (membersWithin none false (0 + 1) [Section.own entries]).2 = _
  rw [membersWithin_own]

def sectionMembers (lone : Option LoneHeader) (sections : List (String × Entries)) :
    List (String × Tree) :=
  sections.map fun (name, entries) => (name, .table (.header lone) entries.members .closed)

theorem membersWithin_ofEntries (lone : Option LoneHeader) {sections : List (String × Entries)}
    (distinct : (sections.map Prod.fst).Nodup) (depth : Nat) :
    membersWithin lone false (depth + 2) (sections.map Section.ofEntries) =
      (sectionMembers lone sections, .closed) := by
  rw [membersWithin, rows_ofEntries distinct]
  -- Each section has its own row now, and rows are turned into members one by one.
  clear distinct
  induction sections with
  | nil => rfl
  | cons part sections ih =>
      obtain ⟨name, entries⟩ := part
      rw [List.map_cons, membersOfRows, ih]
      simp only [Section.opensElement, membersWithin_own]
      rfl

theorem depth_ofEntries (sections : List (String × Entries)) (start : Nat) :
    ((sections.map Section.ofEntries).map fun part => part.path.length).foldl max start =
      if sections = [] then start else max start 1 := by
  induction sections generalizing start with
  | nil => rfl
  | cons part sections ih =>
      rw [List.map_cons, List.map_cons, List.foldl_cons, ih, if_neg (List.cons_ne_nil _ _)]
      change (if sections = [] then max start 1 else max (max start 1) 1) = _
      rw [Nat.max_assoc, Nat.max_self, ite_self]

theorem tableOfSections_ofEntries {sections : List (String × Entries)}
    (distinct : (sections.map Prod.fst).Nodup) :
    tableOfSections (sections.map Section.ofEntries) =
      .table (.header none)
        (sectionMembers (loneHeader? (sections.map Section.ofEntries)) sections) .closed := by
  unfold tableOfSections
  simp only [depth_ofEntries]
  cases sections with
  | nil =>
      rw [if_pos rfl, List.map_nil, membersWithin, rows]
      rfl
  | cons part sections =>
      rw [if_neg (List.cons_ne_nil _ _)]
      change Tree.table _ (membersWithin _ false (0 + 2) _).1
        (membersWithin _ false (0 + 2) _).2 = _
      rw [membersWithin_ofEntries _ distinct]

/-- A text is taken apart into tokens, lines and sections before its table is put together. -/
theorem tableOfText?_of_written {text : String} {tokens : List Token} {lines : List Line}
    {parts : List Section} (written : Token.Written text.toList tokens)
    (read : lines? (tokens.length + 1) tokens = some lines)
    (parted : Section.ofLines? none lines = some parts) :
    tableOfText? text = some (tableOfSections parts) := by
  have linesOfText : linesOfText? text = some lines := by
    unfold linesOfText?
    rw [written.scanDocument_eq]
    exact read
  unfold tableOfText?
  rw [linesOfText]
  simp only [Option.bind_eq_bind, Option.bind_some, parted]
  rfl

theorem SpelledBy.tableOfText?_eq {text : String} {sections : List (String × Entries)}
    (spelled : SpelledBy text sections) (distinct : (sections.map Prod.fst).Nodup) :
    ∃ lone, tableOfText? text =
      some (.table (.header none) (sectionMembers lone sections) .closed) := by
  obtain ⟨tokens, written, spells⟩ := spelled
  refine ⟨loneHeader? (sections.map Section.ofEntries), ?_⟩
  rw [tableOfText?_of_written written (spells.lines?_eq (Nat.lt_succ_self _))
    (ofLines?_linesOf sections none)]
  exact congrArg some (tableOfSections_ofEntries distinct)

end ReportMerge.Toml
