/-
The documented layout of settings: a section for merges and a section for log
lines, each with any of its keys. Whatever a document gives is taken as it stands,
and whatever it leaves out has its default; keys and sections of other names play
no part.
-/

import ReportMerge.Proofs.Settings.Fields
import ReportMerge.Proofs.Text.Case
import ReportMerge.Proofs.Toml.Writing
import Mathlib.Logic.Relation

namespace ReportMerge

namespace MissingPermissions

def name : MissingPermissions → String
  | .reject => "reject"
  | .deny => "deny"

end MissingPermissions

structure GivenSettings where
  missingPermissions : Option MissingPermissions := none
  maxNodes : Option Nat := none
  level : Option String := none
  json : Option Bool := none

def GivenSettings.settings (given : GivenSettings) : Settings where
  merge :=
    { missingPermissions := given.missingPermissions.getD ({} : MergePolicy).missingPermissions
      maxNodes := given.maxNodes.or ({} : MergePolicy).maxNodes }
  log :=
    { level := given.level.getD ({} : LogSettings).level
      json := given.json.getD ({} : LogSettings).json }

namespace Settings

open Toml (Entries Plain)

/-- The entries under the headers of a name, which stand in one section at most where the names
of sections differ. -/
def entriesUnder (name : String) (sections : List (String × Entries)) : Entries :=
  (valuesOf name sections).flatten

def knownKeys (name : String) : List String :=
  if name = "merge" then ["missing_permissions", "max_nodes"]
  else if name = "log" then ["level", "json"]
  else []

/-- Sections that give exactly these values. Each section stands once, and so does each key that
has a meaning. -/
structure LaidOut (given : GivenSettings) (sections : List (String × Entries)) : Prop where
  distinct : (sections.map Prod.fst).Nodup
  missingPermissions : valuesOf "missing_permissions" (entriesUnder "merge" sections) =
    (given.missingPermissions.map fun policy => Plain.text policy.name).toList
  maxNodes : valuesOf "max_nodes" (entriesUnder "merge" sections) =
    (given.maxNodes.map fun nodes : Nat => Plain.whole nodes).toList
  level : valuesOf "level" (entriesUnder "log" sections) = (given.level.map Plain.text).toList
  json : valuesOf "json" (entriesUnder "log" sections) = (given.json.map Plain.flag).toList
  bounded : ∀ nodes ∈ given.maxNodes, (nodes : Int) ≤ Int64.maxValue.toInt

/-- One more key without a meaning, or one more section of another name. -/
inductive Extended : List (String × Entries) → List (String × Entries) → Prop
  | entry {front back : List (String × Entries)} {name key : String} {before after : Entries}
      (plain : Plain) : key ∉ knownKeys name →
      Extended (front ++ (name, before ++ after) :: back)
        (front ++ (name, before ++ (key, plain) :: after) :: back)
  | part {front back : List (String × Entries)} {name : String} (entries : Entries) :
      name ∉ ["merge", "log"] → name ∉ (front ++ back).map Prod.fst →
      Extended (front ++ back) (front ++ (name, entries) :: back)

def mergeEntries (given : GivenSettings) : Entries :=
  (given.missingPermissions.map fun policy =>
      ("missing_permissions", Plain.text policy.name)).toList
    ++ (given.maxNodes.map fun nodes : Nat => ("max_nodes", Plain.whole nodes)).toList

def logEntries (given : GivenSettings) : Entries :=
  (given.level.map fun level => ("level", Plain.text level)).toList
    ++ (given.json.map fun json => ("json", Plain.flag json)).toList

def plainLayout (given : GivenSettings) : List (String × Entries) :=
  [("merge", mergeEntries given), ("log", logEntries given)]

theorem laidOut_plainLayout {given : GivenSettings}
    (bounded : ∀ nodes ∈ given.maxNodes, (nodes : Int) ≤ Int64.maxValue.toInt) :
    LaidOut given (plainLayout given) where
  distinct := by
    change ["merge", "log"].Nodup
    decide
  missingPermissions := by
    change valuesOf _ (mergeEntries given ++ []) = _
    unfold mergeEntries
    cases given.missingPermissions <;> cases given.maxNodes <;> rfl
  maxNodes := by
    change valuesOf _ (mergeEntries given ++ []) = _
    unfold mergeEntries
    cases given.missingPermissions <;> cases given.maxNodes <;> rfl
  level := by
    change valuesOf _ (logEntries given ++ []) = _
    unfold logEntries
    cases given.level <;> cases given.json <;> rfl
  json := by
    change valuesOf _ (logEntries given ++ []) = _
    unfold logEntries
    cases given.level <;> cases given.json <;> rfl
  bounded := bounded

/-- Whatever is given can be written down, the level with all the escapes that it needs. -/
theorem exists_text_of_given {given : GivenSettings}
    (bounded : ∀ nodes ∈ given.maxNodes, (nodes : Int) ≤ Int64.maxValue.toInt) :
    ∃ sections text, LaidOut given sections ∧ Toml.SpelledBy text sections := by
  refine ⟨plainLayout given, _, laidOut_plainLayout bounded, Toml.spelledBy_write ?_⟩
  have mergeFits : ∀ entry ∈ mergeEntries given, entry.2.Fits := by
    intro entry member
    rcases List.mem_append.mp member with named | bound
    · obtain ⟨policy, _, rfl⟩ := Option.map_eq_some_iff.mp (Option.mem_toList.mp named)
      trivial
    · obtain ⟨nodes, asked, rfl⟩ := Option.map_eq_some_iff.mp (Option.mem_toList.mp bound)
      exact ⟨Toml.Numeral.minValue_le_natCast nodes, bounded nodes asked⟩
  have logFits : ∀ entry ∈ logEntries given, entry.2.Fits := by
    intro entry member
    rcases List.mem_append.mp member with level | json
    · obtain ⟨_, _, rfl⟩ := Option.map_eq_some_iff.mp (Option.mem_toList.mp level)
      trivial
    · obtain ⟨_, _, rfl⟩ := Option.map_eq_some_iff.mp (Option.mem_toList.mp json)
      trivial
  exact List.forall_mem_cons.mpr ⟨mergeFits, List.forall_mem_cons.mpr ⟨logFits, nofun⟩⟩

/-! ### Unknown keys and sections -/

theorem entriesUnder_append (name : String) (front back : List (String × Entries)) :
    entriesUnder name (front ++ back) = entriesUnder name front ++ entriesUnder name back := by
  rw [entriesUnder, valuesOf_append, List.flatten_append]
  rfl

theorem entriesUnder_cons_of_ne {name other : String} (differs : other ≠ name) (entries : Entries)
    (sections : List (String × Entries)) :
    entriesUnder name ((other, entries) :: sections) = entriesUnder name sections := by
  rw [entriesUnder, valuesOf_cons_of_ne differs]
  rfl

theorem entriesUnder_cons_self (name : String) (entries : Entries)
    (sections : List (String × Entries)) :
    entriesUnder name ((name, entries) :: sections) = entries ++ entriesUnder name sections := by
  rw [entriesUnder, valuesOf_cons_self]
  rfl

theorem Extended.valuesOf_eq {sections others : List (String × Entries)}
    (extended : Extended sections others) {name key : String} (known : key ∈ knownKeys name) :
    valuesOf key (entriesUnder name others) = valuesOf key (entriesUnder name sections) := by
  cases extended with
  | @entry front back part unknownKey before after plain unknown =>
      rw [entriesUnder_append, entriesUnder_append, valuesOf_append, valuesOf_append]
      congr 1
      by_cases same : part = name
      · subst same
        have differs : unknownKey ≠ key := fun same => unknown (same ▸ known)
        rw [entriesUnder_cons_self, entriesUnder_cons_self]
        simp only [valuesOf_append, valuesOf_cons_of_ne differs]
      · rw [entriesUnder_cons_of_ne same, entriesUnder_cons_of_ne same]
  | @part front back unknownPart entries unknown _ =>
      have differs : unknownPart ≠ name := by
        rintro rfl
        simp only [List.mem_cons, List.not_mem_nil, or_false, not_or] at unknown
        rw [knownKeys, if_neg unknown.1, if_neg unknown.2] at known
        cases known
      rw [entriesUnder_append, entriesUnder_append, entriesUnder_cons_of_ne differs]

theorem Extended.distinct {sections others : List (String × Entries)}
    (extended : Extended sections others) (distinct : (sections.map Prod.fst).Nodup) :
    (others.map Prod.fst).Nodup := by
  cases extended with
  | entry =>
      rw [List.map_append, List.map_cons] at distinct ⊢
      exact distinct
  | part _ _ absent =>
      rw [List.map_append, List.map_cons, List.nodup_middle, ← List.map_append]
      exact List.nodup_cons.mpr ⟨absent, distinct⟩

/-- What has no meaning changes nothing about the values that are given. -/
theorem LaidOut.extended {given : GivenSettings} {sections others : List (String × Entries)}
    (laidOut : LaidOut given sections) (extended : Extended sections others) :
    LaidOut given others where
  distinct := extended.distinct laidOut.distinct
  missingPermissions := (extended.valuesOf_eq (by decide)).trans laidOut.missingPermissions
  maxNodes := (extended.valuesOf_eq (by decide)).trans laidOut.maxNodes
  level := (extended.valuesOf_eq (by decide)).trans laidOut.level
  json := (extended.valuesOf_eq (by decide)).trans laidOut.json
  bounded := laidOut.bounded

/-! ### Reading sections -/

theorem intact_of_mem_members {entries : Entries} {member : String × Toml.Tree}
    (listed : member ∈ entries.members) : Readable.intact member.2 = true := by
  obtain ⟨⟨name, plain⟩, _, rfl⟩ := List.mem_map.mp listed
  cases plain <;> rfl

theorem intact_members (entries : Entries) : Toml.Tree.intactMembers entries.members = true := by
  induction entries with
  | nil => rfl
  | cons entry entries ih =>
      obtain ⟨name, plain⟩ := entry
      exact Bool.and_eq_true_iff.mpr ⟨by cases plain <;> rfl, ih⟩

theorem absent_of_empty {field : Field} {content : Content field}
    (read : fields.read field (.table .inline [] .closed) = .ok content) :
    fields.absent field = some content := by
  cases field with
  | merge => exact congrArg some (Except.ok.inj read)
  | log => exact congrArg some (Except.ok.inj read)

theorem valuesOf_members (name : String) (entries : Entries) :
    valuesOf name entries.members = (valuesOf name entries).map Plain.tree :=
  valuesOf_map Plain.tree entries

namespace LaidOut

variable {given : GivenSettings} {sections : List (String × Entries)}
  (laidOut : LaidOut given sections)

include laidOut

theorem read_merge (origin : Toml.Origin) :
    MergePolicy.read (.table origin (entriesUnder "merge" sections).members .closed) =
      .ok given.settings.merge := by
  refine MergePolicy.read_eq_ok_iff.mpr
    ⟨fun member listed _ => intact_of_mem_members listed, fun field => ?_⟩
  rw [valuesOf_members]
  cases field with
  | missingPermissions =>
      change FieldTable.Told _ _ _ ((valuesOf "missing_permissions" _).map _)
      rw [laidOut.missingPermissions, ← Option.toList_map, Option.map_map]
      exact FieldTable.told_getD rfl (fun policy => by cases policy <;> rfl) _
  | maxNodes =>
      have bounded := laidOut.bounded
      change MergePolicy.fields.Told .maxNodes (given.maxNodes.or none)
        ((valuesOf "max_nodes" _).map _)
      rw [laidOut.maxNodes]
      cases asked : given.maxNodes with
      | none => rfl
      | some nodes =>
          have small := bounded nodes asked
          have within : 0 ≤ (nodes : Int) ∧ (nodes : Int) < UInt64.size := by
            have largest : Int64.maxValue.toInt < UInt64.size := by decide
            omega
          change (some <$> Readable.wholeBelow UInt64.size .count (Plain.whole nodes).tree) = _
          rw [Readable.wholeBelow_of_within rfl within]
          rfl

theorem read_log (origin : Toml.Origin) :
    LogSettings.read (.table origin (entriesUnder "log" sections).members .closed) =
      .ok given.settings.log := by
  refine LogSettings.read_eq_ok_iff.mpr
    ⟨fun member listed _ => intact_of_mem_members listed, fun field => ?_⟩
  rw [valuesOf_members]
  cases field with
  | level =>
      change FieldTable.Told _ _ _ ((valuesOf "level" _).map _)
      rw [laidOut.level, ← Option.toList_map, Option.map_map]
      exact FieldTable.told_getD rfl (fun _ => rfl) _
  | json =>
      change FieldTable.Told _ _ _ ((valuesOf "json" _).map _)
      rw [laidOut.json, ← Option.toList_map, Option.map_map]
      exact FieldTable.told_getD rfl (fun _ => rfl) _

theorem told_section (field : Field) {content : Content field}
    (read : ∀ origin, fields.read field
      (.table origin (entriesUnder (fields.name field) sections).members .closed) = .ok content)
    (lone : Option Toml.LoneHeader) :
    fields.Told field content
      (valuesOf (fields.name field) (Toml.sectionMembers lone sections)) := by
  have values : valuesOf (fields.name field) (Toml.sectionMembers lone sections) =
      (valuesOf (fields.name field) sections).map
        fun entries => .table (.header lone) entries.members .closed :=
    valuesOf_map (fun entries : Entries => Toml.Tree.table (.header lone) entries.members .closed)
      sections
  have few : (valuesOf (fields.name field) sections).length ≤ 1 :=
    length_valuesOf_le laidOut.distinct
  unfold entriesUnder at read
  rw [values]
  cases found : valuesOf (fields.name field) sections with
  | nil =>
      rw [found] at read
      exact absent_of_empty (read .inline)
  | cons entries others =>
      rw [found, List.length_cons] at few
      obtain rfl := List.eq_nil_of_length_eq_zero (show others.length = 0 by omega)
      rw [found, List.flatten_singleton] at read
      exact read (.header lone)

theorem read_sections (origin : Toml.Origin) (lone : Option Toml.LoneHeader) :
    Settings.read (.table origin (Toml.sectionMembers lone sections) .closed) =
      .ok given.settings := by
  refine Settings.read_eq_ok_iff.mpr ⟨?_, fun field => ?_⟩
  · intro member listed _
    obtain ⟨⟨name, entries⟩, _, rfl⟩ := List.mem_map.mp listed
    exact intact_members entries
  · cases field with
    | merge => exact laidOut.told_section .merge laidOut.read_merge lone
    | log => exact laidOut.told_section .log laidOut.read_log lone

end LaidOut

/-! ### Texts in the documented layout -/

/-- What a text gives is all that decides about the answer to it. -/
theorem LaidOut.ofText_eq {given : GivenSettings} {sections : List (String × Entries)}
    {text : String} (laidOut : LaidOut given sections) (spelled : Toml.SpelledBy text sections) :
    ofText text =
      match given.settings.validate with
      | .error reason => .error (.invalid reason)
      | .ok () => .ok given.settings := by
  obtain ⟨lone, taken⟩ := spelled.tableOfText?_eq laidOut.distinct
  have told := laidOut.read_sections (.header none) lone
  cases valid : given.settings.validate with
  | error reason => exact ofText_of_invalid taken told valid
  | ok => exact ofText_eq_ok_iff.mpr ⟨⟨_, taken, told⟩, valid⟩

theorem validate_given (given : GivenSettings) :
    given.settings.validate =
      if given.maxNodes = some 0 then .error .noNodesAllowed
      else
        match given.level with
        | none => .ok ()
        | some level =>
            if level.toLower ∈ levelNames then .ok () else .error (.unknownLevel level) := by
  have maxNodes : given.settings.merge.maxNodes = given.maxNodes := Option.or_none
  unfold validate
  rw [maxNodes]
  split
  · rfl
  · cases asked : given.level with
    | none =>
        have level : given.settings.log.level = "info" := by
          change given.level.getD _ = _
          rw [asked]
          rfl
        have lower : "info".toLower = "info" := Text.toLower_eq_of_map rfl
        rw [level, lower, if_pos (by decide)]
    | some level =>
        have same : given.settings.log.level = level := by
          change given.level.getD _ = _
          rw [asked]
          rfl
        rw [same]

theorem LaidOut.extended_run {given : GivenSettings} {sections others : List (String × Entries)}
    (laidOut : LaidOut given sections)
    (extended : Relation.ReflTransGen Extended sections others) : LaidOut given others := by
  induction extended with
  | refl => exact laidOut
  | tail _ step ih => exact ih.extended step

/-- A text in the documented layout is refused for a bound of zero, then for a level of another
name, and otherwise gives just the settings that stand in it. What has no meaning is passed over. -/
theorem settings_of_laid_out_text {given : GivenSettings} {sections : List (String × Entries)}
    {text : String} (laidOut : LaidOut given sections) (spelled : Toml.SpelledBy text sections) :
    (given.maxNodes = some 0 →
      ofText text = .error (.invalid .noNodesAllowed) ∧
      (SettingsFailure.invalid .noNodesAllowed).message? =
        some "Invalid configuration: merge.max_nodes must be at least 1") ∧
    (given.maxNodes ≠ some 0 →
      (∀ level ∈ given.level, level.toLower ∉ levelNames →
        ofText text = .error (.invalid (.unknownLevel level)) ∧
        (SettingsFailure.invalid (.unknownLevel level)).message? =
          some ("Invalid configuration: log.level '" ++ level
            ++ "' must be one of: trace, debug, info, warn, error")) ∧
      ((∀ level ∈ given.level, level.toLower ∈ levelNames) →
        ofText text = .ok given.settings)) ∧
    ∀ (others : List (String × Entries)) (extendedText : String),
      Relation.ReflTransGen Extended sections others →
      Toml.SpelledBy extendedText others → ofText extendedText = ofText text := by
  have answer := laidOut.ofText_eq spelled
  rw [validate_given] at answer
  refine ⟨fun noneAllowed => ⟨?_, rfl⟩, fun someAllowed => ⟨fun level asked unknown => ⟨?_, ?_⟩,
    fun known => ?_⟩, fun others extendedText extended spelledToo => ?_⟩
  · rw [answer, if_pos noneAllowed]
  · rw [answer, if_neg someAllowed, asked]
    simp only [if_neg unknown]
  · simp only [SettingsFailure.message?, InvalidSetting.message, ← String.append_assoc]
    rfl
  · rw [answer, if_neg someAllowed]
    cases asked : given.level with
    | none => rfl
    | some level => simp only [if_pos (known level asked)]
  · rw [laidOut.ofText_eq spelled, (laidOut.extended_run extended).ofText_eq spelledToo]

/-- A key without a meaning and a section of another name stand between what is given. -/
theorem settings_of_scattered_keys :
    let sections : List (String × Entries) :=
      [("log", [("x", .flag true), ("level", .text "DeBug")]), ("a", [("b c", .whole (-3))]),
        ("merge", [("max_nodes", .whole 8)])]
    let text := "[log]\nx = true\nlevel = \"DeBug\"\n[a]\n\"b c\" = -3\n[merge]\nmax_nodes = 8\n"
    Toml.write sections = text ∧
      ofText text = .ok { merge := { maxNodes := some 8 }, log := { level := "DeBug" } } := by
  intro sections text
  have laidOut : LaidOut { maxNodes := some 8, level := some "DeBug" } sections := {
    distinct := by decide
    missingPermissions := rfl
    maxNodes := rfl
    level := rfl
    json := rfl
    bounded := by
      rintro _ ⟨⟩
      decide }
  have same : Toml.write sections = text := rfl
  have spelled : Toml.SpelledBy (Toml.write sections) sections := Toml.spelledBy_write (by decide)
  rw [same] at spelled
  have known : "DeBug".toLower = "debug" := Text.toLower_eq_of_map rfl
  refine ⟨same, ((settings_of_laid_out_text laidOut spelled).2.1 nofun).2 ?_⟩
  rintro _ ⟨⟩
  rw [known]
  decide

end Settings

end ReportMerge
