/-
Settings that were accepted serve the rest of the library, whatever the text that
they come from looks like: the bound on nodes never stands in the way of a single
node, and the level is a filter of its own, so the first request to write log lines
succeeds.
-/

import ReportMerge.Proofs.Settings.Fields
import ReportMerge.Proofs.Telemetry.NamedThreshold
import ReportMerge.Proofs.Toml.Writing
import ReportMerge.Proofs.Merge.ClosedForm

namespace ReportMerge

/-- The text is the name with some of its letters, or none, turned into capitals. -/
def Recased (text name : String) : Prop :=
  List.Forall₂ (fun char letter => char = letter ∨ char.isUpper = true ∧ char.toLower = letter)
    text.toList name.toList

theorem recased_toLower (text : String) : Recased text text.toLower := by
  unfold Recased
  rw [Text.toList_toLower, List.forall₂_map_right_iff, List.forall₂_same]
  intro char _
  by_cases upper : char.isUpper = true
  · exact .inr ⟨upper, rfl⟩
  · exact .inl (Text.toLower_of_not_isUpper upper).symm

namespace Settings

theorem fromUTF8?_eq_some_iff {content : ByteArray} {text : String} :
    String.fromUTF8? content = some text ↔ content = text.toUTF8 := by
  constructor
  · intro decoded
    by_cases valid : content.IsValidUTF8
    · rw [show String.fromUTF8? content = some (String.fromUTF8 content valid) from dif_pos valid]
        at decoded
      cases decoded
      rfl
    · rw [show String.fromUTF8? content = none from dif_neg valid] at decoded
      cases decoded
  · rintro rfl
    exact dif_pos text.isValidUTF8

/-- A file is accepted exactly when it is the text of accepted settings in UTF-8. -/
theorem load_eq_ok_iff {place : Place} {settings : Settings} :
    load place = .ok settings ↔
      ∃ text : String, place = .file text.toUTF8 ∧ ofText text = .ok settings := by
  constructor
  · intro loaded
    unfold load at loaded
    split at loaded
    · cases loaded
    · cases loaded
    · split at loaded
      · cases loaded
      · rename_i text decoded
        exact ⟨text, congrArg Place.file (fromUTF8?_eq_some_iff.mp decoded), loaded⟩
  · rintro ⟨text, rfl, accepted⟩
    unfold load
    simp only [fromUTF8?_eq_some_iff.mpr rfl, accepted]

inductive Accepted (settings : Settings) : Prop
  | text {text : String} : ofText text = .ok settings → Accepted settings
  | file {place : Place} : load place = .ok settings → Accepted settings

theorem Accepted.valid {settings : Settings} (accepted : Accepted settings) :
    settings.validate = .ok () := by
  cases accepted with
  | text accepted => exact (ofText_eq_ok_iff.mp accepted).2
  | file loaded =>
      obtain ⟨text, _, accepted⟩ := load_eq_ok_iff.mp loaded
      exact (ofText_eq_ok_iff.mp accepted).2

/-- The name of a level is the threshold that lets this level and all more severe ones pass. -/
theorem exists_level_of_name {name : String} (known : name ∈ levelNames) :
    ∃ level, (name, some level) ∈ Threshold.names := by
  have listed : ∀ name ∈ levelNames,
      ∃ entry ∈ Threshold.names, entry.1 = name ∧ entry.2.isSome = true := by decide
  obtain ⟨⟨_, threshold⟩, member, rfl, present⟩ := listed name known
  obtain ⟨level, rfl⟩ := Option.isSome_iff_exists.mp present
  exact ⟨level, member⟩

/-- Accepted settings meet their conditions, their bound lets a single node and all counts within
it pass in every way to merge, and their level sets up the first subscriber of a process. -/
theorem accepted_settings_are_usable {settings : Settings} (accepted : Accepted settings) :
    settings.validate = .ok () ∧
    (∀ maximum, settings.merge.maxNodes = some maximum → 1 ≤ maximum) ∧
    (∀ (mode : MergeMode) (client : Report) (nodes : NodeReports) (count maximum : Nat),
      mode.run settings.merge client nodes = .error (.tooManyNodes count maximum) →
      settings.merge.maxNodes = some maximum ∧ count = nodes.length ∧
        1 < nodes.length ∧ maximum < nodes.length) ∧
    (∃ name ∈ levelNames, Recased settings.log.level name) ∧
    ∃ level, (settings.log.level.toLower, some level) ∈ Threshold.names ∧
      install none none settings.log =
        (.ok (), some { filter := [.ofThreshold (some level)], json := settings.log.json }) := by
  have valid := accepted.valid
  obtain ⟨someAllowed, known⟩ := validate_eq_ok_iff.mp valid
  have positive (maximum : Nat) (bound : settings.merge.maxNodes = some maximum) :
      1 ≤ maximum := by
    by_contra zero
    rw [Nat.lt_one_iff.mp (Nat.not_le.mp zero)] at bound
    exact someAllowed bound
  refine ⟨valid, positive, ?_, ⟨_, known, recased_toLower _⟩, ?_⟩
  · intro mode client nodes count maximum refused
    obtain ⟨_, bound, counted, exceeded⟩ := MergeMode.run_eq_tooManyNodes_iff.mp refused
    exact ⟨bound, counted, (positive maximum bound).trans_lt exceeded, exceeded⟩
  · obtain ⟨level, named⟩ := exists_level_of_name known
    have filter := Threshold.NamedBy.filter_ofText named
    refine ⟨level, named, ?_⟩
    unfold install LogSettings.filter
    simp only [Option.map_none, filter]

/-- A bound under a dotted name and a level as the element of an array, in a file. -/
theorem usable_settings_of_dotted_name_and_array :
    let settings : Settings := { merge := { maxNodes := some 3 }, log := { level := "WaRn" } }
    load (.file "merge.max_nodes=3\nlog=[\"WaRn\"]".toUTF8) = .ok settings ∧
      install none none settings.log =
        (.ok (), some { filter := [.ofThreshold (some .warn)], json := false }) := by
  intro settings
  have written : Toml.Token.Written "merge.max_nodes=3\nlog=[\"WaRn\"]".toList
      [.word "merge".toList, .point, .word "max_nodes".toList, .equals, .word ['3'], .lineEnd,
        .word "log".toList, .equals, .openBracket, .text "WaRn".toList false, .closeBracket] :=
    Toml.Token.written_write rfl rfl
  have lines : Toml.lines? 12
      [.word "merge".toList, .point, .word "max_nodes".toList, .equals, .word ['3'], .lineEnd,
        .word "log".toList, .equals, .openBracket, .text "WaRn".toList false, .closeBracket] =
      some [.entry ["merge", "max_nodes"] (.number (.whole 3)),
        .entry ["log"] (.array [.text "WaRn"])] := rfl
  have parted : Toml.Section.ofLines? none [.entry ["merge", "max_nodes"] (.number (.whole 3)),
      .entry ["log"] (.array [.text "WaRn"])] =
      some [Toml.Section.own
        [("merge", .table .dotted [("max_nodes", .number (.whole 3))] .closed),
          ("log", .array [.text "WaRn"])]] := rfl
  have taken := Toml.tableOfText?_of_written written lines parted
  rw [Toml.tableOfSections_own] at taken
  have lower : "WaRn".toLower = "warn" := Text.toLower_eq_of_map rfl
  have valid : settings.validate = .ok () := by
    refine validate_eq_ok_iff.mpr ⟨by rintro ⟨⟩, ?_⟩
    change "WaRn".toLower ∈ levelNames
    rw [lower]
    decide
  have accepted : ofText "merge.max_nodes=3\nlog=[\"WaRn\"]" = .ok settings :=
    ofText_eq_ok_iff.mpr ⟨⟨_, taken, rfl⟩, valid⟩
  have loaded := load_eq_ok_iff.mpr ⟨_, rfl, accepted⟩
  obtain ⟨-, -, -, -, level, named, installed⟩ := accepted_settings_are_usable (.file loaded)
  refine ⟨loaded, ?_⟩
  change ("WaRn".toLower, some level) ∈ Threshold.names at named
  rw [lower] at named
  have warns : level = .warn := by
    revert named
    cases level <;> decide
  rw [installed, warns]

end Settings

end ReportMerge
