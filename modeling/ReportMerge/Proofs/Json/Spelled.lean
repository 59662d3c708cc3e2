/-
The document that a text spells. A text spells at most one document that is well
formed throughout, and wherever reading asks for nothing less, a text that reads at
all spells one.
-/

import ReportMerge.Proofs.Json.Document
import ReportMerge.Proofs.Json.Written
import ReportMerge.Proofs.Reading.Records
import Mathlib.Logic.Relation

namespace ReportMerge.Json.Document

open Readable (layer)
open Token (Written)

/-- A text is written as the tokens of a document of which nothing has broken off. -/
def SpelledBy (document : Document) (text : String) : Prop :=
  document.intact = true ∧ Written text.toList document.tokens

mutual

theorem ne_stray_of_mem_tokens : (document : Document) → document.intact = true →
    ∀ token ∈ document.tokens, token ≠ .stray
  | .null, _ | .flag _, _ | .number _, _ | .text _, _ => by
      rintro token (_ | ⟨_, ⟨⟩⟩) ⟨⟩
  | .array [] _, _ => by
      rintro token (_ | ⟨_, _ | ⟨_, ⟨⟩⟩⟩) ⟨⟩
  | .object [] _, _ => by
      rintro token (_ | ⟨_, _ | ⟨_, ⟨⟩⟩⟩) ⟨⟩
  | .array (item :: items) .closed, intact => by
      obtain ⟨first, others⟩ := Bool.and_eq_true_iff.mp intact
      have items := List.forall_mem_append.mpr
        ⟨ne_stray_of_mem_tokens item first, ne_stray_of_mem_moreItems items others⟩
      exact List.forall_mem_cons.mpr ⟨nofun, items⟩
  | .object ((name, value) :: members) .closed, intact => by
      obtain ⟨first, others⟩ := Bool.and_eq_true_iff.mp intact
      have members := List.forall_mem_append.mpr
        ⟨ne_stray_of_mem_tokens value first, ne_stray_of_mem_moreMembers members others⟩
      exact List.forall_mem_cons.mpr ⟨nofun, List.forall_mem_cons.mpr ⟨nofun,
        List.forall_mem_cons.mpr ⟨nofun, members⟩⟩⟩
  | .array (_ :: _) .torn, intact => by cases intact
  | .object (_ :: _) .torn, intact => by cases intact
  | .torn, intact => by cases intact

theorem ne_stray_of_mem_moreItems : (items : List Document) → intactItems items = true →
    ∀ token ∈ moreItems items, token ≠ .stray
  | [], _ => by
      rintro token (_ | ⟨_, ⟨⟩⟩) ⟨⟩
  | item :: items, intact => by
      obtain ⟨first, others⟩ := Bool.and_eq_true_iff.mp intact
      have items := List.forall_mem_append.mpr
        ⟨ne_stray_of_mem_tokens item first, ne_stray_of_mem_moreItems items others⟩
      exact List.forall_mem_cons.mpr ⟨nofun, items⟩

theorem ne_stray_of_mem_moreMembers : (members : List (Option String × Document)) →
    intactMembers members = true → ∀ token ∈ moreMembers members, token ≠ .stray
  | [], _ => by
      rintro token (_ | ⟨_, ⟨⟩⟩) ⟨⟩
  | (name, value) :: members, intact => by
      obtain ⟨first, others⟩ := Bool.and_eq_true_iff.mp intact
      have members := List.forall_mem_append.mpr
        ⟨ne_stray_of_mem_tokens value first, ne_stray_of_mem_moreMembers members others⟩
      exact List.forall_mem_cons.mpr ⟨nofun, List.forall_mem_cons.mpr ⟨nofun,
        List.forall_mem_cons.mpr ⟨nofun, members⟩⟩⟩

end

theorem spelledBy_iff {document : Document} {text : String} :
    document.SpelledBy text ↔
      document.intact = true ∧ ofTokens (Token.scan text.toList) = (document, []) := by
  refine and_congr_right fun intact => ?_
  constructor
  · intro written
    rw [written.scan_eq, ← List.append_nil document.tokens]
    exact ofTokens_tokens intact []
  · intro grown
    have same := eq_tokens_of_ofTokens grown intact
    rw [List.append_nil] at same
    have sound := ne_stray_of_mem_tokens document intact
    rw [← same] at sound ⊢
    exact Token.written_scan sound

theorem SpelledBy.eq {document other : Document} {text : String} (spelled : document.SpelledBy text)
    (same : other.SpelledBy text) : other = document := by
  have grown := (spelledBy_iff.mp spelled).2
  rw [(spelledBy_iff.mp same).2] at grown
  exact congrArg Prod.fst grown

theorem SpelledBy.respaced {document : Document} {text respaced : String}
    (spelled : document.SpelledBy text)
    (blanks : Relation.ReflTransGen Token.Respaced text.toList respaced.toList) :
    document.SpelledBy respaced := by
  refine ⟨spelled.1, ?_⟩
  generalize respaced.toList = chars at blanks
  induction blanks with
  | refl => exact spelled.2
  | tail _ blank ih => exact blank.written ih

variable {β : Type} {read : Document → Except Fault β}

theorem SpelledBy.readText_eq {document : Document} {text : String}
    (spelled : document.SpelledBy text) (read : Document → Except Fault β) :
    readText read text = read document := by
  unfold readText
  rw [(spelledBy_iff.mp spelled).2]
  exact bind_pure (read document)

def ReadsIntact (read : Document → Except Fault β) : Prop :=
  ∀ document content, read document = .ok content → document.intact = true

theorem ReadsIntact.exists_spelledBy (reads : ReadsIntact read) {text : String} {content : β}
    (result : readText read text = .ok content) :
    ∃ document : Document, document.SpelledBy text := by
  unfold readText at result
  change (do
    let result ← read (ofTokens (Token.scan text.toList)).1
    if (ofTokens (Token.scan text.toList)).2.isEmpty then return result
    else .error .malformed) = .ok content at result
  obtain ⟨found, readHere, whole⟩ := bind_eq_ok_iff.mp result
  split at whole
  · rename_i nothingLeft
    refine ⟨(ofTokens (Token.scan text.toList)).1, spelledBy_iff.mpr ⟨reads _ _ readHere, ?_⟩⟩
    rw [← List.isEmpty_iff.mp nothingLeft]
  · cases whole

def record (members : List (String × Document)) : Document :=
  .object (members.map fun (name, value) => (some name, value)) .closed

theorem namedMembers_eq_closed_iff {ending : Ending} {members : List (Option String × Document)}
    {named : List (String × Document)} :
    namedMembers ending members = (named, .closed) ↔
      members = named.map (fun (name, value) => (some name, value)) ∧ ending = .closed := by
  induction members generalizing named with
  | nil => cases named <;> simp [namedMembers]
  | cons member members ih =>
      rcases member with ⟨_ | name, value⟩
      · cases named <;> simp [namedMembers]
      · cases named with
        | nil => simp [namedMembers]
        | cons next named =>
            rcases next with ⟨nextName, nextValue⟩
            have others := @ih named
            simp only [Prod.ext_iff] at others
            simp [namedMembers, others, and_assoc]

theorem layer_eq_map_iff {document : Document} {members : List (String × Document)} :
    layer document = .map members .closed ↔ document = record members := by
  cases document with
  | object named ending =>
      have layered : layer (object named ending) =
          .map (namedMembers ending named).1 (namedMembers ending named).2 := rfl
      have whole := @namedMembers_eq_closed_iff ending named members
      rw [Prod.ext_iff] at whole
      rw [layered, record, Layer.map.injEq, object.injEq]
      exact whole
  | number numeral =>
      simp only [layer, record]
      split <;> simp
  | text value => cases value <;> simp [layer, record]
  | null | flag _ | array _ _ | torn => simp [layer, record]

theorem layer_eq_sequence_iff {document : Document} {items : List Document} {ending : Ending} :
    layer document = .sequence items ending ↔ document = .array items ending := by
  cases document with
  | number numeral =>
      simp only [layer]
      split <;> simp
  | text value => cases value <;> simp [layer]
  | null | flag _ | array _ _ | object _ _ | torn => simp [layer]

theorem layer_eq_null_iff {document : Document} : layer document = .null ↔ document = .null := by
  cases document with
  | number numeral =>
      simp only [layer]
      split <;> simp
  | text value => cases value <;> simp [layer]
  | null | flag _ | array _ _ | object _ _ | torn => simp [layer]

theorem intact_record_iff {members : List (String × Document)} :
    (record members).intact = true ↔ ∀ member ∈ members, member.2.intact = true := by
  change intactMembers _ = true ↔ _
  induction members with
  | nil => simp [intactMembers]
  | cons member members ih =>
      rw [List.map_cons, intactMembers, Bool.and_eq_true, ih, List.forall_mem_cons]

theorem intact_array_iff {items : List Document} :
    (array items .closed).intact = true ↔ ∀ item ∈ items, item.intact = true := by
  change intactItems items = true ↔ _
  induction items with
  | nil => simp [intactItems]
  | cons item items ih => rw [intactItems, Bool.and_eq_true, ih, List.forall_mem_cons]

/-! ### Readers that ask for intact documents -/

theorem readsIntact_text : ReadsIntact Readable.text := by
  intro document content read
  have layered := Readable.text_eq_ok_iff.mp read
  cases document with
  | array _ _ | object _ _ | torn => cases layered
  | _ => rfl

theorem readsIntact_flag : ReadsIntact Readable.flag := by
  intro document content read
  have layered := Readable.flag_eq_ok_iff.mp read
  cases document with
  | array _ _ | object _ _ | torn => cases layered
  | _ => rfl

theorem readsIntact_wholeBelow (bound : Nat) (expected : Expected) :
    ReadsIntact (Readable.wholeBelow bound expected) := by
  intro document content read
  cases document with
  | array _ _ | object _ _ | torn => cases read
  | _ => rfl

theorem readsIntact_port : ReadsIntact Readable.port := by
  intro document content read
  obtain ⟨number, whole, -⟩ := bind_eq_ok_iff.mp read
  exact readsIntact_wholeBelow _ _ document number whole

theorem readsIntact_optional (reads : ReadsIntact read) : ReadsIntact (Readable.optional read) := by
  intro document content result
  obtain ⟨isNull, -⟩ | ⟨-, given, -, readGiven⟩ := Readable.optional_eq_ok_iff.mp result
  · rw [layer_eq_null_iff.mp isNull]
    rfl
  · exact reads document given readGiven

theorem readsIntact_list (reads : ReadsIntact read) : ReadsIntact (Readable.list read) := by
  intro document contents result
  obtain ⟨items, layered, each⟩ := Readable.list_eq_ok_iff.mp result
  rw [layer_eq_sequence_iff.mp layered, intact_array_iff]
  clear result layered
  induction each with
  | nil => nofun
  | cons readItem _ ih => exact List.forall_mem_cons.mpr ⟨reads _ _ readItem, ih⟩

theorem readsIntact_variant (variants : List (String × β)) :
    ReadsIntact (Readable.variant variants) := by
  intro document content result
  obtain ⟨name, -, isText | ⟨inner, isMap, isNull⟩⟩ := Readable.variant_eq_ok_iff.mp result
  · exact readsIntact_text document name (Readable.text_eq_ok_iff.mpr isText)
  · rw [layer_eq_map_iff.mp isMap, intact_record_iff, List.forall_mem_singleton,
      layer_eq_null_iff.mp isNull]
    rfl

variable {Field : Type} {Content : Field → Type} [DecidableEq Field]
  {table : FieldTable Document Field Content}

theorem intact_of_tells (sound : table.Sound)
    (reads : ∀ field, ReadsIntact (table.read field)) {content : (field : Field) → Content field}
    {document : Document} (tells : table.Tells content (layer document)) :
    document.intact = true := by
  cases layered : layer document with
  | map members ending =>
      rw [layered] at tells
      cases ending with
      | torn => cases tells
      | closed =>
          obtain ⟨unknown, told⟩ := tells
          rw [layer_eq_map_iff.mp layered, intact_record_iff]
          rintro ⟨name, value⟩ member
          cases named : table.fieldNamed? name with
          | none => exact unknown _ member named
          | some field =>
              obtain rfl := FieldTable.name_of_fieldNamed? named
              have given := mem_valuesOf_iff.mpr member
              exact reads field value _ ((told field).read_of_mem given)
  | sequence values ending =>
      rw [layered] at tells
      cases ending with
      | torn => cases tells
      | closed =>
          obtain ⟨notMore, told⟩ := tells
          rw [layer_eq_sequence_iff.mp layered, intact_array_iff]
          intro value member
          obtain ⟨place, inList, rfl⟩ := List.getElem_of_mem member
          have inOrder : place < table.order.length := Nat.lt_of_lt_of_le inList notMore
          have atPlace : table.order.idxOf table.order[place] = place :=
            sound.distinct.of_map.idxOf_getElem place inOrder
          have toldHere := told table.order[place]
          rw [atPlace, List.getElem?_eq_getElem inList] at toldHere
          exact reads _ _ _ toldHere
  | null | flag _ | number _ | text _ | torn =>
      rw [layered] at tells
      cases tells

end ReportMerge.Json.Document
