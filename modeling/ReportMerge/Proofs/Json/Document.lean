/-
Documents grow back from the tokens that spell them. A document of which nothing
has broken off is spelled by its tokens alone: whatever waits in front of them and
whatever follows them, exactly these tokens are taken, and they become that
document.
-/

import ReportMerge.Json.Document

namespace ReportMerge.Json.Document

mutual

/-- The tokens that spell a document. Where it has broken off, nothing more is spelled. -/
def tokens : Document → List Token
  | .null => [.null]
  | .flag value => [.flag value]
  | .number numeral => [.number numeral]
  | .text value => [.text value]
  | .array [] _ => [.openArray, .closeArray]
  | .array (item :: items) _ => .openArray :: item.tokens ++ moreItems items
  | .object [] _ => [.openObject, .closeObject]
  | .object ((name, value) :: members) _ =>
      .openObject :: .text name :: .colon :: value.tokens ++ moreMembers members
  | .torn => []

def moreItems : List Document → List Token
  | [] => [.closeArray]
  | item :: items => .comma :: item.tokens ++ moreItems items

def moreMembers : List (Option String × Document) → List Token
  | [] => [.closeObject]
  | (name, value) :: members =>
      .comma :: .text name :: .colon :: value.tokens ++ moreMembers members

end

def resume (value : Document) (frames : List Frame) (rest : List Token) : Document × List Token :=
  match place value frames with
  | some frames => grow .more frames rest
  | none => (value, rest)

/-- No value starts with a closing bracket, so a first item is read like any value. -/
theorem grow_firstItem (document : Document) (intact : document.intact = true)
    (frames : List Frame) (rest : List Token) :
    grow .firstItem frames (document.tokens ++ rest) =
      grow .value frames (document.tokens ++ rest) := by
  cases document with
  | null => rfl
  | flag value => rfl
  | number numeral => rfl
  | text value => rfl
  | array items ending => cases items <;> rfl
  | object members ending =>
      cases members with
      | nil => rfl
      | cons member members => rfl
  | torn => cases intact

mutual

theorem grow_tokens : (document : Document) → document.intact = true → (frames : List Frame) →
    (rest : List Token) →
    grow .value frames (document.tokens ++ rest) = resume document frames rest
  | .null, _, _, _ => rfl
  | .flag _, _, _, _ => rfl
  | .number _, _, _, _ => rfl
  | .text _, _, _, _ => rfl
  | .array [] .closed, _, _, _ => rfl
  | .array (item :: items) .closed, intact, frames, rest => by
      obtain ⟨first, others⟩ := Bool.and_eq_true_iff.mp intact
      calc
        grow .value frames ((Document.array (item :: items) .closed).tokens ++ rest) =
            grow .firstItem (.array [] :: frames) (item.tokens ++ (moreItems items ++ rest)) := by
          rw [← List.append_assoc]
          rfl
        _ = grow .more (.array [item] :: frames) (moreItems items ++ rest) := by
          rw [grow_firstItem item first, grow_tokens item first]
          rfl
        _ = resume (.array (item :: items) .closed) frames rest :=
          grow_moreItems items others [item] frames rest
  | .object [] .closed, _, _, _ => rfl
  | .object ((name, value) :: members) .closed, intact, frames, rest => by
      obtain ⟨first, others⟩ := Bool.and_eq_true_iff.mp intact
      calc
        grow .value frames ((Document.object ((name, value) :: members) .closed).tokens ++ rest) =
            grow .value (.member [] name :: frames)
              (value.tokens ++ (moreMembers members ++ rest)) := by
          rw [← List.append_assoc]
          rfl
        _ = grow .more (.object [(name, value)] :: frames) (moreMembers members ++ rest) := by
          rw [grow_tokens value first]
          rfl
        _ = resume (.object ((name, value) :: members) .closed) frames rest :=
          grow_moreMembers members others [(name, value)] frames rest
  | .array _ .torn, intact, _, _ => by cases intact
  | .object _ .torn, intact, _, _ => by cases intact
  | .torn, intact, _, _ => by cases intact

theorem grow_moreItems : (items : List Document) → intactItems items = true →
    (taken : List Document) → (frames : List Frame) → (rest : List Token) →
    grow .more (.array taken :: frames) (moreItems items ++ rest) =
      resume (.array (taken.reverse ++ items) .closed) frames rest
  | [], _, taken, frames, rest => by
      rw [List.append_nil]
      rfl
  | item :: items, intact, taken, frames, rest => by
      obtain ⟨first, others⟩ := Bool.and_eq_true_iff.mp intact
      calc
        grow .more (.array taken :: frames) (moreItems (item :: items) ++ rest) =
            grow .value (.array taken :: frames) (item.tokens ++ (moreItems items ++ rest)) := by
          rw [← List.append_assoc]
          rfl
        _ = grow .more (.array (item :: taken) :: frames) (moreItems items ++ rest) := by
          rw [grow_tokens item first]
          rfl
        _ = resume (.array (taken.reverse ++ item :: items) .closed) frames rest := by
          rw [grow_moreItems items others, List.reverse_cons, List.append_assoc,
            List.singleton_append]

theorem grow_moreMembers : (members : List (Option String × Document)) →
    intactMembers members = true → (taken : List (Option String × Document)) →
    (frames : List Frame) → (rest : List Token) →
    grow .more (.object taken :: frames) (moreMembers members ++ rest) =
      resume (.object (taken.reverse ++ members) .closed) frames rest
  | [], _, taken, frames, rest => by
      rw [List.append_nil]
      rfl
  | (name, value) :: members, intact, taken, frames, rest => by
      obtain ⟨first, others⟩ := Bool.and_eq_true_iff.mp intact
      calc
        grow .more (.object taken :: frames) (moreMembers ((name, value) :: members) ++ rest) =
            grow .value (.member taken name :: frames)
              (value.tokens ++ (moreMembers members ++ rest)) := by
          rw [← List.append_assoc]
          rfl
        _ = grow .more (.object ((name, value) :: taken) :: frames)
              (moreMembers members ++ rest) := by
          rw [grow_tokens value first]
          rfl
        _ = resume (.object (taken.reverse ++ (name, value) :: members) .closed) frames rest := by
          rw [grow_moreMembers members others, List.reverse_cons, List.append_assoc,
            List.singleton_append]

end

theorem ofTokens_tokens {document : Document} (intact : document.intact = true)
    (rest : List Token) : ofTokens (document.tokens ++ rest) = (document, rest) :=
  grow_tokens document intact [] rest

/-! ### What an intact document has grown from -/

theorem not_intact_tearFrames {inner : Document} (torn : inner.intact = false)
    (frames : List Frame) : (tearFrames inner frames).intact = false := by
  induction frames generalizing inner with
  | nil => exact torn
  | cons frame frames ih =>
      cases frame with
      | array items => exact ih rfl
      | object members => exact ih rfl
      | member members name => exact ih rfl

theorem not_intact_tear (due : Due) (frames : List Frame) : (tear due frames).intact = false := by
  unfold tear
  split
  · exact not_intact_tearFrames rfl _
  · exact not_intact_tearFrames rfl _
  · exact not_intact_tearFrames rfl frames

section

variable {due : Due} {frames : List Frame} {tokens rest : List Token} {document : Document}

/-- Where an intact document grows, every token either opens what comes next or ends a value. -/
theorem grow_cases (grown : grow due frames tokens = (document, rest))
    (intact : document.intact = true) :
    ∃ token after, tokens = token :: after ∧
      ((∃ later inner, turn token due frames = .next later inner ∧
          grow later inner after = (document, rest)) ∨
        ∃ value outer, turn token due frames = .done value outer ∧
          resume value outer after = (document, rest)) := by
  cases tokens with
  | nil =>
      cases grown
      rw [not_intact_tear] at intact
      cases intact
  | cons token after =>
      refine ⟨token, after, rfl, ?_⟩
      rw [grow] at grown
      cases turned : turn token due frames with
      | next later inner =>
          rw [turned] at grown
          exact .inl ⟨later, inner, rfl, grown⟩
      | done value outer =>
          rw [turned] at grown
          exact .inr ⟨value, outer, rfl, grown⟩
      | broken =>
          rw [turned] at grown
          cases grown
          rw [not_intact_tear] at intact
          cases intact

theorem firstItem_cases (grown : grow .firstItem (.array [] :: frames) tokens = (document, rest)) :
    (∃ after, tokens = .closeArray :: after ∧
        resume (.array [] .closed) frames after = (document, rest)) ∨
      grow .value (.array [] :: frames) tokens = (document, rest) := by
  cases tokens with
  | nil => exact .inr grown
  | cons token after =>
      cases token with
      | closeArray => exact .inl ⟨after, rfl, grown⟩
      | _ => exact .inr grown

theorem firstName_cases (grown : grow .firstName (.object [] :: frames) tokens = (document, rest)) :
    (∃ after, tokens = .closeObject :: after ∧
        resume (.object [] .closed) frames after = (document, rest)) ∨
      grow .name (.object [] :: frames) tokens = (document, rest) := by
  cases tokens with
  | nil => exact .inr grown
  | cons token after =>
      cases token with
      | closeObject => exact .inl ⟨after, rfl, grown⟩
      | _ => exact .inr grown

theorem exists_name {taken : List (Option String × Document)}
    (grown : grow .name (.object taken :: frames) tokens = (document, rest))
    (intact : document.intact = true) :
    ∃ name after, tokens = .text name :: .colon :: after ∧
      grow .value (.member taken name :: frames) after = (document, rest) := by
  obtain ⟨token, afterName, rfl, step⟩ := grow_cases grown intact
  cases token with
  | text name =>
      obtain ⟨_, _, ⟨⟩, grown⟩ | ⟨_, _, ⟨⟩, _⟩ := step
      obtain ⟨token, after, rfl, step⟩ := grow_cases grown intact
      cases token with
      | colon =>
          obtain ⟨_, _, ⟨⟩, grown⟩ | ⟨_, _, ⟨⟩, _⟩ := step
          exact ⟨name, after, rfl, grown⟩
      | _ => obtain ⟨_, _, ⟨⟩, _⟩ | ⟨_, _, ⟨⟩, _⟩ := step
  | _ => obtain ⟨_, _, ⟨⟩, _⟩ | ⟨_, _, ⟨⟩, _⟩ := step

end

-- The converse of `grow_tokens`, case by case. Every token that opens or ends something is taken
-- off, so the recursion is on how many are left.
mutual

theorem exists_value {frames : List Frame} {tokens rest : List Token} {document : Document}
    (grown : grow .value frames tokens = (document, rest)) (intact : document.intact = true) :
    ∃ value after, value.intact = true ∧ tokens = value.tokens ++ after ∧
      resume value frames after = (document, rest) := by
  obtain ⟨token, after, rfl, step⟩ := grow_cases grown intact
  cases token with
  | null =>
      obtain ⟨_, _, ⟨⟩, _⟩ | ⟨_, _, ⟨⟩, resumed⟩ := step
      exact ⟨.null, after, rfl, rfl, resumed⟩
  | flag value =>
      obtain ⟨_, _, ⟨⟩, _⟩ | ⟨_, _, ⟨⟩, resumed⟩ := step
      exact ⟨.flag value, after, rfl, rfl, resumed⟩
  | number numeral =>
      obtain ⟨_, _, ⟨⟩, _⟩ | ⟨_, _, ⟨⟩, resumed⟩ := step
      exact ⟨.number numeral, after, rfl, rfl, resumed⟩
  | text value =>
      obtain ⟨_, _, ⟨⟩, _⟩ | ⟨_, _, ⟨⟩, resumed⟩ := step
      exact ⟨.text value, after, rfl, rfl, resumed⟩
  | openArray =>
      obtain ⟨_, _, ⟨⟩, grown⟩ | ⟨_, _, ⟨⟩, _⟩ := step
      obtain ⟨after, rfl, resumed⟩ | grown := firstItem_cases grown
      · exact ⟨.array [] .closed, after, rfl, rfl, resumed⟩
      · obtain ⟨item, behind, itemIntact, rfl, resumed⟩ := exists_value grown intact
        obtain ⟨items, after, itemsIntact, rfl, finished⟩ := exists_moreItems resumed intact
        refine ⟨.array (item :: items) .closed, after, ?_, ?_, finished⟩
        · exact Bool.and_eq_true_iff.mpr ⟨itemIntact, itemsIntact⟩
        · rw [← List.append_assoc]
          rfl
  | openObject =>
      obtain ⟨_, _, ⟨⟩, grown⟩ | ⟨_, _, ⟨⟩, _⟩ := step
      obtain ⟨after, rfl, resumed⟩ | grown := firstName_cases grown
      · exact ⟨.object [] .closed, after, rfl, rfl, resumed⟩
      · obtain ⟨name, behindColon, rfl, grown⟩ := exists_name grown intact
        obtain ⟨value, behind, valueIntact, rfl, resumed⟩ := exists_value grown intact
        obtain ⟨members, after, membersIntact, rfl, finished⟩ := exists_moreMembers resumed intact
        refine ⟨.object ((name, value) :: members) .closed, after, ?_, ?_, finished⟩
        · exact Bool.and_eq_true_iff.mpr ⟨valueIntact, membersIntact⟩
        · rw [← List.append_assoc]
          rfl
  | _ => obtain ⟨_, _, ⟨⟩, _⟩ | ⟨_, _, ⟨⟩, _⟩ := step
termination_by tokens.length
decreasing_by
  all_goals
    subst_vars
    simp only [List.length_cons, List.length_append]
    omega

theorem exists_moreItems {taken : List Document} {frames : List Frame} {tokens rest : List Token}
    {document : Document} (grown : grow .more (.array taken :: frames) tokens = (document, rest))
    (intact : document.intact = true) :
    ∃ items after, intactItems items = true ∧ tokens = moreItems items ++ after ∧
      resume (.array (taken.reverse ++ items) .closed) frames after = (document, rest) := by
  obtain ⟨token, after, rfl, step⟩ := grow_cases grown intact
  cases token with
  | closeArray =>
      obtain ⟨_, _, ⟨⟩, _⟩ | ⟨_, _, ⟨⟩, resumed⟩ := step
      refine ⟨[], after, rfl, rfl, ?_⟩
      rw [List.append_nil]
      exact resumed
  | comma =>
      obtain ⟨_, _, ⟨⟩, grown⟩ | ⟨_, _, ⟨⟩, _⟩ := step
      obtain ⟨item, behind, itemIntact, rfl, resumed⟩ := exists_value grown intact
      obtain ⟨items, after, itemsIntact, rfl, finished⟩ := exists_moreItems resumed intact
      refine ⟨item :: items, after, ?_, ?_, ?_⟩
      · exact Bool.and_eq_true_iff.mpr ⟨itemIntact, itemsIntact⟩
      · rw [← List.append_assoc]
        rfl
      · rw [List.reverse_cons, List.append_assoc] at finished
        exact finished
  | _ => obtain ⟨_, _, ⟨⟩, _⟩ | ⟨_, _, ⟨⟩, _⟩ := step
termination_by tokens.length
decreasing_by
  all_goals
    subst_vars
    simp only [List.length_cons, List.length_append]
    omega

theorem exists_moreMembers {taken : List (Option String × Document)} {frames : List Frame}
    {tokens rest : List Token} {document : Document}
    (grown : grow .more (.object taken :: frames) tokens = (document, rest))
    (intact : document.intact = true) :
    ∃ members after, intactMembers members = true ∧ tokens = moreMembers members ++ after ∧
      resume (.object (taken.reverse ++ members) .closed) frames after = (document, rest) := by
  obtain ⟨token, after, rfl, step⟩ := grow_cases grown intact
  cases token with
  | closeObject =>
      obtain ⟨_, _, ⟨⟩, _⟩ | ⟨_, _, ⟨⟩, resumed⟩ := step
      refine ⟨[], after, rfl, rfl, ?_⟩
      rw [List.append_nil]
      exact resumed
  | comma =>
      obtain ⟨_, _, ⟨⟩, grown⟩ | ⟨_, _, ⟨⟩, _⟩ := step
      obtain ⟨name, behindColon, rfl, grown⟩ := exists_name grown intact
      obtain ⟨value, behind, valueIntact, rfl, resumed⟩ := exists_value grown intact
      obtain ⟨members, after, membersIntact, rfl, finished⟩ := exists_moreMembers resumed intact
      refine ⟨(name, value) :: members, after, ?_, ?_, ?_⟩
      · exact Bool.and_eq_true_iff.mpr ⟨valueIntact, membersIntact⟩
      · rw [← List.append_assoc]
        rfl
      · rw [List.reverse_cons, List.append_assoc] at finished
        exact finished
  | _ => obtain ⟨_, _, ⟨⟩, _⟩ | ⟨_, _, ⟨⟩, _⟩ := step
termination_by tokens.length
decreasing_by
  all_goals
    subst_vars
    simp only [List.length_cons, List.length_append]
    omega

end

/-- The tokens of an intact document are the ones from which it has grown. -/
theorem eq_tokens_of_ofTokens {tokens rest : List Token} {document : Document}
    (grown : ofTokens tokens = (document, rest)) (intact : document.intact = true) :
    tokens = document.tokens ++ rest := by
  obtain ⟨value, after, -, rfl, resumed⟩ := exists_value grown intact
  cases resumed
  rfl

end ReportMerge.Json.Document
