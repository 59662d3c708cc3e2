/-
What it takes to read the parts of records: which layers are read as texts, flags,
names of variants, parts that may be null, and lists, and as what.
-/

import ReportMerge.Reading.Layer
import Mathlib.Data.List.Forall2

namespace ReportMerge

theorem bind_eq_ok_iff {β γ : Type} {result : Except Fault β} {next : β → Except Fault γ}
    {final : γ} :
    result >>= next = .ok final ↔ ∃ value, result = .ok value ∧ next value = .ok final := by
  constructor
  · intro finished
    cases result with
    | error fault => cases finished
    | ok value => exact ⟨value, rfl, finished⟩
  · rintro ⟨value, rfl, finished⟩
    exact finished

theorem mapM_eq_ok_iff {α β : Type} {read : α → Except Fault β} {values : List α}
    {contents : List β} :
    values.mapM read = .ok contents ↔
      List.Forall₂ (fun value content => read value = .ok content) values contents := by
  induction values generalizing contents with
  | nil =>
      rw [List.mapM_nil, List.forall₂_nil_left_iff]
      exact ⟨fun same => (Except.ok.inj same).symm, fun same => congrArg Except.ok same.symm⟩
  | cons value values ih =>
      rw [List.mapM_cons, List.forall₂_cons_left_iff]
      simp only [bind_eq_ok_iff, ih]
      constructor
      · rintro ⟨content, read, others, readOthers, ⟨⟩⟩
        exact ⟨content, others, read, readOthers, rfl⟩
      · rintro ⟨content, others, read, readOthers, rfl⟩
        exact ⟨content, read, others, readOthers, rfl⟩

namespace Readable

variable {α β : Type} [Readable α] {value : α}

theorem text_eq_ok_iff {content : String} :
    text value = .ok content ↔ layer value = .text content := by
  unfold text
  cases layer value <;> simp

theorem flag_eq_ok_iff {content : Bool} :
    flag value = .ok content ↔ layer value = .flag content := by
  unfold flag
  cases layer value <;> simp

theorem wholeBelow_of_within {bound : Nat} {expected : Expected} {number : Int}
    (given : layer value = .number (.whole number)) (within : 0 ≤ number ∧ number < bound) :
    wholeBelow bound expected value = .ok number.toNat := by
  unfold wholeBelow
  rw [given]
  exact if_pos within

theorem optional_eq_ok_iff {read : α → Except Fault β} {content : Option β} :
    optional read value = .ok content ↔
      layer value = .null ∧ content = none ∨
      layer value ≠ .null ∧ ∃ given, content = some given ∧ read value = .ok given := by
  unfold optional
  cases layer value with
  | null => simp [eq_comm]
  | flag _ | number _ | text _ | sequence _ _ | map _ _ | torn =>
      cases read value <;> simp [eq_comm]

theorem list_eq_ok_iff {read : α → Except Fault β} {contents : List β} :
    list read value = .ok contents ↔
      ∃ items, layer value = .sequence items .closed ∧
        List.Forall₂ (fun item content => read item = .ok content) items contents := by
  unfold list
  cases layer value with
  | sequence items ending =>
      simp only [bind_eq_ok_iff, mapM_eq_ok_iff]
      cases ending with
      | torn => simp
      | closed => simp [pure, Except.pure]
  | null | flag _ | number _ | text _ | map _ _ | torn => simp

theorem unit_eq_ok_iff : unit value = .ok () ↔ layer value = .null := by
  unfold unit
  cases layer value <;> simp

theorem variantNamed_eq_ok_iff {variants : List (String × β)} {name : String} {content : β} :
    variantNamed variants name = .ok content ↔ variants.lookup name = some content := by
  unfold variantNamed
  cases variants.lookup name <;> simp

/-- A variant is given by its name, or by a map from its name to null. -/
theorem variant_eq_ok_iff {variants : List (String × β)} {content : β} :
    variant variants value = .ok content ↔
      ∃ name, variants.lookup name = some content ∧
        (layer value = .text name ∨
          ∃ inner, layer value = .map [(name, inner)] .closed ∧ layer inner = .null) := by
  unfold variant
  cases layer value with
  | text given => simp [variantNamed_eq_ok_iff]
  | map members ending =>
      cases members with
      | nil => simp
      | cons member others =>
          rcases member with ⟨given, inner⟩
          cases others with
          | nil =>
              simp only [List.isEmpty_nil, Bool.not_true, Bool.and_false, Bool.false_eq_true,
                if_false, bind_eq_ok_iff, variantNamed_eq_ok_iff]
              cases ending with
              | torn => simp
              | closed =>
                  constructor
                  · rintro ⟨_, known, ⟨⟩, isNull, ⟨⟩⟩
                    exact ⟨given, known, .inr ⟨inner, rfl, unit_eq_ok_iff.mp isNull⟩⟩
                  · rintro ⟨name, known, impossible | ⟨_, ⟨⟩, isNull⟩⟩
                    · cases impossible
                    · exact ⟨content, known, (), unit_eq_ok_iff.mpr isNull, rfl⟩
          | cons next others =>
              have tooMany : ¬(if (Readable.convention α).countsFirst then
                  .error (Readable.convention α).notSingle
                else do
                  let _ ← variantNamed variants given
                  unit inner
                  .error (Readable.convention α).notSingle) = (.ok content : Except Fault β) := by
                split
                · nofun
                · simp [bind_eq_ok_iff]
              simpa using tooMany
  | null | flag _ | number _ | sequence _ _ | torn => simp

end Readable

end ReportMerge
