/-
One layer of structured input at a time. A format says what the outermost layer
of a value is; the readers of this file turn values into flags, texts, numbers,
lists and names of variants, and stop at the first fault in reading order.
-/

import ReportMerge.Reading.Fault

namespace ReportMerge

/-- How the parts of a sequence or a map end: with its closing mark, or where the input breaks
off. -/
inductive Ending
  | closed
  | torn

inductive Layer (α : Type)
  | null
  | flag (value : Bool)
  | number (value : Number)
  | text (value : String)
  | sequence (items : List α) (ending : Ending)
  | map (members : List (String × α)) (ending : Ending)
  | torn

/-- What a format does where formats differ. -/
structure Convention where
  /-- A sequence holds more elements than a record has fields. -/
  surplus : (fields found : Nat) → Fault
  /-- A variant is spelled by neither a text nor a map with one member. -/
  notVariant : Option Given → Fault
  /-- A variant is spelled by a map whose members are not one. -/
  notSingle : Fault
  /-- The members of a map are counted before the first is read. -/
  countsFirst : Bool

class Readable (α : Type) where
  layer : α → Layer α
  /-- A value that nobody asks for is at least well formed. -/
  intact : α → Bool
  /-- What the format does where formats differ. -/
  convention : Convention

namespace Layer

variable {α : Type}

def given? : Layer α → Option Given
  | .null => some .null
  | .flag value => some (.flag value)
  | .number value => some (.number value)
  | .text value => some (.text value)
  | .sequence _ _ => some .sequence
  | .map _ _ => some .map
  | .torn => none

def mismatch (layer : Layer α) (expected : Expected) : Fault :=
  match layer.given? with
  | some given => .wrongType given expected
  | none => .malformed

end Layer

namespace Readable

variable {α : Type} [Readable α] {β : Type}

def text (value : α) : Except Fault String :=
  match layer value with
  | .text text => .ok text
  | other => .error (other.mismatch .text)

def flag (value : α) : Except Fault Bool :=
  match layer value with
  | .flag flag => .ok flag
  | other => .error (other.mismatch .flag)

/-- Reads a whole number below a bound. A number with a fraction or an exponent is of another
type, even when it is whole. -/
def wholeBelow (bound : Nat) (expected : Expected) (value : α) : Except Fault Nat :=
  match layer value with
  | .number (.whole number) =>
      if 0 ≤ number ∧ number < bound then .ok number.toNat
      else .error (.wrongValue (.number (.whole number)) expected)
  | other => .error (other.mismatch expected)

def port (value : α) : Except Fault UInt16 := do
  return UInt16.ofNat (← wholeBelow UInt16.size .port value)

def optional (read : α → Except Fault β) (value : α) : Except Fault (Option β) :=
  match layer value with
  | .null => .ok none
  | _ => some <$> read value

def list (read : α → Except Fault β) (value : α) : Except Fault (List β) :=
  match layer value with
  | .sequence items ending => do
      let results ← items.mapM read
      match ending with
      | .closed => return results
      | .torn => .error .malformed
  | other => .error (other.mismatch .sequence)

def variantNamed (variants : List (String × β)) (name : String) : Except Fault β :=
  match variants.lookup name with
  | some variant => .ok variant
  | none => .error (.unknownVariant name (variants.map Prod.fst))

/-- Reads the null that may stand beside the name of a variant. -/
def unit (value : α) : Except Fault Unit :=
  match layer value with
  | .null => .ok ()
  | other => .error (other.mismatch .unit)

def variant (variants : List (String × β)) (value : α) : Except Fault β :=
  let convention := Readable.convention α
  match layer value with
  | .text name => variantNamed variants name
  | .map [] _ => .error convention.notSingle
  | .map ((name, content) :: others) ending =>
      if convention.countsFirst && !others.isEmpty then .error convention.notSingle
      else do
        let variant ← variantNamed variants name
        unit content
        match others, ending with
        | [], .closed => return variant
        | _, _ => .error convention.notSingle
  | other => .error (convention.notVariant other.given?)

end Readable

end ReportMerge
