/-
Changes of documents that are read as records. Members may be rearranged, come and go
under unknown names, and come and go as nulls; none of this changes what is read.
A known name may also be given once more, and then nothing is read at all. Either
kind of change may happen anywhere inside a record, in the records that it holds.
-/

import ReportMerge.Proofs.Json.Spelled

namespace ReportMerge

/-- What a change does to a record: it stays what it was, or a name stands in it once more. -/
inductive Change
  | rearranging
  | repeating

theorem forall_mem_insert {α : Type} {property : α → Prop} {front back : List α} {item : α} :
    (∀ other ∈ front ++ item :: back, property other) ↔
      property item ∧ ∀ other ∈ front ++ back, property other := by
  simp only [List.forall_mem_append, List.forall_mem_cons, and_left_comm]

namespace Json.Document

open Readable (layer)

variable {β : Type} {read : Document → Except Fault β}

/-- A reader keeps its result under rearranging changes and has none after repeating ones. -/
structure Withstands (read : Document → Except Fault β)
    (changed : Change → Document → Document → Prop) : Prop where
  kept : ∀ {document other content}, changed .rearranging document other →
    read document = .ok content → read other = .ok content
  refused : ∀ {document other content}, changed .repeating document other →
    read other ≠ .ok content

def Unchanged (_ : Change) (_ _ : Document) : Prop := False

theorem withstands_unchanged (read : Document → Except Fault β) : Withstands read Unchanged where
  kept := nofun
  refused := nofun

theorem withstands_optional {changed : Change → Document → Document → Prop}
    (withstands : Withstands read changed)
    (notNull : ∀ {change document other}, changed change document other →
      document ≠ .null ∧ other ≠ .null) :
    Withstands (Readable.optional read) changed where
  kept {document other content} change result := by
    obtain ⟨notNullBefore, notNullAfter⟩ := notNull change
    rw [Readable.optional_eq_ok_iff] at result ⊢
    obtain ⟨isNull, -⟩ | ⟨-, given, rfl, readGiven⟩ := result
    · exact absurd (layer_eq_null_iff.mp isNull) notNullBefore
    · exact .inr ⟨fun isNull => notNullAfter (layer_eq_null_iff.mp isNull), given, rfl,
        withstands.kept change readGiven⟩
  refused {document other content} change result := by
    obtain ⟨isNull, -⟩ | ⟨-, given, -, readGiven⟩ := Readable.optional_eq_ok_iff.mp result
    · exact (notNull change).2 (layer_eq_null_iff.mp isNull)
    · exact withstands.refused change readGiven

theorem optional_null_eq_ok_iff (read : Document → Except Fault β) {content : Option β} :
    Readable.optional read .null = .ok content ↔ some none = some content := by
  rw [Option.some.injEq]
  exact ⟨Except.ok.inj, congrArg Except.ok⟩

inductive ChangedItem (changed : Change → Document → Document → Prop) (change : Change) :
    Document → Document → Prop
  | item {front back : List Document} {item other : Document} : changed change item other →
      ChangedItem changed change (.array (front ++ item :: back) .closed)
        (.array (front ++ other :: back) .closed)

theorem list_array (read : Document → Except Fault β) (items : List Document) :
    Readable.list read (.array items .closed) = items.mapM read :=
  bind_pure (items.mapM read)

theorem withstands_list {changed : Change → Document → Document → Prop}
    (withstands : Withstands read changed) :
    Withstands (Readable.list read) (ChangedItem changed) where
  kept := by
    rintro _ _ contents ⟨change⟩ result
    simp only [list_array, List.mapM_append, List.mapM_cons, bind_eq_ok_iff] at result ⊢
    obtain ⟨before, readBefore, rest, ⟨content, readItem, others⟩, whole⟩ := result
    exact ⟨before, readBefore, rest, ⟨content, withstands.kept change readItem, others⟩, whole⟩
  refused := by
    rintro _ _ contents ⟨change⟩ result
    simp only [list_array, List.mapM_append, List.mapM_cons, bind_eq_ok_iff] at result
    obtain ⟨_, -, _, ⟨content, readItem, -⟩, -⟩ := result
    exact withstands.refused change readItem

/-! ### Changes of records -/

section

variable {Field : Type} {Content : Field → Type}

/-- A change among the members of a record itself. The nullable fields are those that a null tells
as much as no member. -/
inductive ChangedMembers (table : FieldTable Document Field Content) (nullable : Field → Prop) :
    Change → List (String × Document) → List (String × Document) → Prop
  | permuted {members others : List (String × Document)} : members.Perm others →
      ChangedMembers table nullable .rearranging members others
  | unknownAdded {front back : List (String × Document)} {name : String} {value : Document} :
      table.fieldNamed? name = none → value.intact = true →
      ChangedMembers table nullable .rearranging (front ++ back) (front ++ (name, value) :: back)
  | unknownRemoved {front back : List (String × Document)} {name : String} {value : Document} :
      table.fieldNamed? name = none →
      ChangedMembers table nullable .rearranging (front ++ (name, value) :: back) (front ++ back)
  | nullAdded {front back : List (String × Document)} {field : Field} : nullable field →
      (∀ value, (table.name field, value) ∉ front ++ back) →
      ChangedMembers table nullable .rearranging (front ++ back)
        (front ++ (table.name field, .null) :: back)
  | nullRemoved {front back : List (String × Document)} {field : Field} : nullable field →
      ChangedMembers table nullable .rearranging (front ++ (table.name field, .null) :: back)
        (front ++ back)
  | repeated {front back : List (String × Document)} {field : Field} {earlier value : Document} :
      (table.name field, earlier) ∈ front ++ back → value.intact = true →
      ChangedMembers table nullable .repeating (front ++ back)
        (front ++ (table.name field, value) :: back)

/-- A change in a record: among its members, or within the value of one of its fields. -/
inductive Changed (table : FieldTable Document Field Content) [DecidableEq Field]
    (nullable : Field → Prop) (within : Field → Change → Document → Document → Prop)
    (change : Change) : Document → Document → Prop
  | members {members others : List (String × Document)} :
      ChangedMembers table nullable change members others →
      Changed table nullable within change (record members) (record others)
  | member {front back : List (String × Document)} {field : Field} {value other : Document} :
      within field change value other →
      Changed table nullable within change (record (front ++ (table.name field, value) :: back))
        (record (front ++ (table.name field, other) :: back))
  | element {front back : List Document} {field : Field} {value other : Document} :
      table.order.idxOf field = front.length → within field change value other →
      Changed table nullable within change (.array (front ++ value :: back) .closed)
        (.array (front ++ other :: back) .closed)

variable {table : FieldTable Document Field Content} [DecidableEq Field]
  {nullable : Field → Prop} {within : Field → Change → Document → Document → Prop}

theorem Changed.ne_null {change : Change} {document other : Document}
    (changed : Changed table nullable within change document other) :
    document ≠ .null ∧ other ≠ .null := by
  cases changed <;> exact ⟨nofun, nofun⟩

theorem layer_record (members : List (String × Document)) :
    layer (record members) = .map members .closed :=
  layer_eq_map_iff.mpr rfl

def NullTells (table : FieldTable Document Field Content) (nullable : Field → Prop) : Prop :=
  ∀ field, nullable field → ∀ content,
    table.read field .null = .ok content ↔ table.absent field = some content

theorem tells_of_rearranged (sound : table.Sound) (nullTells : NullTells table nullable)
    {members others : List (String × Document)}
    (changed : ChangedMembers table nullable .rearranging members others)
    {content : (field : Field) → Content field}
    (tells : table.Tells content (.map members .closed)) :
    table.Tells content (.map others .closed) := by
  obtain ⟨unknown, told⟩ := tells
  cases changed with
  | permuted perm =>
      refine ⟨fun member present => unknown member (perm.mem_iff.mpr present), fun field => ?_⟩
      exact FieldTable.told_of_perm (valuesOf_perm perm) (told field)
  | unknownAdded unnamed intact =>
      refine ⟨forall_mem_insert.mpr ⟨fun _ => intact, unknown⟩, fun field => ?_⟩
      rw [valuesOf_insert_of_ne (sound.ne_of_unknown unnamed field)]
      exact told field
  | unknownRemoved unnamed =>
      refine ⟨(forall_mem_insert.mp unknown).2, fun field => ?_⟩
      have here := told field
      rw [valuesOf_insert_of_ne (sound.ne_of_unknown unnamed field)] at here
      exact here
  | @nullAdded front back known isNullable missing =>
      refine ⟨forall_mem_insert.mpr ⟨fun _ => rfl, unknown⟩, fun field => ?_⟩
      have here := told field
      by_cases same : known = field
      · subst field
        have nothing := valuesOf_eq_nil_iff.mpr missing
        rw [nothing] at here
        rw [valuesOf_append, List.append_eq_nil_iff] at nothing
        rw [valuesOf_insert_self, FieldTable.told_insert_iff]
        exact ⟨nothing.1, nothing.2, (nullTells known isNullable _).mpr here⟩
      · rw [valuesOf_insert_of_ne fun names => same (sound.name_inj names)]
        exact here
  | @nullRemoved front back known isNullable =>
      refine ⟨(forall_mem_insert.mp unknown).2, fun field => ?_⟩
      have here := told field
      by_cases same : known = field
      · subst field
        rw [valuesOf_insert_self, FieldTable.told_insert_iff] at here
        rw [valuesOf_append, here.1, here.2.1]
        exact (nullTells known isNullable _).mp here.2.2
      · rw [valuesOf_insert_of_ne fun names => same (sound.name_inj names)] at here
        exact here

theorem not_tells_of_repeated {members others : List (String × Document)}
    (changed : ChangedMembers table nullable .repeating members others)
    {content : (field : Field) → Content field} :
    ¬table.Tells content (.map others .closed) := by
  rintro ⟨-, told⟩
  cases changed with
  | @repeated front back known given value earlier _ =>
      have here := told known
      rw [valuesOf_insert_self, FieldTable.told_insert_iff] at here
      have present := mem_valuesOf_iff.mpr earlier
      rw [valuesOf_append, here.1, here.2.1] at present
      cases present

theorem tells_map_of_replaced (sound : table.Sound) {front back : List (String × Document)}
    {known : Field} {value other : Document}
    (kept : ∀ content, table.read known value = .ok content → table.read known other = .ok content)
    {content : (field : Field) → Content field}
    (tells : table.Tells content (.map (front ++ (table.name known, value) :: back) .closed)) :
    table.Tells content (.map (front ++ (table.name known, other) :: back) .closed) := by
  obtain ⟨unknown, told⟩ := tells
  refine ⟨forall_mem_insert.mpr ⟨?_, (forall_mem_insert.mp unknown).2⟩, fun field => ?_⟩
  · intro unnamed
    exact absurd rfl (sound.ne_of_unknown unnamed known)
  · have here := told field
    by_cases same : known = field
    · subst field
      rw [valuesOf_insert_self, FieldTable.told_insert_iff] at here ⊢
      exact ⟨here.1, here.2.1, kept _ here.2.2⟩
    · have elsewhere := fun names => same (sound.name_inj names)
      rw [valuesOf_insert_of_ne elsewhere] at here ⊢
      exact here

theorem tells_sequence_of_replaced (sound : table.Sound) {front back : List Document}
    {known : Field} {value other : Document} (atPlace : table.order.idxOf known = front.length)
    (kept : ∀ content, table.read known value = .ok content → table.read known other = .ok content)
    {content : (field : Field) → Content field}
    (tells : table.Tells content (.sequence (front ++ value :: back) .closed)) :
    table.Tells content (.sequence (front ++ other :: back) .closed) := by
  have replaced : front ++ other :: back = (front ++ value :: back).set front.length other := by
    rw [List.set_append_right _ _ (Nat.le_refl _), Nat.sub_self, List.set_cons_zero]
  obtain ⟨notMore, told⟩ := tells
  refine ⟨?_, fun field => ?_⟩
  · rw [replaced, List.length_set]
    exact notMore
  · have here := told field
    by_cases same : known = field
    · subst field
      rw [atPlace, List.getElem?_append_right (Nat.le_refl _), Nat.sub_self] at here ⊢
      exact kept _ here
    · have elsewhere : front.length ≠ table.order.idxOf field := by
        rw [← atPlace]
        exact fun places => same ((List.idxOf_inj (sound.complete known)).mp places)
      rw [replaced, List.getElem?_set_ne elsewhere]
      exact here

/-- A record that is told by its layer withstands what the values of its fields withstand. -/
theorem withstands_record (sound : table.Sound) (nullTells : NullTells table nullable)
    (withstands : ∀ field, Withstands (table.read field) (within field))
    {look : β → (field : Field) → Content field}
    (reads : ∀ {document result}, read document = .ok result ↔
      table.Tells (look result) (layer document)) :
    Withstands read (Changed table nullable within) where
  kept := by
    intro document other result changed told
    rw [reads] at told ⊢
    cases changed with
    | members changed =>
        rw [layer_record] at told ⊢
        exact tells_of_rearranged sound nullTells changed told
    | member changed =>
        rw [layer_record] at told ⊢
        exact tells_map_of_replaced sound (fun _ => (withstands _).kept changed) told
    | element atPlace changed =>
        exact tells_sequence_of_replaced sound atPlace (fun _ => (withstands _).kept changed) told
  refused := by
    intro document other result changed told
    rw [reads] at told
    cases changed with
    | members changed =>
        rw [layer_record] at told
        exact not_tells_of_repeated changed told
    | @member front back known value other changed =>
        rw [layer_record] at told
        have here := told.2 known
        rw [valuesOf_insert_self, FieldTable.told_insert_iff] at here
        exact (withstands known).refused changed here.2.2
    | @element front back known value other atPlace changed =>
        have here := told.2 known
        rw [atPlace, List.getElem?_append_right (Nat.le_refl _), Nat.sub_self] at here
        exact (withstands known).refused changed here

end

/-! ### Texts of changed documents -/

/-- A text that reads at all reads the same with more blanks between its tokens. It spells one
document; whatever rearranging changes make of that reads as before, however it is written, and what
a repeating change makes of it is refused. -/
def ReadsStably (read : Document → Except Fault β)
    (changed : Change → Document → Document → Prop) : Prop :=
  ∀ (text : String) (content : β), readText read text = .ok content →
    (∀ respaced : String, Relation.ReflTransGen Token.Respaced text.toList respaced.toList →
      readText read respaced = .ok content) ∧
    ∃ document : Document, (∀ other : Document, other.SpelledBy text ↔ other = document) ∧
      (∀ (other : Document) (rewritten : String),
        Relation.ReflTransGen (changed .rearranging) document other → other.SpelledBy rewritten →
        readText read rewritten = .ok content) ∧
      ∀ (other : Document) (rewritten : String),
        changed .repeating document other → other.SpelledBy rewritten →
        ∃ fault, readText read rewritten = .error fault

theorem Withstands.kept_of_reflTransGen {changed : Change → Document → Document → Prop}
    (withstands : Withstands read changed) {document other : Document} {content : β}
    (changes : Relation.ReflTransGen (changed .rearranging) document other)
    (result : read document = .ok content) : read other = .ok content := by
  induction changes with
  | refl => exact result
  | tail _ change ih => exact withstands.kept change ih

theorem readsStably {changed : Change → Document → Document → Prop} (reads : ReadsIntact read)
    (withstands : Withstands read changed) : ReadsStably read changed := by
  intro text content result
  obtain ⟨document, spelled⟩ := reads.exists_spelledBy result
  rw [spelled.readText_eq read] at result
  refine ⟨?_, document, fun other => ⟨spelled.eq, ?_⟩, ?_, ?_⟩
  · intro respaced blanks
    rw [(spelled.respaced blanks).readText_eq read]
    exact result
  · rintro rfl
    exact spelled
  · intro other rewritten changes spelledAgain
    rw [spelledAgain.readText_eq read]
    exact withstands.kept_of_reflTransGen changes result
  · intro other rewritten change spelledAgain
    rw [spelledAgain.readText_eq read]
    cases refused : read other with
    | error fault => exact ⟨fault, rfl⟩
    | ok found => exact absurd refused (withstands.refused change)

end Json.Document

end ReportMerge
