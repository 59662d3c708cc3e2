/-
What it takes to read a record. In a map every known name stands over at most one
value, in whatever order, and every value of an unknown name is well formed; a
sequence is read like the map that gives the names in the order of declaration.
-/

import ReportMerge.Proofs.Reading.Fields
import ReportMerge.Proofs.Reading.Layers

namespace ReportMerge

def valuesOf {α : Type} (name : String) (members : List (String × α)) : List α :=
  (members.filter fun member => member.1 = name).map Prod.snd

section

variable {α : Type} {name : String}

@[simp]
theorem valuesOf_nil : valuesOf name ([] : List (String × α)) = [] := rfl

@[simp]
theorem valuesOf_cons_self (value : α) (members : List (String × α)) :
    valuesOf name ((name, value) :: members) = value :: valuesOf name members := by
  simp [valuesOf]

theorem valuesOf_cons_of_ne {other : String} (differs : other ≠ name) (value : α)
    (members : List (String × α)) :
    valuesOf name ((other, value) :: members) = valuesOf name members := by
  simp [valuesOf, differs]

theorem mem_valuesOf_iff {value : α} {members : List (String × α)} :
    value ∈ valuesOf name members ↔ (name, value) ∈ members := by
  simp [valuesOf]

@[simp]
theorem valuesOf_append (front back : List (String × α)) :
    valuesOf name (front ++ back) = valuesOf name front ++ valuesOf name back := by
  simp [valuesOf]

theorem valuesOf_insert_of_ne {other : String} (differs : other ≠ name) (value : α)
    (front back : List (String × α)) :
    valuesOf name (front ++ (other, value) :: back) = valuesOf name (front ++ back) := by
  rw [valuesOf_append, valuesOf_append, valuesOf_cons_of_ne differs]

theorem valuesOf_insert_self (value : α) (front back : List (String × α)) :
    valuesOf name (front ++ (name, value) :: back) =
      valuesOf name front ++ value :: valuesOf name back := by
  rw [valuesOf_append, valuesOf_cons_self]

theorem valuesOf_perm {members others : List (String × α)} (perm : members.Perm others) :
    (valuesOf name members).Perm (valuesOf name others) :=
  (perm.filter _).map _

theorem valuesOf_eq_nil_iff {members : List (String × α)} :
    valuesOf name members = [] ↔ ∀ value, (name, value) ∉ members := by
  simp only [List.eq_nil_iff_forall_not_mem, mem_valuesOf_iff]

/-- Where no name stands twice, at most one value stands under each. -/
theorem length_valuesOf_le {members : List (String × α)}
    (distinct : (members.map Prod.fst).Nodup) : (valuesOf name members).length ≤ 1 := by
  induction members with
  | nil => exact Nat.zero_le 1
  | cons member members ih =>
      obtain ⟨other, value⟩ := member
      obtain ⟨absent, others⟩ := List.nodup_cons.mp distinct
      by_cases same : other = name
      · subst same
        have once : valuesOf other members = [] :=
          valuesOf_eq_nil_iff.mpr fun value later => absent (List.mem_map.mpr ⟨_, later, rfl⟩)
        rw [valuesOf_cons_self, once]
        exact Nat.le_refl 1
      · rw [valuesOf_cons_of_ne same]
        exact ih others

theorem valuesOf_map {β : Type} (change : α → β) (members : List (String × α)) :
    valuesOf name (members.map fun (other, value) => (other, change value)) =
      (valuesOf name members).map change := by
  induction members with
  | nil => rfl
  | cons member members ih =>
      obtain ⟨other, value⟩ := member
      rw [List.map_cons]
      by_cases same : other = name
      · subst same
        rw [valuesOf_cons_self, valuesOf_cons_self, ih, List.map_cons]
      · rw [valuesOf_cons_of_ne same, valuesOf_cons_of_ne same, ih]

end

namespace FieldTable

variable {α Field : Type} {Content : Field → Type} {table : FieldTable α Field Content}

theorem name_of_fieldNamed? {name : String} {field : Field}
    (named : table.fieldNamed? name = some field) : table.name field = name :=
  eq_of_beq (List.find?_some (p := fun field => table.name field == name) named)

theorem Sound.name_inj (sound : table.Sound) {left right : Field}
    (same : table.name left = table.name right) : left = right := by
  have found := sound.fieldNamed?_name left
  rw [same, sound.fieldNamed?_name right] at found
  exact (Option.some.inj found).symm

theorem Sound.ne_of_unknown (sound : table.Sound) {name : String}
    (unknown : table.fieldNamed? name = none) (field : Field) : name ≠ table.name field := by
  rintro rfl
  rw [sound.fieldNamed?_name field] at unknown
  cases unknown

/-- What a draft holds of a field after some values have been read for it. -/
def Gathers (table : FieldTable α Field Content) (field : Field) :
    Option (Content field) → List α → Option (Content field) → Prop
  | before, [], after => after = before
  | none, [value], after => ∃ content, table.read field value = .ok content ∧ after = some content
  | _, _, _ => False

theorem gathers_nil {field : Field} {before after : Option (Content field)} :
    table.Gathers field before [] after ↔ after = before := by
  cases before <;> rfl

theorem gathers_cons {field : Field} {before after : Option (Content field)} {value : α}
    {values : List α} :
    table.Gathers field before (value :: values) after ↔
      before = none ∧ ∃ content, table.read field value = .ok content ∧
        table.Gathers field (some content) values after := by
  cases before with
  | some content => simp [Gathers]
  | none =>
      cases values with
      | nil => simp [Gathers]
      | cons next values => simp [Gathers]

variable [DecidableEq Field]

@[simp]
theorem fill_self (draft : Draft Content) (field : Field) (content : Content field) :
    fill draft field content field = some content := by
  simp [fill]

theorem fill_of_ne (draft : Draft Content) {field other : Field} (content : Content field)
    (differs : field ≠ other) : fill draft field content other = draft other := by
  simp [fill, differs]

theorem readMembers_cons_eq_ok_iff [Readable α] (sound : table.Sound) (known : Field) (value : α)
    (members : List (String × α)) (before after : Draft Content) :
    table.readMembers before ((table.name known, value) :: members) = .ok after ↔
      before known = none ∧ ∃ content, table.read known value = .ok content ∧
        table.readMembers (fill before known content) members = .ok after := by
  simp only [readMembers, sound.fieldNamed?_name known]
  cases before known with
  | some content => simp
  | none => simp [bind_eq_ok_iff]

/-- A value is read for the field that it stands under and leaves all others alone. -/
theorem gathers_cons_member (sound : table.Sound) (known : Field) (value : α)
    (members : List (String × α)) (before after : Draft Content) :
    (∀ field, table.Gathers field (before field)
        (valuesOf (table.name field) ((table.name known, value) :: members)) (after field)) ↔
      before known = none ∧ ∃ content, table.read known value = .ok content ∧
        ∀ field, table.Gathers field (fill before known content field)
          (valuesOf (table.name field) members) (after field) := by
  have elsewhere {field : Field} (differs : known ≠ field) :
      valuesOf (table.name field) ((table.name known, value) :: members) =
        valuesOf (table.name field) members :=
    valuesOf_cons_of_ne (fun same => differs (sound.name_inj same)) value members
  constructor
  · intro gathered
    have here := gathered known
    rw [valuesOf_cons_self, gathers_cons] at here
    obtain ⟨unread, content, read, others⟩ := here
    refine ⟨unread, content, read, fun field => ?_⟩
    by_cases same : known = field
    · subst field
      rw [fill_self]
      exact others
    · rw [fill_of_ne before content same, ← elsewhere same]
      exact gathered field
  · rintro ⟨unread, content, read, gathered⟩ field
    have here := gathered field
    by_cases same : known = field
    · subst field
      rw [fill_self] at here
      rw [valuesOf_cons_self, gathers_cons]
      exact ⟨unread, content, read, here⟩
    · rw [fill_of_ne before content same] at here
      rw [elsewhere same]
      exact here

theorem readMembers_eq_ok_iff [Readable α] (sound : table.Sound) (members : List (String × α))
    (before after : Draft Content) :
    table.readMembers before members = .ok after ↔
      (∀ member ∈ members, table.fieldNamed? member.1 = none →
        Readable.intact member.2 = true) ∧
      ∀ field, table.Gathers field (before field) (valuesOf (table.name field) members)
        (after field) := by
  induction members generalizing before with
  | nil =>
      simp only [readMembers, Except.ok.injEq, List.not_mem_nil, false_implies, implies_true,
        true_and, valuesOf_nil, gathers_nil]
      exact ⟨fun same field => (congrFun same field).symm, fun same => funext fun field =>
        (same field).symm⟩
  | cons member members ih =>
      rcases member with ⟨name, value⟩
      rw [List.forall_mem_cons]
      cases named : table.fieldNamed? name with
      | none =>
          have elsewhere (field : Field) : valuesOf (table.name field) ((name, value) :: members) =
              valuesOf (table.name field) members :=
            valuesOf_cons_of_ne (sound.ne_of_unknown named field) value members
          simp only [readMembers, named, elsewhere, true_implies, and_assoc]
          rw [← ih before]
          cases Readable.intact value <;> simp
      | some known =>
          obtain rfl := name_of_fieldNamed? named
          simp only [reduceCtorEq, false_implies, true_and]
          rw [readMembers_cons_eq_ok_iff sound, gathers_cons_member sound]
          simp only [ih]
          constructor
          · rintro ⟨unread, content, read, intact, gathered⟩
            exact ⟨intact, unread, content, read, gathered⟩
          · rintro ⟨intact, unread, content, read, gathered⟩
            exact ⟨unread, content, read, intact, gathered⟩

/-! ### Elements -/

def placed (table : FieldTable α Field Content) (fields : List Field) (values : List α) :
    List (String × α) :=
  (fields.zip values).map fun (field, value) => (table.name field, value)

theorem readElements_eq_readMembers [Readable α] (sound : table.Sound) {fields : List Field}
    (distinct : fields.Nodup) (values : List α) (draft : Draft Content)
    (unread : ∀ field ∈ fields, draft field = none) :
    table.readElements draft fields values =
      table.readMembers draft (table.placed fields values) := by
  induction fields generalizing values draft with
  | nil => rfl
  | cons field fields ih =>
      obtain ⟨once, others⟩ := List.nodup_cons.mp distinct
      cases values with
      | nil => rfl
      | cons value values =>
          have unreadHere := unread field List.mem_cons_self
          change _ =
            table.readMembers draft ((table.name field, value) :: table.placed fields values)
          simp only [readElements, readMembers, sound.fieldNamed?_name field, unreadHere,
            Option.isSome_none, Bool.false_eq_true, if_false]
          congr 1
          funext content
          apply ih others
          intro other later
          have differs : field ≠ other := fun same => once (same ▸ later)
          rw [fill_of_ne draft content differs]
          exact unread other (List.mem_cons_of_mem field later)

omit [DecidableEq Field] in
theorem valuesOf_placed_of_not_mem (sound : table.Sound) {fields : List Field} {field : Field}
    (absent : field ∉ fields) (values : List α) :
    valuesOf (table.name field) (table.placed fields values) = [] := by
  induction fields generalizing values with
  | nil => rfl
  | cons other fields ih =>
      have differs : field ≠ other := fun same => absent (same ▸ List.mem_cons_self)
      have elsewhere : field ∉ fields := fun later => absent (List.mem_cons_of_mem other later)
      cases values with
      | nil => rfl
      | cons value values =>
          change valuesOf _ ((table.name other, value) :: table.placed fields values) = []
          rw [valuesOf_cons_of_ne fun same => differs (sound.name_inj same).symm]
          exact ih elsewhere values

/-- A field is told by the element at its place, if the sequence goes that far. -/
theorem valuesOf_placed (sound : table.Sound) {fields : List Field} (distinct : fields.Nodup)
    {field : Field} (present : field ∈ fields) (values : List α) :
    valuesOf (table.name field) (table.placed fields values) =
      values[fields.idxOf field]?.toList := by
  induction fields generalizing values with
  | nil => cases present
  | cons other fields ih =>
      obtain ⟨once, others⟩ := List.nodup_cons.mp distinct
      cases values with
      | nil => rfl
      | cons value values =>
          change valuesOf _ ((table.name other, value) :: table.placed fields values) = _
          by_cases same : other = field
          · subst other
            rw [valuesOf_cons_self, valuesOf_placed_of_not_mem sound once, List.idxOf_cons_self]
            rfl
          · have later : field ∈ fields := (List.mem_cons.mp present).resolve_left (Ne.symm same)
            rw [valuesOf_cons_of_ne fun names => same (sound.name_inj names), ih others later,
              List.idxOf_cons_ne fields same]
            rfl

omit [DecidableEq Field] in
theorem intact_placed_of_unknown [Readable α] (sound : table.Sound) (fields : List Field)
    (values : List α) : ∀ member ∈ table.placed fields values,
      table.fieldNamed? member.1 = none → Readable.intact member.2 = true := by
  intro member placed unknown
  obtain ⟨⟨field, value⟩, _, rfl⟩ := List.mem_map.mp placed
  exact absurd rfl (sound.ne_of_unknown unknown field)

/-! ### Records -/

/-- What some values tell of a field: a single one is read, and without any the field has what it
has when it is left out. More than one tell nothing. -/
def Told (table : FieldTable α Field Content) (field : Field) (content : Content field) :
    List α → Prop
  | [] => table.absent field = some content
  | [value] => table.read field value = .ok content
  | _ => False

omit [DecidableEq Field] in
theorem Told.read_of_mem {field : Field} {content : Content field} {values : List α} {value : α}
    (told : table.Told field content values) (member : value ∈ values) :
    table.read field value = .ok content := by
  match values, told with
  | [given], read =>
      rw [List.mem_singleton.mp member]
      exact read

omit [DecidableEq Field] in
theorem told_of_perm {field : Field} {content : Content field} {values others : List α}
    (perm : values.Perm others) (told : table.Told field content values) :
    table.Told field content others := by
  match values, told with
  | [], told =>
      rw [List.perm_nil.mp perm.symm]
      exact told
  | [value], told =>
      rw [List.perm_singleton.mp perm.symm]
      exact told

omit [DecidableEq Field] in
/-- A field with a default is told by the value that is given for it, if one is. -/
theorem told_getD {field : Field} {default : Content field} {value : Content field → α}
    (absent : table.absent field = some default)
    (read : ∀ content, table.read field (value content) = .ok content)
    (given : Option (Content field)) :
    table.Told field (given.getD default) (given.map value).toList := by
  cases given with
  | none => exact absent
  | some content => exact read content

omit [DecidableEq Field] in
theorem told_insert_iff {field : Field} {content : Content field} {front back : List α}
    {value : α} :
    table.Told field content (front ++ value :: back) ↔
      front = [] ∧ back = [] ∧ table.read field value = .ok content := by
  match front, back with
  | [], [] => simp [Told]
  | [], _ :: _ => simp [Told]
  | [_], _ => simp [Told]
  | _ :: _ :: _, _ => simp [Told]

/-- A record is put together from exactly these contents. -/
def Assembles {β : Type}
    (construct : ((field : Field) → Except Fault (Content field)) → Except Fault β)
    (result : β) (content : (field : Field) → Content field) : Prop :=
  ∀ get, construct get = .ok result ↔ ∀ field, get field = .ok (content field)

omit [DecidableEq Field] in
theorem settle_eq_ok_iff {fault : Field → Fault} {draft : Draft Content} {field : Field}
    {content : Content field} :
    table.settle fault draft field = .ok content ↔
      draft field = some content ∨ draft field = none ∧ table.absent field = some content := by
  unfold settle
  cases draft field with
  | some given => simp
  | none => cases table.absent field <;> simp

omit [DecidableEq Field] in
theorem told_iff {field : Field} {content : Content field} {values : List α} :
    table.Told field content values ↔
      ∃ gathered, table.Gathers field none values gathered ∧
        (gathered = some content ∨ gathered = none ∧ table.absent field = some content) := by
  match values with
  | [] => simp [Told, Gathers]
  | [value] => simp [Told, Gathers]
  | first :: second :: values => simp [Told, Gathers]

omit [DecidableEq Field] in
/-- All fields of a finished draft are settled exactly when each is told by its own values. -/
theorem exists_settled_iff {fault : Field → Fault} {values : Field → List α}
    {content : (field : Field) → Content field} :
    (∃ draft : Draft Content, (∀ field, table.Gathers field none (values field) (draft field)) ∧
        ∀ field, table.settle fault draft field = .ok (content field)) ↔
      ∀ field, table.Told field (content field) (values field) := by
  simp only [settle_eq_ok_iff, told_iff, ← forall_and]
  rw [Classical.skolem]

variable {β : Type} {construct : ((field : Field) → Except Fault (Content field)) → Except Fault β}
  {result : β} {content : (field : Field) → Content field}

theorem readMembers_construct_iff [Readable α] (sound : table.Sound)
    (assembles : Assembles construct result content) (fault : Field → Fault)
    (members : List (String × α)) :
    (∃ draft, table.readMembers (fun _ => none) members = .ok draft ∧
        construct (table.settle fault draft) = .ok result) ↔
      (∀ member ∈ members, table.fieldNamed? member.1 = none →
        Readable.intact member.2 = true) ∧
      ∀ field, table.Told field (content field) (valuesOf (table.name field) members) := by
  simp only [readMembers_eq_ok_iff sound, and_assoc, assembles _]
  exact exists_and_left.trans (and_congr_right fun _ => exists_settled_iff)

/-- The layers that a record with these contents is read from. -/
def Tells [Readable α] (table : FieldTable α Field Content)
    (content : (field : Field) → Content field) : Layer α → Prop
  | .map members .closed =>
      (∀ member ∈ members, table.fieldNamed? member.1 = none →
        Readable.intact member.2 = true) ∧
      ∀ field, table.Told field (content field) (valuesOf (table.name field) members)
  | .sequence values .closed =>
      values.length ≤ table.order.length ∧
      ∀ field, table.Told field (content field) values[table.order.idxOf field]?.toList
  | _ => False

theorem readElements_construct_iff [Readable α] (sound : table.Sound)
    (assembles : Assembles construct result content) (fault : Field → Fault) (values : List α) :
    (∃ draft, table.readElements (fun _ => none) table.order values = .ok draft ∧
        construct (table.settle fault draft) = .ok result) ↔
      ∀ field, table.Told field (content field) values[table.order.idxOf field]?.toList := by
  have distinct : table.order.Nodup := sound.distinct.of_map
  rw [readElements_eq_readMembers sound distinct values _ fun _ _ => rfl,
    readMembers_construct_iff sound assembles,
    and_iff_right (intact_placed_of_unknown sound table.order values)]
  simp only [valuesOf_placed sound distinct (sound.complete _)]

theorem readRecord_eq_ok_iff [Readable α] (sound : table.Sound)
    (assembles : Assembles construct result content) (value : α) :
    table.readRecord construct value = .ok result ↔ table.Tells content (Readable.layer value) := by
  unfold readRecord
  cases Readable.layer value with
  | map members ending =>
      simp only [bind_eq_ok_iff]
      cases ending with
      | torn => simp [Tells]
      | closed => exact readMembers_construct_iff sound assembles _ members
  | sequence values ending =>
      simp only [bind_eq_ok_iff]
      cases ending with
      | torn => simp [Tells]
      | closed =>
          by_cases surplus : values.length > table.order.length
          · simp [Tells, surplus, Nat.not_le.mpr surplus]
          · simp only [if_neg surplus, Tells, and_iff_right (Nat.not_lt.mp surplus)]
            exact readElements_construct_iff sound assembles _ values
  | null => simp [Tells]
  | flag value => simp [Tells]
  | number value => simp [Tells]
  | text value => simp [Tells]
  | torn => simp [Tells]

end FieldTable

end ReportMerge
