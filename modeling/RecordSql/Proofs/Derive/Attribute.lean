import RecordSql.Derive.Expansion
import RecordSql.Proofs.Schema.Table

/-!
# Attributes that count

Of the attributes of ours that a type carries the first one says which table its records have, and
those after it are not looked at. A field may carry one at most, which gives its settings. A
declaration is expanded exactly if the attributes that are looked at have their form, and what is
generated tells what they say.
-/

set_option autoImplicit false

namespace RecordSql.Derive

/-- What follows the path of the attributes that are ours among some. -/
def ours (attributes : List Attribute) : List AttributeBody :=
  attributes.filterMap Attribute.ourBody?

namespace AttributeBody

/-- An attribute that names a table: its arguments are the word for it, an equals sign and a
string. -/
def NamesTable (body : AttributeBody) (name : String) : Prop :=
  ∃ joint text, body = .arguments [.word "table", .mark '=' joint, .literal text (.string name)]

/-- An attribute that gives settings: its only argument is a string. -/
def GivesTag (body : AttributeBody) (tag : String) : Prop :=
  ∃ text, body = .arguments [.literal text (.string tag)]

end AttributeBody

/-- What the attributes of a type give as the name of its table: what the first one names. -/
inductive TableGiven : List AttributeBody → Option String → Prop where
  /-- There are none. -/
  | absent : TableGiven [] none
  /-- The first one names a table, whatever the others are. -/
  | first {body : AttributeBody} {name : String} {others : List AttributeBody}
      (names : body.NamesTable name) : TableGiven (body :: others) (some name)

/-- What is wrong with the attributes of a type. -/
inductive TableFault : List AttributeBody → Fault → Prop where
  /-- The first one stands by itself. -/
  | bare {others : List AttributeBody} : TableFault (.nothing :: others) .bareAttribute
  /-- The first one has a value. -/
  | value {others : List AttributeBody} : TableFault (.value :: others) .valueForArguments
  /-- The arguments of the first one name no table. -/
  | arguments {tokens : List Token} {others : List AttributeBody}
      (unnamed : ∀ name, ¬ (AttributeBody.arguments tokens).NamesTable name) :
      TableFault (.arguments tokens :: others) (argumentsFault tokens)

/-- What the attributes of a field give as its settings. -/
inductive TagGiven : List AttributeBody → Option String → Prop where
  /-- There are none. -/
  | absent : TagGiven [] none
  /-- There is one, and it gives settings. -/
  | only {body : AttributeBody} {tag : String} (gives : body.GivesTag tag) :
      TagGiven [body] (some tag)

/-- What is wrong with the attributes of a field. -/
inductive TagFault : List AttributeBody → Fault → Prop where
  /-- The first one gives no settings. -/
  | malformed {body : AttributeBody} {others : List AttributeBody}
      (none : ∀ tag, ¬ body.GivesTag tag) : TagFault (body :: others) .noTag
  /-- The first one gives settings, but there is another one. -/
  | repeated {body other : AttributeBody} {tag : String} {others : List AttributeBody}
      (gives : body.GivesTag tag) : TagFault (body :: other :: others) .repeatedTag

/-! ## Results of steps -/

section Results

variable {ε α β : Type} {result : Except ε α} {e : ε}

/-- What a mapped result is if it is good. -/
theorem map_eq_ok_iff {f : α → β} {b : β} :
    result.map f = .ok b ↔ ∃ a, result = .ok a ∧ f a = b := by
  cases result <;> simp [Except.map]

/-- Mapping leaves a fault as it is. -/
theorem map_eq_error_iff {f : α → β} : result.map f = .error e ↔ result = .error e := by
  cases result <;> simp [Except.map]

/-- A step that goes on ends well exactly if both steps do. -/
theorem bind_eq_ok_iff {f : α → Except ε β} {b : β} :
    result.bind f = .ok b ↔ ∃ a, result = .ok a ∧ f a = .ok b := by
  cases result <;> simp [Except.bind]

/-- A step that goes on fails in its first part or in its second. -/
theorem bind_eq_error_iff {f : α → Except ε β} :
    result.bind f = .error e ↔ result = .error e ∨ ∃ a, result = .ok a ∧ f a = .error e := by
  cases result <;> simp [Except.bind]

/-- A result that can fail in one way fails exactly if nothing is what it should be. -/
theorem eq_error_iff_of_only {p : α → Prop} {found : ε}
    (hok : ∀ a, result = .ok a ↔ p a) (honly : ∀ other, result = .error other → other = e) :
    result = .error found ↔ (∀ a, ¬ p a) ∧ found = e := by
  cases result with
  | ok a =>
    constructor
    · rintro ⟨⟩
    · rintro ⟨hnone, -⟩
      exact absurd ((hok a).1 rfl) (hnone a)
  | error other =>
    have hnone (a : α) : ¬ p a := by
      intro ha
      cases (hok a).2 ha
    rw [honly other rfl, Except.error.injEq, eq_comm]
    exact (and_iff_right hnone).symm

end Results

/-! ## Reading one attribute -/

/-- A table is read from the arguments that name it. -/
theorem readTable_eq_ok_iff {tokens : List Token} {name : String} :
    readTable tokens = .ok name ↔ (AttributeBody.arguments tokens).NamesTable name := by
  unfold readTable AttributeBody.NamesTable
  split
  · rename_i joint text value
    constructor
    · rintro ⟨⟩
      exact ⟨joint, text, rfl⟩
    · rintro ⟨_, _, ⟨⟩⟩
      rfl
  · rename_i hother
    constructor
    · rintro ⟨⟩
    · rintro ⟨joint, text, ⟨⟩⟩
      exact absurd rfl (hother joint text name)

/-- Arguments that name no table are at fault for what they hold instead. -/
theorem readTable_eq_error_iff {tokens : List Token} {fault : Fault} :
    readTable tokens = .error fault
      ↔ (∀ name, ¬ (AttributeBody.arguments tokens).NamesTable name)
        ∧ fault = argumentsFault tokens := by
  apply eq_error_iff_of_only fun _ => readTable_eq_ok_iff
  intro other h
  unfold readTable at h
  split at h
  · cases h
  · cases h
    rfl

/-- A tag is read from the attribute that gives it. -/
theorem readTag_eq_ok_iff {body : AttributeBody} {tag : String} :
    readTag body = .ok tag ↔ body.GivesTag tag := by
  unfold readTag AttributeBody.GivesTag
  split
  · rename_i text value
    constructor
    · rintro ⟨⟩
      exact ⟨text, rfl⟩
    · rintro ⟨_, ⟨⟩⟩
      rfl
  · rename_i hother
    constructor
    · rintro ⟨⟩
    · rintro ⟨text, rfl⟩
      exact absurd rfl (hother text tag)

/-- An attribute that gives no tag is at fault. -/
theorem readTag_eq_error_iff {body : AttributeBody} {fault : Fault} :
    readTag body = .error fault ↔ (∀ tag, ¬ body.GivesTag tag) ∧ fault = .noTag := by
  apply eq_error_iff_of_only fun _ => readTag_eq_ok_iff
  intro other h
  unfold readTag at h
  split at h
  · cases h
  · cases h
    rfl

/-! ## Reading the attributes of a type -/

variable {a : Attribute} {attributes : List Attribute}

/-- An attribute of another name does not count. -/
theorem ours_cons_of_none (h : a.ourBody? = none) : ours (a :: attributes) = ours attributes :=
  List.filterMap_cons_none h

/-- An attribute of our name counts first. -/
theorem ours_cons_of_some {body : AttributeBody} (h : a.ourBody? = some body) :
    ours (a :: attributes) = body :: ours attributes :=
  List.filterMap_cons_some h

/-- Only the first attribute that is ours is looked at. -/
theorem tableOf_eq (attributes : List Attribute) :
    tableOf attributes = match ours attributes with
      | [] => .ok none
      | .nothing :: _ => .error .bareAttribute
      | .value :: _ => .error .valueForArguments
      | .arguments tokens :: _ => (readTable tokens).map some := by
  induction attributes with
  | nil => rfl
  | cons a attributes ih =>
    rw [tableOf]
    cases hbody : a.ourBody? with
    | none =>
      rw [ours_cons_of_none hbody]
      exact ih
    | some body =>
      rw [ours_cons_of_some hbody]
      cases body <;> rfl

/-- The table of a type is the one that its first attribute of our name gives, if there is one. -/
theorem tableOf_eq_ok_iff {hook : Option String} :
    tableOf attributes = .ok hook ↔ TableGiven (ours attributes) hook := by
  rw [tableOf_eq]
  match ours attributes with
  | [] =>
    constructor
    · rintro ⟨⟩
      exact .absent
    · rintro ⟨⟩
      rfl
  | .nothing :: _ | .value :: _ =>
    constructor
    · rintro ⟨⟩
    · rintro (_ | ⟨_, _, ⟨⟩⟩)
  | .arguments tokens :: _ =>
    rw [map_eq_ok_iff]
    constructor
    · rintro ⟨name, hread, rfl⟩
      exact .first (readTable_eq_ok_iff.1 hread)
    · rintro (_ | hnames)
      exact ⟨_, readTable_eq_ok_iff.2 hnames, rfl⟩

/-- What is wrong with the attributes of a type is wrong with the first that is ours. -/
theorem tableOf_eq_error_iff {fault : Fault} :
    tableOf attributes = .error fault ↔ TableFault (ours attributes) fault := by
  rw [tableOf_eq]
  match ours attributes with
  | [] =>
    constructor
    · rintro ⟨⟩
    · rintro ⟨⟩
  | .nothing :: _ =>
    constructor
    · rintro ⟨⟩
      exact .bare
    · rintro ⟨⟩
      rfl
  | .value :: _ =>
    constructor
    · rintro ⟨⟩
      exact .value
    · rintro ⟨⟩
      rfl
  | .arguments tokens :: _ =>
    rw [map_eq_error_iff, readTable_eq_error_iff]
    constructor
    · rintro ⟨hunnamed, rfl⟩
      exact .arguments hunnamed
    · rintro (_ | _ | hunnamed)
      exact ⟨hunnamed, rfl⟩

/-! ## Reading the attributes of a field -/

/-- Once an attribute gave settings, any other one is a repetition. -/
theorem tagOf_some (tag : String) (attributes : List Attribute) :
    tagOf (some tag) attributes
      = if ours attributes = [] then .ok (some tag) else .error .repeatedTag := by
  induction attributes with
  | nil => rfl
  | cons a attributes ih =>
    rw [tagOf]
    cases hbody : a.ourBody? with
    | none =>
      rw [ours_cons_of_none hbody]
      exact ih
    | some body =>
      rw [ours_cons_of_some hbody]
      simp

/-- The first attribute that is ours is read, and then there may be no other. -/
theorem tagOf_eq (attributes : List Attribute) :
    tagOf none attributes = match ours attributes with
      | [] => .ok none
      | body :: others =>
        (readTag body).bind fun tag =>
          if others = [] then .ok (some tag) else .error .repeatedTag := by
  induction attributes with
  | nil => rfl
  | cons a attributes ih =>
    rw [tagOf]
    cases hbody : a.ourBody? with
    | none =>
      rw [ours_cons_of_none hbody]
      exact ih
    | some body =>
      rw [ours_cons_of_some hbody]
      simp only [Option.isSome_none, Bool.false_eq_true, if_false]
      cases readTag body with
      | error fault => rfl
      | ok tag => exact tagOf_some tag attributes

/-- The tag of a field is the one that its only attribute of our name gives, if there is one. -/
theorem tagOf_eq_ok_iff {tag : Option String} :
    tagOf none attributes = .ok tag ↔ TagGiven (ours attributes) tag := by
  rw [tagOf_eq]
  match ours attributes with
  | [] =>
    constructor
    · rintro ⟨⟩
      exact .absent
    · rintro ⟨⟩
      rfl
  | [body] =>
    rw [bind_eq_ok_iff]
    constructor
    · rintro ⟨text, hread, ⟨⟩⟩
      exact .only (readTag_eq_ok_iff.1 hread)
    · rintro (_ | hgives)
      exact ⟨_, readTag_eq_ok_iff.2 hgives, rfl⟩
  | body :: other :: others =>
    rw [bind_eq_ok_iff]
    constructor
    · rintro ⟨text, hread, ⟨⟩⟩
    · rintro ⟨⟩

/-- What is wrong with the attributes of a field is wrong with the first that is ours, or it is that
there is another one. -/
theorem tagOf_eq_error_iff {fault : Fault} :
    tagOf none attributes = .error fault ↔ TagFault (ours attributes) fault := by
  rw [tagOf_eq]
  match ours attributes with
  | [] =>
    constructor
    · rintro ⟨⟩
    · rintro ⟨⟩
  | [body] =>
    rw [bind_eq_error_iff, readTag_eq_error_iff]
    constructor
    · rintro (⟨hnone, rfl⟩ | ⟨text, hread, ⟨⟩⟩)
      exact .malformed hnone
    · rintro (hnone | _)
      exact .inl ⟨hnone, rfl⟩
  | body :: other :: others =>
    rw [bind_eq_error_iff, readTag_eq_error_iff]
    constructor
    · rintro (⟨hnone, rfl⟩ | ⟨text, hread, ⟨⟩⟩)
      · exact .malformed hnone
      · exact .repeated (readTag_eq_ok_iff.1 hread)
    · rintro (hnone | hgives)
      · exact .inl ⟨hnone, rfl⟩
      · exact .inr ⟨_, readTag_eq_ok_iff.2 hgives, rfl⟩

/-! ## Declarations -/

/-- The fields are taken one by one. -/
theorem expandFields_eq (fields : List Field) :
    expandFields fields
      = fields.mapM fun field => (tagOf none field.attributes).map field.expand := by
  induction fields with
  | nil => rfl
  | cons field fields ih =>
    rw [expandFields, List.mapM_cons, ih]
    cases tagOf none field.attributes with
    | error fault => rfl
    | ok tag =>
      cases fields.mapM fun field => (tagOf none field.attributes).map field.expand <;> rfl

/-- What is generated for a field: its code, with the settings that its attributes give. -/
def Field.Generates (field : Field) (generated : FieldExpansion) : Prop :=
  ∃ tag, TagGiven (ours field.attributes) tag ∧ generated = field.expand tag

/-- What is generated for a field comes of its tag. -/
theorem generates_iff {field : Field} {generated : FieldExpansion} :
    (tagOf none field.attributes).map field.expand = .ok generated
      ↔ field.Generates generated := by
  rw [map_eq_ok_iff]
  simp only [tagOf_eq_ok_iff, Field.Generates, @eq_comm _ generated]

/-- The fields of a type are expanded one by one. -/
theorem expandFields_eq_ok_iff {fields : List Field} {generated : List FieldExpansion} :
    expandFields fields = .ok generated ↔ List.Forall₂ Field.Generates fields generated := by
  rw [expandFields_eq, mapM_eq_ok_iff]
  simp only [generates_iff]

/-- Every field of a type that is expanded has a tag or none in order. -/
theorem exists_tagGiven_of_generates {fields : List Field} {generated : List FieldExpansion}
    (h : List.Forall₂ Field.Generates fields generated) {field : Field} (hfield : field ∈ fields) :
    ∃ tag, TagGiven (ours field.attributes) tag := by
  obtain ⟨_, -, tag, htag, -⟩ := exists_of_forall₂_of_mem h.flip hfield
  exact ⟨tag, htag⟩

/-- What is wrong with fields is wrong with the first of them with attributes that are at fault. -/
theorem expandFields_eq_error_iff {fields : List Field} {fault : Fault} :
    expandFields fields = .error fault ↔ ∃ before field after, fields = before ++ field :: after
      ∧ (∀ other ∈ before, ∃ tag, TagGiven (ours other.attributes) tag)
      ∧ TagFault (ours field.attributes) fault := by
  have hok (field : Field) :
      (∃ generated, (tagOf none field.attributes).map field.expand = .ok generated)
        ↔ ∃ tag, TagGiven (ours field.attributes) tag := by
    simp only [generates_iff]
    constructor
    · rintro ⟨_, tag, htag, -⟩
      exact ⟨tag, htag⟩
    · rintro ⟨tag, htag⟩
      exact ⟨field.expand tag, tag, htag, rfl⟩
  have herror (field : Field) :
      (tagOf none field.attributes).map field.expand = .error fault
        ↔ TagFault (ours field.attributes) fault := by
    rw [map_eq_error_iff, tagOf_eq_error_iff]
  rw [expandFields_eq, mapM_eq_error_iff]
  simp only [hok, herror]

variable {declared : Declaration}

/-- What is generated for a struct are its table and its fields. -/
theorem Declaration.given_of_expand (hform : declared.form = .struct) {e : Expansion}
    (h : declared.expand = .ok e) :
    TableGiven (ours declared.attributes) e.tableName
      ∧ List.Forall₂ Field.Generates declared.fields e.fields := by
  rw [expand, hform, Form.fault?] at h
  simp only at h
  cases htable : tableOf declared.attributes with
  | error fault =>
    rw [htable] at h
    cases h
  | ok hook =>
    cases hfields : expandFields declared.fields with
    | error fault =>
      rw [htable, hfields] at h
      cases h
    | ok generated =>
      rw [htable, hfields] at h
      cases h
      exact ⟨tableOf_eq_ok_iff.1 htable, expandFields_eq_ok_iff.1 hfields⟩

/-- What is wrong with a struct is wrong with its own attributes, or else with those of the first
field with attributes that are at fault. -/
theorem Declaration.expand_eq_error_iff (hform : declared.form = .struct) {fault : Fault} :
    declared.expand = .error fault
      ↔ TableFault (ours declared.attributes) fault
        ∨ (∃ hook, TableGiven (ours declared.attributes) hook)
          ∧ ∃ before field after, declared.fields = before ++ field :: after
            ∧ (∀ other ∈ before, ∃ tag, TagGiven (ours other.attributes) tag)
            ∧ TagFault (ours field.attributes) fault := by
  rw [← expandFields_eq_error_iff]
  simp only [← tableOf_eq_ok_iff, ← tableOf_eq_error_iff]
  rw [expand, hform, Form.fault?]
  simp only
  cases tableOf declared.attributes with
  | error found => simp
  | ok hook => cases expandFields declared.fields <;> simp

/-! ## What counts of all attributes -/

/-- The first attribute of a type must name a table, and the others may hold anything. -/
theorem exists_tableGiven_iff {bodies : List AttributeBody} :
    (∃ hook, TableGiven bodies hook) ↔ ∀ body ∈ bodies.head?, ∃ name, body.NamesTable name := by
  cases bodies with
  | nil => exact iff_of_true ⟨none, .absent⟩ (by simp)
  | cons body others =>
    simp only [List.head?_cons, Option.mem_some_iff, forall_eq']
    constructor
    · rintro ⟨_, _ | names⟩
      exact ⟨_, names⟩
    · rintro ⟨name, names⟩
      exact ⟨some name, .first names⟩

/-- The attributes of a field must be one at most, and it must give a tag. -/
theorem exists_tagGiven_iff {bodies : List AttributeBody} :
    (∃ tag, TagGiven bodies tag)
      ↔ bodies.length ≤ 1 ∧ ∀ body ∈ bodies, ∃ tag, body.GivesTag tag := by
  match bodies with
  | [] => exact iff_of_true ⟨none, .absent⟩ (by simp)
  | [body] =>
    constructor
    · rintro ⟨_, _ | gives⟩
      exact ⟨Nat.le_refl 1, by simpa using ⟨_, gives⟩⟩
    · rintro ⟨-, hgives⟩
      obtain ⟨tag, gives⟩ := hgives body List.mem_cons_self
      exact ⟨some tag, .only gives⟩
  | body :: other :: others =>
    constructor
    · rintro ⟨_, ⟨⟩⟩
    · rintro ⟨hlength, -⟩
      simp at hlength

/-- What is generated for a declaration tells what every attribute of ours in it says. -/
structure Expansion.Reflects (e : Expansion) (declared : Declaration) : Prop where
  /-- Every attribute of the type names the table. -/
  table : ∀ body ∈ ours declared.attributes, ∃ name, body.NamesTable name ∧ e.tableName = some name
  /-- Every attribute of a field gives its settings. -/
  fields : List.Forall₂ (fun field generated => ∀ body ∈ ours field.attributes,
    ∃ tag, body.GivesTag tag ∧ generated.tag = some tag) declared.fields e.fields

/-- The tag that is generated for a field is the one in its attribute. -/
theorem Field.Generates.tag {field : Field} {generated : FieldExpansion}
    (h : field.Generates generated) {body : AttributeBody} (hbody : body ∈ ours field.attributes) :
    ∃ tag, body.GivesTag tag ∧ generated.tag = some tag := by
  obtain ⟨tag, htag, rfl⟩ := h
  generalize ours field.attributes = bodies at htag hbody
  cases htag with
  | absent => cases hbody
  | only gives =>
    obtain rfl := List.mem_singleton.1 hbody
    exact ⟨_, gives, rfl⟩

/-- A struct with one attribute at most is expanded into what its attributes say. -/
theorem Declaration.reflects_of_expand (hform : declared.form = .struct)
    (hone : (ours declared.attributes).length ≤ 1) {e : Expansion}
    (h : declared.expand = .ok e) : e.Reflects declared := by
  obtain ⟨htable, hfields⟩ := declared.given_of_expand hform h
  refine ⟨?_, hfields.imp fun _ _ hfield _ => hfield.tag⟩
  intro body hbody
  generalize ours declared.attributes = bodies at htable hone hbody
  generalize e.tableName = hook at htable
  cases htable with
  | absent => cases hbody
  | first names =>
    obtain rfl := List.length_eq_zero_iff.1 (Nat.le_zero.1 (Nat.le_of_succ_le_succ hone))
    obtain rfl := List.mem_singleton.1 hbody
    exact ⟨_, names, rfl⟩

/-- A struct is expanded exactly if its first attribute and those of its fields are in order. -/
theorem Declaration.exists_expand_iff (hform : declared.form = .struct) :
    (∃ e, declared.expand = .ok e)
      ↔ (∀ body ∈ (ours declared.attributes).head?, ∃ name, body.NamesTable name)
        ∧ ∀ field ∈ declared.fields, (ours field.attributes).length ≤ 1
          ∧ ∀ body ∈ ours field.attributes, ∃ tag, body.GivesTag tag := by
  simp only [← exists_tableGiven_iff, ← exists_tagGiven_iff]
  constructor
  · rintro ⟨e, he⟩
    obtain ⟨htable, hfields⟩ := declared.given_of_expand hform he
    refine ⟨⟨_, htable⟩, ?_⟩
    intro field hfield
    exact exists_tagGiven_of_generates hfields hfield
  · rintro ⟨⟨hook, htable⟩, hfields⟩
    cases hexpand : declared.expand with
    | ok e => exact ⟨e, rfl⟩
    | error fault =>
      obtain hfault | ⟨-, before, field, after, hdeclared, -, hfault⟩ :=
        (declared.expand_eq_error_iff hform).1 hexpand
      · have hread := tableOf_eq_ok_iff.2 htable
        rw [tableOf_eq_error_iff.2 hfault] at hread
        cases hread
      · obtain ⟨tag, htag⟩ := hfields field (by simp [hdeclared])
        have hread := tagOf_eq_ok_iff.2 htag
        rw [tagOf_eq_error_iff.2 hfault] at hread
        cases hread

/-- A struct is expanded exactly if its first attribute of ours, if it has any, names a table and no
field has more than one, which gives settings. What is generated has that table and these settings,
and else the fault is that of the attributes of the struct or of those of the first field that is at
fault. A struct with one attribute of ours at most is so expanded exactly if all attributes of ours
have their form, and what is generated tells what every one of them says. -/
theorem Declaration.expand_exact_attributes (hform : declared.form = .struct) :
    ((∃ e, declared.expand = .ok e)
        ↔ (∀ body ∈ (ours declared.attributes).head?, ∃ name, body.NamesTable name)
          ∧ ∀ field ∈ declared.fields, (ours field.attributes).length ≤ 1
            ∧ ∀ body ∈ ours field.attributes, ∃ tag, body.GivesTag tag)
      ∧ (∀ e, declared.expand = .ok e → TableGiven (ours declared.attributes) e.tableName
        ∧ List.Forall₂ Field.Generates declared.fields e.fields)
      ∧ (∀ fault, declared.expand = .error fault
        ↔ TableFault (ours declared.attributes) fault
          ∨ (∃ hook, TableGiven (ours declared.attributes) hook)
            ∧ ∃ before field after, declared.fields = before ++ field :: after
              ∧ (∀ other ∈ before, ∃ tag, TagGiven (ours other.attributes) tag)
              ∧ TagFault (ours field.attributes) fault)
      ∧ ((ours declared.attributes).length ≤ 1 →
        ((∃ e, declared.expand = .ok e)
            ↔ (∀ body ∈ ours declared.attributes, ∃ name, body.NamesTable name)
              ∧ ∀ field ∈ declared.fields, (ours field.attributes).length ≤ 1
                ∧ ∀ body ∈ ours field.attributes, ∃ tag, body.GivesTag tag)
          ∧ ∀ e, declared.expand = .ok e → e.Reflects declared) := by
  refine ⟨exists_expand_iff hform, fun _ => given_of_expand hform,
    fun _ => expand_eq_error_iff hform, ?_⟩
  intro hone
  refine ⟨?_, fun _ => reflects_of_expand hform hone⟩
  rw [exists_expand_iff hform]
  -- With one attribute at most, the first one is every one.
  match hours : ours declared.attributes with
  | [] => simp
  | [body] => simp
  | body :: other :: others => simp [hours] at hone

/-- An attribute of ours with some arguments. -/
def Attribute.orm (arguments : List Token) : Attribute := ⟨⟨false, ["orm"]⟩, .arguments arguments⟩

/-- A struct with a table, and with settings for the second of its fields. -/
def Declaration.user : Declaration :=
  { form := .struct
    name := "User"
    attributes :=
      [⟨⟨false, ["doc"]⟩, .value⟩,
        .orm [.word "table", .mark '=' false, .literal "\"users\"" (.string "users")]]
    parameters := []
    whereClause := none
    fields :=
      [⟨"id", "i64", []⟩,
        ⟨"name", "String",
          [.orm [.literal "\"column=full_name\"" (.string "column=full_name")]]⟩] }

/-- A struct with one attribute for its table and one for the column of a field. -/
theorem Declaration.expand_exact_attributes_user :
    Declaration.user.form = .struct ∧ (ours Declaration.user.attributes).length ≤ 1
      ∧ ∃ e, Declaration.user.expand = .ok e ∧ e.tableName = some "users"
        ∧ e.Reflects Declaration.user := by
  have hform : Declaration.user.form = .struct := rfl
  obtain ⟨-, -, -, hone⟩ := expand_exact_attributes hform
  obtain ⟨hexpand, hreflects⟩ := hone (by decide)
  have htable : ∀ body ∈ ours Declaration.user.attributes, body.NamesTable "users" := by
    intro body hbody
    obtain rfl := List.mem_singleton.1 hbody
    exact ⟨false, _, rfl⟩
  have hfields : ∀ field ∈ Declaration.user.fields, (ours field.attributes).length ≤ 1
      ∧ ∀ body ∈ ours field.attributes, ∃ tag, body.GivesTag tag := by
    intro field hfield
    rcases List.mem_pair.1 hfield with rfl | rfl
    · exact ⟨by decide, fun _ hbody => nomatch hbody⟩
    · refine ⟨by decide, ?_⟩
      intro body hbody
      obtain rfl := List.mem_singleton.1 hbody
      exact ⟨"column=full_name", _, rfl⟩
  obtain ⟨e, he⟩ := hexpand.2 ⟨fun body hbody => ⟨"users", htable body hbody⟩, hfields⟩
  refine ⟨hform, by decide, e, he, ?_, hreflects e he⟩
  cases he
  rfl

/-- The name of the table that an attribute names, if it names one. -/
def AttributeBody.tableName? : AttributeBody → Option String
  | .arguments tokens => (readTable tokens).toOption
  | _ => none

/-- The table that arguments name is the one that is read from them. -/
theorem AttributeBody.namesTable_iff {body : AttributeBody} {name : String} :
    body.NamesTable name ↔ body.tableName? = some name := by
  cases body with
  | arguments tokens =>
    rw [← readTable_eq_ok_iff, tableName?]
    cases readTable tokens <;> simp [Except.toOption]
  | _ =>
    constructor
    · rintro ⟨_, _, ⟨⟩⟩
    · rintro ⟨⟩

/-- The second of two attributes that each name a table is accepted and says nothing. -/
theorem Declaration.expand_ignores_second_table :
    ∃ declared e, Declaration.read?
        "#[orm(table = \"users\")] #[orm(table = \"people\")] struct User \x7b id: i64 \x7d"
          = some declared
      ∧ declared.form = .struct
      ∧ (ours declared.attributes).map AttributeBody.tableName? = [some "users", some "people"]
      ∧ declared.expand = .ok e ∧ e.tableName = some "users" ∧ ¬ e.Reflects declared := by
  have hfacts : (Declaration.read?
      "#[orm(table = \"users\")] #[orm(table = \"people\")] struct User \x7b id: i64 \x7d").map
        (fun declared => (declared.form, (ours declared.attributes).map AttributeBody.tableName?,
          declared.expand.toOption.map Expansion.tableName))
      = some (.struct, [some "users", some "people"], some (some "users")) := by
    decide +kernel
  obtain ⟨declared, hread, hfacts⟩ := Option.map_eq_some_iff.1 hfacts
  obtain ⟨hform, hnames, hexpand⟩ : declared.form = .struct
      ∧ (ours declared.attributes).map AttributeBody.tableName? = [some "users", some "people"]
      ∧ declared.expand.toOption.map Expansion.tableName = some (some "users") := by
    simpa using hfacts
  cases he : declared.expand with
  | error fault =>
    rw [he] at hexpand
    cases hexpand
  | ok e =>
    rw [he] at hexpand
    have htable : e.tableName = some "users" := Option.some.inj hexpand
    refine ⟨declared, e, hread, hform, hnames, he, htable, ?_⟩
    intro hreflects
    have hsecond : some "people" ∈ (ours declared.attributes).map AttributeBody.tableName? := by
      rw [hnames]
      decide
    obtain ⟨body, hbody, hpeople⟩ := List.mem_map.1 hsecond
    obtain ⟨name, hname, hsame⟩ := hreflects.table body hbody
    rw [AttributeBody.namesTable_iff.1 hname, Option.some.injEq] at hpeople
    rw [htable, hpeople] at hsame
    simp at hsame

end RecordSql.Derive
