import RecordSql.Proofs.Schema.Registration
import RecordSql.Session.Registrar

/-!
# The grammar of tags

A tag is a list of pieces between commas, and it is read if each of them has one equals sign; what
is read is then the one list of settings that is written that way. A tag that is not read is at
fault for its first piece with another number of equals signs, and so is the record with the first
field that has it. Of the values that a key is given the last one counts, also when it is empty.
-/

set_option autoImplicit false

namespace RecordSql

/-! ## Pieces -/

/-- Cutting a text at a character is what the library calls splitting it there. -/
theorem pieces_eq_splitOn (separator : Char) (cs : List Char) :
    pieces separator cs = cs.splitOn separator := by
  induction cs with
  | nil => rw [pieces, List.splitOn_nil]
  | cons c cs ih =>
    rw [pieces, List.splitOn_cons_eq_if_modifyHead, ih]
    simp only [beq_iff_eq]
    split
    · rfl
    · cases hpieces : cs.splitOn separator with
      | nil => exact absurd hpieces (List.splitOn_ne_nil separator cs)
      | cons first others => rfl

/-- No piece has the character at which the text was cut. -/
theorem not_mem_of_mem_pieces {separator : Char} {cs piece : List Char}
    (h : piece ∈ pieces separator cs) : separator ∉ piece := by
  induction cs generalizing piece with
  | nil =>
    rw [List.mem_singleton.1 h]
    exact List.not_mem_nil
  | cons c cs ih =>
    rw [pieces] at h
    by_cases hc : c = separator
    · rw [if_pos hc] at h
      rcases List.mem_cons.1 h with rfl | hrest
      · exact List.not_mem_nil
      · exact ih hrest
    · rw [if_neg hc] at h
      cases hpieces : pieces separator cs with
      | nil =>
        rw [hpieces] at h
        rw [List.mem_singleton.1 h, List.mem_singleton]
        exact Ne.symm hc
      | cons first others =>
        rw [hpieces] at h ih
        rcases List.mem_cons.1 h with rfl | hrest
        · exact List.not_mem_cons_of_ne_of_not_mem (Ne.symm hc) (ih List.mem_cons_self)
        · exact ih (List.mem_cons_of_mem first hrest)

/-- The pieces of a text are the one way to put it together from texts without the separator. -/
theorem pieces_eq_iff {separator : Char} {cs : List Char} {ps : List (List Char)} :
    pieces separator cs = ps
      ↔ ps ≠ [] ∧ (∀ piece ∈ ps, separator ∉ piece) ∧ [separator].intercalate ps = cs := by
  constructor
  · rintro rfl
    refine ⟨?_, fun _ => not_mem_of_mem_pieces, ?_⟩
    · rw [pieces_eq_splitOn]
      exact List.splitOn_ne_nil separator cs
    · rw [pieces_eq_splitOn]
      exact List.intercalate_splitOn separator
  · rintro ⟨hne, hplain, rfl⟩
    rw [pieces_eq_splitOn]
    exact List.splitOn_intercalate separator hplain hne

/-! ## Settings in writing -/

namespace Setting

/-- How a setting is written. -/
def text (s : Setting) : String := s.1 ++ "=" ++ s.2

/-- A setting that can be written: neither the key nor the value has a comma or an equals sign. -/
structure Plain (s : Setting) : Prop where
  /-- What is not in the key. -/
  key : ',' ∉ s.1.toList ∧ '=' ∉ s.1.toList
  /-- What is not in the value. -/
  value : ',' ∉ s.2.toList ∧ '=' ∉ s.2.toList

end Setting

namespace Tag

/-- How settings are written. -/
def ofSettings (settings : List Setting) : String := ",".intercalate (settings.map Setting.text)

/-- A tag that is the list of some pieces. -/
structure Lists (tag : String) (ps : List String) : Prop where
  /-- There is a piece, which may be empty. -/
  nonempty : ps ≠ []
  /-- No piece has a comma. -/
  plain : ∀ piece ∈ ps, ',' ∉ piece.toList
  /-- The pieces with commas between them are the tag. -/
  joined : ",".intercalate ps = tag

/-- Whether a piece has the form of a setting. -/
def OneSign (piece : String) : Prop := piece.toList.count '=' = 1

/-- The first piece of a tag that has not the form of a setting. -/
def FirstMalformed (tag piece : String) : Prop :=
  ∃ before after, Lists tag (before ++ piece :: after) ∧ (∀ other ∈ before, OneSign other)
    ∧ ¬ OneSign piece

/-- The last value that settings give a key. -/
def LastValue (settings : List Setting) (key value : String) : Prop :=
  ∃ before after, settings = before ++ (key, value) :: after ∧ ∀ s ∈ after, s.1 ≠ key

/-- The pieces that a tag lists are those it is cut into. -/
theorem lists_iff {tag : String} {ps : List String} :
    Lists tag ps ↔ pieces ',' tag.toList = ps.map String.toList := by
  rw [pieces_eq_iff]
  constructor
  · rintro ⟨hne, hplain, rfl⟩
    refine ⟨?_, ?_, ?_⟩
    · simpa using hne
    · simpa using hplain
    · rw [String.toList_intercalate]
      rfl
  · rintro ⟨hne, hplain, hjoined⟩
    refine ⟨by simpa using hne, by simpa using hplain, ?_⟩
    rw [← String.toList_inj, String.toList_intercalate]
    exact hjoined

/-- Every tag is the list of some pieces. -/
theorem exists_lists (tag : String) : ∃ ps, Lists tag ps := by
  refine ⟨(pieces ',' tag.toList).map String.ofList, lists_iff.2 ?_⟩
  rw [List.map_map]
  exact (List.map_id'' (fun cs => String.toList_ofList) _).symm

/-- A tag is read piece by piece. -/
theorem Lists.parse {tag : String} {ps : List String} (h : Lists tag ps) :
    parse tag = ps.mapM fun piece => setting piece.toList := by
  rw [Tag.parse, lists_iff.1 h, List.mapM_map]
  rfl

/-- A piece spells a setting exactly if it is written that way, with one equals sign. -/
theorem setting_eq_ok_iff {piece : String} {s : Setting} :
    setting piece.toList = .ok s ↔ '=' ∉ s.1.toList ∧ '=' ∉ s.2.toList ∧ s.text = piece := by
  have hspells : setting piece.toList = .ok s
      ↔ pieces '=' piece.toList = [s.1.toList, s.2.toList] := by
    unfold setting
    split
    · rename_i key value hpieces
      rw [hpieces]
      constructor
      · rintro ⟨⟩
        simp
      · intro h
        obtain ⟨rfl, rfl⟩ : key = s.1.toList ∧ value = s.2.toList := by simpa using h
        simp
    · rename_i hother
      constructor
      · rintro ⟨⟩
      · intro h
        exact absurd h (hother _ _)
  rw [hspells, pieces_eq_iff, ← String.toList_inj]
  simp [Setting.text, and_assoc]

/-! ## Which tags are read -/

/-- A tag is well-formed if all its pieces have one equals sign. -/
theorem Lists.wellFormed_iff_oneSign {tag : String} {ps : List String} (h : Lists tag ps) :
    WellFormed tag ↔ ∀ piece ∈ ps, OneSign piece := by
  simp [WellFormed, OneSign, lists_iff.1 h]

/-- The malformed piece that is found is the first one. -/
theorem malformed?_eq_some_iff {tag piece : String} :
    malformed? tag = some piece.toList ↔ FirstMalformed tag piece := by
  obtain ⟨ps, hps⟩ := exists_lists tag
  have honly {others : List String} (h : Lists tag others) : others = ps := by
    have hpieces := (lists_iff.1 h).symm.trans (lists_iff.1 hps)
    exact List.map_injective_iff.2 (fun _ _ => String.toList_inj.1) hpieces
  have hfound : malformed? tag
      = (ps.find? fun other => other.toList.count '=' != 1).map String.toList := by
    rw [malformed?, lists_iff.1 hps, List.find?_map]
    rfl
  rw [hfound, Option.map_eq_some_iff]
  constructor
  · rintro ⟨first, hfirst, htext⟩
    obtain rfl := String.toList_inj.1 htext
    obtain ⟨hbad, before, after, rfl, hbefore⟩ := List.find?_eq_some_iff_append.1 hfirst
    exact ⟨before, after, hps, by simpa [OneSign] using hbefore, by simpa [OneSign] using hbad⟩
  · rintro ⟨before, after, hlists, hbefore, hbad⟩
    obtain rfl := honly hlists
    refine ⟨piece, List.find?_eq_some_iff_append.2 ⟨?_, before, after, rfl, ?_⟩, rfl⟩
    · simpa [OneSign] using hbad
    · simpa [OneSign] using hbefore

/-- A tag is read exactly if it is a list of pieces with one equals sign each. -/
theorem exists_parse_iff {tag : String} :
    (∃ settings, parse tag = .ok settings)
      ↔ ∃ ps, Lists tag ps ∧ ∀ piece ∈ ps, OneSign piece := by
  obtain ⟨piece, hpiece, herror⟩ | ⟨hnone, hok⟩ := parse_cases tag
  · constructor
    · rintro ⟨settings, hsettings⟩
      rw [herror] at hsettings
      cases hsettings
    · rintro ⟨ps, hps, hsigns⟩
      rw [malformed?_eq_none_iff.2 (hps.wellFormed_iff_oneSign.2 hsigns)] at hpiece
      cases hpiece
  · obtain ⟨ps, hps⟩ := exists_lists tag
    exact iff_of_true hok ⟨ps, hps, hps.wellFormed_iff_oneSign.1 (malformed?_eq_none_iff.1 hnone)⟩

/-- Reading a tag fails exactly with its first piece that has not the form of a setting. -/
theorem parse_eq_error_iff {tag : String} {fault : Fault} :
    parse tag = .error fault ↔ ∃ piece, FirstMalformed tag piece ∧ fault = .invalidTag piece := by
  obtain ⟨cs, hfirst, herror⟩ | ⟨hnone, settings, hok⟩ := parse_cases tag
  · rw [herror]
    constructor
    · rintro ⟨⟩
      refine ⟨String.ofList cs, malformed?_eq_some_iff.1 ?_, rfl⟩
      rw [String.toList_ofList]
      exact hfirst
    · rintro ⟨piece, hpiece, rfl⟩
      rw [malformed?_eq_some_iff.2 hpiece, Option.some.injEq] at hfirst
      rw [← hfirst, String.ofList_toList]
  · rw [hok]
    constructor
    · rintro ⟨⟩
    · rintro ⟨piece, hpiece, -⟩
      rw [malformed?_eq_some_iff.2 hpiece] at hnone
      cases hnone

/-- What is read of a tag are the plain settings that it is the writing of. -/
theorem parse_eq_ok_iff {tag : String} {settings : List Setting} :
    parse tag = .ok settings
      ↔ settings ≠ [] ∧ (∀ s ∈ settings, s.Plain) ∧ ofSettings settings = tag := by
  constructor
  · intro h
    obtain ⟨ps, hps⟩ := exists_lists tag
    rw [hps.parse, mapM_eq_ok_iff] at h
    obtain rfl : ps = settings.map Setting.text :=
      eq_map_of_forall₂ (h.flip.imp fun s piece hs => (setting_eq_ok_iff.1 hs).2.2.symm)
    obtain ⟨hne, hcommas, hjoined⟩ := hps
    refine ⟨by simpa using hne, ?_, hjoined⟩
    intro s hs
    have hread : setting s.text.toList = .ok s := by
      rw [List.forall₂_map_left_iff, List.forall₂_same] at h
      exact h s hs
    obtain ⟨hkey, hvalue, -⟩ := setting_eq_ok_iff.1 hread
    have hcomma := hcommas s.text (List.mem_map_of_mem hs)
    simp only [Setting.text, String.toList_append, List.mem_append, not_or] at hcomma
    exact ⟨⟨hcomma.1.1, hkey⟩, hcomma.2, hvalue⟩
  · rintro ⟨hne, hplain, rfl⟩
    have hlists : Lists (ofSettings settings) (settings.map Setting.text) := by
      refine ⟨by simpa using hne, ?_, rfl⟩
      rw [List.forall_mem_map]
      intro s hs
      simp [Setting.text, (hplain s hs).key.1, (hplain s hs).value.1]
    rw [hlists.parse, mapM_eq_ok_iff, List.forall₂_map_left_iff, List.forall₂_same]
    intro s hs
    exact setting_eq_ok_iff.2 ⟨(hplain s hs).key.2, (hplain s hs).value.2, rfl⟩

/-! ## The value that counts -/

/-- The value that is found for a key is the last one it was given. -/
theorem last?_eq_some_iff {settings : List Setting} {key value : String} :
    last? key settings = some value ↔ LastValue settings key value := by
  rw [last?, List.getLast?_filter, Option.map_eq_some_iff]
  constructor
  · rintro ⟨⟨found, _⟩, hfound, rfl⟩
    obtain ⟨hkey, after, before, hreverse, hafter⟩ := List.find?_eq_some_iff_append.1 hfound
    obtain rfl : found = key := by simpa using hkey
    refine ⟨before.reverse, after.reverse, ?_, by simpa using hafter⟩
    rw [List.reverse_eq_iff] at hreverse
    simpa using hreverse
  · rintro ⟨before, after, rfl, hafter⟩
    refine ⟨(key, value), List.find?_eq_some_iff_append.2 ⟨by simp, ?_⟩, rfl⟩
    exact ⟨after.reverse, before.reverse, by simp, by simpa using hafter⟩

/-- The column that settings give to a field with a name: the last one that they name, unless that
is empty, and else the name of the field in snake case. -/
structure NamesColumn (settings : List Setting) (ident column : String) : Prop where
  /-- The last column that is named is not empty. -/
  named : ∀ name, LastValue settings "column" name → name ≠ "" → column = name
  /-- None is named, or the last one is empty. -/
  derived : (∀ name, LastValue settings "column" name → name = "") → column = snakeCase ident

end Tag

/-- A field has the column that the settings of its tag give it. -/
theorem FieldDecl.exists_column_of_parse {decl : FieldDecl} {tag : String}
    {settings : List Setting} (htag : decl.tag = some tag)
    (hparse : Tag.parse tag = .ok settings) :
    ∃ column, decl.column = .ok column ∧ Tag.NamesColumn settings decl.ident column := by
  cases hlast : Tag.last? Tag.columnKey settings with
  | none =>
    have hcolumn : decl.column = .ok (snakeCase decl.ident) := by
      rw [column, htag]
      simp only [hparse, bind, Except.bind, hlast]
      rfl
    refine ⟨_, hcolumn, ?named, fun _ => rfl⟩
    case named =>
      intro name hname
      rw [Tag.columnKey, Tag.last?_eq_some_iff.2 hname] at hlast
      cases hlast
  | some last =>
    have hcolumn : decl.column = .ok (if last.isEmpty then snakeCase decl.ident else last) := by
      rw [column, htag]
      simp only [hparse, bind, Except.bind, hlast]
      rfl
    refine ⟨_, hcolumn, ?named, ?derived⟩
    case named =>
      intro name hname hne
      rw [Tag.columnKey, Tag.last?_eq_some_iff.2 hname] at hlast
      obtain rfl := Option.some.inj hlast
      simp [hne]
    case derived =>
      intro hempty
      simp [hempty last (Tag.last?_eq_some_iff.1 hlast)]

/-- What a registrar says of a type that it does not hold and that has no table: what is wrong with
the type. -/
theorem Registrar.result_get_of_refused {κ : Type} [DecidableEq κ] {r : Registrar κ} {key : κ}
    {fault : Fault} (hnew : r.catalog.lookup key = none)
    (htype : Table.ofType (r.types key) = .error fault) :
    (r.get key).result = .error fault := by
  simp [get, Catalog.get, Catalog.register, typedTable, hnew, htype, Except.map, Access.result]

namespace Tag

/-- A type with a malformed tag has no table if the fields before it are in order. -/
theorem FirstMalformed.ofType {tag piece : String} (h : FirstMalformed tag piece)
    {type : RecordType} {before after : List FieldDecl} {decl : FieldDecl}
    (hshape : type.shape = .record) (hfields : type.fields = before ++ decl :: after)
    (horder : FieldDecl.InOrder before) (htag : decl.tag = some tag) :
    Table.ofType type = .error (.invalidTag piece) := by
  have hfault : decl.AtFault type.name before (.invalidTag (String.ofList piece.toList)) :=
    .tag htag (malformed?_eq_some_iff.2 h)
  rw [String.ofList_toList] at hfault
  exact Table.ofType_eq_error hshape hfields horder hfault

/-- A tag is read exactly if it is a list of pieces with one equals sign each. Any other is at fault
for its first piece that is not of this form, and so is every record with fields in order up to one
with that tag, which is then not registered. Settings that can be written are read as they are
written; a key has the last of its values, and the field the column that the settings name. -/
theorem parse_exact_grammar :
    (∀ tag, (∃ settings, parse tag = .ok settings)
        ↔ ∃ ps, Lists tag ps ∧ ∀ piece ∈ ps, OneSign piece)
      ∧ (∀ tag fault, parse tag = .error fault
        ↔ ∃ piece, FirstMalformed tag piece ∧ fault = .invalidTag piece)
      ∧ (∀ tag piece, FirstMalformed tag piece →
        ∀ (type : RecordType) (before : List FieldDecl) (decl : FieldDecl) (after : List FieldDecl),
          type.shape = .record → type.fields = before ++ decl :: after →
          FieldDecl.InOrder before → decl.tag = some tag →
          Table.ofType type = .error (.invalidTag piece)
            ∧ ∀ {κ : Type} [DecidableEq κ] (r : Registrar κ) (key : κ), r.types key = type →
              r.catalog.lookup key = none → (r.get key).result = .error (.invalidTag piece))
      ∧ ∀ settings, settings ≠ [] → (∀ s ∈ settings, s.Plain) →
        parse (ofSettings settings) = .ok settings
          ∧ (∀ key value, last? key settings = some value ↔ LastValue settings key value)
          ∧ (∀ decl : FieldDecl, decl.tag = some (ofSettings settings) →
            ∃ column, decl.column = .ok column ∧ NamesColumn settings decl.ident column)
          ∧ ∀ (type : RecordType) (t : Table type) (i : type.Index), Table.ofType type = .ok t →
            (type.field i).tag = some (ofSettings settings) →
            NamesColumn settings (type.field i).ident (t.column i) := by
  refine ⟨fun _ => exists_parse_iff, fun _ _ => parse_eq_error_iff, ?refused, ?written⟩
  case refused =>
    intro tag piece hpiece type before decl after hshape hfields horder htag
    have htype := hpiece.ofType hshape hfields horder htag
    refine ⟨htype, ?_⟩
    rintro κ _ r key rfl hnew
    exact Registrar.result_get_of_refused hnew htype
  case written =>
    intro settings hne hplain
    have hparse : parse (ofSettings settings) = .ok settings :=
      parse_eq_ok_iff.2 ⟨hne, hplain, rfl⟩
    refine ⟨hparse, fun _ _ => last?_eq_some_iff, ?field, ?table⟩
    case field =>
      intro decl htag
      exact decl.exists_column_of_parse htag hparse
    case table =>
      intro type t i htable htag
      obtain ⟨column, hcolumn, hnames⟩ := (type.field i).exists_column_of_parse htag hparse
      rw [(Table.mirrors_of_ofType htable).columns i, Except.ok.injEq] at hcolumn
      rw [hcolumn]
      exact hnames

/-- A tag with a malformed piece, one that names two columns, and one that names none. -/
theorem parse_exact_grammar_note :
    FirstMalformed "column=x,abc" "abc"
      ∧ FieldDecl.InOrder [⟨"title", .required .text, none, true⟩]
      ∧ Table.ofType
          { name := "Note"
            shape := .record
            tableHook := none
            fields :=
              [⟨"title", .required .text, none, true⟩,
                ⟨"body", .required .text, some "column=x,abc", true⟩] }
        = .error (.invalidTag "abc")
      ∧ (∀ s ∈ [("column", "x"), ("column", "")], Setting.Plain s)
      ∧ parse "column=x,column=" = .ok [("column", "x"), ("column", "")]
      ∧ FieldDecl.column ⟨"firstName", .required .text, some "column=x,column=", true⟩
        = .ok "first_name" := by
  obtain ⟨-, -, hrefused, hwritten⟩ := parse_exact_grammar
  have hfirst : FirstMalformed "column=x,abc" "abc" := by
    refine ⟨["column=x"], [], ⟨by decide, by decide, by decide⟩, ?_, ?_⟩
    · unfold OneSign
      decide
    · unfold OneSign
      decide
  have htitle : FieldDecl.InOrder [⟨"title", .required .text, none, true⟩] := by
    refine ⟨?_, List.nodup_singleton _, List.nodup_singleton _⟩
    rw [List.forall_mem_singleton]
    rintro _ ⟨⟩
  have hplain : ∀ s ∈ [("column", "x"), ("column", "")], Setting.Plain s := by
    intro s hs
    rcases List.mem_pair.1 hs with rfl | rfl
    · exact ⟨by decide, by decide⟩
    · exact ⟨by decide, by decide⟩
  obtain ⟨hparse, -, hcolumn, -⟩ := hwritten [("column", "x"), ("column", "")] (by decide) hplain
  obtain ⟨column, hfound, hnames⟩ :=
    hcolumn ⟨"firstName", .required .text, some "column=x,column=", true⟩ rfl
  refine ⟨hfirst, htitle, (hrefused _ _ hfirst _ _ _ [] rfl rfl htitle rfl).1, hplain, hparse, ?_⟩
  rw [hfound, hnames.derived]
  · rfl
  · intro name hname
    have hlast : last? "column" [("column", "x"), ("column", "")] = some name :=
      last?_eq_some_iff.2 hname
    exact (Option.some.inj hlast).symm

end Tag

end RecordSql
