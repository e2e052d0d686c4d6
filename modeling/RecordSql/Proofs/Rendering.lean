import RecordSql.Sql.Draft
import Mathlib.Data.List.Forall2

/-!
# Renderings that were not stopped

What a step must have produced when it was not stopped: a step that is put together from others
was not stopped exactly if none of these was, and then its draft is put together from theirs. So are
the names and the arguments that the draft carries, and the text that it amounts to. What stops a
step is what stops the first of its parts that is stopped.
-/

set_option autoImplicit false

namespace RecordSql

/-- Collecting nothing from every item collects nothing. -/
@[simp]
theorem flatMap_empty {α β : Type} (xs : List α) : (xs.flatMap fun _ => ([] : List β)) = [] :=
  List.flatMap_eq_nil_iff.2 fun _ _ => rfl

/-- Drafts with a text between them. -/
def Draft.joined (separator : String) : List Draft → Draft
  | [] => []
  | d :: ds => d ++ ds.flatMap fun d => .sql separator :: d

namespace Rendering

/-- What a step that was not stopped produced. -/
def done (d : Draft) : Rendering := ⟨d, none⟩

/-- A step has a statement if it was not stopped. -/
theorem statement_eq_ok_iff {r : Rendering} {stmt : Statement} :
    r.statement = .ok stmt ↔ ∃ d, r = done d ∧ stmt = d.statement := by
  obtain ⟨draft, fault⟩ := r
  cases fault with
  | none =>
    simp only [statement, done, mk.injEq, and_true, Except.ok.injEq]
    constructor
    · rintro rfl; exact ⟨draft, rfl, rfl⟩
    · rintro ⟨d, rfl, rfl⟩; rfl
  | some fault => simp [statement, done]

/-- Renderings that were not stopped are the same if their drafts are. -/
@[simp]
theorem done_inj {a b : Draft} : done a = done b ↔ a = b := by simp [done]

/-- A rendering that was stopped at once is none that was not. -/
@[simp]
theorem fail_ne_done (fault : Fault) (d : Draft) : fail fault ≠ done d := by simp [fail, done]

/-- A text is never stopped. -/
@[simp]
theorem sql_eq_done (text : String) : sql text = done [.sql text] := rfl

/-- A name is never stopped. -/
@[simp]
theorem name_eq_done (ident : String) : name ident = done [.name ident] := rfl

/-- A value is never stopped. -/
@[simp]
theorem bind_eq_done (value : Value) : bind value = done [.bind value] := rfl

/-- Two steps that were not stopped produce their pieces one behind the other. -/
@[simp]
theorem done_append_done (a b : Draft) : done a ++ done b = done (a ++ b) := rfl

/-- Of two steps neither was stopped. -/
theorem append_eq_done_iff {a b : Rendering} {d : Draft} :
    a ++ b = done d ↔ ∃ da db, a = done da ∧ b = done db ∧ d = da ++ db := by
  obtain ⟨da, fa⟩ := a
  obtain ⟨db, fb⟩ := b
  show append _ _ = _ ↔ _
  cases fa with
  | some fault => simp [append, done]
  | none =>
    simp only [append, done, mk.injEq, and_true]
    constructor
    · rintro ⟨rfl, rfl⟩; exact ⟨da, db, rfl, ⟨rfl, rfl⟩, rfl⟩
    · rintro ⟨_, _, rfl, ⟨rfl, rfl⟩, rfl⟩; exact ⟨rfl, rfl⟩

/-- Of two steps the first of which was not stopped, the second was not stopped either. -/
@[simp]
theorem done_append_eq_done_iff {a d : Draft} {r : Rendering} :
    done a ++ r = done d ↔ ∃ b, r = done b ∧ d = a ++ b := by
  rw [append_eq_done_iff]
  constructor
  · rintro ⟨da, db, ha, hb, rfl⟩
    cases ha
    exact ⟨db, hb, rfl⟩
  · rintro ⟨b, hb, rfl⟩
    exact ⟨a, b, rfl, hb, rfl⟩

/-- Of two steps with a text between them neither was stopped. -/
theorem append_sql_append_eq_done_iff {a b : Rendering} {text : String} {d : Draft} :
    a ++ sql text ++ b = done d
      ↔ ∃ da db, a = done da ∧ b = done db ∧ d = da ++ .sql text :: db := by
  simp only [append_eq_done_iff, sql_eq_done, done_inj]
  constructor
  · rintro ⟨_, db, ⟨da, _, ha, rfl, rfl⟩, hb, rfl⟩
    exact ⟨da, db, ha, hb, by simp⟩
  · rintro ⟨da, db, ha, hb, rfl⟩
    exact ⟨_, db, ⟨da, _, ha, rfl, rfl⟩, hb, by simp⟩

/-- A step in parentheses was not stopped. -/
theorem grouped_eq_done_iff {inGroup : Bool} {r : Rendering} {d : Draft} :
    grouped inGroup r = done d
      ↔ ∃ inner, r = done inner
        ∧ d = if inGroup then .sql "(" :: (inner ++ [.sql ")"]) else inner := by
  cases inGroup with
  | false => simp [grouped]
  | true =>
    simp only [grouped, if_true, sql_eq_done, append_eq_done_iff, done_inj]
    constructor
    · rintro ⟨_, _, ⟨_, inner, rfl, hr, rfl⟩, rfl, rfl⟩
      exact ⟨inner, hr, rfl⟩
    · rintro ⟨inner, hr, rfl⟩
      exact ⟨_, _, ⟨_, inner, rfl, hr, rfl⟩, rfl, rfl⟩

/-- Steps that follow a step, each behind a separator, were not stopped. -/
theorem foldl_separated_eq_done_iff {α : Type} {separator : String} {f : α → Rendering}
    {items : List α} {r : Rendering} {d : Draft} :
    (items.map f).foldl (fun done next => done ++ sql separator ++ next) r = done d
      ↔ ∃ first ds, r = done first ∧ List.Forall₂ (fun x d => f x = done d) items ds
        ∧ d = first ++ ds.flatMap fun d => .sql separator :: d := by
  induction items generalizing r with
  | nil =>
    simp only [List.map_nil, List.foldl_nil, List.forall₂_nil_left_iff]
    constructor
    · rintro rfl; exact ⟨d, [], rfl, rfl, by simp⟩
    · rintro ⟨first, _, rfl, rfl, rfl⟩; simp
  | cons x items ih =>
    rw [List.map_cons, List.foldl_cons, ih]
    simp only [append_eq_done_iff, sql_eq_done, done_inj]
    constructor
    · rintro ⟨_, ds, ⟨_, dx, ⟨first, _, rfl, rfl, rfl⟩, hx, rfl⟩, hds, rfl⟩
      exact ⟨first, dx :: ds, rfl, .cons hx hds, by simp⟩
    · rintro ⟨first, _, rfl, hds, rfl⟩
      cases hds with
      | @cons _ dx _ ds hx hds =>
        exact ⟨_, ds, ⟨_, dx, ⟨first, _, rfl, rfl, rfl⟩, hx, rfl⟩, hds, by simp⟩

/-- Steps with a separator between them were not stopped. -/
theorem separated_eq_done_iff {α : Type} {separator : String} {f : α → Rendering}
    {items : List α} {d : Draft} :
    separated separator (items.map f) = done d
      ↔ ∃ ds, List.Forall₂ (fun x d => f x = done d) items ds
        ∧ d = Draft.joined separator ds := by
  cases items with
  | nil =>
    simp only [List.map_nil, separated, List.forall₂_nil_left_iff, exists_eq_left]
    exact ⟨fun h => (congrArg Rendering.draft h).symm, fun h => by rw [h]; rfl⟩
  | cons x items =>
    simp only [List.map_cons, separated, foldl_separated_eq_done_iff]
    constructor
    · rintro ⟨first, ds, hx, hds, rfl⟩
      exact ⟨first :: ds, .cons hx hds, rfl⟩
    · rintro ⟨_, hds, rfl⟩
      cases hds with
      | @cons _ dx _ ds hx hds => exact ⟨dx, ds, hx, hds, rfl⟩

end Rendering

/-! ## Outcomes -/

namespace Rendering

/-- Three renderings one behind the other. -/
theorem append_assoc (a b c : Rendering) : a ++ b ++ c = a ++ (b ++ c) := by
  obtain ⟨da, fa⟩ := a
  obtain ⟨db, fb⟩ := b
  show append (append _ _) _ = append _ (append _ _)
  cases fa with
  | some fault => rfl
  | none =>
    cases fb with
    | some fault => rfl
    | none => simp [append]

/-- What stops two steps is what stops the first, or else what stops the second. -/
theorem fault_append (a b : Rendering) : (a ++ b).fault = a.fault.or b.fault := by
  obtain ⟨da, fa⟩ := a
  cases fa <;> rfl

/-- Parentheses keep what stopped a rendering. -/
theorem fault_grouped (inGroup : Bool) (r : Rendering) : (grouped inGroup r).fault = r.fault := by
  cases inGroup with
  | false => rfl
  | true =>
    rw [grouped, if_pos rfl, fault_append, fault_append]
    simp [sql, piece]

/-- What stops steps with a text between them is what stops the first of them that is stopped. -/
theorem fault_separated (separator : String) (rs : List Rendering) :
    (separated separator rs).fault = rs.findSome? Rendering.fault := by
  have hfold (rs : List Rendering) (first : Rendering) :
      (rs.foldl (fun done next => done ++ sql separator ++ next) first).fault
        = first.fault.or (rs.findSome? Rendering.fault) := by
    induction rs generalizing first with
    | nil => simp
    | cons r rs ih =>
      rw [List.foldl_cons, ih, fault_append, fault_append, Option.or_assoc, Option.or_assoc,
        List.findSome?_cons]
      cases r.fault <;> rfl
  cases rs with
  | nil => rfl
  | cons r rs =>
    rw [separated, hfold, List.findSome?_cons]
    cases r.fault <;> rfl

/-- A step has a statement if nothing stopped it. -/
theorem exists_statement_iff {r : Rendering} :
    (∃ stmt, r.statement = .ok stmt) ↔ r.fault = none := by
  rw [statement]
  cases r.fault with
  | none => simp
  | some fault => simp

/-- A step has a fault in place of a statement if the fault stopped it. -/
theorem statement_eq_error_iff {r : Rendering} {fault : Fault} :
    r.statement = .error fault ↔ r.fault = some fault := by
  rw [statement]
  cases r.fault with
  | none => simp
  | some found => simp

/-- What a step comes to: its draft, or what stopped it, without the pieces produced before. -/
def outcome (r : Rendering) : Except Fault Draft :=
  match r.fault with
  | some fault => .error fault
  | none => .ok r.draft

/-- The statement is made of the outcome. -/
theorem statement_eq_map_outcome (r : Rendering) :
    r.statement = r.outcome.map Draft.statement := by
  obtain ⟨draft, fault⟩ := r
  cases fault <;> rfl

/-- The outcome of two renderings is that of the first, and if it was not stopped that of the
second. -/
theorem outcome_append (a b : Rendering) :
    (a ++ b).outcome = a.outcome.bind fun da => b.outcome.map fun db => da ++ db := by
  obtain ⟨da, fa⟩ := a
  obtain ⟨db, fb⟩ := b
  cases fa with
  | some fault => rfl
  | none => cases fb <;> rfl

/-- Renderings with the same outcomes have the same outcome one behind the other. -/
theorem outcome_append_congr {a a' b b' : Rendering} (ha : a.outcome = a'.outcome)
    (hb : b.outcome = b'.outcome) : (a ++ b).outcome = (a' ++ b').outcome := by
  rw [outcome_append, outcome_append, ha, hb]

/-- Renderings with the same outcome have the same one between parentheses. -/
theorem outcome_grouped_congr {a b : Rendering} (h : a.outcome = b.outcome) (inGroup : Bool) :
    (grouped inGroup a).outcome = (grouped inGroup b).outcome := by
  cases inGroup with
  | false => exact h
  | true => exact outcome_append_congr (outcome_append_congr rfl h) rfl

/-- A statement depends on what each of its parts comes to. -/
theorem statement_append_congr {r r' : Rendering} (h : r.outcome = r'.outcome) (a b : Rendering) :
    (a ++ r ++ b).statement = (a ++ r' ++ b).statement := by
  rw [statement_eq_map_outcome, statement_eq_map_outcome]
  exact congrArg _ (outcome_append_congr (outcome_append_congr rfl h) rfl)

end Rendering

/-! ## Names and arguments -/

/-- The name that a piece is. -/
def Piece.name? : Piece → Option String
  | .name ident => some ident
  | _ => none

/-- The names in a draft, in order. -/
def Draft.names (d : Draft) : List String := d.filterMap Piece.name?

/-- A draft with some names and some arguments. -/
structure Draft.Carries (d : Draft) (names : List String) (args : List Value) : Prop where
  /-- Its names are these, in order. -/
  names : d.names = names
  /-- Its arguments are these, in order. -/
  args : d.args = args

namespace Draft.Carries

variable {a b d : Draft} {xs ys : List String} {us vs : List Value}

/-- Two drafts carry what they carry one behind the other. -/
theorem append (ha : a.Carries xs us) (hb : b.Carries ys vs) :
    Draft.Carries (a ++ b) (xs ++ ys) (us ++ vs) := by
  constructor
  · rw [← ha.names, ← hb.names]
    exact List.filterMap_append
  · rw [← ha.args, ← hb.args]
    exact List.filterMap_append

/-- Text in front of a draft adds nothing to what it carries. -/
theorem sql_cons (text : String) (h : d.Carries xs us) : Draft.Carries (.sql text :: d) xs us :=
  ⟨h.names, h.args⟩

/-- Text behind a draft adds nothing to what it carries. -/
theorem append_sql (text : String) (h : d.Carries xs us) :
    Draft.Carries (d ++ [.sql text]) xs us := by
  have hnone : Draft.Carries [.sql text] [] [] := ⟨rfl, rfl⟩
  simpa using h.append hnone

/-- A name in front of a draft comes first. -/
theorem name_cons (ident : String) (h : d.Carries xs us) :
    Draft.Carries (.name ident :: d) (ident :: xs) us :=
  ⟨congrArg (ident :: ·) h.names, h.args⟩

/-- A draft carries in parentheses what it carries without them. -/
theorem grouped (inGroup : Bool) (h : d.Carries xs us) :
    Draft.Carries (if inGroup then .sql "(" :: (d ++ [.sql ")"]) else d) xs us := by
  cases inGroup with
  | false => exact h
  | true => exact (h.append_sql ")").sql_cons "("

/-- Drafts with a text between them carry what they carry one behind the other. -/
theorem joined {α : Type} {names : α → List String} {args : α → List Value} {items : List α}
    {ds : List Draft} (separator : String)
    (h : List.Forall₂ (fun x d => Draft.Carries d (names x) (args x)) items ds) :
    Draft.Carries (Draft.joined separator ds) (items.flatMap names) (items.flatMap args) := by
  cases h with
  | nil => exact ⟨rfl, rfl⟩
  | @cons x d items ds hd hds =>
    refine hd.append ?_
    induction hds with
    | nil => exact ⟨rfl, rfl⟩
    | cons hnext _ ih => exact (hnext.sql_cons separator).append ih

end Draft.Carries

namespace Rendering

/-- Steps with a text between them carry what each of them carries. -/
theorem carries_separated {α : Type} {separator : String} {f : α → Rendering}
    {names : α → List String} {args : α → List Value} {items : List α} {d : Draft}
    (hitem : ∀ x dx, f x = done dx → dx.Carries (names x) (args x))
    (h : separated separator (items.map f) = done d) :
    d.Carries (items.flatMap names) (items.flatMap args) := by
  obtain ⟨ds, hds, rfl⟩ := separated_eq_done_iff.1 h
  exact .joined separator (hds.imp hitem)

end Rendering

/-! ## Texts -/

/-- A name as it stands in a statement. -/
def inBackticks (name : String) : String := "\x60" ++ name ++ "\x60"

namespace Rendering

/-- The statement of a text is the text. -/
theorem statement_sql (text : String) : (sql text).statement = .ok ⟨text, []⟩ := by
  have hsql : Draft.sql [.sql text] = text := by simp [Draft.sql, Draft.chars, Piece.chars]
  exact congrArg Except.ok (congrArg (Statement.mk · []) hsql)

/-- The statement of a name is the name between back-ticks. -/
theorem statement_name (ident : String) :
    (name ident).statement = .ok ⟨inBackticks ident, []⟩ := by
  have hsql : Draft.sql [.name ident] = inBackticks ident := by
    rw [← String.toList_inj]
    simp [Draft.sql, Draft.chars, Piece.chars, inBackticks]
  exact congrArg Except.ok (congrArg (Statement.mk · []) hsql)

/-- The statement of a value is a placeholder with the value as its argument. -/
theorem statement_bind (value : Value) : (bind value).statement = .ok ⟨"?", [value]⟩ := by
  have hsql : Draft.sql [.bind value] = "?" := by simp [Draft.sql, Draft.chars, Piece.chars]
  exact congrArg Except.ok (congrArg (Statement.mk · [value]) hsql)

/-- Of two steps that make statements the texts and the arguments come one behind the other. -/
theorem statement_append {a b : Rendering} {x y : String} {xs ys : List Value}
    (ha : a.statement = .ok ⟨x, xs⟩) (hb : b.statement = .ok ⟨y, ys⟩) :
    (a ++ b).statement = .ok ⟨x ++ y, xs ++ ys⟩ := by
  obtain ⟨da, rfl, hda⟩ := statement_eq_ok_iff.1 ha
  obtain ⟨db, rfl, hdb⟩ := statement_eq_ok_iff.1 hb
  obtain ⟨rfl, rfl⟩ := Statement.mk.inj hda
  obtain ⟨rfl, rfl⟩ := Statement.mk.inj hdb
  have hsql : Draft.sql (da ++ db) = da.sql ++ db.sql := by simp [Draft.sql, Draft.chars]
  have hargs : Draft.args (da ++ db) = da.args ++ db.args := List.filterMap_append
  rw [done_append_done, statement_eq_ok_iff]
  exact ⟨da ++ db, rfl, by rw [Draft.statement, hsql, hargs]⟩

/-- Steps with a text between them make a statement if each of them does. -/
theorem statement_separated {α : Type} (separator : String) {f : α → Rendering}
    {text : α → String} {args : α → List Value}
    (h : ∀ x, (f x).statement = .ok ⟨text x, args x⟩) (items : List α) :
    (separated separator (items.map f)).statement
      = .ok ⟨separator.intercalate (items.map text), items.flatMap args⟩ := by
  have hfold (items : List α) (first : Rendering) (x : String) (xs : List Value)
      (hfirst : first.statement = .ok ⟨x, xs⟩) :
      ((items.map f).foldl (fun done next => done ++ sql separator ++ next) first).statement
        = .ok ⟨separator.intercalate (x :: items.map text), xs ++ items.flatMap args⟩ := by
    induction items generalizing first x xs with
    | nil => simpa using hfirst
    | cons y items ih =>
      have hnext := statement_append (statement_append hfirst (statement_sql separator)) (h y)
      rw [List.append_nil] at hnext
      rw [List.map_cons, List.foldl_cons, ih _ _ _ hnext, String.intercalate_cons_append,
        List.map_cons, String.intercalate_cons_cons, List.flatMap_cons, List.append_assoc]
  cases items with
  | nil => rfl
  | cons x items => exact hfold items (f x) (text x) (args x) (h x)

end Rendering

end RecordSql
