import RecordSql.Proofs.Schema.Catalog
import RecordSql.Proofs.Schema.Table
import RecordSql.Session.Registrar

/-!
# Asking a registrar at the same time

Callers ask one registrar for tables, each for that of one type. A question takes two steps, the
look-up and, if that finds nothing, the registration, and between the steps of one caller any steps
of others may come. Whatever the order is, a type is held at most once, and with the table that its
declaration gives; its fields are read at most once with success; all who are told of it are told of
the same entry; and what a caller is told does not depend on the others.

Several callers may look up in vain before any of them registers. The registration looks again, and
that is where the invariant `Sound` is kept: an entry is only added for a type that has none.
-/

set_option autoImplicit false

namespace RecordSql

namespace Registrar

variable {κ ι : Type} [DecidableEq κ] [DecidableEq ι]

/-- The second step of a question: the registration, which looks up again. -/
def register (r : Registrar κ) (key : κ) : Turn κ (Held TypedTable) :=
  let (access, catalog) := r.catalog.register key (typedTable (r.types key))
  ⟨access.result, { r.count key access with catalog := catalog }, eventsOf access⟩

/-- How far a caller has come with its question. -/
inductive Progress where
  /-- It has not looked up yet. -/
  | waiting
  /-- Its look-up found nothing. -/
  | missed
  /-- It was answered. -/
  | answered (result : Except Fault (Held TypedTable))

/-- A registrar with its callers. -/
structure Scene (κ ι : Type) where
  /-- The registrar. -/
  registrar : Registrar κ
  /-- How far each caller has come. -/
  progress : ι → Progress

namespace Scene

/-- The next step of a caller, when `asks` says what type each asks for. -/
def step (asks : ι → κ) (s : Scene κ ι) (i : ι) : Scene κ ι :=
  match s.progress i with
  | .waiting =>
    match s.registrar.catalog.lookup (asks i) with
    | some held => { s with progress := Function.update s.progress i (.answered (.ok held)) }
    | none => { s with progress := Function.update s.progress i .missed }
  | .missed =>
    ⟨(s.registrar.register (asks i)).registrar,
      Function.update s.progress i (.answered (s.registrar.register (asks i)).result)⟩
  | .answered _ => s

/-- The steps of callers in the order of a schedule, with a registrar that was asked nothing yet. -/
def run (types : κ → RecordType) (asks : ι → κ) (schedule : List ι) : Scene κ ι :=
  schedule.foldl (step asks) ⟨.start types, fun _ => .waiting⟩

end Scene

/-! ## One question -/

/-- A type that is held is answered from the catalog. -/
theorem get_of_lookup_eq_some {r : Registrar κ} {key : κ} {held : Held TypedTable}
    (h : r.catalog.lookup key = some held) : r.get key = ⟨.ok held, r, []⟩ := by
  simp only [get, Catalog.get, h]
  rfl

/-- A type that is not held is registered. -/
theorem get_of_lookup_eq_none {r : Registrar κ} {key : κ} (h : r.catalog.lookup key = none) :
    r.get key = r.register key := by
  simp only [get, Catalog.get, h]
  rfl

/-- Counting an access changes no declaration. -/
theorem types_count {α : Type} (r : Registrar κ) (key : κ) (access : Access α) :
    (r.count key access).types = r.types := by
  cases access with
  | found held => rfl
  | _ =>
    simp only [count]
    split <;> rfl

/-- Only the reads of the type that was asked for are counted. -/
theorem reads_count_of_ne {α : Type} (r : Registrar κ) {asked key : κ} (access : Access α)
    (h : asked ≠ key) : (r.count asked access).reads key = r.reads key := by
  cases access with
  | found held => rfl
  | _ =>
    simp only [count]
    split
    · exact if_neg (Ne.symm h)
    · rfl

/-- The fields of a type that has a table are read when it is added. -/
theorem reads_count_added {α : Type} {r : Registrar κ} {key : κ} {item : TypedTable}
    (h : typedTable (r.types key) = .ok item) (held : Held α) :
    (r.count key (.added held)).reads key = r.reads key + 1 := by
  have hreads : (r.types key).readsFields = true := by
    unfold typedTable at h
    cases htable : Table.ofType (r.types key) with
    | error fault =>
      rw [htable] at h
      cases h
    | ok t =>
      unfold Table.ofType at htable
      split at htable
      · cases htable
      · rename_i hshape
        exact decide_eq_true (not_not.1 hshape)
  simp only [count, hreads, if_true]

/-! ## Registrars in order -/

/-- A registrar that holds no type twice, and only types with the tables that their declarations
give; the fields of a type that has a table were read once if the type is held, and not before. -/
structure Sound (types : κ → RecordType) (r : Registrar κ) : Prop where
  /-- The declarations. -/
  declared : r.types = types
  /-- What is held of a type is what its declaration gives. -/
  entries : ∀ entry ∈ r.catalog.entries, typedTable (types entry.key) = .ok entry.item
  /-- No type is held twice. -/
  distinct : (r.catalog.entries.map CatalogEntry.key).Nodup
  /-- How often fields were read. -/
  reads : ∀ key item, typedTable (types key) = .ok item →
    r.reads key = if (r.catalog.lookup key).isSome then 1 else 0

/-- A registrar that was asked nothing is in order. -/
theorem sound_start (types : κ → RecordType) : (start types).Sound types where
  declared := rfl
  entries := fun _ h => nomatch h
  distinct := List.nodup_nil
  reads := fun _ _ _ => rfl

/-- What a registrar in order holds of a type is what its declaration gives. -/
theorem Sound.item_of_lookup {types : κ → RecordType} {r : Registrar κ} (h : r.Sound types)
    {key : κ} {held : Held TypedTable} (hlookup : r.catalog.lookup key = some held) :
    typedTable (types key) = .ok held.item :=
  h.entries _ (List.mem_of_getElem? (Catalog.getElem?_of_lookup hlookup).2)

/-- Whoever asks a registrar in order is told what the declaration gives. -/
theorem Sound.result_get {types : κ → RecordType} {r : Registrar κ} (h : r.Sound types) (key : κ) :
    (r.get key).result.map Held.item = typedTable (types key) := by
  have hanswer : (r.get key).result.map Held.item
      = r.catalog.answer (fun key => typedTable (r.types key)) key :=
    r.catalog.result_get (fun key => typedTable (r.types key)) key
  rw [hanswer, Catalog.answer, h.declared]
  cases hlookup : r.catalog.lookup key with
  | some held => exact (h.item_of_lookup hlookup).symm
  | none => rfl

/-- What a registration answers: the entry that the registrar holds then, or why there is none. -/
theorem result_register (r : Registrar κ) (key : κ) :
    (∃ held, (r.register key).result = .ok held
        ∧ (r.register key).registrar.catalog.lookup key = some held)
      ∨ ∃ fault, (r.register key).result = .error fault
        ∧ typedTable (r.types key) = .error fault
        ∧ (r.register key).registrar.catalog = r.catalog := by
  unfold register
  obtain ⟨held, hlookup, heq⟩ | ⟨fault, -, hask, heq⟩ | ⟨item, -, -, heq, hlookup⟩ :=
    r.catalog.register_cases key (typedTable (r.types key))
  · rw [heq]
    exact .inl ⟨held, rfl, hlookup⟩
  · rw [heq]
    exact .inr ⟨fault, rfl, hask, rfl⟩
  · rw [heq] at hlookup ⊢
    exact .inl ⟨_, rfl, hlookup⟩

/-- A registration that fails leaves the catalog as it was. -/
theorem catalog_register_of_error {r : Registrar κ} {key : κ} {fault : Fault}
    (h : (r.register key).result = .error fault) :
    (r.register key).registrar.catalog = r.catalog := by
  obtain ⟨held, hresult, -⟩ | ⟨-, -, -, hsame⟩ := r.result_register key
  · rw [hresult] at h
    cases h
  · exact hsame

/-- A question that fails leaves the catalog as it was. -/
theorem catalog_get_of_error {r : Registrar κ} {key : κ} {fault : Fault}
    (h : (r.get key).result = .error fault) : (r.get key).registrar.catalog = r.catalog := by
  cases hlookup : r.catalog.lookup key with
  | some held =>
    rw [get_of_lookup_eq_some hlookup] at h
    cases h
  | none =>
    rw [get_of_lookup_eq_none hlookup] at h ⊢
    exact catalog_register_of_error h

/-- A registration leaves a registrar in order. -/
theorem Sound.register {types : κ → RecordType} {r : Registrar κ} (h : r.Sound types) (asked : κ) :
    (r.register asked).registrar.Sound types := by
  obtain ⟨hdeclared, hentries, hdistinct, hreads⟩ := h
  subst hdeclared
  -- The reads of other types are not touched, nor is it changed whether they are held.
  have hothers (key : κ) (item : TypedTable) (hne : asked ≠ key)
      (hitem : typedTable (r.types key) = .ok item) : (r.register asked).registrar.reads key
        = if ((r.register asked).registrar.catalog.lookup key).isSome then 1 else 0 := by
    have hlookup : (r.register asked).registrar.catalog.lookup key = r.catalog.lookup key :=
      Catalog.lookup_register_of_ne hne
    rw [hlookup, ← hreads key item hitem]
    exact r.reads_count_of_ne _ hne
  unfold Registrar.register at hothers ⊢
  obtain ⟨held, hlookup, heq⟩ | ⟨fault, hnone, hask, heq⟩ | ⟨item, hnone, hask, heq, hlookup⟩ :=
    r.catalog.register_cases asked (typedTable (r.types asked))
  · rw [heq]
    exact ⟨rfl, hentries, hdistinct, hreads⟩
  · rw [heq] at hothers ⊢
    refine ⟨types_count r asked _, hentries, hdistinct, ?_⟩
    intro key item hitem
    apply hothers key item _ hitem
    rintro rfl
    rw [hask] at hitem
    cases hitem
  · rw [heq] at hothers hlookup ⊢
    refine ⟨types_count r asked _, ?_, ?_, ?_⟩
    · intro entry hentry
      rcases List.mem_append.1 hentry with hold | hnew
      · exact hentries entry hold
      · rw [List.mem_singleton.1 hnew]
        exact hask
    · simp only [List.map_append, List.map_cons, List.map_nil]
      apply List.Nodup.append hdistinct (List.nodup_singleton asked)
      rw [List.disjoint_singleton]
      exact Catalog.lookup_eq_none_iff.1 hnone
    · intro key found hfound
      by_cases hne : asked = key
      · subst hne
        have hbefore := hreads asked found hfound
        rw [hnone] at hbefore
        simp only at hlookup ⊢
        rw [reads_count_added hfound, hbefore, hlookup]
        rfl
      · exact hothers key found hne hfound

namespace Scene

/-- What a caller was told of a type: the entry that the registrar holds, or what is wrong with the
declaration. -/
def Told (types : κ → RecordType) (r : Registrar κ) (key : κ) : Progress → Prop
  | .answered (.ok held) => r.catalog.lookup key = some held
  | .answered (.error fault) => typedTable (types key) = .error fault
  | .waiting | .missed => True

/-- A registrar in order, with callers that were told the truth. -/
structure Sound (types : κ → RecordType) (asks : ι → κ) (s : Scene κ ι) : Prop where
  /-- The registrar is in order. -/
  registrar : s.registrar.Sound types
  /-- The callers were told the truth. -/
  told : ∀ i, Told types s.registrar (asks i) (s.progress i)

/-- What was told of an entry stays true as long as the entry is held. -/
theorem Told.mono {types : κ → RecordType} {r r' : Registrar κ} {key : κ} {p : Progress}
    (h : Told types r key p)
    (hkept : ∀ held, r.catalog.lookup key = some held → r'.catalog.lookup key = some held) :
    Told types r' key p := by
  cases p with
  | answered result =>
    cases result with
    | ok held => exact hkept held h
    | error fault => exact h
  | _ => trivial

/-- One caller goes on and is told the truth, and what the registrar held is still held. -/
theorem Sound.update {types : κ → RecordType} {asks : ι → κ} {s : Scene κ ι}
    (h : s.Sound types asks) {r : Registrar κ} {i : ι} {p : Progress} (hr : r.Sound types)
    (hkept : ∀ key held, s.registrar.catalog.lookup key = some held →
      r.catalog.lookup key = some held)
    (hp : Told types r (asks i) p) :
    (⟨r, Function.update s.progress i p⟩ : Scene κ ι).Sound types asks := by
  refine ⟨hr, ?_⟩
  intro j
  by_cases hij : j = i
  · subst hij
    simp only [Function.update_self]
    exact hp
  · simp only [Function.update_of_ne hij]
    exact (h.told j).mono (hkept (asks j))

/-- A step of a caller leaves the scene in order. -/
theorem Sound.step {types : κ → RecordType} {asks : ι → κ} {s : Scene κ ι} (h : s.Sound types asks)
    (i : ι) : (s.step asks i).Sound types asks := by
  have hsame (key : κ) (held : Held TypedTable)
      (hheld : s.registrar.catalog.lookup key = some held) :
      s.registrar.catalog.lookup key = some held := hheld
  unfold Scene.step
  cases s.progress i with
  | answered result => exact h
  | waiting =>
    cases hlookup : s.registrar.catalog.lookup (asks i) with
    | some held => exact h.update h.registrar hsame hlookup
    | none => exact h.update h.registrar hsame trivial
  | missed =>
    have hkept (key : κ) (held : Held TypedTable)
        (hheld : s.registrar.catalog.lookup key = some held) :
        (s.registrar.register (asks i)).registrar.catalog.lookup key = some held :=
      Catalog.lookup_register_of_eq_some hheld
    apply h.update (h.registrar.register (asks i)) hkept
    obtain ⟨held, hresult, hlookup⟩ | ⟨fault, hresult, hask, -⟩ :=
      s.registrar.result_register (asks i)
    · rw [hresult]
      exact hlookup
    · rw [hresult]
      rw [h.registrar.declared] at hask
      exact hask

/-- Any schedule leaves the scene in order. -/
theorem sound_run (types : κ → RecordType) (asks : ι → κ) (schedule : List ι) :
    (run types asks schedule).Sound types asks := by
  have hsteps (s : Scene κ ι) (h : s.Sound types asks) :
      (schedule.foldl (step asks) s).Sound types asks := by
    induction schedule generalizing s with
    | nil => exact h
    | cons i schedule ih => exact ih (s.step asks i) (h.step i)
  exact hsteps _ ⟨sound_start types, fun _ => trivial⟩

/-- A caller whose steps no other comes between is answered as one that asks alone. -/
theorem step_step_of_waiting {asks : ι → κ} {s : Scene κ ι} {i : ι} (h : s.progress i = .waiting) :
    (s.step asks i).step asks i = ⟨(s.registrar.get (asks i)).registrar,
      Function.update s.progress i (.answered (s.registrar.get (asks i)).result)⟩ := by
  cases hlookup : s.registrar.catalog.lookup (asks i) with
  | some held =>
    rw [get_of_lookup_eq_some hlookup]
    simp [step, h, hlookup]
  | none =>
    rw [get_of_lookup_eq_none hlookup]
    simp [step, h, hlookup]

/-- A step that ends with a fault adds nothing. -/
theorem catalog_step_of_error {asks : ι → κ} {s : Scene κ ι} {i : ι} {fault : Fault}
    (h : (s.step asks i).progress i = .answered (.error fault)) :
    (s.step asks i).registrar.catalog = s.registrar.catalog := by
  unfold step at h ⊢
  cases hprogress : s.progress i with
  | answered result => rfl
  | waiting => cases s.registrar.catalog.lookup (asks i) <;> rfl
  | missed =>
    simp only [hprogress, Function.update_self, Progress.answered.injEq] at h ⊢
    exact catalog_register_of_error h

/-- Every type has one table, whoever asks for it and when. -/
structure OneTableEach (types : κ → RecordType) (asks : ι → κ) (s : Scene κ ι) : Prop where
  /-- What is held of a type is the table that its declaration gives. -/
  entries : ∀ entry ∈ s.registrar.catalog.entries, typedTable (types entry.key) = .ok entry.item
  /-- No type is held twice. -/
  distinct : (s.registrar.catalog.entries.map CatalogEntry.key).Nodup
  /-- A type without a table is not held. -/
  withoutTable : ∀ key fault, typedTable (types key) = .error fault →
    key ∉ s.registrar.catalog.entries.map CatalogEntry.key
  /-- A caller that was told of a table was told of an entry of the type it asked for. -/
  stored : ∀ i held, s.progress i = .answered (.ok held) → held.stamp = s.registrar.catalog.stamp
    ∧ s.registrar.catalog.entries[held.place]? = some ⟨asks i, held.item⟩
  /-- Callers that were told of a table of one type were told of one entry. -/
  same : ∀ i j held other, asks i = asks j → s.progress i = .answered (.ok held) →
    s.progress j = .answered (.ok other) → held = other
  /-- The fields of a type that has a table are read at most once. -/
  reads : ∀ key item, typedTable (types key) = .ok item → s.registrar.reads key ≤ 1
  /-- A look-up changes nothing. -/
  lookUp : ∀ i, s.progress i = .waiting → (s.step asks i).registrar = s.registrar
  /-- A step that fails adds nothing. -/
  fails : ∀ i fault, (s.step asks i).progress i = .answered (.error fault) →
    (s.step asks i).registrar.catalog = s.registrar.catalog
  /-- What a caller was told is what the declaration gives, a table or a fault. -/
  outcome : ∀ i result, s.progress i = .answered result →
    result.map Held.item = typedTable (types (asks i))
  /-- Whoever asks next, with a record at hand or without one, is told the same. -/
  next : ∀ key, (s.registrar.get key).result.map Held.item = typedTable (types key)
    ∧ s.registrar.describe key true = s.registrar.get key
  /-- If that is a fault, the registrar holds what it held. -/
  refused : ∀ key fault, (s.registrar.get key).result = .error fault →
    (s.registrar.get key).registrar.catalog = s.registrar.catalog
  /-- Asking is the two steps with nothing between them. -/
  alone : ∀ i, s.progress i = .waiting →
    (s.step asks i).step asks i = ⟨(s.registrar.get (asks i)).registrar,
      Function.update s.progress i (.answered (s.registrar.get (asks i)).result)⟩

/-- However the steps of callers mix, every type has one table. -/
theorem oneTableEach_run (types : κ → RecordType) (asks : ι → κ) (schedule : List ι) :
    (run types asks schedule).OneTableEach types asks := by
  obtain ⟨hregistrar, htold⟩ := sound_run types asks schedule
  have hanswered (i : ι) (result : Except Fault (Held TypedTable))
      (hresult : (run types asks schedule).progress i = .answered result) :
      Told types (run types asks schedule).registrar (asks i) (.answered result) := by
    rw [← hresult]
    exact htold i
  refine ⟨hregistrar.entries, hregistrar.distinct, ?withoutTable, ?stored, ?same, ?reads, ?lookUp,
    fun i fault h => catalog_step_of_error h, ?outcome, ?next,
    fun key fault h => catalog_get_of_error h, fun i h => step_step_of_waiting h⟩
  case withoutTable =>
    intro key fault hfault hmem
    obtain ⟨entry, hentry, rfl⟩ := List.mem_map.1 hmem
    rw [hregistrar.entries entry hentry] at hfault
    cases hfault
  case stored =>
    intro i held hheld
    exact Catalog.getElem?_of_lookup (hanswered i _ hheld)
  case same =>
    intro i j held other hasks hheld hother
    have hi : (run types asks schedule).registrar.catalog.lookup (asks i) = some held :=
      hanswered i _ hheld
    have hj : (run types asks schedule).registrar.catalog.lookup (asks j) = some other :=
      hanswered j _ hother
    rw [hasks, hj] at hi
    cases hi
    rfl
  case reads =>
    intro key item hitem
    rw [hregistrar.reads key item hitem]
    split <;> decide
  case lookUp =>
    intro i hwaiting
    unfold step
    rw [hwaiting]
    cases (run types asks schedule).registrar.catalog.lookup (asks i) <;> rfl
  case outcome =>
    intro i result hresult
    have htruth := hanswered i _ hresult
    cases result with
    | ok held => exact (hregistrar.item_of_lookup htruth).symm
    | error fault => exact htruth.symm
  case next =>
    intro key
    refine ⟨?_, rfl⟩
    exact hregistrar.result_get key

-- Two callers look up in vain before either registers: the one that comes second is told of the
-- entry of the first, and the fields were read once.
example :
    let scene := run (fun _ : Unit => .note) (fun _ : Bool => ()) [true, false, false, true]
    scene.progress = (fun _ => .answered (.ok ⟨0, 0, ⟨.note, .note⟩⟩))
      ∧ scene.registrar.reads () = 1 := by
  refine ⟨?_, by rfl⟩
  funext i
  cases i <;> rfl

end Scene

end Registrar

end RecordSql
