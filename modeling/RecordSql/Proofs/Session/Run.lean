import RecordSql.Proofs.Schema.Table
import RecordSql.Proofs.Session.Operation

/-!
# Runs of a session

Operations one after another. The back end learns of those that have a statement, and only of these:
what it was sent is the list of their statements, in order. That sorts the faults. As long as the
back end and its rows raise no fault of construction, an operation ends with one exactly if nothing
of it reached the back end.
-/

set_option autoImplicit false

namespace RecordSql

namespace Session

variable {κ : Type} {types : κ → RecordType} [DecidableEq κ]

/-- The session after operations one after another. -/
def after (s : Session types) (ops : List (Operation types)) : Session types :=
  ops.foldl (fun s op => (s.perform op).session) s

/-- The statements of operations, without those that have none. -/
def statements (s : Session types) (ops : List (Operation types)) : List Statement :=
  ops.filterMap fun op => (s.plan op).toOption

/-- An operation that ends with a fault of construction and leaves the back end alone. -/
structure Refuses (s : Session types) (op : Operation types) (fault : Fault) : Prop where
  result : (s.perform op).result = .error fault
  early : fault.isConstruction = true
  backend : (s.perform op).session.backend = s.backend

/-- An operation that sends one statement, takes one reply and ends with no fault of
construction. -/
structure Sends (s : Session types) (op : Operation types) (statement : Statement) : Prop where
  sent : (s.perform op).session.backend.sent = s.backend.sent ++ [statement]
  replies : (s.perform op).session.backend.replies = s.backend.replies.drop 1
  late : ∀ fault, (s.perform op).result = .error fault → fault.isConstruction = false

/-! ## One operation -/

/-- An operation without a statement is refused for the fault that its plan gives. -/
theorem refuses_of_plan {s : Session types} {op : Operation types} {fault : Fault}
    (h : s.plan op = .error fault) : s.Refuses op fault := by
  obtain ⟨found, hplan, hresult, hsession⟩ | ⟨statement, hplan, -, -⟩ := s.perform_cases op
  · rw [h] at hplan
    cases hplan
    exact ⟨hresult, s.failsOnly_plan op fault h, by rw [hsession]; rfl⟩
  · rw [h] at hplan
    cases hplan

/-- An operation with a statement sends it. -/
theorem FailsLate.sends {s : Session types} {op : Operation types} {statement : Statement}
    (hreplies : s.FailsLate) (h : s.plan op = .ok statement) : s.Sends op statement := by
  obtain ⟨fault, hplan, -, -⟩ | ⟨found, hplan, hsession, hlate⟩ := s.perform_cases op
  · rw [h] at hplan
    cases hplan
  · rw [h] at hplan
    cases hplan
    exact ⟨by rw [hsession]; rfl, by rw [hsession]; rfl, hlate hreplies.nextReply⟩

/-- No operation brings in replies of another kind. -/
theorem FailsLate.perform {s : Session types} (h : s.FailsLate) (op : Operation types) :
    (s.perform op).session.FailsLate := by
  intro reply hreply
  cases hplan : s.plan op with
  | error fault =>
    rw [(refuses_of_plan hplan).backend] at hreply
    exact h reply hreply
  | ok statement =>
    rw [(h.sends hplan).replies] at hreply
    exact h reply (List.mem_of_mem_drop hreply)

/-! ## Runs -/

/-- Operations before do not change what an operation sends. -/
theorem plan_after (s : Session types) (ops : List (Operation types)) (op : Operation types) :
    (s.after ops).plan op = s.plan op := by
  induction ops generalizing s with
  | nil => rfl
  | cons first ops ih => exact (ih (s.perform first).session).trans (s.plan_perform first op)

/-- Nor do several operations bring in replies of another kind. -/
theorem FailsLate.after {s : Session types} (h : s.FailsLate) (ops : List (Operation types)) :
    (s.after ops).FailsLate := by
  induction ops generalizing s with
  | nil => exact h
  | cons first ops ih => exact ih (h.perform first)

/-- The back end is sent the statements of the operations, and a reply is used up for each. -/
theorem backend_after {s : Session types} (h : s.FailsLate) (ops : List (Operation types)) :
    (s.after ops).backend.sent = s.backend.sent ++ s.statements ops ∧
      (s.after ops).backend.replies = s.backend.replies.drop (s.statements ops).length := by
  induction ops generalizing s with
  | nil => exact ⟨(List.append_nil _).symm, rfl⟩
  | cons first ops ih =>
    have hsame : (s.perform first).session.statements ops = s.statements ops := by
      unfold statements
      simp only [plan_perform]
    obtain ⟨hsent, hreplies⟩ := ih (h.perform first)
    rw [hsame] at hsent hreplies
    cases hplan : s.plan first with
    | error fault =>
      have hnone : s.statements (first :: ops) = s.statements ops := by
        simp [statements, hplan, Except.toOption]
      rw [(refuses_of_plan hplan).backend] at hsent hreplies
      rw [hnone]
      exact ⟨hsent, hreplies⟩
    | ok statement =>
      have hsome : s.statements (first :: ops) = statement :: s.statements ops := by
        simp [statements, hplan, Except.toOption]
      have hsends := h.sends hplan
      rw [hsends.sent, List.append_assoc] at hsent
      rw [hsends.replies, List.drop_drop] at hreplies
      rw [hsome]
      refine ⟨hsent, hreplies.trans ?_⟩
      rw [List.length_cons, Nat.add_comm]

/-- Faults of construction are those of operations of which nothing was sent. After any run, an
operation that has no statement ends with the fault of construction that kept it from having one,
and the back end stays as it was. One that has a statement sends just this, takes one reply, and
ends with no fault of construction; a command does not even end with a fault, but with an execution
that tells what came of the reply. The back end is hence sent the statements of the operations and
nothing else. -/
theorem run_faults (s : Session types) (hreplies : s.FailsLate) (ops : List (Operation types)) :
    (∀ op, (s.after ops).plan op = s.plan op) ∧
      (∀ op fault, s.plan op = .error fault → (s.after ops).Refuses op fault) ∧
      (∀ op statement, s.plan op = .ok statement → (s.after ops).Sends op statement) ∧
      (∀ key command statement, s.plan (.execute key command) = .ok statement →
        ((s.after ops).execute key command).result = .ok (s.after ops).nextExecution) ∧
      (∀ op fault, ((s.after ops).perform op).result = .error fault →
        (fault.isConstruction = true ↔
          ((s.after ops).perform op).session.backend.sent = (s.after ops).backend.sent)) ∧
      (s.after ops).backend.sent = s.backend.sent ++ s.statements ops ∧
      (s.after ops).backend.replies = s.backend.replies.drop (s.statements ops).length := by
  have hlate := hreplies.after ops
  refine ⟨s.plan_after ops, ?_, ?_, ?_, ?_, backend_after hreplies ops⟩
  · intro op fault hplan
    rw [← s.plan_after ops] at hplan
    exact refuses_of_plan hplan
  · intro op statement hplan
    rw [← s.plan_after ops] at hplan
    exact hlate.sends hplan
  · intro key command statement hplan
    rw [← s.plan_after ops] at hplan
    obtain ⟨fault, hother, -, -⟩ | ⟨found, -, hresult, -⟩ := (s.after ops).execute_cases key command
    · rw [hplan] at hother
      cases hother
    · exact hresult
  · intro op fault hresult
    cases hplan : (s.after ops).plan op with
    | error found =>
      have hrefuses := refuses_of_plan hplan
      rw [hrefuses.result] at hresult
      cases hresult
      exact ⟨fun _ => by rw [hrefuses.backend], fun _ => hrefuses.early⟩
    | ok statement =>
      have hsends := hlate.sends hplan
      rw [hsends.late fault hresult, hsends.sent]
      simp

/-- The second of two types is not a record. -/
def noteOrPair : Bool → RecordType
  | true => .note
  | false => { name := "Pair", shape := .tuple, tableHook := none, fields := [] }

/-- A session that knows notes, with two replies in store. -/
def ofNotes : Session noteOrPair :=
  ⟨.standard, ⟨0, [⟨true, .note⟩]⟩,
    .ofReplies [⟨.lasting ⟨0⟩, ⟨0⟩, .fail (.executor "disk full")⟩, .empty]⟩

/-- Four operations, of which the second and the last have a statement. -/
def noteOperations : List (Operation noteOrPair) :=
  [.execute true (.update .empty), .execute true (.delete .empty), .fetchAll false (.select .empty),
    .fetchOne true (.raw ⟨"SELECT 1", []⟩)]

/-- A command that fails and a query without rows reach the back end, and nothing else does. -/
theorem run_faults_note : ofNotes.FailsLate
    ∧ (ofNotes.after noteOperations).backend.sent
      = [⟨"DELETE FROM \x60note\x60;", []⟩, ⟨"SELECT 1", []⟩]
    ∧ (ofNotes.after noteOperations).backend.replies = [] := by
  have hreplies : ofNotes.FailsLate := by
    intro reply hreply
    rcases List.mem_pair.1 hreply with rfl | rfl
    · rfl
    · trivial
  obtain ⟨-, -, -, -, -, hsent, htaken⟩ := ofNotes.run_faults hreplies noteOperations
  refine ⟨hreplies, hsent.trans ?_, htaken.trans ?_⟩
  · rfl
  · rfl

end Session

end RecordSql
