import SeanOs.Lib.Session
import SeanOs.Store.Outbox

/-! Requests for the approval of rows of the outboxes, of which one may be pending for a target. -/

namespace SeanOs

open Atomic Calendar

/-- The action that an approval of a row of an outbox is for. -/
def Outbox.action : Outbox → String
  | .backup_transfer => "RUN_INDEPENDENT_BACKUP_RESTORE_DRILL"
  | .backup_restore => "RUN_ISOLATED_BACKUP_RESTORE"
  | .alert_delivery => "DELIVER_ALERT"

/-- Give the requests that ended by a clock that state, and say which ones are left. -/
def expireRequests (clock : Reading) : List ApprovalRow → Script World Error (List ApprovalRow)
  | [] => pure []
  | row :: rows => do
    if ← Script.check (reached row.expires_at clock) then
      Script.execute fun world => .ok (setApproval row.record_id .EXPIRED world)
      expireRequests clock rows
    else do
      let active ← expireRequests clock rows
      pure (row :: active)

/-- The pending requests for the approval of an action on a target. -/
def pendingRequests (action_type target : String) (scope : Scope) (db : Database) :
    List ApprovalRow :=
  (db.approvals.filter fun row => row.action_type == action_type && (row.target == target &&
    (row.scope == scope && row.status == .PENDING))).insertionSort (·.record_id ≤ ·.record_id)

/-- Give the requests that ended their state, as a step of its own if there are any. -/
def expireEnded (clock : Reading) (existing : List ApprovalRow) :
    Script World Error (List ApprovalRow) := do
  let active ← expireRequests clock existing
  if active.length = existing.length then pure active
  else do
    Script.commit
    pure active

/-- The approvals under some identifiers expire, one after another. -/
def expireAll (ids : List String) (world : World) : World :=
  ids.foldl (fun world id => setApproval id .EXPIRED world) world

/-- An approval after some approvals expired. -/
def ApprovalRow.expiredBy (ids : List String) (row : ApprovalRow) : ApprovalRow :=
  if row.record_id ∈ ids then { row with status := .EXPIRED } else row

/-- Only the states of those approvals differ afterwards. -/
theorem expireAll_eq (ids : List String) (world : World) :
    expireAll ids world = { world with db := { world.db with
      approvals := world.db.approvals.map (·.expiredBy ids) } } := by
  induction ids generalizing world with
  | nil => simp [expireAll, ApprovalRow.expiredBy]
  | cons id ids ih =>
    -- A row that was expired before is expired, and keeps its identifier.
    have rows : ((·.expiredBy ids) ∘ fun row : ApprovalRow =>
        if row.record_id = id then { row with status := .EXPIRED } else row) =
          (·.expiredBy (id :: ids)) := by
      funext row
      by_cases here : row.record_id = id <;> by_cases later : row.record_id ∈ ids <;>
        simp [ApprovalRow.expiredBy, here, later]
    show expireAll ids (setApproval id .EXPIRED world) = _
    rw [ih, setApproval]
    dsimp only
    rw [List.map_map, rows]

/-- Some of the rows that were read have ended, and the others are left. -/
structure EndedAmong (clock : Reading) (rows ended : List ApprovalRow) : Prop where
  within : ∀ row ∈ ended, row ∈ rows
  reached : ∀ row ∈ ended, reached row.expires_at clock = .ok true

/-- The requests that ended expire, and the others are left alone. -/
theorem expireRequests_run (clock : Reading) (rows : List ApprovalRow) (session : Session World) :
    ∃ ended, (expireRequests clock rows session).2.current =
        expireAll (ended.map (·.record_id)) session.current ∧
      (expireRequests clock rows session).2.committed = session.committed ∧
        EndedAmong clock rows ended ∧
          ∀ active, (expireRequests clock rows session).1 = .ok active →
            (∀ row ∈ active, row ∈ rows) ∧ (∀ row ∈ rows, row ∈ ended ∨ row ∈ active) ∧
              ended.length + active.length = rows.length := by
  -- The induction takes one request after another, with what the rows before it left.
  induction rows generalizing session with
  | nil => exact ⟨[], rfl, rfl, ⟨nofun, nofun⟩, fun active ran => by cases ran; simp⟩
  | cons row rows ih =>
    rw [expireRequests, Script.check_bind]
    cases judged : reached row.expires_at clock with
    | error error => exact ⟨[], rfl, rfl, ⟨nofun, nofun⟩, fun _ ran => nomatch ran⟩
    | ok over_ =>
      cases over_ with
      | true =>
        dsimp only
        rw [if_pos rfl, Script.execute_bind]
        obtain ⟨ended, current, committed, among, left⟩ :=
          ih ⟨session.committed, setApproval row.record_id .EXPIRED session.current, true⟩
        refine ⟨row :: ended, current, committed, ⟨?_, ?_⟩, fun active ran => ?_⟩
        · exact List.forall_mem_cons.mpr ⟨.head _, fun other there => .tail _ (among.within other there)⟩
        · exact List.forall_mem_cons.mpr ⟨judged, among.reached⟩
        · obtain ⟨part, all, count⟩ := left active ran
          refine ⟨fun other there => .tail _ (part other there), ?_, by simp; omega⟩
          exact List.forall_mem_cons.mpr ⟨.inl (.head _), fun other there =>
            (all other there).imp_left (.tail _)⟩
      | false =>
        dsimp only
        rw [if_neg (by simp)]
        obtain ⟨ended, current, committed, among, left⟩ := ih session
        have within : ∀ other ∈ ended, other ∈ row :: rows :=
          fun other there => .tail _ (among.within other there)
        cases ran : expireRequests clock rows session with
        | mk outcome after =>
          rw [ran] at current committed left
          cases outcome with
          | ok active =>
            rw [Script.bind_ok ran]
            obtain ⟨part, all, count⟩ := left active rfl
            refine ⟨ended, current, committed, ⟨within, among.reached⟩, fun left_ ended_ => ?_⟩
            cases ended_
            refine ⟨?_, ?_, by simp; omega⟩
            · exact List.forall_mem_cons.mpr
                ⟨.head _, fun other there => .tail _ (part other there)⟩
            · exact List.forall_mem_cons.mpr ⟨.inr (.head _), fun other there =>
                (all other there).imp_right (.tail _)⟩
          | error error =>
            rw [Script.bind_error ran]
            exact ⟨ended, current, committed, ⟨within, among.reached⟩, fun _ ran => nomatch ran⟩

/-- As a step, that expires some requests that have ended, and all that are not left. -/
theorem expireEnded_run (clock : Reading) (existing : List ApprovalRow) (world : World) :
    ∃ ended, (expireEnded clock existing (.closed world)).2.committed =
        expireAll (ended.map (·.record_id)) world ∧ EndedAmong clock existing ended ∧
      ∀ active, (expireEnded clock existing (.closed world)).1 = .ok active →
        (∀ row ∈ active, row ∈ existing) ∧ ∀ row ∈ existing, row ∈ ended ∨ row ∈ active := by
  obtain ⟨ended, current, committed, among, left⟩ :=
    expireRequests_run clock existing (.closed world)
  cases ran : expireRequests clock existing (.closed world) with
  | mk outcome after =>
    rw [ran] at current committed left
    rw [expireEnded]
    cases outcome with
    | error error =>
      -- What was expired before the error is not committed.
      refine ⟨[], ?_, ⟨nofun, nofun⟩, ?_⟩ <;> rw [Script.bind_error ran]
      · exact committed
      · exact fun _ ended_ => nomatch ended_
    | ok active =>
      obtain ⟨part, all, count⟩ := left active rfl
      rw [Script.bind_ok ran]
      split
      next same =>
        -- Nothing has ended, so there is nothing to commit.
        have none_ : ended = [] := List.eq_nil_of_length_eq_zero (by omega)
        subst none_
        exact ⟨[], committed, among, fun _ ended_ => by cases ended_; exact ⟨part, all⟩⟩
      · exact ⟨ended, current, among, fun _ ended_ => by cases ended_; exact ⟨part, all⟩⟩

/-- The values in which the requests for the rows of the outboxes differ. -/
structure Asking where
  outbox : Outbox
  target : String
  scope : Scope
  conditions : List (String × Json)
  /-- Whether a pending request must have the same conditions. -/
  exact_ : Bool
  /-- What is said when a pending request asks for something else. -/
  different : String

/-- Whether a pending request asks for the same. -/
def Asking.sameAs (asking : Asking) (max_impact expires_at : String) (row : ApprovalRow) : Bool :=
  (!asking.exact_ || Json.equal row.conditions (.obj asking.conditions)) &&
    (row.max_impact == max_impact && row.expires_at == expires_at)

/-- The identifier of the one request that is pending, if it asks for the same. -/
def sameRequest (asking : Asking) (max_impact expires_at : String) :
    List ApprovalRow → Except Error String
  | [row] =>
    if asking.sameAs max_impact expires_at row then .ok row.record_id
    else .error (.validation asking.different)
  | _ => .error (.validation asking.different)

variable [Platform]

/-- Request an approval, unless a request for the target is pending. -/
def requestOnce (store : Store) (actor : Actor) (asking : Asking)
    (max_impact expires_at : String) : Op String := do
  let existing ← Prog.read (.pending asking.outbox asking.target) fun world =>
    pendingRequests asking.outbox.action asking.target asking.scope world.db
  let clock ← clockNow
  let active ← Script.asStep .records (expireEnded clock existing)
  -- Nothing has held the database since the query, so another caller may be here as well.
  if active = [] then
    requestApproval (.request asking.outbox asking.target) store actor asking.outbox.action
      asking.target asking.scope.text max_impact expires_at (some asking.conditions)
  else lift (sameRequest asking max_impact expires_at active)

end SeanOs
