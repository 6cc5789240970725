import SeanOs.Lib.IsoOrder
import SeanOs.Store.Approvals
import SeanOs.Sample

/-! The expiry of an approval: two times that are compared as texts, and the instants they name. -/

namespace SeanOs

open Atomic Calendar Decimal

/-- A text is read as a time with an offset. -/
def ReadsAs (text : String) (moment : DateTime) : Prop :=
  fromisoformat text = some moment ∧ moment.aware = true

instance (text : String) (moment : DateTime) : Decidable (ReadsAs text moment) :=
  inferInstanceAs (Decidable (_ ∧ _))

/--
The texts of two times sort as the instants they name.

Between texts in the form the library writes, the wall clocks must differ by more than the offsets.
Between other texts, the later instant must have the greater character where the texts part.
-/
def SortAsInstants (use expires : String) (used expired : DateTime) : Prop :=
  if use = used.isoformat ∧ expires = expired.isoformat then TextsAgree used expired
  else if expired.instant ≤ used.instant then partsLater use.toList expires.toList = true
  else partsLater use.toList expires.toList = false

instance (use expires : String) (used expired : DateTime) :
    Decidable (SortAsInstants use expires used expired) :=
  inferInstanceAs (Decidable
    (if use = used.isoformat ∧ expires = expired.isoformat then TextsAgree used expired
    else if expired.instant ≤ used.instant then partsLater use.toList expires.toList = true
    else partsLater use.toList expires.toList = false))

/-- Texts sort as their instants exactly under that condition. -/
theorem sortAsInstants_iff {use expires : String} {used expired : DateTime}
    (usedAt : ReadsAs use used) (expiresAt : ReadsAs expires expired) :
    (expires ≤ use ↔ expired.instant ≤ used.instant) ↔
      SortAsInstants use expires used expired := by
  unfold SortAsInstants
  split
  case isTrue written =>
    rw [written.1, written.2]
    exact texts_agree_iff usedAt.2 expiresAt.2
  case isFalse =>
    -- Any other texts are compared character by character.
    have order : expires ≤ use ↔ partsLater use.toList expires.toList = true :=
      not_lt_iff_partsLater use.toList expires.toList
    rw [order]
    by_cases later : expired.instant ≤ used.instant
    · simp [later]
    · simp [later]

section Consumption

variable [Platform]

/-- The time a use of an approval is judged at: the one it gives, or the clock. -/
def Consumption.timestamp (use : Consumption) (world : World) : String :=
  (given use.at_).getD world.clock.utc.isoformat

/-- An approved row covers a use in everything but the time. -/
structure Covers (store : Store) (actor : Actor) (use : Consumption) (row : ApprovalRow) :
    Prop where
  /-- The conditions of the use hold nothing secret. -/
  clean : use.secret = false
  /-- The database and the actor have the scope. -/
  permitted : row.scope ∈ store.allowed_scopes ∧ row.scope ∈ actor.scopes
  /-- The use is for that scope, if it names one. -/
  inScope : use.scope.any (row.scope ≠ ·) = false
  /-- The approval was given and not consumed. -/
  approved : row.status = .APPROVED
  /-- The use is the approved action on the approved target. -/
  matching : row.action_type = use.action_type ∧ .str row.target = use.target
  /-- The use meets the approved conditions, if it names any. -/
  conditional : use.conditions.any
    (fun conditions => !Json.equal row.conditions (.obj conditions)) = false

/-- A covered use is refused exactly when its time does not sort before the expiry. -/
theorem consumeRefusal_covered {store : Store} {actor : Actor} {use : Consumption}
    {row : ApprovalRow} (covers : Covers store actor use row) (timestamp : String) :
    consumeRefusal store actor use timestamp (some row) =
      if row.expires_at ≤ timestamp then some "Approval expired" else none := by
  have authority : ¬(row.scope ∉ store.allowed_scopes ∨ row.scope ∉ actor.scopes) := by
    simp [covers.permitted]
  have matching : ¬(row.action_type ≠ use.action_type ∨ .str row.target ≠ use.target) := by
    simp [covers.matching]
  rw [consumeRefusal, if_neg authority, if_neg (by rw [covers.inScope]; simp),
    if_neg (by simp [covers.approved]), if_neg matching, if_neg (by simp [covers.conditional])]

omit [Platform] in
/-- What a check that covers a use says about the row: all but the time are facts about columns. -/
theorem covered_of_consumeRefusal {store : Store} {actor : Actor} {use : Consumption}
    {timestamp : String} {row : ApprovalRow}
    (covered : consumeRefusal store actor use timestamp (some row) = none) :
    use.scope.any (row.scope ≠ ·) = false ∧ row.status = .APPROVED ∧
      row.action_type = use.action_type ∧ .str row.target = use.target ∧
      ¬row.expires_at ≤ timestamp := by
  -- Each check of the source is passed in turn.
  rw [consumeRefusal] at covered
  split at covered
  · cases covered
  split at covered
  · cases covered
  next inScope =>
  split at covered
  · cases covered
  next approved =>
  split at covered
  · cases covered
  next matching =>
  split at covered
  · cases covered
  split at covered
  · cases covered
  next early =>
    rw [not_or, not_not, not_not] at matching
    exact ⟨by simpa using inScope, not_not.mp approved, matching.1, matching.2, early⟩

/-- A consumption ends as the row it found and the time it was judged at say. -/
theorem run_consume_approval {store : Store} {actor : Actor} {use : Consumption}
    {world : World} {row : ApprovalRow} (clean : use.secret = false)
    (found : world.db.approval? use.approval_id = some row) :
    ((consume_approval store actor use).run world).1 =
      match consumeRefusal store actor use (use.timestamp world) (some row) with
      | some reason => .error (.authorization reason)
      | none => .ok () := by
  -- The query and the clock leave the world as it was, whether the clock is read or not.
  have timed : (timeOr use.at_).run world = (.ok (use.timestamp world), world) := by
    unfold timeOr Consumption.timestamp now
    cases given use.at_ with
    | some time => rfl
    | none => rfl
  rw [consume_approval, clean, if_neg (by simp), select, Prog.run_bind, Prog.run_read]
  simp only [found]
  rw [Prog.run_bind, timed]
  cases judged : consumeRefusal store actor use (use.timestamp world) (some row) with
  | none => simp only [judged]; rfl
  | some reason => simp only [judged]; rfl

/-- A covered use is refused for expiry exactly when the instant of the expiry has come. -/
def ExpiryEnforced (store : Store) (actor : Actor) (use : Consumption) (world : World)
    (used expires : DateTime) : Prop :=
  ((consume_approval store actor use).run world).1 =
      .error (.authorization "Approval expired") ↔ expires.instant ≤ used.instant

/--
Expiry is enforced exactly where the texts of the two times sort as the instants they name.

The two times range over everything the library reads as a time with an offset.
-/
theorem consume_approval_expiry {store : Store} {actor : Actor} {use : Consumption}
    {world : World} {row : ApprovalRow} {used expires : DateTime}
    (found : world.db.approval? use.approval_id = some row)
    (covers : Covers store actor use row)
    (usedAt : ReadsAs (use.timestamp world) used) (expiresAt : ReadsAs row.expires_at expires) :
    ExpiryEnforced store actor use world used expires ↔
      SortAsInstants (use.timestamp world) row.expires_at used expires := by
  rw [← sortAsInstants_iff usedAt expiresAt, ExpiryEnforced,
    run_consume_approval covers.clean found, consumeRefusal_covered covers]
  by_cases late : row.expires_at ≤ use.timestamp world
  · simp [late]
  · simp [late]

omit [Platform] in
/-- Times that pass the checks of a record are read as times with an offset. -/
theorem checkTimes_readsAs {effective expires : String} (filled : expires ≠ "")
    (checked : checkTimes effective (some expires) = .ok ()) :
    ∃ moment, ReadsAs expires moment := by
  have kept : given (some expires) = some expires := by simp [given, filled]
  rw [checkTimes, kept, Option.map_some] at checked
  cases start : fromisoformat effective with
  | none => simp [start] at checked
  | some first =>
    cases stop : fromisoformat expires with
    | none => simp [start, stop] at checked
    | some last =>
      simp only [start, stop] at checked
      split at checked
      case isTrue => cases checked
      case isFalse both =>
        refine ⟨last, stop, ?_⟩
        by_contra naive
        exact both fun pair => naive pair.2

/-- A record is created only with an expiry that is read as a time with an offset. -/
theorem create_record_readsAs {store : Store} {actor : Actor} {request : RecordRequest}
    {world : World} {record_id expires : String} (asked : request.expires_at = some expires)
    (filled : expires ≠ "")
    (created : ((create_record store actor request).run world).1 = .ok record_id) :
    ∃ moment, ReadsAs expires moment := by
  rw [create_record, uuid4] at created
  simp only [Prog.bind_atom, Prog.bind_ret, Prog.run_atom, Prog.run_catch, asked] at created
  -- The handler raises whatever it was given, so the record was created by the guarded part.
  split at created
  next created_id changed ran =>
    rw [run_lift_bind] at ran
    split at ran
    · simp only [now, Prog.run_bind, Prog.run_read] at ran
      split at ran
      next ended last step =>
        cases checked : checkTimes ((given request.effective_at).getD world.clock.utc.isoformat)
            (some expires) with
        | ok _ => exact checkTimes_readsAs filled checked
        | error failed => simp [checked] at step
      next => simp at ran
    · simp at ran
  next error changed ran =>
    cases error <;> simp [_audit, Prog.run_bind] at created

/-- An approval is created only with an expiry that is read as a time with an offset. -/
theorem create_approval_readsAs {store : Store} {actor : Actor} {world : World}
    {action_type target scope max_impact approver expires approval_id : String}
    {conditions : Option (List (String × Json))} {reusable : Bool} (filled : expires ≠ "")
    (created : ((create_approval store actor action_type target scope max_impact approver expires
      conditions reusable).run world).1 = .ok approval_id) :
    ∃ moment, ReadsAs expires moment := by
  rw [create_approval] at created
  split at created
  · simp at created
  split at created
  · simp at created
  rw [Prog.run_bind] at created
  split at created
  next record_id changed ran =>
    exact create_record_readsAs rfl filled (congrArg Prod.fst ran)
  next => simp at created

/-- An approval is requested only with an expiry that is read as a time with an offset. -/
theorem request_approval_readsAs {store : Store} {actor : Actor} {world : World}
    {action_type target scope max_impact expires approval_id : String}
    {conditions : Option (List (String × Json))} (filled : expires ≠ "")
    (created : ((request_approval store actor action_type target scope max_impact expires
      conditions).run world).1 = .ok approval_id) :
    ∃ moment, ReadsAs expires moment := by
  rw [request_approval, requestApproval] at created
  split at created
  · simp at created
  rw [run_lift_bind] at created
  split at created
  · rw [Prog.run_bind] at created
    split at created
    next record_id changed ran =>
      exact create_record_readsAs rfl filled (congrArg Prod.fst ran)
    next => simp at created
  · simp at created

end Consumption

namespace Sample

/-- A use of the sample approval at a given time. -/
def consumption (time : String) : Consumption where
  approval_id := "00000000-0000-4000-8000-000000000000"
  action_type := "DELIVER_ALERT"
  target := .str "delivery"
  at_ := some time

/-- A world that holds that approval alone. -/
def approved (expires_at : String) : World :=
  world { Database.empty with approvals := [approval expires_at] }

end Sample

section Examples

open Sample

local instance expiryPlatform : Platform := platform []

/-- Between UTC times the expiry is enforced: a use at the end of the approval is refused. -/
theorem consume_approval_expiry_utc :
    ExpiryEnforced ⟨.IAC⟩ .sean (consumption "2030-01-01T12:00:00+00:00")
      (approved "2030-01-01T12:00:00+00:00")
      (moment "2030-01-01T12:00:00+00:00" (by decide +kernel))
      (moment "2030-01-01T12:00:00+00:00" (by decide +kernel)) := by
  have found : (approved "2030-01-01T12:00:00+00:00").db.approval?
      (consumption "2030-01-01T12:00:00+00:00").approval_id =
        some (approval "2030-01-01T12:00:00+00:00") := by decide +kernel
  have covers : Covers ⟨.IAC⟩ .sean (consumption "2030-01-01T12:00:00+00:00")
      (approval "2030-01-01T12:00:00+00:00") :=
    ⟨by decide +kernel, by decide +kernel, by decide +kernel, by decide +kernel,
      by decide +kernel, by decide +kernel⟩
  exact (consume_approval_expiry found covers (by decide +kernel) (by decide +kernel)).mpr
    (by decide +kernel)

/-- An approval that ended at noon two hours east of Greenwich is consumed an hour after that. -/
theorem consume_approval_after_expiry :
    ReadsAs "2030-01-01T11:00:00+00:00"
        (moment "2030-01-01T11:00:00+00:00" (by decide +kernel)) ∧
      ReadsAs "2030-01-01T12:00:00+02:00"
        (moment "2030-01-01T12:00:00+02:00" (by decide +kernel)) ∧
      Covers ⟨.IAC⟩ .sean (consumption "2030-01-01T11:00:00+00:00")
        (approval "2030-01-01T12:00:00+02:00") ∧
      (approved "2030-01-01T12:00:00+02:00").db.approval?
          (consumption "2030-01-01T11:00:00+00:00").approval_id =
        some (approval "2030-01-01T12:00:00+02:00") ∧
      ¬ExpiryEnforced ⟨.IAC⟩ .sean (consumption "2030-01-01T11:00:00+00:00")
        (approved "2030-01-01T12:00:00+02:00")
        (moment "2030-01-01T11:00:00+00:00" (by decide +kernel))
        (moment "2030-01-01T12:00:00+02:00" (by decide +kernel)) := by
  have covers : Covers ⟨.IAC⟩ .sean (consumption "2030-01-01T11:00:00+00:00")
      (approval "2030-01-01T12:00:00+02:00") :=
    ⟨by decide +kernel, by decide +kernel, by decide +kernel, by decide +kernel,
      by decide +kernel, by decide +kernel⟩
  refine ⟨by decide +kernel, by decide +kernel, covers, by decide +kernel, ?_⟩
  intro enforced
  have ended : (moment "2030-01-01T12:00:00+02:00" (by decide +kernel)).instant ≤
      (moment "2030-01-01T11:00:00+00:00" (by decide +kernel)).instant := by decide +kernel
  have refused := enforced.mpr ended
  have used : ((consume_approval ⟨.IAC⟩ .sean (consumption "2030-01-01T11:00:00+00:00")).run
      (approved "2030-01-01T12:00:00+02:00")).1 = .ok () := by decide +kernel
  rw [used] at refused
  cases refused

end Examples

end SeanOs
