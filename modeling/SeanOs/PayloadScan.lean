import SeanOs.Lib.Among
import SeanOs.Policy
import SeanOs.Sample
import SeanOs.Store.SaleExport
import SeanOs.Store.RecordWrites
import SeanOs.Store.WorkQueue

/-! What the operations that keep or release payloads let through the scan for secrets. -/

namespace SeanOs

open Atomic

section Payloads

variable [Platform]

omit [Platform] in
/-- A check in front of a program says what has passed it. -/
theorem returns_lift_bind {α β : Type} {checked : Except Error α} {rest : α → Op β} {such : β → Prop}
    (passed : ∀ value, checked = .ok value → Prog.Returns (rest value) such) :
    Prog.Returns (lift checked >>= rest) such := by
  -- A check that fails raises, so nothing is returned behind it.
  cases checked with
  | ok value => exact passed value rfl
  | error error => exact .raise error

/-- A record that passes its checks has a clean payload. -/
theorem checkRecord_clean {store : Store} {actor : Actor} {entity_type scope : String}
    {principals : List String} {request : RecordRequest} {passed : EntityType × Scope × Bool × ℚ}
    (checked : checkRecord store actor entity_type scope principals request = .ok passed) :
    Clean (.obj request.payload) := by
  rw [checkRecord, bind_ok_iff] at checked
  obtain ⟨kind, _, checked⟩ := checked
  dsimp only at checked
  -- The scan is the first check behind the one of the kind of record.
  rw [unless_ok] at checked
  exact not_not.mp checked.1

section Accepts

variable (store : Store) (actor : Actor)

/-- A record is created of a clean payload only. -/
theorem returns_create_record (request : RecordRequest) :
    Prog.Returns (create_record store actor request) fun _ => Clean (.obj request.payload) := by
  refine .bind fun record_id => .catch (returns_lift_bind fun passed checked => ?_) fun error => ?_
  · exact .of_forall (fun _ => checkRecord_clean checked) _
  · -- Whatever was raised is raised again.
    split
    case h_5 => exact .raise _
    all_goals exact .bind fun _ => .raise _

/-- A record is updated to a clean payload only. -/
theorem returns_update_record (record_id : String) (payload : List (String × Json))
    (expected_version : ℤ) (correlation_id : Option String) :
    Prog.Returns (update_record store actor record_id payload expected_version correlation_id)
      fun _ => Clean (.obj payload) := by
  rw [update_record]
  dsimp only
  -- Where there are findings, the update is refused whatever follows.
  split
  · exact .bind fun _ => .raise _
  next clean => exact .of_forall (fun _ => not_not.mp clean) _

/-- Work is queued with a clean payload only. -/
theorem returns_enqueue_work (task_type scope : String) (payload : List (String × Json))
    (priority max_attempts : ℤ) (available_at : Option String) :
    Prog.Returns (enqueue_work store actor task_type scope payload priority max_attempts available_at)
      fun _ => Clean (.obj payload) := by
  rw [enqueue_work]
  refine .bind fun _ => ?_
  dsimp only
  -- Where there are findings, the work is refused whatever follows.
  split
  · exact .bind fun _ => .raise _
  next clean => exact .of_forall (fun _ => not_not.mp clean) _

/-- A clean result of an action is recorded only. -/
theorem returns_record_action_result (work_id task_type : String) (result : Json) :
    Prog.Returns (record_action_result actor work_id task_type result) fun _ => Clean result := by
  rw [record_action_result]
  dsimp only
  -- Where there are findings, the result is refused whatever follows.
  split
  · exact .bind fun _ => .raise _
  next clean => exact .of_forall (fun _ => not_not.mp clean) _

/-- Work is completed with a clean result only. -/
theorem returns_complete_work (work_id worker_id : String) (result : Json) :
    Prog.Returns (complete_work actor work_id worker_id result) fun _ => Clean result := by
  rw [complete_work]
  -- Where there are findings, the result is refused whatever follows.
  split
  · exact .bind fun _ => .raise _
  next clean => exact .of_forall (fun _ => not_not.mp clean) _

/-- Only a clean export is given out. -/
theorem returns_sale_export :
    Prog.Returns (sale_export actor) fun output => Clean (.arr output) := by
  rw [sale_export]
  split
  · exact .bind fun _ => .raise _
  refine .bind fun rows => ?_
  dsimp only
  split
  · exact .bind fun _ => .raise _
  -- The whole output is scanned once more before it is returned.
  next clean => exact .bind fun _ => fun output same => Except.ok.inj same ▸ not_not.mp clean

end Accepts

/-- What a program lets through holds no secret, unless a key in it looks secret itself. -/
def Admits {α : Type} (program : Op α) (payload : α → Json) : Prop :=
  ∀ others world steps value last,
    Prog.Among others program world steps (some (.ok value)) last →
      (Secretless (payload value) ↔ ¬HoldsSecretKey (payload value))

/-- What an operation returns with alone it returns with among others. -/
theorem Admits.of_returns {α : Type} {program : Op α} {payload : α → Json}
    (returns : Prog.Returns program fun value => Clean (payload value)) : Admits program payload :=
  fun _ _ _ _ _ among => secretless_of_clean (returns.among among)

/--
When the scan for secrets is complete.

A value in which it finds nothing holds no secret, exactly where no key in it looks secret itself; and
so it is with every payload that an operation accepts, and with the records of an export.
-/
theorem secrets_scanned :
    (∀ value, (Clean value → Secretless value) ↔
      HoldsSecretText value ∨ HoldsSensitiveKey value ∨ ¬HoldsSecretKey value) ∧
    (∀ store actor request,
      Admits (create_record store actor request) fun _ => .obj request.payload) ∧
    (∀ store actor record_id payload expected_version correlation_id,
      Admits (update_record store actor record_id payload expected_version correlation_id)
        fun _ => .obj payload) ∧
    (∀ store actor task_type scope payload priority max_attempts available_at,
      Admits (enqueue_work store actor task_type scope payload priority max_attempts available_at)
        fun _ => .obj payload) ∧
    (∀ actor work_id task_type result,
      Admits (record_action_result actor work_id task_type result) fun _ => result) ∧
    (∀ actor work_id worker_id result,
      Admits (complete_work actor work_id worker_id result) fun _ => result) ∧
    ∀ actor, Admits (sale_export actor) .arr := by
  refine ⟨fun value => ?_, fun store actor request => .of_returns ?_,
    fun store actor record_id payload version correlation_id => .of_returns ?_,
    fun store actor task_type scope payload priority attempts available_at => .of_returns ?_,
    fun actor work_id task_type result => .of_returns ?_,
    fun actor work_id worker_id result => .of_returns ?_, fun actor => .of_returns ?_⟩
  -- The scan is complete for values without secret keys, and finds the texts and keys of the
  -- others.
  · constructor
    · intro complete
      by_cases clean : Clean value
      · exact .inr (.inr (complete clean).2.1)
      · rw [clean_iff, not_and_or, not_not, not_not] at clean
        exact clean.imp_right .inl
    · intro cases_ clean
      have free := (clean_iff value).mp clean
      rw [secretless_of_clean clean]
      exact (cases_.resolve_left free.1).resolve_left free.2
  · exact returns_create_record store actor request
  · exact returns_update_record store actor record_id payload version correlation_id
  · exact returns_enqueue_work store actor task_type scope payload priority attempts available_at
  · exact returns_record_action_result actor work_id task_type result
  · exact returns_complete_work actor work_id worker_id result
  · exact returns_sale_export actor

end Payloads

section Example

local instance scannedPlatform : Platform := Sample.platform []

/-- A payload with a key that looks secret itself. -/
def Sample.keyed : List (String × Json) := [("sk-aaaaaaaaaaaaaaaaaaaaaaaa", .int 1)]

-- A key that looks secret is admitted, as only values and the names of keys are scanned.
example :
    Clean (.obj Sample.keyed) ∧ ¬Secretless (.obj Sample.keyed) ∧
      ((create_record ⟨.DEVELOPMENT⟩ Sample.worker
        { entity_type := "KNOWLEDGE", scope := "IAC", payload := Sample.keyed }).run
          (Sample.world Database.empty)).1 = .ok "00000000-0000-4000-8000-000000000000" := by
  refine ⟨by decide +kernel, fun free => free.2.1 ?_, by decide +kernel⟩
  have found : ∃ member ∈ Sample.keyed, ∃ pattern ∈ SECRET_PATTERNS,
      Pattern.search pattern.2 member.1 = true := by decide +kernel
  exact ⟨_, .self, found⟩

end Example

end SeanOs
