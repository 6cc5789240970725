import SeanOs.Sample
import SeanOs.Backup.Preflight
import SeanOs.Store.EvidenceSteps

/-! The evidence of a preflight: recorded once, and accepted again only as it was recorded. -/

namespace SeanOs

open Atomic Calendar

section Recordings

variable [Platform]

/-- The values in which recording the preflight of the two backup outboxes differs. -/
structure Recording (Columns : Type) where
  table : OutboxTable Columns
  verify : Json → Except Error Json
  /-- The member of a receipt that names its plan. -/
  planName : String
  /-- Whether a receipt is about the evidence its row was staged with. -/
  related : Columns → Json → Bool
  missing : String
  unmatched : String
  unrelated : String
  different : String
  unstaged : String
  action : String
  reason : String
  affected : Option String
  details : List (String × Json)

/-- Record the verified receipt of a preflight, or find the one that was recorded. -/
def recordPreflight {Columns : Type} (values : Recording Columns) (store : Store) (actor : Actor)
    (key : String) (receipt : Json) : Op (OutboxRow Columns) := do
  let verified ← lift (values.verify receipt)
  lift (refuseIf (verified.text? values.planName ≠ some key) (.validation values.unmatched))
  let row ← getRow values.table values.missing store actor key
  lift (_authorize store actor row.owner_scope.text [] "write")
  lift (refuseIf (!values.related row.columns verified) (.validation values.unrelated))
  if row.status = .PREFLIGHT_VALIDATED then
    -- A receipt that was never recorded equals none.
    if row.preflight_receipt_payload.any (·.equal verified) then return row
    else throw (.validation values.different)
  else if row.status ≠ .STAGED then throw (.validation values.unstaged)
  else do
    let stamp ← now
    Prog.write .outbox (values.table.update
      (fun row => row.key == key && row.status == .STAGED) fun row =>
        { row with
          status := .PREFLIGHT_VALIDATED, preflight_receipt_payload := some verified
          updated_at := stamp })
    _audit actor values.action .ALLOWED values.reason values.affected values.details none
    getRow values.table values.missing store actor key

/-- The values of the recording of a transfer, whose receipt names no other evidence. -/
def transferRecording (plan_sha256 : String) : Recording TransferColumns where
  table := backupTransferOutbox
  verify := verify_synthetic_backup_adapter_receipt
  planName := "plan_sha256"
  related _ _ := true
  missing := "Backup transfer plan not found"
  unmatched := "Backup preflight receipt does not match the staged plan"
  unrelated := ""
  different := "Backup transfer already has different preflight evidence"
  unstaged := "Only a staged backup transfer may record preflight evidence"
  action := "VALIDATE_BACKUP_TRANSFER_PREFLIGHT"
  reason := "Synthetic adapter proved no encryption, upload, or network action"
  affected := none
  details := [("scope", .str "IAC"), ("plan_sha256", .str plan_sha256),
    ("network_performed", .bool false), ("execution_authorized", .bool false)]

/-- Record the preflight of a transfer. -/
def record_backup_transfer_preflight (store : Store) (actor : Actor) (plan_sha256 : String)
    (receipt : Json) : Op (OutboxRow TransferColumns) :=
  recordPreflight (transferRecording plan_sha256) store actor plan_sha256 receipt

/-- The values of the recording of a restore. -/
def restoreRecording (plan_sha256 : String) : Recording RestoreColumns where
  table := backupRestoreOutbox
  verify := verify_synthetic_backup_restore_preflight
  planName := "restore_plan_sha256"
  related columns verified :=
    verified.text? "upload_receipt_sha256" = some columns.upload_receipt_sha256
  missing := "Backup restore plan not found"
  unmatched := "Backup restore preflight does not match the staged plan"
  unrelated := "Backup restore preflight does not match upload evidence"
  different := "Backup restore already has different preflight evidence"
  unstaged := "Only a staged backup restore may record preflight evidence"
  action := "VALIDATE_BACKUP_RESTORE_PREFLIGHT"
  reason := "Restore evidence validated without credentials, network, download, or decryption"
  affected := some plan_sha256
  details := [("scope", .str "IAC"), ("network_performed", .bool false),
    ("execution_authorized", .bool false)]

/-- Record the preflight of a restore. -/
def record_backup_restore_preflight (store : Store) (actor : Actor) (plan_sha256 : String)
    (receipt : Json) : Op (OutboxRow RestoreColumns) :=
  recordPreflight (restoreRecording plan_sha256) store actor plan_sha256 receipt

section Runs

variable {Columns : Type} {values : Recording Columns} {store : Store} {actor : Actor}
  {key : String} {receipt : Json} {world : World}

/-- A receipt was verified for a row that is there. -/
structure Recordable (values : Recording Columns) (key : String) (receipt : Json) (world : World)
    (verified : Json) (row : OutboxRow Columns) : Prop where
  accepted : values.verify receipt = .ok verified
  named : verified.text? values.planName = some key
  found : values.table.find? key world.db = some row
  related : values.related row.columns verified = true

/-- The row of a recorded receipt. -/
def recorded (verified : Json) (stamp : String) (row : OutboxRow Columns) : OutboxRow Columns :=
  { row with
    status := .PREFLIGHT_VALIDATED, preflight_receipt_payload := some verified
    updated_at := stamp }

/-- Every receipt that a row has is the one that is built for the row. -/
def PreflightsExact (table : OutboxTable Columns) (build : OutboxRow Columns → Json)
    (db : Database) : Prop :=
  ∀ key row, table.find? key db = some row →
    ∀ payload ∈ row.preflight_receipt_payload, payload = build row

end Runs

end Recordings

section Moves

variable {Columns : Type} {table : OutboxTable Columns} {build : OutboxRow Columns → Json}

/-- A move of a row: its preflight is left alone, or recorded while it is staged, as it is built. -/
inductive PreflightMove (build : OutboxRow Columns → Json) (row next : OutboxRow Columns) : Prop
  | kept (kept : EvidenceKept row next)
  | recorded (stamp : String) (staged : row.status = .STAGED)
      (written : next = SeanOs.recorded (build row) stamp row)

/-- A change of an outbox whose rows all move so, and whose new rows have no preflight. -/
structure PreflightsMove (table : OutboxTable Columns) (build : OutboxRow Columns → Json)
    (world changed : World) : Prop where
  rows : ∀ key row, table.find? key world.db = some row →
    ∃ next, table.find? key changed.db = some next ∧ PreflightMove build row next
  new : ∀ key next, table.find? key world.db = none → table.find? key changed.db = some next →
    next.status ≠ .PREFLIGHT_VALIDATED ∧ next.preflight_receipt_payload = none

theorem PreflightsMove.of_kept {world changed : World} (kept : PreflightsKept table world changed) :
    PreflightsMove table build world changed where
  rows key row found := by
    obtain ⟨next, after, same⟩ := kept.kept key row found
    exact ⟨next, after, .kept same⟩
  new := kept.new

/-- The preflights of an outbox: a staged row has none, and a validated one has the one built for it. -/
structure PreflightsSound (table : OutboxTable Columns) (build : OutboxRow Columns → Json)
    (db : Database) : Prop where
  exact_ : PreflightsExact table build db
  staged : ∀ key row, table.find? key db = some row → row.status = .STAGED →
    row.preflight_receipt_payload = none
  validated : ∀ key row, table.find? key db = some row → row.status = .PREFLIGHT_VALIDATED →
    row.preflight_receipt_payload = some (build row)

/-- What is built for a row depends on nothing but what no call changes of it. -/
def BuiltFrom (build : OutboxRow Columns → Json) : Prop :=
  ∀ row next : OutboxRow Columns, next.key = row.key → next.columns = row.columns →
    build next = build row

/-- Moves of rows keep the preflights sound. -/
theorem PreflightsSound.moved {world changed : World} (fixed : BuiltFrom build)
    (sound : PreflightsSound table build world.db)
    (moved : PreflightsMove table build world changed) :
    PreflightsSound table build changed.db := by
  -- A row is new and has no preflight, or it is the row there was, after a move.
  have cases_ (key : String) (next : OutboxRow Columns)
      (there : table.find? key changed.db = some next) :
      (next.status ≠ .PREFLIGHT_VALIDATED ∧ next.preflight_receipt_payload = none) ∨
        ∃ row, table.find? key world.db = some row ∧ PreflightMove build row next := by
    cases found : table.find? key world.db with
    | none => exact .inl (moved.new key next found there)
    | some row =>
      obtain ⟨same, after, move⟩ := moved.rows key row found
      cases after.symm.trans there
      exact .inr ⟨row, rfl, move⟩
  refine ⟨fun key next there payload held => ?_, fun key next there now_ => ?_,
    fun key next there now_ => ?_⟩
  · rcases cases_ key next there with ⟨_, none_⟩ | ⟨row, found, kept | ⟨_, _, rfl⟩⟩
    · rw [none_] at held
      cases held
    · rw [kept.receipt] at held
      rw [fixed row next kept.key kept.columns]
      exact sound.exact_ key row found payload held
    · cases held
      exact (fixed row _ (by rfl) (by rfl)).symm
  · rcases cases_ key next there with ⟨_, none_⟩ | ⟨row, found, kept | ⟨_, _, rfl⟩⟩
    · exact none_
    · exact kept.receipt.trans (sound.staged key row found (kept.staged now_))
    · cases now_
  · rcases cases_ key next there with ⟨other, _⟩ | ⟨row, found, kept | ⟨_, _, rfl⟩⟩
    · exact absurd now_ other
    · rw [kept.receipt, fixed row next kept.key kept.columns]
      exact sound.validated key row found (kept.validated now_)
    · exact congrArg some (fixed row _ (by rfl) (by rfl)).symm

/-- What calls make of a row: its preflight stays, or is recorded once, as it is built for the row. -/
structure PreflightGrown (build : OutboxRow Columns → Json) (row next : OutboxRow Columns) :
    Prop where
  key : next.key = row.key
  columns : next.columns = row.columns
  receipt : next.preflight_receipt_payload = row.preflight_receipt_payload ∨
    row.status = .STAGED ∧ next.preflight_receipt_payload = some (build row)
  unstaged : row.status ≠ .STAGED →
    next.status ≠ .STAGED ∧ next.preflight_receipt_payload = row.preflight_receipt_payload

theorem PreflightGrown.refl (row : OutboxRow Columns) : PreflightGrown build row row :=
  ⟨rfl, rfl, .inl rfl, fun later => ⟨later, rfl⟩⟩

/-- One more move of a row leaves it as calls may make it. -/
theorem PreflightGrown.moved {row next last : OutboxRow Columns} (fixed : BuiltFrom build)
    (grown : PreflightGrown build row next) (move : PreflightMove build next last) :
    PreflightGrown build row last := by
  cases move with
  | kept kept =>
    refine ⟨kept.key.trans grown.key, kept.columns.trans grown.columns, ?_, fun later => ?_⟩
    · rw [kept.receipt]
      exact grown.receipt
    · obtain ⟨unstaged, same⟩ := grown.unstaged later
      exact ⟨fun again => unstaged (kept.staged again), kept.receipt.trans same⟩
  | recorded stamp staged written =>
    subst written
    refine ⟨grown.key, grown.columns, ?_, fun later => absurd staged (grown.unstaged later).1⟩
    -- A row that is staged now has been staged before.
    have before : row.status = .STAGED :=
      by_contra fun later => (grown.unstaged later).1 staged
    exact .inr ⟨before, congrArg some (fixed row next grown.key grown.columns)⟩

/-- Every row that was there is what calls may have made of it. -/
def PreflightsGrown (table : OutboxTable Columns) (build : OutboxRow Columns → Json)
    (start world : World) : Prop :=
  ∀ key row, table.find? key start.db = some row →
    ∃ next, table.find? key world.db = some next ∧ PreflightGrown build row next

theorem PreflightsGrown.moved {start world changed : World} (fixed : BuiltFrom build)
    (grown : PreflightsGrown table build start world)
    (moved : PreflightsMove table build world changed) :
    PreflightsGrown table build start changed := by
  intro key row found
  obtain ⟨next, there, before⟩ := grown key row found
  obtain ⟨last, after, move⟩ := moved.rows key next there
  exact ⟨last, after, before.moved fixed move⟩

/-- The recording of the receipt that is built for a row moves the rows of its outbox. -/
theorem PreflightsMove.record {key stamp : String} {verified : Json} {world : World}
    (built : ∀ row, table.find? key world.db = some row → build row = verified) :
    PreflightsMove table build world (table.update
      (fun row => row.key == key && row.status == .STAGED) (recorded verified stamp) world) := by
  have after (name : String) : table.find? name (table.update
      (fun row => row.key == key && row.status == .STAGED) (recorded verified stamp) world).db =
        (table.find? name world.db).map fun row =>
          if row.key == key && row.status == .STAGED then recorded verified stamp row else row :=
    OutboxTable.find?_update (by exact fun _ => rfl) name world
  constructor
  · intro name row found
    refine ⟨_, by rw [after, found, Option.map_some], ?_⟩
    split
    · next here =>
      simp only [Bool.and_eq_true, beq_iff_eq] at here
      rw [← OutboxTable.key_of_find? found, here.1] at found
      exact .recorded stamp here.2 (by rw [built row found])
    · exact .kept (.refl row)
  · intro name next none_ there
    rw [after, none_] at there
    cases there

end Moves

section Evidence

variable [Platform]

/-- The receipt of a transfer that is built for its row. -/
def builtTransferPreflight (row : OutboxRow TransferColumns) : Json :=
  (synthetic_backup_adapter_receipt row.key).sorted

/-- The receipt of a restore that is built for its row. -/
def builtRestorePreflight (row : OutboxRow RestoreColumns) : Json :=
  (restorePreflight row.key row.columns.upload_receipt_sha256).sorted

/-- A receipt that was verified for a transfer is the one that is built for it. -/
theorem built_of_transfer {plan_sha256 : String} {receipt verified : Json} {world : World}
    {row : OutboxRow TransferColumns} (hex : HexDigests) (distinct : receipt.Distinct)
    (proper : ¬ adapterLayout.Misspelt receipt)
    (recordable : Recordable (transferRecording plan_sha256) plan_sha256 receipt world verified row) :
    verified = receipt.sorted ∧ verified = builtTransferPreflight row := by
  obtain ⟨accepted, rfl⟩ := (verify_adapter_iff receipt verified).mp recordable.accepted
  obtain ⟨plan, -, same⟩ := (exact_adapter_iff receipt).mp
    (((adapterLayout.accepts_iff_exact hex distinct).mpr proper).mp accepted)
  have named := recordable.named
  rw [same] at named
  obtain rfl := Option.some.inj ((named_adapter plan).symm.trans named)
  refine ⟨rfl, same.trans ?_⟩
  rw [builtTransferPreflight, OutboxTable.key_of_find? recordable.found]

/-- A receipt that was verified for a restore is the one that is built for it. -/
theorem built_of_restore {plan_sha256 : String} {receipt verified : Json} {world : World}
    {row : OutboxRow RestoreColumns} (hex : HexDigests) (distinct : receipt.Distinct)
    (proper : ¬ restoreLayout.Misspelt receipt)
    (recordable : Recordable (restoreRecording plan_sha256) plan_sha256 receipt world verified row) :
    verified = receipt.sorted ∧ verified = builtRestorePreflight row := by
  obtain ⟨accepted, rfl⟩ := (verify_restore_iff hex receipt verified).mp recordable.accepted
  obtain ⟨plan, upload, -, -, same⟩ := (exact_restore_iff receipt).mp
    (((restoreLayout.accepts_iff_exact hex distinct).mpr proper).mp accepted)
  have named := recordable.named
  have related := of_decide_eq_true recordable.related
  rw [same] at named related
  obtain rfl := Option.some.inj ((named_restore plan upload).1.symm.trans named)
  have upload_ := Option.some.inj ((named_restore plan upload).2.symm.trans related)
  refine ⟨rfl, same.trans ?_⟩
  rw [builtRestorePreflight, OutboxTable.key_of_find? recordable.found, ← upload_]

/-- The preflights of both backup outboxes are sound. -/
structure EvidenceSound (world : World) : Prop where
  transfers : PreflightsSound backupTransferOutbox builtTransferPreflight world.db
  restores : PreflightsSound backupRestoreOutbox builtRestorePreflight world.db

/-- The rows of both backup outboxes are what calls may have made of them. -/
structure EvidenceGrown (start world : World) : Prop where
  transfers : PreflightsGrown backupTransferOutbox builtTransferPreflight start world
  restores : PreflightsGrown backupRestoreOutbox builtRestorePreflight start world

/-- A step that moves the rows of both backup outboxes as they may be. -/
structure EvidenceMoved (world changed : World) : Prop where
  transfers : PreflightsMove backupTransferOutbox builtTransferPreflight world changed
  restores : PreflightsMove backupRestoreOutbox builtRestorePreflight world changed

theorem builtFrom_transfer : BuiltFrom builtTransferPreflight := fun _ _ key _ => by
  rw [builtTransferPreflight, key, builtTransferPreflight]

theorem builtFrom_restore : BuiltFrom builtRestorePreflight := fun _ _ key columns => by
  rw [builtRestorePreflight, key, columns, builtRestorePreflight]

theorem EvidenceMoved.of_step {world changed : World} (step : EvidenceStep world changed) :
    EvidenceMoved world changed where
  transfers := .of_kept step.transfers
  restores := .of_kept step.restores

theorem EvidenceSound.moved {world changed : World} (sound : EvidenceSound world)
    (moved : EvidenceMoved world changed) : EvidenceSound changed where
  transfers := sound.transfers.moved builtFrom_transfer moved.transfers
  restores := sound.restores.moved builtFrom_restore moved.restores

theorem EvidenceGrown.moved {start world changed : World} (grown : EvidenceGrown start world)
    (moved : EvidenceMoved world changed) : EvidenceGrown start changed where
  transfers := grown.transfers.moved builtFrom_transfer moved.transfers
  restores := grown.restores.moved builtFrom_restore moved.restores

/-- What a call that records a preflight has read: what is built for the row of its plan. -/
inductive EvidenceFact
  | transfer (plan_sha256 : String) (built : Json)
  | restore (plan_sha256 : String) (built : Json)

/-- Whether it is so in a world. -/
def EvidenceFact.Holds : EvidenceFact → World → Prop
  | .transfer plan_sha256 built, world =>
    ∃ row, backupTransferOutbox.find? plan_sha256 world.db = some row ∧
      builtTransferPreflight row = built
  | .restore plan_sha256 built, world =>
    ∃ row, backupRestoreOutbox.find? plan_sha256 world.db = some row ∧
      builtRestorePreflight row = built

/-- What is built for a row stays so, as no step changes what it is built from. -/
theorem EvidenceFact.Holds.moved {fact : EvidenceFact} {world changed : World}
    (holds : fact.Holds world) (moved : EvidenceMoved world changed) : fact.Holds changed := by
  cases fact with
  | transfer plan_sha256 built =>
    obtain ⟨row, found, rfl⟩ := holds
    obtain ⟨next, after, kept | ⟨_, _, rfl⟩⟩ := moved.transfers.rows plan_sha256 row found
    · exact ⟨next, after, builtFrom_transfer row next kept.key kept.columns⟩
    · exact ⟨_, after, rfl⟩
  | restore plan_sha256 built =>
    obtain ⟨row, found, rfl⟩ := holds
    obtain ⟨next, after, kept | ⟨_, _, rfl⟩⟩ := moved.restores.rows plan_sha256 row found
    · exact ⟨next, after, builtFrom_restore row next kept.key kept.columns⟩
    · exact ⟨_, after, rfl⟩

/-- A step of a call, from what the call knew to what it knows then. -/
structure EvidenceMove (known : Option EvidenceFact) (_ : Label) (world changed : World)
    (later : Option EvidenceFact) : Prop where
  moved : (∀ fact, known = some fact → fact.Holds world) → EvidenceMoved world changed
  learned : ∀ fact, later = some fact → known = some fact ∨ fact.Holds world

/-- The programs whose steps move the preflights as they may, from what is known at first. -/
abbrev MovesEvidence {α : Type} (known : Option EvidenceFact) (program : Op α) : Prop :=
  Prog.Follows (fun _ _ => True) EvidenceMove (fun _ _ => True) known program

/-- A program that keeps the preflights moves them so, whatever is known. -/
theorem movesEvidence_of_keeps {α : Type} {program : Op α} (known : Option EvidenceFact)
    (keeps : KeepsEvidence program) : MovesEvidence known program :=
  Prog.Keeps.follows keeps (fun _ _ _ _ step => ⟨fun _ => .of_step step, fun _ same => .inl same⟩)
    fun _ => trivial

section Recorders

variable {Columns : Type} {values : Recording Columns} {key : String} {receipt : Json}
  (fact : String → Json → EvidenceFact) (build : OutboxRow Columns → Json)

/-- A row that was read is known by what is built for it. -/
theorem follows_getRow {table : OutboxTable Columns}
    (holds : ∀ built world, (∃ row, table.find? key world.db = some row ∧ build row = built) →
      (fact key built).Holds world) (missing : String) (store : Store) (actor : Actor) :
    Prog.Follows (fun _ _ => True) EvidenceMove (fun known outcome => ∀ row, outcome = .ok row →
      known = some (fact key (build row)) ∧ ∃ world : World, table.find? key world.db = some row)
        none (getRow table missing store actor key) := by
  intro world _
  dsimp only
  cases found : table.find? key world.db with
  | none =>
    refine ⟨none, ⟨fun _ => .of_step (.refl world), fun _ same => .inl same⟩, ?_⟩
    exact fun _ read => nomatch read
  | some row =>
    refine ⟨some (fact key (build row)), ⟨fun _ => .of_step (.refl world), ?_⟩, ?_⟩
    · rintro _ ⟨⟩
      exact .inr (holds _ world ⟨row, found, rfl⟩)
    show Prog.Follows _ _ _ _ (lift (_authorize store actor row.owner_scope.text [] "read") >>=
      fun _ => Prog.ret row)
    cases _authorize store actor row.owner_scope.text [] "read" with
    | error error => exact fun _ read => nomatch read
    | ok allowed =>
      rintro _ ⟨⟩
      exact ⟨rfl, world, found⟩

/-- A recording writes into the row it has read, whatever happened to the row meanwhile. -/
theorem movesEvidence_recordPreflight
    (holds : ∀ built world, (∃ row, values.table.find? key world.db = some row ∧
      build row = built) → (fact key built).Holds world)
    (exact_ : ∀ (world : World) verified row,
      Recordable values key receipt world verified row → verified = build row)
    (writes : ∀ verified stamp world, (fact key verified).Holds world → EvidenceMoved world
      (values.table.update (fun row => row.key == key && row.status == .STAGED)
        (recorded verified stamp) world)) (store : Store) (actor : Actor) :
    MovesEvidence none (recordPreflight values store actor key receipt) := by
  unfold recordPreflight
  cases accepted : values.verify receipt with
  | error error => exact trivial
  | ok verified =>
    show MovesEvidence none (lift (refuseIf _ _) >>= _)
    by_cases named : verified.text? values.planName = some key
    case neg => rw [refuseIf, if_pos (decide_eq_true named)]; exact trivial
    rw [refuseIf, if_neg (by simpa using named)]
    show MovesEvidence none (getRow values.table values.missing store actor key >>= _)
    refine Prog.Follows.bind (follows_getRow fact build holds values.missing store actor)
      (fun known row read => ?_) fun _ _ _ => trivial
    obtain ⟨rfl, world, found⟩ := read row rfl
    cases _authorize store actor row.owner_scope.text [] "write" with
    | error error => exact trivial
    | ok allowed =>
      show MovesEvidence _ (lift (refuseIf _ _) >>= _)
      by_cases related : values.related row.columns verified = true
      case neg => rw [refuseIf, if_pos (by simpa using related)]; exact trivial
      rw [refuseIf, if_neg (by simpa using related)]
      have built := exact_ world verified row ⟨accepted, named, found, related⟩
      show MovesEvidence _ (if _ then _ else _)
      split
      · split <;> exact trivial
      split
      · exact trivial
      -- Between the read and the write the row may have changed, but not what is built for it.
      refine Prog.Follows.read_bind fun world _ => ⟨_, ⟨fun _ => .of_step (.refl world),
        fun _ same => .inl same⟩, ?_⟩
      refine Prog.Follows.write_bind fun world _ => ⟨_, ⟨fun known => ?_,
        fun _ same => .inl same⟩, ?_⟩
      · exact writes verified _ world (known _ (by rw [built]))
      · exact movesEvidence_of_keeps _ (Prog.Keeps.bind
          (logging_audit _ _ _ _ _ _ _).keepsEvidence fun _ =>
            (logging_getRow _ _ _ _ _).keepsEvidence)

end Recorders

/-- The calls on the outboxes, of any workers, and those that record a preflight as it is written. -/
inductive PreflightCall : Op Unit → Prop
  | transfer (store : Store) (actor : Actor) (plan_sha256 : String) {receipt : Json}
      (distinct : receipt.Distinct) (proper : ¬ adapterLayout.Misspelt receipt) :
      PreflightCall (record_backup_transfer_preflight store actor plan_sha256 receipt).call
  | restore (store : Store) (actor : Actor) (plan_sha256 : String) {receipt : Json}
      (distinct : receipt.Distinct) (proper : ¬ restoreLayout.Misspelt receipt) :
      PreflightCall (record_backup_restore_preflight store actor plan_sha256 receipt).call
  | outbox {worker_id : String} {program : Op Unit} (called : OutboxCall worker_id program) :
      PreflightCall program

/-- Every such call moves the preflights as it may. -/
theorem PreflightCall.moves {program : Op Unit} (hex : HexDigests) (called : PreflightCall program) :
    MovesEvidence none program := by
  cases called with
  | transfer store actor plan_sha256 distinct proper =>
    refine Prog.Follows.call (movesEvidence_recordPreflight .transfer builtTransferPreflight
      ?_ ?_ ?_ store actor)
    · exact fun _ _ known => known
    · exact fun _ _ _ recordable => (built_of_transfer hex distinct proper recordable).2
    intro verified stamp world known
    refine ⟨.record fun row found => ?_, .of_kept (.of_rows rfl)⟩
    obtain ⟨there, found_, built⟩ := known
    cases found.symm.trans found_
    exact built
  | restore store actor plan_sha256 distinct proper =>
    refine Prog.Follows.call (movesEvidence_recordPreflight .restore builtRestorePreflight
      ?_ ?_ ?_ store actor)
    · exact fun _ _ known => known
    · exact fun _ _ _ recordable => (built_of_restore hex distinct proper recordable).2
    intro verified stamp world known
    refine ⟨.of_kept (.of_rows rfl), .record fun row found => ?_⟩
    obtain ⟨there, found_, built⟩ := known
    cases found.symm.trans found_
    exact built
  | outbox called => exact movesEvidence_of_keeps none called.keepsEvidence

/-- The runs of such calls, in which anything else keeps preflights and adds rows without them. -/
abbrev PreflightRun {κ : Type} [DecidableEq κ] :
    Pool κ World Label Error → Pool κ World Label Error → Prop :=
  Pool.Reaches (fun _ => PreflightCall) EvidenceStep fun _ _ _ => True

section Runs

variable {κ : Type} [DecidableEq κ] {start : World} {middle last : Pool κ World Label Error}

/-- The calls of a pool move the preflights as they may, and know what is so, under an invariant. -/
abbrev EvidencePhased (invariant : World → Prop) (pool : Pool κ World Label Error) : Prop :=
  Pool.Phased (fun _ _ _ => True) (fun _ => EvidenceMove)
    (Pool.Knowing invariant (fun known fact => known = some fact) EvidenceFact.Holds) pool

/-- What every such move keeps is kept by every run, from any pool of such calls. -/
theorem PreflightRun.since (hex : HexDigests) {invariant : World → Prop}
    (kept : ∀ world changed, invariant world → EvidenceMoved world changed → invariant changed)
    (initial : EvidencePhased invariant middle) (run : PreflightRun middle last) :
    EvidencePhased invariant last := by
  refine Pool.Reaches.knowing_since ?_ (fun _ _ called => called.moves hex)
    (fun _ _ world changed known later holds knows _ move => ?_)
    (fun world changed holds step => ?_) initial run
  · exact fun _ same => nomatch same
  · have moved := move.moved knows
    refine ⟨kept world changed holds moved, fun fact so => so.moved moved, fun fact learned => ?_⟩
    exact (move.learned fact learned).imp_right fun so => so.moved moved
  · have moved := EvidenceMoved.of_step step
    exact ⟨kept world changed holds moved, fun fact so => so.moved moved⟩

/-- Sound preflights stay so in every run, and no call knows anything that is not so. -/
theorem PreflightRun.phased (hex : HexDigests) (sound : EvidenceSound start)
    (run : PreflightRun (Pool.idle start) last) : EvidencePhased EvidenceSound last :=
  run.since hex (fun _ _ sound moved => sound.moved moved)
    ⟨fun _ => none, ⟨sound, fun _ _ same => nomatch same⟩, by exact fun _ => trivial⟩

theorem PreflightRun.sound (hex : HexDigests) (sound : EvidenceSound start)
    (run : PreflightRun (Pool.idle start) last) : EvidenceSound last.shared := by
  obtain ⟨_, ⟨kept, _⟩, _⟩ := run.phased hex sound
  exact kept

/-- From any state of a run on, every row is what calls may have made of it. -/
theorem PreflightRun.grown (hex : HexDigests) (initial : EvidencePhased EvidenceSound middle)
    (run : PreflightRun middle last) : EvidenceGrown middle.shared last.shared := by
  obtain ⟨phases, ⟨_, knows⟩, follows⟩ := initial
  -- At first every row is what it was.
  have same : EvidenceGrown middle.shared middle.shared :=
    ⟨fun _ row found => ⟨row, found, .refl row⟩, fun _ row found => ⟨row, found, .refl row⟩⟩
  obtain ⟨_, ⟨grown, _⟩, _⟩ := run.since hex (fun _ _ grown moved => grown.moved moved)
    ⟨phases, ⟨same, knows⟩, follows⟩
  exact grown

end Runs

end Evidence

section Examples

open Sample

/-- The digest of a plan. -/
def Sample.planDigest : String := "64879f7d6b960a01909762d911a32d4582c20010c5641ee90278b644a9e3b525"

/-- The text of the receipt of that plan without its digest, with two of its members as written. -/
def Sample.receiptText (artifact_encrypted validated : String) : String :=
  "\x7b\"adapter\":\"SYNTHETIC_NO_NETWORK\",\"artifact_encrypted\":" ++ artifact_encrypted ++
    ",\"execution_authorized\":false,\"format\":\"" ++ SYNTHETIC_RECEIPT_FORMAT ++
    "\",\"network_performed\":false,\"plan_sha256\":\"" ++ planDigest ++
    "\",\"provider_receipt_included\":false," ++
    "\"status\":\"READY_FOR_ENCRYPTION_AND_EXACT_APPROVAL\",\"uploaded\":false,\"validated\":" ++
    validated ++ "\x7d"

/-- The digests of the receipt as it is built, and of one that writes two truth values as numbers. -/
def Sample.receiptDigests : List (String × String) := [
  (receiptText "false" "true", "f57d353cd1632ef65b4fd7ff29494e64e13d423f100e5a1c7d793506c56aa094"),
  (receiptText "0" "1", "9192964223c061a5cabf113c297536dc9105ec0300b4e5ea6de4a5bf84ec6f08")]

/-- The digest of any other text. -/
def Sample.otherDigest : String := String.ofList (List.replicate 64 '0')

local instance preflightPlatform : Platform :=
  { platform receiptDigests with
    sha256 := fun text => ((receiptDigests.find? (·.1 == text)).map (·.2)).getD otherDigest }

end Examples

end SeanOs
