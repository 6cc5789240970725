import SeanOs.Backup.Restore
import SeanOs.SecurityLaws
import SeanOs.Lib.JsonOrder

/-! Receipts that nothing was done: how they are built, and which objects are accepted as one. -/

namespace SeanOs

variable [Platform]

open Pattern

/-- What a member of a receipt holds: a fixed text, a truth value, or a digest. -/
inductive Field where
  | text (value : String)
  | flag (value : Bool)
  | digest

/-- The members of a receipt under their names, in the order it is built in. -/
structure Layout where
  fields : List (String × Field)
  /-- The names differ, also from that of the digest of the receipt. -/
  distinct : ("receipt_sha256" :: fields.map (·.1)).Nodup
  /-- No name is one of a secret. -/
  harmless : ∀ name ∈ "receipt_sha256" :: fields.map (·.1),
    isPlainKey name = true ∧ name ∉ SENSITIVE_KEYS
  /-- No fixed text looks secret. -/
  clean : ∀ name value, (name, Field.text value) ∈ fields → Clean (.str value)

namespace Layout

variable (layout : Layout)

/-- The value of a member, from the digests of the receipt and what stands for its truth values. -/
def item (hash : String → String) (flags : String → Json) : String × Field → Json
  | (_, .text value) => .str value
  | (name, .flag _) => flags name
  | (name, .digest) => .str (hash name)

/-- The members of a receipt before its own digest. -/
def members (hash : String → String) (flags : String → Json) : List (String × Json) :=
  layout.fields.map fun field => (field.1, item hash flags field)

/-- The members of a receipt, the digest of the others behind them. -/
def built (hash : String → String) (flags : String → Json) : List (String × Json) :=
  let members := layout.members hash flags
  members ++ [("receipt_sha256", .str (_digest_envelope (.obj members) "receipt_sha256"))]

/-- A receipt with its digest. -/
def receipt (hash : String → String) (flags : String → Json) : Json :=
  .obj (layout.built hash flags)

/-- The truth values of a layout. -/
def truths (name : String) : Json :=
  .bool (layout.fields.any fun field => field.1 == name && match field.2 with
    | .flag value => value
    | _ => false)

end Layout

/-- The digests of the library are lower-case hexadecimal digits, sixty-four of them. -/
def HexDigests : Prop := ∀ text, isSha256 (.str (Platform.sha256 text)) = true

/-- A text in the form of a digest is clean. -/
theorem clean_sha256 {text : String} (digest : isSha256 (.str text) = true) :
    Clean (.str text) := by
  refine clean_plain fun c member => ?_
  have kind := ((fullmatch_run _ 64 (some 64) text).mp digest).1 c member
  have plain : (c.isLower || c.isDigit || c == '_') = true := by
    rw [Bool.or_eq_true, Bool.and_eq_true, decide_eq_true_eq, decide_eq_true_eq] at kind
    rcases kind with digit | ⟨first, last⟩
    · rw [digit, Bool.or_true, Bool.true_or]
    · have lower : c.isLower = true := by
        rw [Char.isLower, Bool.and_eq_true, decide_eq_true_eq, decide_eq_true_eq]
        exact ⟨first, le_trans last (by decide)⟩
      rw [lower, Bool.true_or, Bool.true_or]
  obtain ⟨-, small, space, dash, -⟩ := plainCharacter plain
  refine ⟨dash, ?_, space⟩
  rintro rfl
  exact absurd small (by decide)

omit [Platform] in
/-- What equals a truth value is a number or a truth value. -/
theorem numeric_of_equal {value : Json} {truth : Bool}
    (same : Json.equal value (.bool truth) = true) : (Json.numeric value).isSome := by
  cases value with
  | null | str _ | arr _ | obj _ => simp [Json.equal, Json.numeric] at same
  | bool _ | int _ => rfl
  | float number => cases number <;> rfl

omit [Platform] in
theorem text_of_sha256 {value : Json} (digest : isSha256 value = true) :
    ∃ text, value = .str text := by
  cases value with
  | str text => exact ⟨text, rfl⟩
  | _ => cases digest

omit [Platform] in
theorem text?_of_getD {value : Json} {name text : String} (same : value.getD name = .str text) :
    value.text? name = some text := by
  rw [Json.text?]
  cases found : value.get? name with
  | none => rw [Json.getD, found] at same; cases same
  | some item =>
    rw [Json.getD, found] at same
    obtain rfl : item = .str text := same
    rfl

omit [Platform] in
theorem getD_of_text? {value : Json} {name text : String} (same : value.text? name = some text) :
    value.getD name = .str text := by
  rw [Json.text?] at same
  cases found : value.get? name with
  | none => rw [found] at same; cases same
  | some item =>
    rw [found] at same
    cases item with
    | str other =>
      obtain rfl : other = text := Option.some.inj same
      rw [Json.getD, found]
      rfl
    | _ => cases same

namespace Layout

variable (layout : Layout)

/-- What the verification of a receipt asks of its members, and of nothing else. -/
def holds (receipt : Json) : String × Field → Prop
  | (name, .text value) => Json.equal (receipt.getD name) (.str value) = true
  | (name, .flag value) => Json.equal (receipt.getD name) (.bool value) = true
  | (name, .digest) => isSha256 (receipt.getD name) = true

/-- What the verification of a receipt asks for. -/
structure Accepts (receipt : Json) : Prop where
  names : receipt.hasExactly ("receipt_sha256" :: layout.fields.map (·.1)) = true
  clean : Clean receipt
  fields : ∀ field ∈ layout.fields, holds receipt field
  sealed : receipt.text? "receipt_sha256" = some (_digest_envelope receipt "receipt_sha256")

/-- The members of a layout that must have exactly one value. -/
def required : List (String × Json) := layout.fields.filterMap fun field => match field.2 with
  | .text value => some (field.1, .str value)
  | .flag value => some (field.1, .bool value)
  | .digest => none

/-- The members of a layout that must be digests. -/
def hashNames : List String := layout.fields.filterMap fun field => match field.2 with
  | .digest => some field.1
  | _ => none

/-- A verification asks for the values of some members, and for digests in the others. -/
theorem fields_iff (receipt : Json) :
    (∀ field ∈ layout.fields, holds receipt field) ↔ receipt.meets layout.required = true ∧
      ∀ name ∈ layout.hashNames, isSha256 (receipt.getD name) = true := by
  rw [Json.meets, required, hashNames, List.all_eq_true]
  induction layout.fields with
  | nil => simp
  | cons field fields ih =>
    obtain ⟨name, kind⟩ := field
    rw [List.forall_mem_cons, ih]
    -- Each kind of member is asked for by one of the two.
    cases kind with
    | text _ | flag _ => simp [holds, and_assoc]
    | digest => simp [holds, and_left_comm]

/-- What stands for the truth values of a receipt equals them, as the language compares values. -/
def Spells (flags : String → Json) : Prop :=
  ∀ name value, (name, Field.flag value) ∈ layout.fields →
    Json.equal (flags name) (.bool value) = true

/-- All digests of a receipt are in the form of one. -/
def Hashes (hash : String → String) : Prop :=
  ∀ name, (name, Field.digest) ∈ layout.fields → isSha256 (.str (hash name)) = true

section Members

variable {layout} {hash : String → String} {flags : String → Json}

theorem names_members : (layout.members hash flags).map (·.1) = layout.fields.map (·.1) := by
  rw [members, List.map_map]
  rfl

theorem names_built : ((layout.built hash flags).map (·.1)).Perm
    ("receipt_sha256" :: layout.fields.map (·.1)) := by
  rw [built, List.map_append, names_members]
  exact List.perm_append_singleton _ _

theorem distinct_built : ((layout.built hash flags).map (·.1)).Nodup :=
  (names_built.nodup_iff).mpr layout.distinct

/-- A member of a built receipt is found under its name. -/
theorem getD_built {own : List (String × Json)} (perm : own.Perm (layout.built hash flags))
    {field : String × Field} (known : field ∈ layout.fields) :
    (Json.obj own).getD field.1 = item hash flags field := by
  have distinct : (own.map (·.1)).Nodup := ((perm.map (·.1)).nodup_iff).mpr distinct_built
  rw [Json.getD, Json.get?_of_mem distinct (perm.mem_iff.mpr (List.mem_append_left _
    (List.mem_map_of_mem known)))]
  rfl

/-- The digest of a receipt is that of its other members. -/
theorem digest_eq {own : List (String × Json)} (distinct : (own.map (·.1)).Nodup) {last : Json}
    (perm : own.Perm (layout.members hash flags ++ [("receipt_sha256", last)])) :
    _digest_envelope (.obj own) "receipt_sha256" =
      _digest_envelope (.obj (layout.members hash flags)) "receipt_sha256" := by
  rw [_digest_envelope, _digest_envelope, Json.without, Json.without]
  refine congrArg Platform.sha256 (Json.canonical_perm ?_ ?_)
  · exact distinct.sublist (List.filter_sublist.map _)
  · -- The digest itself is left out on either side.
    have kept := perm.filter (·.1 ≠ "receipt_sha256")
    rw [List.filter_append] at kept
    simpa using kept

end Members

/-- The receipts that are accepted are those that are built, with any spelling of truth values. -/
theorem accepts_iff (hex : HexDigests) {own : List (String × Json)}
    (distinct : (own.map (·.1)).Nodup) :
    layout.Accepts (.obj own) ↔ ∃ hash flags, layout.Hashes hash ∧ layout.Spells flags ∧
      own.Perm (layout.built hash flags) := by
  constructor
  · intro accepted
    let hash := fun name => ((Json.obj own).text? name).getD ""
    let flags := fun name => (Json.obj own).getD name
    -- Every member is the one that is built from the digests and the truth values it has.
    have each (field : String × Field) (known : field ∈ layout.fields) :
        (Json.obj own).getD field.1 = item hash flags field := by
      have held := accepted.fields field known
      obtain ⟨name, kind⟩ := field
      cases kind with
      | text value => exact Json.equal_text.mp held
      | flag value => rfl
      | digest =>
        obtain ⟨text, same⟩ := text_of_sha256 held
        show (Json.obj own).getD name = .str (((Json.obj own).text? name).getD "")
        rw [same, text?_of_getD same]
        rfl
    have perm := Json.perm_of_hasExactly distinct layout.distinct accepted.names
    have same : (layout.fields.map (·.1)).map (fun name => (name, (Json.obj own).getD name)) =
        layout.members hash flags := by
      rw [List.map_map]
      exact List.map_congr_left fun field known => congrArg (field.1, ·) (each field known)
    rw [List.map_cons, same] at perm
    have behind := perm.trans (List.perm_append_singleton _ _).symm
    have sealed_ := accepted.sealed
    rw [digest_eq distinct behind] at sealed_
    rw [getD_of_text? sealed_] at behind
    refine ⟨hash, flags, fun name known => ?_, fun name value known => ?_, behind⟩
    · show isSha256 (item hash flags (name, .digest)) = true
      rw [← each _ known]
      exact accepted.fields _ known
    · exact accepted.fields _ known
  · rintro ⟨hash, flags, hashes, spells, perm⟩
    refine ⟨Json.hasExactly_of_perm ((perm.map _).trans names_built), ?_, ?_, ?_⟩
    · -- The names are harmless, and so is each kind of member.
      refine (clean_obj own).mpr fun member there => ?_
      have built_ := perm.mem_iff.mp there
      obtain ⟨plain, harmless⟩ :=
        layout.harmless _ (names_built.mem_iff.mp (List.mem_map_of_mem built_))
      refine ⟨by rwa [normalizedKey_plain plain], ?_⟩
      rcases List.mem_append.mp built_ with inside | last
      · obtain ⟨⟨name, kind⟩, known, rfl⟩ := List.mem_map.mp inside
        cases kind with
        | text value => exact layout.clean name value known
        | flag value => exact clean_numeric (numeric_of_equal (spells name value known))
        | digest => exact clean_sha256 (hashes name known)
      · obtain rfl := List.mem_singleton.mp last
        exact clean_sha256 (hex _)
    · rintro ⟨name, kind⟩ known
      have there := getD_built perm known
      cases kind with
      | text value => exact Json.equal_text.mpr there
      | flag value =>
        show Json.equal ((Json.obj own).getD name) (.bool value) = true
        rw [there]
        exact spells name value known
      | digest =>
        show isSha256 ((Json.obj own).getD name) = true
        rw [there]
        exact hashes name known
    · rw [Json.text?, Json.get?_of_mem distinct (perm.mem_iff.mpr (List.mem_append_right _
        (List.mem_singleton_self _))), digest_eq distinct perm]

/-- The truth values of a layout are spelled as truth values. -/
theorem truths_flag {name : String} {value : Bool} (known : (name, Field.flag value) ∈ layout.fields) :
    layout.truths name = .bool value := by
  refine congrArg Json.bool ?_
  cases value with
  | true => exact List.any_eq_true.mpr ⟨_, known, by simp⟩
  | false =>
    -- No other member has the name.
    rw [List.any_eq_false]
    intro field there named
    rw [Bool.and_eq_true, beq_iff_eq] at named
    obtain rfl := List.inj_on_of_nodup_map (List.nodup_cons.mp layout.distinct).2 there known named.1
    exact absurd named.2 Bool.false_ne_true

theorem spells_truths : layout.Spells layout.truths := by
  intro name value known
  rw [truths_flag layout known]
  cases value <;> rfl

theorem isScalar_built {hash : String → String} {flags : String → Json}
    (spells : layout.Spells flags) :
    ∀ member ∈ layout.built hash flags, Json.isScalar member.2 = true := by
  intro member there
  rcases List.mem_append.mp there with inside | last
  · obtain ⟨⟨name, kind⟩, known, rfl⟩ := List.mem_map.mp inside
    cases kind with
    | text _ | digest => rfl
    | flag value =>
      have number := numeric_of_equal (spells name value known)
      show Json.isScalar (flags name) = true
      cases same : flags name with
      | arr _ | obj _ =>
        rw [same] at number
        cases number
      | _ => rfl
  · obtain rfl := List.mem_singleton.mp last
    rfl

/-- A receipt that some plan has exactly. -/
def Exact (receipt : Json) : Prop :=
  ∃ hash, layout.Hashes hash ∧ receipt.sorted = (layout.receipt hash layout.truths).sorted

/-- A receipt that writes truth values as the numbers they equal, under a digest of its own. -/
def Misspelt (receipt : Json) : Prop :=
  ∃ hash flags, layout.Hashes hash ∧ layout.Spells flags ∧
    (∃ name value, (name, Field.flag value) ∈ layout.fields ∧ flags name ≠ .bool value) ∧
    receipt.sorted = (layout.receipt hash flags).sorted

/-- A receipt is accepted where it is exactly one that is built, and where it is a misspelt one. -/
theorem accepts_cases (hex : HexDigests) {own : List (String × Json)}
    (distinct : (own.map (·.1)).Nodup) :
    layout.Accepts (.obj own) ↔ layout.Exact (.obj own) ∨ layout.Misspelt (.obj own) := by
  rw [accepts_iff layout hex distinct]
  constructor
  · rintro ⟨hash, flags, hashes, spells, perm⟩
    by_cases proper : ∀ name value, (name, Field.flag value) ∈ layout.fields →
        flags name = .bool value
    · -- Truth values that are spelled as such are those of the layout.
      have same : layout.members hash flags = layout.members hash layout.truths := by
        refine List.map_congr_left fun field known => ?_
        obtain ⟨name, kind⟩ := field
        cases kind with
        | text _ | digest => rfl
        | flag value =>
          refine congrArg (name, ·) ?_
          show flags name = layout.truths name
          rw [proper name value known, truths_flag layout known]
      refine Or.inl ⟨hash, hashes, ?_⟩
      rw [receipt, Json.sorted_eq_iff distinct (isScalar_built layout (spells_truths layout))]
      rwa [built, ← same]
    · push Not at proper
      obtain ⟨name, value, known, other⟩ := proper
      exact Or.inr ⟨hash, flags, hashes, spells, ⟨name, value, known, other⟩,
        (Json.sorted_eq_iff distinct (isScalar_built layout spells)).mpr perm⟩
  · rintro (⟨hash, hashes, same⟩ | ⟨hash, flags, hashes, spells, -, same⟩)
    · exact ⟨hash, layout.truths, hashes, spells_truths layout,
        (Json.sorted_eq_iff distinct (isScalar_built layout (spells_truths layout))).mp same⟩
    · exact ⟨hash, flags, hashes, spells,
        (Json.sorted_eq_iff distinct (isScalar_built layout spells)).mp same⟩

/-- No misspelt receipt is one that is built. -/
theorem not_exact_of_misspelt {own : List (String × Json)} (distinct : (own.map (·.1)).Nodup)
    (misspelt : layout.Misspelt (.obj own)) : ¬ layout.Exact (.obj own) := by
  -- Both have their truth values under the same names.
  rintro ⟨proper, -, same⟩
  obtain ⟨hash, flags, -, spells, ⟨name, value, known, other⟩, written⟩ := misspelt
  have one := getD_built ((Json.sorted_eq_iff distinct
    (isScalar_built layout (spells_truths layout))).mp same) known
  have two := getD_built ((Json.sorted_eq_iff distinct (isScalar_built layout spells)).mp written)
    known
  rw [one] at two
  refine other (two.symm.trans ?_)
  exact truths_flag layout known

/-- A receipt is accepted exactly where it is one that is built, unless it is misspelt. -/
theorem accepts_iff_exact (hex : HexDigests) {receipt : Json} (distinct : receipt.Distinct) :
    (layout.Accepts receipt ↔ layout.Exact receipt) ↔ ¬ layout.Misspelt receipt := by
  cases receipt with
  | obj own =>
    rw [accepts_cases layout hex distinct]
    constructor
    · intro same misspelt
      exact not_exact_of_misspelt layout distinct misspelt (same.mp (.inr misspelt))
    · intro proper
      exact ⟨fun either => either.resolve_right proper, .inl⟩
  | _ =>
    -- A value that is no object is neither accepted nor built.
    have refused {value : Json} (none_ : value.keys? = none) : ¬ layout.Accepts value := by
      intro accepted
      have names := accepted.names
      rw [Json.hasExactly, none_] at names
      cases names
    refine ⟨fun _ misspelt => ?_, fun _ => ⟨fun accepted => absurd accepted (refused rfl), ?_⟩⟩
    · obtain ⟨_, _, _, _, _, same⟩ := misspelt
      cases same
    · rintro ⟨_, _, same⟩
      cases same

end Layout

/-- The layout of the receipt of a preflight that used no network. -/
def adapterLayout : Layout where
  fields := [("format", .text SYNTHETIC_RECEIPT_FORMAT), ("plan_sha256", .digest),
    ("adapter", .text "SYNTHETIC_NO_NETWORK"), ("validated", .flag true),
    ("artifact_encrypted", .flag false), ("uploaded", .flag false),
    ("network_performed", .flag false), ("execution_authorized", .flag false),
    ("provider_receipt_included", .flag false),
    ("status", .text "READY_FOR_ENCRYPTION_AND_EXACT_APPROVAL")]
  distinct := by decide
  harmless := by decide
  clean name value member := by
    simp only [List.mem_cons, Prod.mk.injEq, Field.text.injEq, reduceCtorEq, and_false, false_or,
      List.not_mem_nil, or_false] at member
    rcases member with ⟨-, rfl⟩ | ⟨-, rfl⟩ | ⟨-, rfl⟩
    all_goals
      rw [Clean, findings_str]
      rfl

def RESTORE_PREFLIGHT_FORMAT : String := "sean-os-synthetic-backup-restore-preflight/v1"

/-- The layout of the receipt of the preflight of a restore. -/
def restoreLayout : Layout where
  fields := [("format", .text RESTORE_PREFLIGHT_FORMAT), ("restore_plan_sha256", .digest),
    ("upload_receipt_sha256", .digest), ("validated", .flag true),
    ("credentials_resolved", .flag false), ("network_performed", .flag false),
    ("downloaded", .flag false), ("decrypted", .flag false), ("restored", .flag false),
    ("execution_authorized", .flag false),
    ("status", .text "READY_FOR_DISTINCT_RESTORE_APPROVAL")]
  distinct := by decide
  harmless := by decide
  clean name value member := by
    simp only [List.mem_cons, Prod.mk.injEq, Field.text.injEq, reduceCtorEq, and_false, false_or,
      List.not_mem_nil, or_false] at member
    rcases member with ⟨-, rfl⟩ | ⟨-, rfl⟩
    all_goals
      rw [Clean, findings_str]
      rfl

/-- What the preflight of a plan builds, which is verified before: a receipt of its digest alone. -/
def synthetic_backup_adapter_receipt (plan_sha256 : String) : Json :=
  adapterLayout.receipt (fun _ => plan_sha256) adapterLayout.truths

/-- The digests a receipt of a restore is built with. -/
def restoreHashes (restore_plan_sha256 upload_receipt_sha256 : String) (name : String) : String :=
  if name = "restore_plan_sha256" then restore_plan_sha256 else upload_receipt_sha256

/-- What the preflight of a restore builds from the digests of its verified plan. -/
def restorePreflight (restore_plan_sha256 upload_receipt_sha256 : String) : Json :=
  restoreLayout.receipt (restoreHashes restore_plan_sha256 upload_receipt_sha256)
    restoreLayout.truths

/-- Validate a restore plan without any action. -/
def synthetic_backup_restore_preflight (plan : Json) : Except Error Json := do
  let value ← verify_isolated_backup_restore_plan plan
  return (restorePreflight ((value.text? "plan_sha256").getD "")
    ((value.text? "upload_receipt_sha256").getD "")).sorted

/-- The members of the preflight receipt of a restore. -/
def RESTORE_PREFLIGHT_FIELDS : List String :=
  ["format", "restore_plan_sha256", "upload_receipt_sha256", "validated", "credentials_resolved",
    "network_performed", "downloaded", "decrypted", "restored", "execution_authorized", "status",
    "receipt_sha256"]

/-- The members a preflight receipt of a restore must have with exactly these values. -/
def requiredRestorePreflight : List (String × Json) :=
  [("format", .str RESTORE_PREFLIGHT_FORMAT), ("validated", .bool true),
    ("credentials_resolved", .bool false), ("network_performed", .bool false),
    ("downloaded", .bool false), ("decrypted", .bool false), ("restored", .bool false),
    ("execution_authorized", .bool false),
    ("status", .str "READY_FOR_DISTINCT_RESTORE_APPROVAL")]

/-- Verify the receipt of the preflight of a restore. -/
def verify_synthetic_backup_restore_preflight (receipt : Json) : Except Error Json := do
  refuseIf (!receipt.hasExactly RESTORE_PREFLIGHT_FIELDS)
    (.backup "Synthetic restore preflight fields are incomplete")
  refuseIf (secret_findings receipt "$" ≠ [] || !receipt.meets requiredRestorePreflight)
    (.backup "Synthetic restore preflight violates its no-action contract")
  _sha256 "restore_plan_sha256" (receipt.getD "restore_plan_sha256")
  _sha256 "upload_receipt_sha256" (receipt.getD "upload_receipt_sha256")
  _sha256 "receipt_sha256" (receipt.getD "receipt_sha256")
  refuseIf (receipt.text? "receipt_sha256" ≠ some (_digest_envelope receipt "receipt_sha256"))
    (.backup "Synthetic restore preflight is invalid or modified")
  return receipt.sorted

/-- A verification of a receipt accepts what its layout asks for. -/
theorem verify_adapter_iff (receipt value : Json) :
    verify_synthetic_backup_adapter_receipt receipt = .ok value ↔
      adapterLayout.Accepts receipt ∧ value = receipt.sorted := by
  have names : receipt.hasExactly SYNTHETIC_RECEIPT_FIELDS =
      receipt.hasExactly ("receipt_sha256" :: adapterLayout.fields.map (·.1)) := by
    show receipt.hasExactly (adapterLayout.fields.map (·.1) ++ ["receipt_sha256"]) = _
    exact Json.hasExactly_names (List.perm_append_singleton _ _) receipt
  rw [verify_synthetic_backup_adapter_receipt, refuseIf_bind, refuseIf_bind, refuseIf_bind,
    refuseIf_bind, return_ok, names, Bool.or_eq_false_iff, Bool.not_eq_false', Bool.not_eq_false',
    Bool.not_eq_false', decide_eq_false_iff_not, decide_eq_false_iff_not, not_not, not_not]
  constructor
  · rintro ⟨exact_, ⟨clean, met⟩, hash, sealed_, same⟩
    refine ⟨⟨exact_, clean, (adapterLayout.fields_iff receipt).mpr ⟨met, ?_⟩, sealed_⟩, same⟩
    exact fun name there => List.mem_singleton.mp there ▸ hash
  · rintro ⟨accepted, same⟩
    obtain ⟨met, hashes⟩ := (adapterLayout.fields_iff receipt).mp accepted.fields
    exact ⟨accepted.names, ⟨accepted.clean, met⟩, hashes _ (List.mem_singleton_self _),
      accepted.sealed, same⟩

/-- The verification of the receipt of a restore also asks for the form of its own digest. -/
theorem verify_restore_iff (hex : HexDigests) (receipt value : Json) :
    verify_synthetic_backup_restore_preflight receipt = .ok value ↔
      restoreLayout.Accepts receipt ∧ value = receipt.sorted := by
  have names : receipt.hasExactly RESTORE_PREFLIGHT_FIELDS =
      receipt.hasExactly ("receipt_sha256" :: restoreLayout.fields.map (·.1)) := by
    show receipt.hasExactly (restoreLayout.fields.map (·.1) ++ ["receipt_sha256"]) = _
    exact Json.hasExactly_names (List.perm_append_singleton _ _) receipt
  rw [verify_synthetic_backup_restore_preflight, refuseIf_bind, refuseIf_bind, _sha256,
    refuseIf_bind, _sha256, refuseIf_bind, _sha256, refuseIf_bind, refuseIf_bind, return_ok, names,
    Bool.or_eq_false_iff, Bool.not_eq_false', Bool.not_eq_false', Bool.not_eq_false',
    Bool.not_eq_false', Bool.not_eq_false', decide_eq_false_iff_not, decide_eq_false_iff_not,
    not_not, not_not]
  constructor
  · rintro ⟨exact_, ⟨clean, met⟩, plan, upload, -, sealed_, same⟩
    refine ⟨⟨exact_, clean, (restoreLayout.fields_iff receipt).mpr ⟨met, ?_⟩, sealed_⟩, same⟩
    intro name there
    rcases List.mem_pair.mp there with rfl | rfl
    · exact plan
    · exact upload
  · rintro ⟨accepted, same⟩
    obtain ⟨met, hashes⟩ := (restoreLayout.fields_iff receipt).mp accepted.fields
    refine ⟨accepted.names, ⟨accepted.clean, met⟩, hashes _ (List.mem_pair.mpr (.inl rfl)),
      hashes _ (List.mem_pair.mpr (.inr rfl)), ?_, accepted.sealed, same⟩
    rw [getD_of_text? accepted.sealed]
    exact hex _

/-- A receipt is exactly one that is built where some plan has it. -/
theorem exact_adapter_iff (receipt : Json) :
    adapterLayout.Exact receipt ↔ ∃ plan_sha256, isSha256 (.str plan_sha256) = true ∧
      receipt.sorted = (synthetic_backup_adapter_receipt plan_sha256).sorted := by
  constructor
  · rintro ⟨hash, hashes, same⟩
    exact ⟨hash "plan_sha256", hashes _ (by simp [adapterLayout]), same⟩
  · rintro ⟨plan_sha256, digest, same⟩
    exact ⟨fun _ => plan_sha256, fun _ _ => digest, same⟩

/-- A receipt of a restore is exactly one that is built where some plan and upload have it. -/
theorem exact_restore_iff (receipt : Json) :
    restoreLayout.Exact receipt ↔ ∃ restore_plan_sha256 upload_receipt_sha256,
      isSha256 (.str restore_plan_sha256) = true ∧ isSha256 (.str upload_receipt_sha256) = true ∧
        receipt.sorted = (restorePreflight restore_plan_sha256 upload_receipt_sha256).sorted := by
  constructor
  · rintro ⟨hash, hashes, same⟩
    exact ⟨hash "restore_plan_sha256", hash "upload_receipt_sha256",
      hashes _ (by simp [restoreLayout]), hashes _ (by simp [restoreLayout]), same⟩
  · rintro ⟨plan, upload, first, second, same⟩
    refine ⟨restoreHashes plan upload, fun name known => ?_, same⟩
    rw [restoreHashes]
    split
    · exact first
    · exact second

/-- The object that is built names its plan. -/
theorem named_adapter (plan_sha256 : String) :
    (synthetic_backup_adapter_receipt plan_sha256).sorted.text? "plan_sha256" = some plan_sha256 :=
  (Json.text?_sorted _ _).trans rfl

theorem named_restore (plan upload : String) :
    (restorePreflight plan upload).sorted.text? "restore_plan_sha256" = some plan ∧
      (restorePreflight plan upload).sorted.text? "upload_receipt_sha256" = some upload :=
  ⟨(Json.text?_sorted _ _).trans rfl, (Json.text?_sorted _ _).trans rfl⟩

end SeanOs
