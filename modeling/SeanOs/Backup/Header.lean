import SeanOs.Sample
import SeanOs.Backup.Preflight
import SeanOs.Lib.Ascii
import SeanOs.Lib.Base64
import SeanOs.Lib.DoubleText

/-! The header of an encrypted backup: how it is written, and which bytes are read as one. -/

namespace SeanOs

open Pattern

section Headers

variable [Platform]

def ENVELOPE_FORMAT : String := "sean-os-client-encrypted-backup-envelope/v1"

def ALGORITHM : String := "AES_256_GCM"

def NONCE_BYTES : ℕ := 12

def TAG_BYTES : ℕ := 16

/-- The greatest backup that is encrypted: ten gibibytes. -/
def MAX_PLAINTEXT_BYTES : ℤ := 10 * 1024 * 1024 * 1024

/-- The members of a header. -/
def HEADER_FIELDS : List Wide :=
  ["format", "algorithm", "plan_sha256", "plaintext_sha256", "plaintext_bytes", "key_owner",
    "key_ref", "nonce_b64", "tag_bytes"]

/-- The bytes of the canonical text of a value. -/
def _canonical (value : Json Wide) : List UInt8 := Ascii.bytes value.canonical

/-- Refuse a value that is no bounded text, or that looks secret. -/
def _safe_reference (name : String) (value : Json Wide) : Except Error Unit :=
  refuseIf (!isBoundedText (asChecked value) || secret_findings (asChecked value) "$" ≠ [])
    (.encryption (name ++ " must be one bounded non-secret reference"))

/-- Refuse a value that is not in the form of a digest. -/
def _validate_sha256 (name : String) (value : Json Wide) : Except Error Unit :=
  refuseIf (!isSha256 (asChecked value)) (.encryption (name ++ " must be one SHA-256 digest"))

/-- Whether a value is the size of a backup that can be encrypted. -/
def isPlaintextSize : Json Wide → Bool
  | .int size => 1 ≤ size ∧ size ≤ MAX_PLAINTEXT_BYTES
  | _ => false

/-- Refuse a value that is no size of a backup. -/
def _validate_plaintext_bytes (value : Json Wide) : Except Error Unit :=
  refuseIf (!isPlaintextSize value) (.encryption "plaintext_bytes is outside the supported range")

/-- Bytes as a text of base 64. -/
def b64encode (bytes : List UInt8) : String := String.ofList (Base64.encode bytes)

/-- The header of a backup with a plan, a key and a nonce. -/
def _header_from_plan (plan : Json Wide) (key_ref : Wide) (nonce : List UInt8) :
    Except Error (Json Wide) := do
  _validate_sha256 "plan_sha256" (plan.getD "plan_sha256")
  _validate_sha256 "backup_sha256" (plan.getD "backup_sha256")
  _validate_plaintext_bytes (plan.getD "backup_bytes")
  _safe_reference "key_ref" (.str key_ref)
  return .obj [("format", .str ENVELOPE_FORMAT), ("algorithm", .str ALGORITHM),
    ("plan_sha256", plan.getD "plan_sha256"), ("plaintext_sha256", plan.getD "backup_sha256"),
    ("plaintext_bytes", plan.getD "backup_bytes"), ("key_owner", .str "IAC"),
    ("key_ref", .str key_ref), ("nonce_b64", .str (b64encode nonce)), ("tag_bytes", .int TAG_BYTES)]

/-- The members a header must have with exactly these values. -/
def expectedHeader : List (Wide × Json Wide) :=
  [("format", .str ENVELOPE_FORMAT), ("algorithm", .str ALGORITHM), ("key_owner", .str "IAC"),
    ("tag_bytes", .int TAG_BYTES)]

/-- The value a header stands for, if it is a JSON text of ASCII characters. -/
def readHeader (raw : List UInt8) : Except Error (Json Wide) :=
  match (Ascii.read raw).bind (Json.loadsAs Wide) with
  | some value => .ok value
  | none => .error (.encryption "Encrypted backup header is malformed")

/-- The nonce of a header, which must be a text of base 64. -/
def readNonce : Json Wide → Except Error (List UInt8)
  | .str text => match Base64.decode (text.marked '!').toList with
    | some nonce => .ok nonce
    | none => .error (.encryption "Encrypted backup nonce is malformed")
  | _ => .error (.encryption "Encrypted backup nonce is malformed")

/-- The header and the nonce that bytes stand for, which must be its canonical text. -/
def _parse_header (raw : List UInt8) : Except Error (Json Wide × List UInt8) := do
  let value ← readHeader raw
  refuseIf (!value.hasExactly HEADER_FIELDS)
    (.encryption "Encrypted backup header fields are unsupported")
  refuseIf (!value.meets expectedHeader)
    (.encryption "Encrypted backup header contract is unsupported")
  _validate_sha256 "plan_sha256" (value.getD "plan_sha256")
  _validate_sha256 "plaintext_sha256" (value.getD "plaintext_sha256")
  _validate_plaintext_bytes (value.getD "plaintext_bytes")
  _safe_reference "key_ref" (value.getD "key_ref")
  let nonce ← readNonce (value.getD "nonce_b64")
  refuseIf (nonce.length ≠ NONCE_BYTES) (.encryption "Encrypted backup nonce has the wrong length")
  refuseIf (_canonical value ≠ raw) (.encryption "Encrypted backup header is not canonical")
  return (value, nonce)

/-- The parts of a header that differ between backups. -/
structure HeaderFields where
  plan_sha256 : String
  plaintext_sha256 : String
  plaintext_bytes : ℤ
  key_ref : Wide
  nonce : List UInt8

/-- The parts of a header that can be encoded. -/
structure HeaderParts extends HeaderFields where
  plan : isSha256 (.str plan_sha256) = true
  plaintext : isSha256 (.str plaintext_sha256) = true
  size : isPlaintextSize (.int plaintext_bytes) = true
  bounded : isBoundedText (asChecked (.str key_ref)) = true
  clean : Clean (asChecked (.str key_ref))
  length : nonce.length = NONCE_BYTES

namespace HeaderFields

variable (parts : HeaderFields)

/-- The members of a header with the size of its tag as a value, and more padding of its nonce. -/
def members (tag : Json Wide) (extra : ℕ) : List (Wide × Json Wide) :=
  [("format", .str ENVELOPE_FORMAT), ("algorithm", .str ALGORITHM),
    ("plan_sha256", .str parts.plan_sha256), ("plaintext_sha256", .str parts.plaintext_sha256),
    ("plaintext_bytes", .int parts.plaintext_bytes), ("key_owner", .str "IAC"),
    ("key_ref", .str parts.key_ref),
    ("nonce_b64", .str (String.ofList (Base64.encode parts.nonce ++ List.replicate extra '='))),
    ("tag_bytes", tag)]

/-- The header that is encoded from the parts. -/
def header : Json Wide := .obj (parts.members (.int TAG_BYTES) 0)

/-- The parts with every pair of surrogates in the reference as the one it is read as. -/
def joined : HeaderFields := { parts with key_ref := parts.key_ref.joined }

end HeaderFields

/-- A reference is accepted where it is bounded and clean. -/
theorem safe_reference_iff (value : Json) :
    (!isBoundedText value || decide (secret_findings value "$" ≠ [])) = false ↔
      isBoundedText value = true ∧ Clean value := by
  rw [Bool.or_eq_false_iff, Bool.not_eq_false', decide_eq_false_iff_not, not_not, Clean]

/-- Whether a reference is accepted is whether it is bounded and clean as the checks see it. -/
theorem safe_reference_ok {name : String} {value : Json Wide} :
    _safe_reference name value = .ok () ↔
      isBoundedText (asChecked value) = true ∧ Clean (asChecked value) := by
  rw [_safe_reference, ← safe_reference_iff]
  cases !isBoundedText (asChecked value) || decide (secret_findings (asChecked value) "$" ≠ []) with
  | true => exact ⟨(nomatch ·), (nomatch ·)⟩
  | false => exact ⟨fun _ => rfl, fun _ => rfl⟩

omit [Platform] in
theorem int_of_size {value : Json Wide} (size : isPlaintextSize value = true) :
    ∃ number, value = .int number := by
  cases value with
  | int number => exact ⟨number, rfl⟩
  | _ => cases size

omit [Platform] in
theorem text_of_bounded {value : Json Wide} (bounded : isBoundedText (asChecked value) = true) :
    ∃ text, value = .str text := by
  cases value with
  | str text => exact ⟨text, rfl⟩
  | _ => cases bounded

omit [Platform] in
/-- A digest is a text of digits and letters, among which there is no surrogate. -/
theorem digest_of_sha256 {value : Json Wide} (digest : isSha256 (asChecked value) = true) :
    ∃ text : String, value = .str text ∧ isSha256 (.str text) = true := by
  cases value with
  | str text =>
    have digits : fullmatch sha256Pattern (text.marked '!') = true := digest
    have absent : '!' ∉ (text.marked '!').toList := by
      intro there
      exact absurd (((fullmatch_run _ _ _ _).mp digits).1 '!' there) (by decide)
    exact ⟨text.marked '!', by rw [Wide.of_marked absent], digest⟩
  | _ => cases digest

/-- A header is encoded from a plan where it is encoded from its parts. -/
theorem header_from_plan_iff (plan : Json Wide) (key_ref : Wide) (nonce : List UInt8)
    (header : Json Wide) (length : nonce.length = NONCE_BYTES) :
    _header_from_plan plan key_ref nonce = .ok header ↔ ∃ parts : HeaderParts,
      (plan.getD "plan_sha256" : Json Wide) = .str parts.plan_sha256 ∧
      (plan.getD "backup_sha256" : Json Wide) = .str parts.plaintext_sha256 ∧
      (plan.getD "backup_bytes" : Json Wide) = .int parts.plaintext_bytes ∧ key_ref = parts.key_ref ∧
      nonce = parts.nonce ∧ header = parts.header := by
  have written (bytes : List UInt8) : b64encode bytes =
      String.ofList (Base64.encode bytes ++ List.replicate 0 '=') := by
    rw [b64encode, List.replicate_zero, List.append_nil]
  rw [_header_from_plan, _validate_sha256, refuseIf_bind, _validate_sha256, refuseIf_bind,
    _validate_plaintext_bytes, refuseIf_bind, _safe_reference, refuseIf_bind, return_ok,
    safe_reference_iff, Bool.not_eq_false', Bool.not_eq_false', Bool.not_eq_false', written]
  constructor
  · rintro ⟨digest, plaintext, size, ⟨bounded, clean⟩, rfl⟩
    obtain ⟨plan_sha256, one, digest⟩ := digest_of_sha256 digest
    obtain ⟨plaintext_sha256, two, plaintext⟩ := digest_of_sha256 plaintext
    obtain ⟨plaintext_bytes, three⟩ := int_of_size size
    rw [three] at size
    refine ⟨⟨⟨plan_sha256, plaintext_sha256, plaintext_bytes, key_ref, nonce⟩, digest, plaintext,
      size, bounded, clean, length⟩, one, two, three, rfl, rfl, ?_⟩
    rw [one, two, three]
    rfl
  · rintro ⟨parts, one, two, three, rfl, rfl, rfl⟩
    rw [one, two, three, asChecked_of, asChecked_of]
    exact ⟨parts.plan, parts.plaintext, parts.size, ⟨parts.bounded, parts.clean⟩, rfl⟩

/-- The checks of a header other than that of its text. -/
structure HeaderChecked (value : Json Wide) (nonce : List UInt8) : Prop where
  names : value.hasExactly HEADER_FIELDS = true
  met : value.meets expectedHeader = true
  plan : isSha256 (asChecked (value.getD "plan_sha256")) = true
  plaintext : isSha256 (asChecked (value.getD "plaintext_sha256")) = true
  size : isPlaintextSize (value.getD "plaintext_bytes") = true
  bounded : isBoundedText (asChecked (value.getD "key_ref")) = true
  clean : Clean (asChecked (value.getD "key_ref"))
  read : readNonce (value.getD "nonce_b64") = .ok nonce
  length : nonce.length = NONCE_BYTES

/-- Bytes are read as a header where they are the canonical text of one that passes the checks. -/
theorem parse_header_iff (raw : List UInt8) (value : Json Wide) (nonce : List UInt8) :
    _parse_header raw = .ok (value, nonce) ↔
      readHeader raw = .ok value ∧ HeaderChecked value nonce ∧ _canonical value = raw := by
  rw [_parse_header, bind_ok_iff]
  constructor
  · rintro ⟨own, read, passed⟩
    rw [refuseIf_bind, refuseIf_bind, _validate_sha256, refuseIf_bind, _validate_sha256,
      refuseIf_bind, _validate_plaintext_bytes, refuseIf_bind, _safe_reference, refuseIf_bind,
      bind_ok_iff, safe_reference_iff] at passed
    obtain ⟨names, met, plan, plaintext, size, ⟨bounded, clean⟩, decoded, nonce_, passed⟩ := passed
    rw [refuseIf_bind, refuseIf_bind, return_ok, decide_eq_false_iff_not, decide_eq_false_iff_not,
      not_not, not_not, Prod.mk.injEq] at passed
    obtain ⟨length, same, rfl, rfl⟩ := passed
    rw [Bool.not_eq_false'] at names met plan plaintext size
    exact ⟨read, ⟨names, met, plan, plaintext, size, bounded, clean, nonce_, length⟩, same⟩
  · rintro ⟨read, checked, same⟩
    refine ⟨value, read, ?_⟩
    rw [refuseIf_bind, refuseIf_bind, _validate_sha256, refuseIf_bind, _validate_sha256,
      refuseIf_bind, _validate_plaintext_bytes, refuseIf_bind, _safe_reference, refuseIf_bind,
      bind_ok_iff, safe_reference_iff, checked.names, checked.met, checked.plan, checked.plaintext,
      checked.size]
    refine ⟨rfl, rfl, rfl, rfl, rfl, ⟨checked.bounded, checked.clean⟩, nonce, checked.read, ?_⟩
    rw [refuseIf_bind, refuseIf_bind, return_ok, decide_eq_false_iff_not, decide_eq_false_iff_not,
      not_not, not_not]
    exact ⟨checked.length, same, rfl⟩

omit [Platform] in
/-- A value equals the size of a tag as an integer or as a float. -/
theorem equal_tag {value : Json Wide} : Json.equal value (.int TAG_BYTES) = true ↔
    value = .int TAG_BYTES ∨ value = .float (.finite 16) := by
  cases value with
  | null | str _ | arr _ | obj _ => simp [Json.equal, Json.numeric]
  | bool truth => cases truth <;> simp [Json.equal, Json.numeric, TAG_BYTES]
  | int number =>
    simp only [Json.equal, Json.numeric, TAG_BYTES, Json.int.injEq, reduceCtorEq, or_false]
    simp only [ne_eq, reduceCtorEq, not_false_eq_true, decide_true, Bool.and_true,
      decide_eq_true_eq, Number.finite.injEq]
    exact Int.cast_inj
  | float number =>
    cases number <;> simp [Json.equal, Json.numeric, TAG_BYTES]

omit [Platform] in
theorem readNonce_str {text : Wide} {nonce : List UInt8} :
    readNonce (.str text) = .ok nonce ↔ Base64.decode (text.marked '!').toList = some nonce := by
  rw [readNonce]
  cases Base64.decode (text.marked '!').toList with
  | none => exact ⟨(nomatch ·), (nomatch ·)⟩
  | some bytes =>
    exact ⟨fun same => congrArg some (Except.ok.inj same), fun same => congrArg Except.ok
      (Option.some.inj same)⟩

/-- What may stand for the size of a tag. -/
def IsTag (tag : Json Wide) : Prop := tag = .int TAG_BYTES ∨ tag = .float (.finite 16)

/-- The headers that pass the checks are those of some parts, but for the tag and the padding. -/
theorem headerChecked_iff {own : List (Wide × Json Wide)} (distinct : (own.map (·.1)).Nodup)
    (nonce : List UInt8) :
    HeaderChecked (.obj own) nonce ↔ ∃ (parts : HeaderParts) (tag : Json Wide) (extra : ℕ),
      parts.nonce = nonce ∧ IsTag tag ∧ own.Perm (parts.members tag extra) := by
  constructor
  · intro checked
    obtain ⟨plan_sha256, one, plan⟩ := digest_of_sha256 checked.plan
    obtain ⟨plaintext_sha256, two, plaintext⟩ := digest_of_sha256 checked.plaintext
    obtain ⟨plaintext_bytes, three⟩ := int_of_size checked.size
    obtain ⟨key_ref, four⟩ := text_of_bounded checked.bounded
    have met := checked.met
    simp only [Json.meets, expectedHeader, List.all_cons, List.all_nil, Bool.and_eq_true,
      Json.equal_text, equal_tag, and_true] at met
    obtain ⟨format, algorithm, owner, tag⟩ := met
    obtain ⟨text, five⟩ : ∃ text, ((Json.obj own).getD "nonce_b64" : Json Wide) = .str text := by
      have read := checked.read
      cases same : ((Json.obj own).getD "nonce_b64" : Json Wide) with
      | str text => exact ⟨text, rfl⟩
      | _ => rw [same] at read; cases read
    have decoded := checked.read
    rw [five] at decoded
    have decoded := readNonce_str.mp decoded
    obtain ⟨extra, written⟩ := Base64.eq_encode_of_decode decoded (by
      rw [checked.length]
      decide)
    -- What is read as base 64 has no other characters, and so no surrogates.
    have absent : '!' ∉ (text.marked '!').toList := by
      rw [written, List.mem_append, not_or]
      refine ⟨fun there => ?_, fun there => ?_⟩
      · exact absurd (Base64.isDigit_encode nonce (by rw [checked.length]; decide) '!' there)
          (by decide +kernel)
      · exact absurd (List.eq_of_mem_replicate there) (by decide)
    have perm := Json.perm_of_hasExactly distinct (by decide) checked.names
    refine ⟨⟨⟨plan_sha256, plaintext_sha256, plaintext_bytes, key_ref, nonce⟩, plan, plaintext,
      three ▸ checked.size, four ▸ checked.bounded, four ▸ checked.clean, checked.length⟩,
      (Json.obj own).getD "tag_bytes", extra, rfl, tag, ?_⟩
    simp only [HEADER_FIELDS, List.map_cons, List.map_nil, format, algorithm, owner, one, two,
      three, four, five] at perm
    rw [← Wide.of_marked absent, ← @String.ofList_toList (text.marked '!'), written] at perm
    exact perm
  · rintro ⟨parts, tag, extra, rfl, isTag, perm⟩
    have found {name : Wide} {item : Json Wide} (there : (name, item) ∈ parts.members tag extra) :
        (Json.obj own).getD name = item := by
      rw [Json.getD, Json.get?_of_mem distinct (perm.mem_iff.mpr there)]
      rfl
    have whole : 3 ∣ parts.nonce.length := by
      rw [parts.length]
      decide
    have some_ : parts.nonce ≠ [] := by
      rw [← List.length_pos_iff, parts.length]
      decide
    refine ⟨Json.hasExactly_of_perm (perm.map _), ?_, ?_, ?_, ?_, ?_, ?_, ?_, parts.length⟩
    · simp only [Json.meets, expectedHeader, List.all_cons, List.all_nil, Bool.and_eq_true,
        Json.equal_text, equal_tag, and_true]
      refine ⟨found ?_, found ?_, found ?_, ?_⟩
      · simp [HeaderFields.members]
      · simp [HeaderFields.members]
      · simp [HeaderFields.members]
      · rw [@found "tag_bytes" tag (by simp [HeaderFields.members])]
        exact isTag
    · rw [@found "plan_sha256" (.str parts.plan_sha256) (by simp [HeaderFields.members]),
        asChecked_of]
      exact parts.plan
    · rw [@found "plaintext_sha256" (.str parts.plaintext_sha256) (by simp [HeaderFields.members]),
        asChecked_of]
      exact parts.plaintext
    · rw [@found "plaintext_bytes" (.int parts.plaintext_bytes) (by simp [HeaderFields.members])]
      exact parts.size
    · rw [@found "key_ref" (.str parts.key_ref) (by simp [HeaderFields.members])]
      exact parts.bounded
    · rw [@found "key_ref" (.str parts.key_ref) (by simp [HeaderFields.members])]
      exact parts.clean
    · rw [@found "nonce_b64" (.str (String.ofList (Base64.encode parts.nonce ++
        List.replicate extra '='))) (by simp [HeaderFields.members]), readNonce_str,
        Wide.marked_of, String.toList_ofList]
      exact Base64.decode_encode whole some_ extra

omit [Platform] in
/-- The one float that equals the size of a tag is read back. -/
theorem reads_sixteen : Json.Reads (.float (.finite 16) : Json Wide) := .float (by decide +kernel)

namespace HeaderFields

variable (parts : HeaderFields) {tag : Json Wide} (extra : ℕ)

omit [Platform] in
theorem distinct_members : ((parts.members tag extra).map (·.1)).Nodup := by
  show HEADER_FIELDS.Nodup
  decide

omit [Platform] in
theorem isScalar_members (isTag : IsTag tag) :
    ∀ member ∈ parts.members tag extra, Json.isScalar member.2 = true := by
  intro member there
  simp only [members, List.mem_cons, List.not_mem_nil, or_false] at there
  rcases there with rfl | rfl | rfl | rfl | rfl | rfl | rfl | rfl | rfl
  all_goals first | rfl | skip
  rcases isTag with rfl | rfl <;> rfl

omit [Platform] in
/-- Sorting a header only sorts its members. -/
theorem sortedMembers_perm (isTag : IsTag tag) :
    (Json.sortedMembers (parts.members tag extra)).Perm (parts.members tag extra) :=
  Json.sortedMembers_perm_self (parts.isScalar_members extra isTag)

omit [Platform] in
/-- A header is read back, with its members sorted, where its reference has no pair in it. -/
theorem reads (unpaired : Unpaired parts.key_ref.points) (isTag : IsTag tag) :
    Json.Reads (Json.sorted (.obj (parts.members tag extra))) := by
  have perm := parts.sortedMembers_perm extra isTag
  rw [Json.sorted]
  refine .obj (((perm.map _).nodup_iff).mpr (parts.distinct_members extra))
    (fun member there => ?_) fun member there => ?_
  · -- The names are texts of characters.
    have inside := perm.mem_iff.mp there
    simp only [members, List.mem_cons, List.not_mem_nil, or_false] at inside
    rcases inside with rfl | rfl | rfl | rfl | rfl | rfl | rfl | rfl | rfl
    all_goals exact unpaired_string _
  · have inside := perm.mem_iff.mp there
    simp only [members, List.mem_cons, List.not_mem_nil, or_false] at inside
    rcases inside with rfl | rfl | rfl | rfl | rfl | rfl | rfl | rfl | rfl
    all_goals first | exact .str unpaired | exact .str (unpaired_string _) | exact .int _ | skip
    rcases isTag with rfl | rfl
    · exact .int _
    · exact reads_sixteen

omit [Platform] in
/-- The text of a header is read from its bytes. -/
theorem readHeader_canonical (unpaired : Unpaired parts.key_ref.points) (isTag : IsTag tag) :
    readHeader (_canonical (.obj (parts.members tag extra))) =
      .ok (Json.sorted (.obj (parts.members tag extra))) := by
  rw [readHeader, _canonical, Ascii.read_bytes (Json.only_canonical _), Option.bind_some,
    (parts.reads extra unpaired isTag).loads]

omit [Platform] in
/-- It cannot be told from the bytes of a header whether the halves of pairs were apart in it. -/
theorem canonical_joined (tag : Json Wide) :
    _canonical (.obj (parts.joined.members tag extra)) =
      _canonical (.obj (parts.members tag extra)) := by
  refine congrArg Ascii.bytes (Json.canonical_congr ?_)
  have same (member : Wide × Json Wide) : Json.SameText member member := ⟨rfl, rfl⟩
  -- Only the reference differs, and it has one text.
  exact .cons (same _) (.cons (same _) (.cons (same _) (.cons (same _) (.cons (same _) (.cons (same _)
    (.cons ⟨rfl, Json.stringText_joined parts.key_ref⟩ (.cons (same _) (.cons (same _) .nil))))))))

omit [Platform] in
theorem canonical_header_joined : _canonical parts.joined.header = _canonical parts.header :=
  parts.canonical_joined 0 (.int TAG_BYTES)

omit [Platform] in
/-- A reference that is read back from a header of its own has no pair in it. -/
theorem unpaired_of_read {own : List (Wide × Json Wide)} (isTag : IsTag tag)
    (perm : own.Perm (parts.members tag extra))
    (read : readHeader (_canonical (.obj (parts.members tag extra))) = .ok (.obj own)) :
    Unpaired parts.key_ref.points := by
  rw [← parts.canonical_joined extra tag,
    parts.joined.readHeader_canonical extra parts.key_ref.unpaired_joined isTag] at read
  have sorted : Json.sortedMembers (parts.joined.members tag extra) = own :=
    Json.obj.inj (Except.ok.inj read)
  have distinct : (own.map (·.1)).Nodup :=
    ((perm.map _).nodup_iff).mpr (parts.distinct_members extra)
  have there : (("key_ref" : Wide), .str parts.key_ref.joined) ∈ own := by
    rw [← sorted, (parts.joined.sortedMembers_perm extra isTag).mem_iff]
    simp [members, joined]
  -- The member is the one that was written, and the one that was read.
  have written : ((.str parts.key_ref : Json Wide)) = .str parts.key_ref.joined := by
    have one := Json.get?_of_mem distinct (perm.mem_iff.mpr
      (by simp [members] : (("key_ref" : Wide), .str parts.key_ref) ∈ parts.members tag extra))
    exact Option.some.inj (one.symm.trans (Json.get?_of_mem distinct there))
  rw [Json.str.inj written]
  exact unpaired_paired parts.key_ref.points

end HeaderFields

/-- The bytes that are read as a header are the canonical texts of headers, tag and padding apart. -/
theorem parse_header_image (raw : List UInt8) (value : Json Wide) (nonce : List UInt8) :
    _parse_header raw = .ok (value, nonce) ↔
      ∃ (parts : HeaderParts) (tag : Json Wide) (extra : ℕ), Unpaired parts.key_ref.points ∧
        parts.nonce = nonce ∧ IsTag tag ∧ value = Json.sorted (.obj (parts.members tag extra)) ∧
        raw = _canonical (.obj (parts.members tag extra)) := by
  rw [parse_header_iff]
  constructor
  · rintro ⟨read, checked, same⟩
    have distinct : value.Distinct := by
      rw [readHeader] at read
      split at read
      · next found =>
        obtain ⟨text, -, loaded⟩ := Option.bind_eq_some_iff.mp found
        obtain rfl := Except.ok.inj read
        exact Json.loads_distinct loaded
      · cases read
    obtain ⟨own, rfl⟩ : ∃ own, value = .obj own := by
      have names := checked.names
      cases value with
      | obj own => exact ⟨own, rfl⟩
      | _ => cases names
    obtain ⟨parts, tag, extra, rfl, isTag, perm⟩ := (headerChecked_iff distinct nonce).mp checked
    have raw_ : raw = _canonical (.obj (parts.members tag extra)) := by
      rw [← same, _canonical, _canonical, Json.canonical_perm distinct perm]
    rw [raw_] at read
    have unpaired := parts.unpaired_of_read extra isTag perm read
    refine ⟨parts, tag, extra, unpaired, rfl, isTag, ?_, raw_⟩
    rw [parts.readHeader_canonical extra unpaired isTag] at read
    exact (Except.ok.inj read).symm
  · rintro ⟨parts, tag, extra, unpaired, rfl, isTag, sorted, written⟩
    rw [sorted, written]
    have perm := parts.sortedMembers_perm extra isTag
    have distinct : ((Json.sortedMembers (parts.members tag extra)).map (·.1)).Nodup :=
      ((perm.map _).nodup_iff).mpr (parts.distinct_members extra)
    refine ⟨parts.readHeader_canonical extra unpaired isTag,
      (headerChecked_iff distinct _).mpr ⟨parts, tag, extra, rfl, isTag, perm⟩, ?_⟩
    exact congrArg Ascii.bytes (Json.canonical_perm distinct perm)

/-- The bytes the encoder writes for some plan, key and nonce. -/
def HeaderImage (raw : List UInt8) : Prop :=
  ∃ plan key_ref nonce header, nonce.length = NONCE_BYTES ∧
    _header_from_plan plan key_ref nonce = .ok header ∧ raw = _canonical header

/-- A header with its reference as it is read back, with every pair of surrogates as one character. -/
def readBack (key_ref : Wide) (header : Json Wide) : Json Wide :=
  withMember "key_ref" (.str key_ref.joined) header

/--
The bytes of a header that is written in another way: with the size of its tag as a float, with
padding behind the whole groups of its nonce, or with both.
-/
def RespelledHeader (raw : List UInt8) : Prop :=
  ∃ plan key_ref nonce header tag extra, nonce.length = NONCE_BYTES ∧ Unpaired key_ref.points ∧
    _header_from_plan plan key_ref nonce = .ok header ∧ IsTag tag ∧
    (tag = .int TAG_BYTES → 0 < extra) ∧
    raw = _canonical (withMember "nonce_b64"
      (.str (String.ofList (Base64.encode nonce ++ List.replicate extra '=')))
      (withMember "tag_bytes" tag header))

/--
The bytes of a header whose reference is refused as it is read back: the halves of a pair of
surrogates stand apart in it, and looks secret with the character they make up together.
-/
def MisreadHeader (raw : List UInt8) : Prop :=
  ∃ plan key_ref nonce header, nonce.length = NONCE_BYTES ∧
    _header_from_plan plan key_ref nonce = .ok header ∧ raw = _canonical header ∧
    _safe_reference "key_ref" (.str key_ref.joined) ≠ .ok ()

/-- The bytes are read as a header just where the encoder writes them, and as what it writes there. -/
structure ParsedExactly (raw : List UInt8) : Prop where
  accepted : (∃ parsed, _parse_header raw = .ok parsed) ↔ HeaderImage raw
  /-- What is returned is a header of the encoder that has these bytes, with its nonce. -/
  returned : ∀ value nonce, _parse_header raw = .ok (value, nonce) → ∃ plan key_ref header,
    nonce.length = NONCE_BYTES ∧ _header_from_plan plan key_ref nonce = .ok header ∧
      raw = _canonical header ∧ value = header.sorted
  /-- The header and the nonce that have been written are returned. -/
  own : ∀ plan key_ref nonce header, nonce.length = NONCE_BYTES →
    _header_from_plan plan key_ref nonce = .ok header → raw = _canonical header →
      _parse_header raw = .ok ((readBack key_ref header).sorted, nonce)

omit [Platform] in
/-- A header is read back as the one of the reference with its pairs made up. -/
theorem readBack_header (parts : HeaderFields) :
    readBack parts.key_ref parts.header = parts.joined.header := by
  rfl

/-- The parts of a plan. -/
theorem exists_plan (parts : HeaderParts) : ∃ plan,
    _header_from_plan plan parts.key_ref parts.nonce = .ok parts.header :=
  ⟨.obj [("plan_sha256", .str parts.plan_sha256), ("backup_sha256", .str parts.plaintext_sha256),
    ("backup_bytes", .int parts.plaintext_bytes)],
    (header_from_plan_iff _ _ _ _ parts.length).mpr ⟨parts, rfl, rfl, rfl, rfl, rfl, rfl⟩⟩

theorem headerImage_iff (raw : List UInt8) :
    HeaderImage raw ↔ ∃ parts : HeaderParts, raw = _canonical parts.header := by
  constructor
  · rintro ⟨plan, key_ref, nonce, header, length, encoded, written⟩
    obtain ⟨parts, -, -, -, -, -, same⟩ :=
      (header_from_plan_iff plan key_ref nonce header length).mp encoded
    exact ⟨parts, same ▸ written⟩
  · rintro ⟨parts, written⟩
    obtain ⟨plan, encoded⟩ := exists_plan parts
    exact ⟨plan, _, _, _, parts.length, encoded, written⟩

theorem respelledHeader_iff (raw : List UInt8) :
    RespelledHeader raw ↔ ∃ (parts : HeaderParts) (tag : Json Wide) (extra : ℕ),
      Unpaired parts.key_ref.points ∧ IsTag tag ∧ (tag = .int TAG_BYTES → 0 < extra) ∧
        raw = _canonical (.obj (parts.members tag extra)) := by
  constructor
  · rintro ⟨plan, key_ref, nonce, header, tag, extra, length, unpaired, encoded, isTag, other,
      written⟩
    obtain ⟨parts, -, -, -, rfl, same, same_⟩ :=
      (header_from_plan_iff plan key_ref nonce header length).mp encoded
    rw [same, same_] at written
    exact ⟨parts, tag, extra, unpaired, isTag, other, written⟩
  · rintro ⟨parts, tag, extra, unpaired, isTag, other, written⟩
    obtain ⟨plan, encoded⟩ := exists_plan parts
    exact ⟨plan, _, _, _, tag, extra, parts.length, unpaired, encoded, isTag, other, written⟩

omit [Platform] in
/-- A header that is written in another way is no header that is encoded. -/
theorem canonical_members_injective {parts others : HeaderFields}
    (one : Unpaired parts.key_ref.points) (two : Unpaired others.key_ref.points)
    (length : others.nonce.length = NONCE_BYTES) {tag : Json Wide} {extra : ℕ} (isTag : IsTag tag)
    (same : _canonical (.obj (parts.members tag extra)) = _canonical others.header) :
    tag = .int TAG_BYTES ∧ extra = 0 := by
  have read := parts.readHeader_canonical extra one isTag
  rw [same] at read
  have sorted := Except.ok.inj (read.symm.trans (others.readHeader_canonical 0 two (.inl rfl)))
  have perm := (Json.sorted_eq_iff (parts.distinct_members extra)
    (others.isScalar_members 0 (.inl rfl))).mp sorted
  have member {name : Wide} {one two : Json Wide} (first : (name, one) ∈ parts.members tag extra)
      (second : (name, two) ∈ others.members (.int TAG_BYTES) 0) : one = two := by
    have found := Json.get?_of_mem (others.distinct_members 0) (perm.mem_iff.mp first)
    exact Option.some.inj (found.symm.trans (Json.get?_of_mem (others.distinct_members 0) second))
  refine ⟨@member "tag_bytes" tag _ (by simp [HeaderFields.members])
    (by simp [HeaderFields.members]), ?_⟩
  have texts := @member "nonce_b64" (.str (String.ofList (Base64.encode parts.nonce ++
      List.replicate extra '='))) (.str (String.ofList (Base64.encode others.nonce ++
      List.replicate 0 '='))) (by simp [HeaderFields.members]) (by simp [HeaderFields.members])
  -- The text of a nonce holds no padding.
  have characters := congrArg String.toList (Wide.of_injective (Json.str.inj texts))
  rw [String.toList_ofList, String.toList_ofList, List.replicate_zero, List.append_nil] at characters
  by_contra some_
  have there : '=' ∈ Base64.encode others.nonce := by
    rw [← characters]
    exact List.mem_append_right _ (List.mem_replicate.mpr ⟨some_, rfl⟩)
  have digit := Base64.isDigit_encode others.nonce (by rw [length]; decide) '=' there
  exact absurd digit (by decide +kernel)

/-- The parts of a header with its reference as it is read back, where that is accepted. -/
def HeaderParts.readBack (parts : HeaderParts)
    (accepted : _safe_reference "key_ref" (.str parts.key_ref.joined) = .ok ()) : HeaderParts where
  toHeaderFields := parts.joined
  plan := parts.plan
  plaintext := parts.plaintext
  size := parts.size
  bounded := (safe_reference_ok.mp accepted).1
  clean := (safe_reference_ok.mp accepted).2
  length := parts.length

/-- The bytes of an encoded header are read where its reference is accepted as it is read back. -/
theorem HeaderParts.parse_header (parts : HeaderParts)
    (accepted : _safe_reference "key_ref" (.str parts.key_ref.joined) = .ok ()) :
    _parse_header (_canonical parts.header) = .ok (parts.joined.header.sorted, parts.nonce) :=
  (parse_header_image _ _ _).mpr ⟨parts.readBack accepted, .int TAG_BYTES, 0,
    parts.key_ref.unpaired_joined, rfl, .inl rfl, rfl, (parts.canonical_joined 0 _).symm⟩

/-- No other bytes than those of a header that is written in another way are read besides. -/
theorem parsed_cases {raw : List UInt8} {value : Json Wide} {nonce : List UInt8}
    (parsed : _parse_header raw = .ok (value, nonce)) (proper : ¬RespelledHeader raw) :
    ∃ parts : HeaderParts, parts.nonce = nonce ∧ value = parts.header.sorted ∧
      raw = _canonical parts.header := by
  obtain ⟨parts, tag, extra, unpaired, same, isTag, sorted, written⟩ :=
    (parse_header_image raw value nonce).mp parsed
  -- Of the ways to write it only that of the encoder is left.
  by_cases encoded : tag = .int TAG_BYTES ∧ extra = 0
  · obtain ⟨rfl, rfl⟩ := encoded
    exact ⟨parts, same, sorted, written⟩
  · exact absurd ((respelledHeader_iff raw).mpr ⟨parts, tag, extra, unpaired, isTag,
      fun same => Nat.pos_of_ne_zero fun none_ => encoded ⟨same, none_⟩, written⟩) proper

/--
The bytes that are read as a header are exactly those the encoder writes, and are read as what it
writes there, unless they are a header that is written in another way or one with a reference that
is refused as it is read back.
-/
theorem header_image (raw : List UInt8) :
    ParsedExactly raw ↔ ¬RespelledHeader raw ∧ ¬MisreadHeader raw := by
  constructor
  · refine fun exactly => ⟨fun respelled => ?_, ?_⟩
    · -- A header that is written in another way is read, and no encoder writes it.
      obtain ⟨parts, tag, extra, unpaired, isTag, other, written⟩ :=
        (respelledHeader_iff raw).mp respelled
      have parsed := (parse_header_image raw _ _).mpr
        ⟨parts, tag, extra, unpaired, rfl, isTag, rfl, written⟩
      obtain ⟨others, encoded⟩ := (headerImage_iff raw).mp (exactly.accepted.mp ⟨_, parsed⟩)
      rw [written] at encoded
      obtain ⟨same, none_⟩ := @canonical_members_injective _ others.joined unpaired
        others.key_ref.unpaired_joined others.length _ _ isTag
        (encoded.trans others.canonical_header_joined.symm)
      have some_ := other same
      omega
    · -- The encoder writes a header that is misread, and it is not read.
      rintro ⟨plan, key_ref, nonce, header, length, encoded, written, refused⟩
      have parsed := exactly.own plan key_ref nonce header length encoded written
      obtain ⟨parts, -, -, -, rfl, rfl, rfl⟩ :=
        (header_from_plan_iff plan key_ref nonce header length).mp encoded
      rw [readBack_header] at parsed
      have checked := ((parse_header_iff _ _ _).mp parsed).2.1
      have found : (parts.joined.header.sorted.getD "key_ref" : Json Wide) =
          .str parts.key_ref.joined := by
        rw [Json.getD, Json.get?_sorted]
        rfl
      refine refused (safe_reference_ok.mpr ?_)
      rw [← found]
      exact ⟨checked.bounded, checked.clean⟩
  · rintro ⟨proper, read⟩
    have accepted {plan : Json Wide} {key_ref : Wide} {nonce : List UInt8} {header : Json Wide}
        (length : nonce.length = NONCE_BYTES)
        (encoded : _header_from_plan plan key_ref nonce = .ok header)
        (written : raw = _canonical header) :
        _parse_header raw = .ok ((readBack key_ref header).sorted, nonce) := by
      obtain ⟨parts, -, -, -, rfl, rfl, rfl⟩ :=
        (header_from_plan_iff plan key_ref nonce header length).mp encoded
      rw [written, readBack_header]
      refine parts.parse_header ?_
      by_contra refused
      exact read ⟨plan, _, _, _, length, encoded, written, refused⟩
    refine ⟨⟨?_, ?_⟩, ?_, fun plan key_ref nonce header => accepted⟩
    · rintro ⟨⟨value, nonce⟩, parsed⟩
      obtain ⟨parts, -, -, written⟩ := parsed_cases parsed proper
      exact (headerImage_iff raw).mpr ⟨parts, written⟩
    · rintro ⟨plan, key_ref, nonce, header, length, encoded, written⟩
      exact ⟨_, accepted length encoded written⟩
    · intro value nonce parsed
      obtain ⟨parts, rfl, sorted, written⟩ := parsed_cases parsed proper
      obtain ⟨plan, encoded⟩ := exists_plan parts
      exact ⟨plan, _, _, parts.length, encoded, written, sorted⟩

end Headers

section Examples

open Sample

local instance headerPlatform : Platform := platform []

/-- The name of a key. -/
def Sample.backupKeyRef : String := "iac-keyring:backup-key-v1"

/-- The parts of a header of one byte. -/
def Sample.headerParts : HeaderParts where
  plan_sha256 := "64879f7d6b960a01909762d911a32d4582c20010c5641ee90278b644a9e3b525"
  plaintext_sha256 := "6e340b9cffb37a989ca544e6bb780a2c78901d3fb33738768511a30617afa01d"
  plaintext_bytes := 1
  key_ref := backupKeyRef
  nonce := List.replicate 12 0
  plan := by decide +kernel
  plaintext := by decide +kernel
  size := by decide
  bounded := by decide +kernel
  clean := by decide +kernel
  length := rfl

/-- Bytes that write the size of the tag as a float are read, and no encoder writes them. -/
theorem header_image_float : ∃ raw, (∃ parsed, _parse_header raw = .ok parsed) ∧
    ¬ HeaderImage raw := by
  refine ⟨_canonical (.obj (headerParts.members (.float (.finite 16)) 0)),
    ⟨_, (parse_header_image _ _ _).mpr
      ⟨headerParts, _, 0, unpaired_string _, rfl, .inr rfl, rfl, rfl⟩⟩, ?_⟩
  rw [headerImage_iff]
  rintro ⟨others, encoded⟩
  have same := (@canonical_members_injective headerParts.toHeaderFields others.joined
    (unpaired_string _) others.key_ref.unpaired_joined others.length _ _ (.inr rfl)
    (encoded.trans others.canonical_header_joined.symm)).1
  cases same

end Examples

end SeanOs
