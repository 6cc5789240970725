import SeanOs.Backup.EnvelopeSteps

/-! A backup is encrypted whole or not at all, wherever an operation fails. -/

namespace SeanOs

open Atomic

section Encryption

variable [Platform] [Cryptography] {ports : Ports} {state : Sealing}

-- Proofs about programs never evaluate what the checks see, only what they decide.
attribute [local irreducible] asChecked

/-- A plaintext is the one that a header describes. -/
def Describes (header : Json Wide) (plaintext : List UInt8) : Prop :=
  (header.getD "plaintext_bytes" : Json Wide) = .int plaintext.length ∧
    (header.getD "plaintext_sha256" : Json Wide) = .str (Cryptography.sha256 plaintext)

omit [Platform] in
theorem checkPlaintext_iff {header : Json Wide} {message : String} {plaintext : List UInt8} :
    checkPlaintext header message plaintext = .ok () ↔ Describes header plaintext := by
  rw [checkPlaintext, refuseIf, Describes]
  by_cases bytes : (header.getD "plaintext_bytes" : Json Wide) = .int plaintext.length <;>
    by_cases digest : (header.getD "plaintext_sha256" : Json Wide) = .str (Cryptography.sha256 plaintext) <;>
    simp [bytes, digest]

/-- What it takes to encrypt a file under a header, its operations apart. -/
structure Sealable (ports : Ports) (files : String → Entry) (source target key_ref : String)
    (nonce : List UInt8) (header : Json Wide) (key content : List UInt8) : Prop where
  yields : ports.Yields key_ref key
  fresh : files target = .absent
  encryptable : Encryptable files source key nonce (envelopeFront (_canonical header)) content
  described : Describes header content

/-- The envelope of a file, for a header and a key. -/
def sealedBytes (nonce : List UInt8) (header : Json Wide) (key content : List UInt8) : List UInt8 :=
  envelope key nonce (envelopeFront (_canonical header)) content

/-- How a file is encrypted before the cleanup. -/
structure SealEnds (ports : Ports) (source target key_ref : String) (nonce : List UInt8)
    (header : Json Wide) (state : Sealing) (outcome : Except Error Unit) (later : Sealing) : Prop where
  wiped : later.Wiped
  tidy : state.Tidy target later
  failed : ∀ error, outcome = .error error → ports.Faulty ∨
    ¬∃ key content, Sealable ports state.files source target key_ref nonce header key content
  done : outcome = .ok () → ∃ key content,
    Sealable ports state.files source target key_ref nonce header key content ∧
      later.files target = .own (sealedBytes nonce header key content) ∧
      later.ciphertext = sealedBytes nonce header key content

omit [Platform] in
/-- A file is encrypted into a target where nothing is yet, or not at all. -/
theorem attempts_sealFile {source target key_ref : String} {nonce : List UInt8} {header : Json Wide}
    (honest : ports.Honest) (secured : ports.fails .chmod = none) (fresh : state.created = false)
    (clean : state.Wiped) (unread : state.plaintext = []) (unwritten : state.ciphertext = [])
    (regular : (state.files source).isRegular = true) :
    (sealFile ports source target key_ref nonce header).Attempts
      (fun later => ∀ other, other ≠ target → later.files other = state.files other)
      (SealEnds ports source target key_ref nonce header state) state := by
  let front := envelopeFront (_canonical header)
  have run (key : List UInt8) (_ : ports.Yields key_ref key) (none_ : state.files target = .absent) :
      (writeEnvelope ports source target key nonce front).Attempts
        (Framed target (state.beginFile target key))
        (Wrote ports target (state.beginFile target key) (fun later => ∃ content,
          Encryptable state.files source key nonce front content ∧
          later.files target = .own (envelope key nonce front content) ∧
          later.plaintext = content ∧ later.ciphertext = envelope key nonce front content)
          (¬∃ content, Encryptable state.files source key nonce front content))
        (state.beginFile target key) := by
    -- The source is a file, and so it is not the target.
    have apart : source ≠ target := by
      rintro rfl
      rw [none_] at regular
      cases regular
    have there : (state.beginFile target key).files target = .own [] := Function.update_self _ _ _
    have moved (content : List UInt8) :
        Encryptable (state.beginFile target key).files source key nonce front content ↔
          Encryptable state.files source key nonce front content := by
      have same : (state.beginFile target key).files source = state.files source :=
        Function.update_of_ne apart _ _
      rw [Encryptable, Encryptable, same]
    refine (attempts_writeEnvelope key nonce front apart there).mono (fun _ => id)
      fun outcome later ended => ⟨ended.framed, fun error same => ?_, fun same => ?_⟩
    · refine (ended.failed error same).imp_right fun none_ => ?_
      rintro ⟨content, held⟩
      exact none_ ⟨content, (moved content).mpr held⟩
    · obtain ⟨content, held, files, plaintext, ciphertext⟩ := ended.done same
      refine ⟨content, (moved content).mp held, files, plaintext.trans ?_, ciphertext.trans ?_⟩
      · exact (congrArg (· ++ content) unread).trans (List.nil_append _)
      · exact (congrArg (· ++ _) unwritten).trans (List.nil_append _)
  refine (attempts_keyed_file honest secured fresh clean run).bind (fun _ later through ended => ?_)
    fun error later ended => ⟨ended.wiped, ended.tidy, fun _ _ => ?_, fun same => by cases same⟩
  swap
  · refine (ended.failed error rfl).imp_right fun none_ => ?_
    rintro ⟨key, content, sealable⟩
    exact none_ ⟨key, sealable.yields, sealable.fresh, fun none_ => none_ ⟨content, sealable.encryptable⟩⟩
  obtain ⟨none_, key, before, yields, written, rfl⟩ := ended.done rfl
  obtain ⟨content, held, files, plaintext, ciphertext⟩ := written
  refine .read_bind through (.ofExcept_bind through (fun _ checked => ?_) fun error refused => ?_)
  swap
  · -- What was read is all that could be encrypted, and it is not what the header describes.
    refine ⟨ended.wiped, ended.tidy, fun _ _ => .inr ?_, fun same => by cases same⟩
    rintro ⟨other, content_, sealable⟩
    have same : content = content_ := by
      have read := held.1.symm.trans sealable.encryptable.1
      cases read
      rfl
    have accepted := (@checkPlaintext_iff _ header
      "Backup source changed after approval or no longer matches its plan" _).mpr sealable.described
    rw [← same, ← plaintext] at accepted
    cases refused.symm.trans accepted
  have described : Describes header content := plaintext ▸ checkPlaintext_iff.mp checked
  refine attempts_lookAt_bind through ?_ fun error why =>
    ⟨ended.wiped, ended.tidy, fun _ _ => .inl why, fun same => by cases same⟩
  have private_ : before.wiped.files target = .own (envelope key nonce front content) := files
  rw [private_]
  exact ⟨through, ended.wiped, ended.tidy, fun _ same => (by cases same), fun _ =>
    ⟨key, content, ⟨yields, none_, held, described⟩, files, ciphertext⟩⟩

/-- Where a backup is encrypted to. -/
def sealedPath (output_directory : String) (plan : Json Wide) (token : String) : String :=
  output_directory ++ "/backup-" ++
    String.ofList ((memberText "plan_sha256" plan).toList.take 16) ++ "-" ++ token ++ ".enc"

/-- What it takes to encrypt a backup with a plan, its operations apart. -/
structure Encryption (ports : Ports) (files : String → Entry) (output_directory source : String)
    (plan : Json Wide) (key_ref : String) (nonce : List UInt8) (token : String) (header : Json Wide)
    (key content : List UInt8) : Prop where
  regular : (files source).isRegular = true
  directory : (files output_directory).isDirectory = true
  encoded : _header_from_plan plan key_ref nonce = .ok header
  short : (_canonical header).length ≤ MAX_HEADER_BYTES
  sealable : Sealable ports files source (sealedPath output_directory plan token) key_ref nonce header
    key content

/--
How the encryption of a backup ends: with one new file, or with the files as they were, unless the
new file cannot be taken back.
-/
structure EncryptionEnds (ports : Ports) (files : String → Entry) (output_directory source : String)
    (plan : Json Wide) (key_ref : String) (nonce : List UInt8) (token : String)
    (outcome : Except Error BackupArtifact) (later : Sealing) : Prop where
  wiped : later.Wiped
  failed : ∀ error, outcome = .error error →
    (ports.fails .discard = none → later.files = files) ∧ (ports.Faulty ∨
    ¬∃ header key content,
      Encryption ports files output_directory source plan key_ref nonce token header key content)
  done : ∀ artifact, outcome = .ok artifact → ∃ header key content,
    Encryption ports files output_directory source plan key_ref nonce token header key content ∧
    later.files = Function.update files (sealedPath output_directory plan token)
      (.own (sealedBytes nonce header key content)) ∧
    artifact = ⟨sealedPath output_directory plan token, encryptedEvidence header
      (sealedBytes nonce header key content) (sealedBytes nonce header key content).length⟩

omit [Cryptography] in
/-- A header names the plan it was made from. -/
theorem memberText_header {plan header : Json Wide} {key_ref : String} {nonce : List UInt8}
    (encoded : _header_from_plan plan key_ref nonce = .ok header) :
    memberText "plan_sha256" header = memberText "plan_sha256" plan := by
  rw [_header_from_plan, _validate_sha256, refuseIf_bind, _validate_sha256, refuseIf_bind,
    _validate_plaintext_bytes, refuseIf_bind, _safe_reference, refuseIf_bind, return_ok] at encoded
  obtain ⟨_, _, _, _, same⟩ := encoded
  -- The member of the header is the one of the plan, or nothing where the plan has none.
  have found : (header.get? "plan_sha256" : Option (Json Wide)) =
      some (plan.getD "plan_sha256" : Json Wide) := by
    rw [same]
    rfl
  rw [memberText, memberText, Json.text?, Json.text?, found, Json.getD]
  cases (plan.get? "plan_sha256" : Option (Json Wide)) <;> rfl

/-- The encryption of a backup is cut short with nothing but its own file touched, or ends cleanly. -/
theorem attempts_encrypt (honest : ports.Honest) (secured : ports.fails .chmod = none)
    (measured : ports.fails .stat = none) (files : String → Entry)
    (output_directory source : String) (plan : Json Wide) (key_ref : String) (nonce : List UInt8)
    (token : String) :
    (encrypt ports output_directory source plan key_ref nonce token).Attempts
      (fun later => ∀ other, other ≠ sealedPath output_directory plan token →
        later.files other = files other)
      (EncryptionEnds ports files output_directory source plan key_ref nonce token)
      (.start files) := by
  let target := sealedPath output_directory plan token
  have still : ∀ other, other ≠ target → files other = files other := fun _ _ => rfl
  have clean : (Sealing.start files).Wiped := fun byte there => by cases there
  -- What is refused before the first file is opened leaves the files as they are.
  have stopped (error : Error) (why : ports.Faulty ∨ ¬∃ header key content,
      Encryption ports files output_directory source plan key_ref nonce token header key content) :
      EncryptionEnds ports files output_directory source plan key_ref nonce token (.error error)
        (.start files) :=
    ⟨clean, fun _ _ => ⟨fun _ => rfl, why⟩, fun _ same => by cases same⟩
  have refused (error : Error) (why : ¬∃ header key content,
      Encryption ports files output_directory source plan key_ref nonce token header key content) :
      EncryptionEnds ports files output_directory source plan key_ref nonce token (.error error)
        (.start files) := stopped error (.inr why)
  refine attempts_check_bind still (fun regular => ?_) (fun irregular => refused _ ?_)
    fun error why => stopped error (.inl why)
  swap
  · rintro ⟨header, key, content, held⟩
    exact Bool.false_ne_true ((Bool.not_eq_true' _ ▸ irregular).symm.trans held.regular)
  have regular : (files source).isRegular = true := Bool.not_eq_false' _ ▸ regular
  refine attempts_check_bind still (fun directory => ?_) (fun none_ => refused _ ?_)
    fun error why => stopped error (.inl why)
  swap
  · rintro ⟨header, key, content, held⟩
    exact Bool.false_ne_true ((Bool.not_eq_true' _ ▸ none_).symm.trans held.directory)
  have directory : (files output_directory).isDirectory = true := Bool.not_eq_false' _ ▸ directory
  refine .ofExcept_bind still (fun header encoded => ?_) fun error unencoded => ?_
  swap
  · refine refused error ?_
    rintro ⟨header, key, content, held⟩
    cases unencoded.symm.trans held.encoded
  refine .ofExcept_bind still (fun _ short => ?_) fun error long => ?_
  swap
  · refine refused error ?_
    rintro ⟨other, key, content, held⟩
    obtain rfl := Except.ok.inj (encoded.symm.trans held.encoded)
    rw [refuseIf, if_neg (by simpa using held.short)] at long
    cases long
  have short : (_canonical header).length ≤ MAX_HEADER_BYTES := by
    by_contra long
    rw [refuseIf, if_pos (by simpa using long)] at short
    cases short
  have same : target = output_directory ++ "/backup-" ++
      String.ofList ((memberText "plan_sha256" header).toList.take 16) ++ "-" ++ token ++ ".enc" := by
    rw [memberText_header encoded]
    rfl
  dsimp only
  rw [← same]
  have whole {key content : List UInt8}
      (sealable : Sealable ports files source target key_ref nonce header key content) :
      Encryption ports files output_directory source plan key_ref nonce token header key content :=
    ⟨regular, directory, encoded, short, sealable⟩
  -- The cleanup runs where the encryption fails, and takes back the file that was created.
  have guarded : (tryCatch (sealFile ports source target key_ref nonce header) (fun error => do
      discardCreated ports target
      throw error) : Job Unit).Attempts
      (fun later => ∀ other, other ≠ target → later.files other = files other)
      (fun outcome later => later.Wiped ∧
        (∀ error, outcome = .error error →
          (ports.fails .discard = none → later.files = files) ∧ (ports.Faulty ∨
          ¬∃ key content, Sealable ports files source target key_ref nonce header key content)) ∧
        (outcome = .ok () → ∃ key content,
          Sealable ports files source target key_ref nonce header key content ∧
          later.files = Function.update files target (.own (sealedBytes nonce header key content)) ∧
          later.ciphertext = sealedBytes nonce header key content)) (.start files) := by
    refine (attempts_sealFile honest secured rfl clean rfl rfl regular).catch
      (fun _ later ended => ?_) fun error later through ended => ?_
    · obtain ⟨key, content, sealable, there, ciphertext⟩ := ended.done rfl
      refine ⟨ended.wiped, fun _ same => (by cases same), fun _ =>
        ⟨key, content, sealable, ?_, ciphertext⟩⟩
      funext other
      by_cases at_ : other = target
      · rw [at_, there, Function.update_self]
      · rw [Function.update_of_ne at_]
        exact ended.tidy.beside other at_
    · have restored := ended.tidy.discarded
      refine attempts_removeOwn_bind through ⟨fun other _ => congrFun restored other, ?_,
        fun _ _ => ⟨fun _ => restored, ended.failed error rfl⟩, fun same => by cases same⟩
        fun error_ kept => ⟨ended.wiped, fun _ _ => ⟨fun removed => ?_, .inl (.inl ⟨_, _, kept⟩)⟩,
          fun same => by cases same⟩
      · show Sealing.Wiped (if later.created then later.put target .absent else later)
        split
        · exact ended.wiped
        · exact ended.wiped
      · rw [kept] at removed
        cases removed
  refine guarded.bind (fun _ later through ended => ?_) fun error later ended => ?_
  swap
  · obtain ⟨wiped, failed, _⟩ := ended
    refine ⟨wiped, fun _ _ => ⟨(failed error rfl).1, (failed error rfl).2.imp_right fun none_ => ?_⟩,
      fun _ same => by cases same⟩
    rintro ⟨other, key, content, held⟩
    obtain rfl := Except.ok.inj (encoded.symm.trans held.encoded)
    exact none_ ⟨key, content, held.sealable⟩
  obtain ⟨wiped, _, done⟩ := ended
  obtain ⟨key, content, sealable, written, ciphertext⟩ := done rfl
  refine .read_bind through ?_
  have there : (later.files target).content? = some (sealedBytes nonce header key content) := by
    rw [written, Function.update_self]
    rfl
  dsimp only [id]
  rw [measured, there]
  refine ⟨through, wiped, fun _ same => (by cases same), fun artifact same => ?_⟩
  cases same
  exact ⟨header, key, content, whole sealable, written, by rw [ciphertext]⟩

/--
A backup is encrypted whole or not at all: whatever fails, no file but the new one is touched at any
moment, the key is wiped, and an error leaves the files as they were, unless the new file could not
be taken back. It is an error only where an operation fails or the backup could not be encrypted as
its plan says.
-/
theorem encryption_whole (ports : Ports) (honest : ports.Honest) (secured : ports.fails .chmod = none)
    (measured : ports.fails .stat = none) (files : String → Entry)
    (output_directory source : String) (plan : Json Wide) (key_ref : String) (nonce : List UInt8)
    (token : String) :
    (∀ steps other, other ≠ sealedPath output_directory plan token →
      ((encrypt ports output_directory source plan key_ref nonce token).after steps
        (.start files)).2.files other = files other) ∧
    (encrypt ports output_directory source plan key_ref nonce token).Ends (.start files)
      (EncryptionEnds ports files output_directory source plan key_ref nonce token) := by
  have attempts := attempts_encrypt honest secured measured files output_directory source plan key_ref
    nonce token
  exact ⟨attempts.after, attempts.ends⟩

end Encryption

section Examples

local instance envelopePlatform : Platform := headerPlatform

/-- The cipher and the hash, as they are on what is encrypted and decrypted here. -/
local instance sampleCryptography : Cryptography where
  sha256 bytes :=
    if bytes = [0] then "6e340b9cffb37a989ca544e6bb780a2c78901d3fb33738768511a30617afa01d"
    else "2c97ffe66816d5903d4d849de6ae6f945d904c053660df5534e18e4c725639b4"
  keystream _ _ _ := 191
  tag _ _ _ _ := [10, 25, 43, 70, 31, 73, 115, 99, 79, 201, 238, 107, 87, 14, 217, 116]

namespace Sample

/-- The key of a backup. -/
def backupKey : List UInt8 := List.replicate 32 1

/-- A resolver of one key, and operations none of which fails. -/
def soundPorts : Ports where
  enter key_ref :=
    if key_ref = "iac-keyring:backup-key-v1" then .ok (.buffer backupKey)
    else .error (.port "KeyError" key_ref)
  leave := id
  fails _ := none

/-- A plan for a backup of one byte. -/
def backupPlan : Json Wide :=
  .obj [("plan_sha256", .str headerParts.plan_sha256),
    ("backup_sha256", .str headerParts.plaintext_sha256), ("backup_bytes", .int 1)]

/-- Two directories, and a backup of one byte. -/
def backupFiles (path : String) : Entry :=
  if path = "/backup.db" then .own [0]
  else if path = "/encrypted" ∨ path = "/restored" then ⟨false, some (.directory 0o700)⟩
  else .absent

theorem honest_soundPorts : soundPorts.Honest := fun _ same => by cases same

theorem faultless_soundPorts : ¬soundPorts.Faulty := by
  rintro (⟨operation, error, fails⟩ | left)
  · cases fails
  · exact left rfl

end Sample

open Sample

theorem Sample.yields_backupKey : soundPorts.Yields backupKeyRef backupKey := ⟨rfl, rfl⟩

theorem Sample.short_header : (_canonical headerParts.header).length ≤ MAX_HEADER_BYTES := by
  decide +kernel

theorem Sample.encryption : Encryption soundPorts backupFiles "/encrypted" "/backup.db" backupPlan
    backupKeyRef headerParts.nonce "0a1b2c3d4e5f" headerParts.header backupKey [0] where
  regular := rfl
  directory := rfl
  encoded := (header_from_plan_iff _ _ _ _ headerParts.length).mpr
    ⟨headerParts, rfl, rfl, rfl, rfl, rfl, rfl⟩
  short := short_header
  sealable := ⟨yields_backupKey, by decide +kernel, ⟨rfl, rfl⟩, rfl, rfl⟩

/-- A backup of one byte is encrypted. -/
theorem encryption_whole_one_byte :
    (encrypt soundPorts "/encrypted" "/backup.db" backupPlan backupKeyRef headerParts.nonce
      "0a1b2c3d4e5f").Ends (.start backupFiles) fun outcome later => ∃ artifact,
        outcome = .ok artifact ∧ EncryptionEnds soundPorts backupFiles "/encrypted" "/backup.db"
          backupPlan backupKeyRef headerParts.nonce "0a1b2c3d4e5f" outcome later := by
  refine (encryption_whole soundPorts honest_soundPorts rfl rfl backupFiles "/encrypted" "/backup.db"
    backupPlan backupKeyRef headerParts.nonce "0a1b2c3d4e5f").2.mono fun outcome later ended => ?_
  cases outcome with
  | ok artifact => exact ⟨artifact, rfl, ended⟩
  | error error =>
    rcases (ended.failed error rfl).2 with fault | none_
    · exact absurd fault faultless_soundPorts
    · exact absurd ⟨_, _, _, Sample.encryption⟩ none_

end Examples

end SeanOs
