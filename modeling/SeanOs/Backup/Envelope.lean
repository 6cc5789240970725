import SeanOs.Backup.Header
import SeanOs.Lib.Attempt

/-! The encrypted envelope of a backup: how it is written, opened and published, file by file. -/

namespace SeanOs

open Atomic

/-- The cryptography that is called: a hash of bytes, and a counter mode with its authentication. -/
class Cryptography where
  /-- The hexadecimal SHA-256 digest of bytes. -/
  sha256 : List UInt8 → String
  /-- The byte that a key and a nonce lay over the one at some position. -/
  keystream : (key nonce : List UInt8) → ℕ → UInt8
  /-- The tag of a ciphertext and the data beside it. -/
  tag : (key nonce beside ciphertext : List UInt8) → List UInt8

/-- Bytes from some position on, encrypted or decrypted. -/
def crypt [Cryptography] (key nonce : List UInt8) (offset : ℕ) (bytes : List UInt8) : List UInt8 :=
  bytes.mapIdx fun index byte => byte ^^^ Cryptography.keystream key nonce (offset + index)

/-- What an encryption or a decryption does outside its own variables. -/
inductive Operation where
  /-- A look at what is at a path. -/
  | look (path : String)
  /-- A look at a variable of the call. -/
  | recall
  /-- The opening of the file that is read. -/
  | begin
  | read (offset : ℕ)
  | resolve
  /-- The setup of the cipher, with the data beside the ciphertext. -/
  | setup
  | update (offset : ℕ)
  | finalize
  /-- The creation of a file that must not be there. -/
  | create
  /-- The narrowing of its permissions. -/
  | chmod
  | remember
  /-- The write of what stands before the ciphertext. -/
  | front
  | write (offset : ℕ)
  /-- The write of the tag. -/
  | tag
  | flush
  | sync
  | close
  | wipe
  | stat
  | link
  | unlink
  /-- The removal of the file that was created, in the cleanup. -/
  | discard
  /-- The removal of the file that was published, in the cleanup. -/
  | retract
  deriving DecidableEq

/-- What a key resolver yields: a mutable buffer, or anything else. -/
inductive Resolved where
  | buffer (bytes : List UInt8)
  | other

/-- The bytes of the buffer that was yielded, if it is one. -/
def Resolved.held : Resolved → List UInt8
  | .buffer bytes => bytes
  | .other => []

/-- What an encryption is given: the resolver of keys, and which of its operations fail. -/
structure Ports where
  /-- What the resolver yields under a reference, unless it raises. -/
  enter : String → Except Error Resolved
  /-- How the block under the resolver ends, from how its body ended. -/
  leave : Except Error Unit → Except Error Unit
  /-- How an operation fails, if it does. -/
  fails : Operation → Option Error

/-- What one call works on: the files, the buffer of the key, and the variables it cleans up by. -/
structure Sealing where
  files : String → Entry
  /-- The buffer that the resolver has yielded. -/
  key : List UInt8
  /-- What was hashed as plaintext. -/
  plaintext : List UInt8
  /-- What was hashed as ciphertext. -/
  ciphertext : List UInt8
  created : Bool
  published : Bool

/-- A call before its first step. -/
def Sealing.start (files : String → Entry) : Sealing := ⟨files, [], [], [], false, false⟩

/-- An encryption or a decryption as its steps. -/
abbrev Job (α : Type) : Type := Prog Sealing Operation Error α

/-- The content of a file, if there is one at a path. -/
def Entry.content? (entry : Entry) : Option (List UInt8) :=
  match entry.node with
  | some (.file _ content) => some content
  | _ => none

/-- A file that only its owner may read and write. -/
def Entry.own (content : List UInt8) : Entry := ⟨false, some (.file 0o600 content)⟩

/-- Whether there is a file at a path which is no link. -/
def Entry.isRegular (entry : Entry) : Bool := !entry.symlink && entry.content?.isSome

/-- Whether there is a directory at a path which is no link. -/
def Entry.isDirectory (entry : Entry) : Bool :=
  !entry.symlink && match entry.node with
    | some (.directory _) => true
    | _ => false

namespace Sealing

/-- Put something at a path. -/
def put (path : String) (entry : Entry) (state : Sealing) : Sealing :=
  { state with files := Function.update state.files path entry }

/-- Write bytes behind those that the file at a path has. -/
def append (path : String) (bytes : List UInt8) (state : Sealing) : Sealing :=
  match state.files path with
  | ⟨symlink, some (.file mode content)⟩ =>
    state.put path ⟨symlink, some (.file mode (content ++ bytes))⟩
  | _ => state

/-- Write bytes to a file, and hash them as ciphertext. -/
def emit (path : String) (bytes : List UInt8) (state : Sealing) : Sealing :=
  { state.append path bytes with ciphertext := state.ciphertext ++ bytes }

end Sealing

def MAGIC : List UInt8 := Ascii.bytes "SEANOSB1"

def ENCRYPTED_ARTIFACT_FORMAT : String := "sean-os-client-encrypted-backup-artifact/v1"

def DECRYPTED_ARTIFACT_FORMAT : String := "sean-os-authenticated-backup-restore/v1"

def MAX_HEADER_BYTES : ℕ := 4096

def CHUNK_BYTES : ℕ := 1024 * 1024

/-- A length as four bytes, the greatest first. -/
def lengthBytes (length : ℕ) : List UInt8 :=
  [.ofNat (length / 2 ^ 24), .ofNat (length / 2 ^ 16), .ofNat (length / 2 ^ 8), .ofNat length]

/-- The length that bytes stand for, the greatest first. -/
def bytesLength (bytes : List UInt8) : ℕ := bytes.foldl (fun length byte => length * 256 + byte.toNat) 0

/-- Bytes in pieces of the size they are read in, as far as a bound on their number. -/
def pieces : ℕ → List UInt8 → List (List UInt8)
  | 0, _ => []
  | bound + 1, bytes =>
    if bytes.isEmpty then [] else bytes.take CHUNK_BYTES :: pieces bound (bytes.drop CHUNK_BYTES)

section Jobs

variable (ports : Ports)

/-- An operation that changes what it is to, unless it fails. -/
def fallible (operation : Operation) (change : Sealing → Sealing) : Job Unit :=
  match ports.fails operation with
  | some error => throw error
  | none => Prog.write operation change

/-- What is at a path, unless it cannot be looked at. -/
def lookAt (path : String) : Job Entry := do
  fallible ports (.look path) id
  Prog.read (.look path) fun state => state.files path

/-- Refuse what is no regular file. -/
def _require_regular_file (path description : String) : Job Unit := do
  let entry ← lookAt ports path
  Prog.ofExcept (refuseIf (!entry.isRegular)
    (.encryption (description ++ " must be a regular, non-symlink file")))

/-- Refuse what is no directory. -/
def _require_private_directory (path : String) : Job Unit := do
  let entry ← lookAt ports path
  Prog.ofExcept (refuseIf (!entry.isDirectory)
    (.encryption "Encryption output directory must be an existing non-symlink directory"))

/-- The key that a resolver has yielded. -/
def _require_key_material : Resolved → Except Error (List UInt8)
  | .buffer bytes =>
    if bytes.length = 32 then .ok bytes
    else .error (.encryption "The key resolver must yield one mutable 32-byte AES-256 key")
  | .other => .error (.encryption "The key resolver must yield one mutable 32-byte AES-256 key")

/-- Overwrite a buffer with zeros. -/
def _wipe_key : Job Unit :=
  Prog.write .wipe fun state => { state with key := state.key.map fun _ => 0 }

/-- Run a body with the key under a reference, whose buffer is wiped behind it however it ends. -/
def withKey (key_ref : String) (body : List UInt8 → Job Unit) : Job Unit := do
  match ports.enter key_ref with
  | .error error => throw error
  | .ok resolved => do
    Prog.write .resolve fun state => { state with key := resolved.held }
    let ended ← Prog.outcome (Prog.ensuring (do
      let key ← Prog.ofExcept (_require_key_material resolved)
      body key) _wipe_key)
    Prog.ofExcept (ports.leave ended)

/-- Create a file that must not be there, and run a body on it, behind which it is closed. -/
def _exclusive_private_file (path : String) (body : Job Unit) : Job Unit := do
  fallible ports .create id
  Prog.transact .create fun state =>
    if state.files path = .absent then (.ok (), state.put path (.own []))
    else (.error (.port "FileExistsError" "File exists"), state)
  -- A file whose permissions cannot be set is not remembered for the cleanup.
  fallible ports .chmod id
  Prog.write .remember fun state => { state with created := true }
  Prog.ensuring body (fallible ports .close id)

/-- Remove a file in the cleanup, if the call remembers that it is its own. -/
def removeOwn (operation : Operation) (path : String) (own : Sealing → Bool) : Job Unit := do
  if ← Prog.read .recall own then fallible ports operation (.put path .absent)

/-- Remove a file that was created, if it was. -/
def discardCreated (path : String) : Job Unit := removeOwn ports .discard path (·.created)

/-- Remove a file that was published, if it was. -/
def retractPublished (path : String) : Job Unit := removeOwn ports .retract path (·.published)

/-- Read the file at a path as a whole, from the moment it is opened. -/
def openFile (path : String) : Job (List UInt8) := do
  fallible ports .begin id
  match ← Prog.read .begin fun state => (state.files path).content? with
  | some content => return content
  | none => throw (.port "FileNotFoundError" "No such file or directory")

end Jobs

section Encrypt

variable [Platform] [Cryptography] (ports : Ports)

/-- An artifact: where it is, and what is said of it. -/
structure BackupArtifact where
  path : String
  evidence : Json Wide

/-- Encrypt the pieces of a file one after another, up to its end. -/
def encryptPieces (target : String) (key nonce : List UInt8) : ℕ → List (List UInt8) → Job Unit
  | offset, [] => fallible ports (.read offset) id
  | offset, piece :: rest => do
    fallible ports (.read offset) fun state =>
      { state with plaintext := state.plaintext ++ piece }
    fallible ports (.update offset) id
    fallible ports (.write offset) (.emit target (crypt key nonce offset piece))
    encryptPieces target key nonce (offset + piece.length) rest

/-- Write an envelope: what stands before the ciphertext, the ciphertext, and its tag. -/
def writeEnvelope (source target : String) (key nonce front : List UInt8) : Job Unit := do
  fallible ports .front (.emit target front)
  let content ← openFile ports source
  encryptPieces ports target key nonce 0 (pieces content.length content)
  fallible ports .finalize id
  let tag := Cryptography.tag key nonce front (crypt key nonce 0 content)
  Prog.ofExcept (refuseIf (tag.length ≠ TAG_BYTES)
    (.encryption "AES-GCM produced an unsupported authentication tag"))
  fallible ports .tag (.emit target tag)
  fallible ports .flush id
  fallible ports .sync id

/-- What stands before the ciphertext in an envelope. -/
def envelopeFront (header_bytes : List UInt8) : List UInt8 :=
  MAGIC ++ lengthBytes header_bytes.length ++ header_bytes

/-- Refuse a plaintext that is not the one a header describes. -/
def checkPlaintext (header : Json Wide) (message : String) (plaintext : List UInt8) :
    Except Error Unit :=
  refuseIf ((header.getD "plaintext_bytes" : Json Wide) ≠ .int plaintext.length ||
    (header.getD "plaintext_sha256" : Json Wide) ≠ .str (Cryptography.sha256 plaintext))
    (.encryption message)

/-- Encrypt a file into a target that must not be there. -/
def sealFile (source target key_ref : String) (nonce : List UInt8)
    (header : Json Wide) : Job Unit := do
  let front := envelopeFront (_canonical header)
  withKey ports key_ref fun key => do
    fallible ports .setup id
    _exclusive_private_file ports target (writeEnvelope ports source target key nonce front)
  let plaintext ← Prog.read .recall (·.plaintext)
  Prog.ofExcept (checkPlaintext header
    "Backup source changed after approval or no longer matches its plan" plaintext)
  let entry ← lookAt ports target
  Prog.ofExcept (refuseIf (match entry.node with
    | some (.file mode _) => mode ≠ 0o600
    | _ => true) (.encryption "Encrypted backup file is not private"))

/-- What is said of an encrypted backup. -/
def encryptedEvidence (header : Json Wide) (ciphertext : List UInt8) (size : ℕ) : Json Wide :=
  .obj [("format", .str ENCRYPTED_ARTIFACT_FORMAT),
    ("plan_sha256", header.getD "plan_sha256"), ("plaintext_sha256", header.getD "plaintext_sha256"),
    ("plaintext_bytes", header.getD "plaintext_bytes"),
    ("ciphertext_sha256", .str (Cryptography.sha256 ciphertext)), ("ciphertext_bytes", .int size),
    ("algorithm", .str ALGORITHM), ("key_owner", .str "IAC"), ("key_ref", header.getD "key_ref"),
    ("authenticated", .bool true), ("aad_plan_sha256", header.getD "plan_sha256"),
    ("credentials_persisted", .bool false), ("source_path_included", .bool false)]

/-- The text of a member, where it is one. -/
def memberText (name : Wide) (value : Json Wide) : String :=
  ((value.text? name).map (Wide.marked '!')).getD ""

/-- Encrypt a file with the nonce and the name that were drawn, and leave nothing where that fails. -/
def encrypt (output_directory source : String) (plan : Json Wide) (key_ref : String)
    (nonce : List UInt8) (token : String) : Job BackupArtifact := do
  _require_regular_file ports source "Backup source"
  _require_private_directory ports output_directory
  let header ← Prog.ofExcept (_header_from_plan plan key_ref nonce)
  Prog.ofExcept (refuseIf ((_canonical header).length > MAX_HEADER_BYTES)
    (.encryption "Encrypted backup header is too large"))
  let digest := String.ofList ((memberText "plan_sha256" header).toList.take 16)
  let target := output_directory ++ "/backup-" ++ digest ++ "-" ++ token ++ ".enc"
  tryCatch (sealFile ports source target key_ref nonce header) fun error => do
    discardCreated ports target
    throw error
  let sealing ← Prog.read .stat id
  match ports.fails .stat, (sealing.files target).content? with
  | none, some content =>
    return ⟨target, encryptedEvidence header sealing.ciphertext content.length⟩
  | some error, _ => throw error
  | none, none => throw (.port "FileNotFoundError" "No such file or directory")

end Encrypt

section Decrypt

variable [Platform] [Cryptography] (ports : Ports)

/-- An envelope as it is read up to its ciphertext. -/
structure Opened where
  header : Json Wide
  nonce : List UInt8
  /-- What stands before the ciphertext. -/
  front : List UInt8
  size : ℕ
  ciphertext : List UInt8
  tag : List UInt8

/-- The parts of an envelope, for a plan and a key. -/
def openEnvelope (content : List UInt8) (key_ref expected_plan_sha256 : String) :
    Except Error Opened := do
  refuseIf (content.take 8 ≠ MAGIC) (.encryption "Encrypted backup magic is invalid")
  let raw_length := (content.drop 8).take 4
  refuseIf (raw_length.length ≠ 4) (.encryption "Encrypted backup header length is missing")
  let header_length := bytesLength raw_length
  refuseIf (header_length < 1 ∨ MAX_HEADER_BYTES < header_length)
    (.encryption "Encrypted backup header length is invalid")
  let header_bytes := (content.drop 12).take header_length
  refuseIf (header_bytes.length ≠ header_length) (.encryption "Encrypted backup header is truncated")
  let (header, nonce) ← _parse_header header_bytes
  refuseIf ((header.getD "plan_sha256" : Json Wide) ≠ .str expected_plan_sha256 ||
    (header.getD "key_ref" : Json Wide) ≠ .str key_ref)
    (.encryption "Encrypted backup does not match the approved restore request")
  let front := MAGIC ++ raw_length ++ header_bytes
  -- The header has passed its checks, and holds the size as a positive integer.
  let size := match (header.getD "plaintext_bytes" : Json Wide) with
    | .int size => size.toNat
    | _ => 0
  refuseIf (content.length ≠ front.length + size + TAG_BYTES)
    (.encryption "Encrypted backup size is inconsistent")
  return ⟨header, nonce, front, size, (content.drop front.length).take size,
    content.drop (content.length - TAG_BYTES)⟩

/-- Decrypt the pieces of a ciphertext one after another. -/
def decryptPieces (partial_path : String) (key nonce : List UInt8) : ℕ → List (List UInt8) → Job Unit
  | _, [] => return ()
  | offset, piece :: rest => do
    fallible ports (.read offset) id
    fallible ports (.update offset) id
    let decrypted := crypt key nonce offset piece
    fallible ports (.write offset) fun state =>
      { state.append partial_path decrypted with plaintext := state.plaintext ++ decrypted }
    decryptPieces partial_path key nonce (offset + piece.length) rest

/-- Write the plaintext of an envelope, whose tag is checked behind the last piece. -/
def writePlaintext (partial_path : String) (opened : Opened) (key : List UInt8) : Job Unit := do
  decryptPieces ports partial_path key opened.nonce 0 (pieces opened.size opened.ciphertext)
  fallible ports .finalize id
  Prog.ofExcept (refuseIf
    (Cryptography.tag key opened.nonce opened.front opened.ciphertext ≠ opened.tag)
    (.encryption "Encrypted backup authentication failed"))
  fallible ports .flush id
  fallible ports .sync id

/-- Decrypt an envelope into a partial file, and publish that where nothing is yet. -/
def publishPlaintext (encrypted partial_path destination key_ref expected_plan_sha256 : String) :
    Job (Json Wide) := do
  let content ← openFile ports encrypted
  let opened ← Prog.ofExcept (openEnvelope content key_ref expected_plan_sha256)
  withKey ports key_ref fun key => do
    fallible ports .setup id
    _exclusive_private_file ports partial_path (writePlaintext ports partial_path opened key)
  let plaintext ← Prog.read .recall (·.plaintext)
  Prog.ofExcept (checkPlaintext opened.header
    "Authenticated restore does not match the recorded plaintext" plaintext)
  fallible ports .link id
  Prog.transact .link fun state =>
    if state.files destination = .absent then
      (.ok (), { state.put destination (state.files partial_path) with published := true })
    else (.error (.port "FileExistsError" "File exists"), state)
  -- Where this fails, both names are taken back.
  fallible ports .unlink fun state => { state.put partial_path .absent with created := false }
  return opened.header

/-- What is said of a decrypted backup. -/
def decryptedEvidence (header : Json Wide) (key_ref : String) : Json Wide :=
  .obj [("format", .str DECRYPTED_ARTIFACT_FORMAT),
    ("plan_sha256", header.getD "plan_sha256"), ("plaintext_sha256", header.getD "plaintext_sha256"),
    ("plaintext_bytes", header.getD "plaintext_bytes"), ("algorithm", .str ALGORITHM),
    ("key_owner", .str "IAC"), ("key_ref", .str key_ref), ("authenticated", .bool true),
    ("credentials_persisted", .bool false), ("source_path_included", .bool false)]

/-- Decrypt an envelope to a name in a directory, or leave nothing where that fails. -/
def decrypt_to (encrypted directory name key_ref expected_plan_sha256 token : String) :
    Job BackupArtifact := do
  let destination := directory ++ "/" ++ name
  _require_regular_file ports encrypted "Encrypted backup"
  _require_private_directory ports directory
  let entry ← lookAt ports destination
  Prog.ofExcept (refuseIf (entry.node.isSome || entry.symlink)
    (.encryption "Restore destination must not already exist"))
  Prog.ofExcept (_validate_sha256 "expected_plan_sha256" (.str expected_plan_sha256))
  Prog.ofExcept (_safe_reference "key_ref" (.str key_ref))
  let partial_path := directory ++ "/." ++ name ++ ".partial-" ++ token
  let header ← tryCatch
    (publishPlaintext ports encrypted partial_path destination key_ref expected_plan_sha256)
    fun error => do
      discardCreated ports partial_path
      retractPublished ports destination
      throw error
  return ⟨destination, decryptedEvidence header key_ref⟩

end Decrypt

end SeanOs
