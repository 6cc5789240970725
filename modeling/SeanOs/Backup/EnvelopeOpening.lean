import SeanOs.Backup.EnvelopeSealing

/-! Nothing but authentic plaintext is published, and what was encrypted is restored. -/

namespace SeanOs

open Atomic

section Decryption

variable [Platform] [Cryptography] {ports : Ports} {state : Sealing}

-- Proofs about programs never evaluate what the checks see, only what they decide.
attribute [local irreducible] asChecked

/-- The plaintext of an envelope that is authentic, for a key and a plan. -/
structure Authentic (ports : Ports) (content : List UInt8) (key_ref expected_plan_sha256 : String)
    (opened : Opened) (key plaintext : List UInt8) : Prop where
  opens : openEnvelope content key_ref expected_plan_sha256 = .ok opened
  yields : ports.Yields key_ref key
  tag : Cryptography.tag key opened.nonce opened.front opened.ciphertext = opened.tag
  decrypted : plaintext = crypt key opened.nonce 0 opened.ciphertext
  described : Describes opened.header plaintext

omit [Cryptography] in
/-- A ciphertext is not longer than its header says. -/
theorem openEnvelope_short {content : List UInt8} {key_ref expected_plan_sha256 : String}
    {opened : Opened} (opens : openEnvelope content key_ref expected_plan_sha256 = .ok opened) :
    opened.ciphertext.length ≤ opened.size := by
  rw [openEnvelope, refuseIf_bind] at opens
  obtain ⟨_, opens⟩ := opens
  dsimp only at opens
  rw [refuseIf_bind, refuseIf_bind, refuseIf_bind, bind_ok_iff] at opens
  obtain ⟨_, _, _, ⟨header, nonce⟩, _, opens⟩ := opens
  dsimp only at opens
  rw [refuseIf_bind, refuseIf_bind, return_ok] at opens
  obtain ⟨_, _, rfl⟩ := opens
  exact List.length_take_le _ _

omit [Platform] in
/-- The pieces of a ciphertext are decrypted behind what the partial file has. -/
theorem attempts_decryptPieces (path : String) (key nonce : List UInt8) (rest : List (List UInt8))
    (offset : ℕ) {written : List UInt8} (there : state.files path = .own written) :
    (decryptPieces ports path key nonce offset rest).Attempts (Framed path state)
      (Wrote ports path state (fun later =>
        later.files path = .own (written ++ crypt key nonce offset rest.flatten) ∧
        later.plaintext = state.plaintext ++ crypt key nonce offset rest.flatten) False) state := by
  -- The induction is on the pieces, as for an encryption.
  induction rest generalizing state offset written with
  | nil =>
    refine ⟨.refl state, .refl state, fun _ same => (by cases same), fun _ => ?_⟩
    simp [there]
  | cons piece rest ih =>
    let decrypted := crypt key nonce offset piece
    let next : Sealing :=
      { state.append path decrypted with plaintext := state.plaintext ++ decrypted }
    have appended : state.append path decrypted = state.put path (.own (written ++ decrypted)) :=
      Sealing.append_own decrypted there
    have second : Framed path state next := by
      show Framed path state
        { state.append path decrypted with plaintext := state.plaintext ++ decrypted }
      rw [appended]
      exact ⟨fun _ apart => Function.update_of_ne apart _ _, rfl, rfl, rfl⟩
    have held : next.files path = .own (written ++ decrypted) := by
      show (state.append path decrypted).files path = _
      rw [appended, Sealing.files_put]
    refine attempts_fallible_bind (.refl state) (attempts_fallible_bind (.refl state)
      (attempts_fallible_bind (.refl state) ?_ fun error why => .of_error (.refl state) (.inl why))
      fun error why => .of_error (.refl state) (.inl why))
      fun error why => .of_error (.refl state) (.inl why)
    refine (ih (offset + piece.length) held).mono (fun _ => second.trans) fun outcome later ended => ?_
    refine .of_framed second ⟨ended.framed, ended.failed, fun same => ?_⟩
    obtain ⟨files, plaintext⟩ := ended.done same
    refine ⟨?_, ?_⟩
    · rw [files, List.flatten_cons, crypt_append, List.append_assoc]
    · rw [plaintext, List.flatten_cons, crypt_append]
      exact List.append_assoc ..

omit [Platform] in
/-- The plaintext of an envelope is written, whose tag must be the right one. -/
theorem attempts_writePlaintext {path : String} {opened : Opened} (key : List UInt8)
    (short : opened.ciphertext.length ≤ opened.size) (there : state.files path = .own []) :
    (writePlaintext ports path opened key).Attempts (Framed path state)
      (Wrote ports path state (fun later =>
        Cryptography.tag key opened.nonce opened.front opened.ciphertext = opened.tag ∧
        later.files path = .own (crypt key opened.nonce 0 opened.ciphertext) ∧
        later.plaintext = state.plaintext ++ crypt key opened.nonce 0 opened.ciphertext)
        (Cryptography.tag key opened.nonce opened.front opened.ciphertext ≠ opened.tag)) state := by
  have whole : (pieces opened.size opened.ciphertext).flatten = opened.ciphertext :=
    flatten_pieces _ _ short
  refine (attempts_decryptPieces path key opened.nonce (pieces opened.size opened.ciphertext) 0
      there).bind (fun _ later now pieces_ => ?_) fun error later ended =>
    .of_error ended.framed (.inl ((ended.failed error rfl).resolve_right id))
  obtain ⟨files, plaintext⟩ := pieces_.done rfl
  rw [whole] at files plaintext
  refine attempts_fallible_bind now ?_ fun error why => .of_error now (.inl why)
  refine .ofExcept_bind now (fun _ checked => ?_) fun error refused => .of_error now (.inr ?_)
  swap
  · intro same
    rw [refuseIf, if_neg (by simpa using same)] at refused
    cases refused
  have authentic : Cryptography.tag key opened.nonce opened.front opened.ciphertext = opened.tag := by
    by_contra other
    rw [refuseIf, if_pos (by simpa using other)] at checked
    cases checked
  refine attempts_fallible_bind now (attempts_fallible now now
    ⟨now, fun _ same => (by cases same), fun _ => ⟨authentic, files, plaintext⟩⟩
    fun error why => .of_error now (.inl why)) fun error why => .of_error now (.inl why)

/-- What it takes to publish the plaintext of an envelope, its operations apart. -/
structure Publishable (ports : Ports) (files : String → Entry)
    (encrypted partial_path destination key_ref expected_plan_sha256 : String)
    (content : List UInt8) (opened : Opened) (key plaintext : List UInt8) : Prop where
  there : (files encrypted).content? = some content
  aside : files partial_path = .absent
  fresh : files destination = .absent
  authentic : Authentic ports content key_ref expected_plan_sha256 opened key plaintext

/-- A plaintext may be published: it is the authentic one of the envelope. -/
def Publishes (ports : Ports) (files : String → Entry)
    (encrypted partial_path destination key_ref expected_plan_sha256 : String)
    (plaintext : List UInt8) : Prop :=
  ∃ content opened key, Publishable ports files encrypted partial_path destination key_ref
    expected_plan_sha256 content opened key plaintext

/-- Nothing but two paths is touched, and the published one never holds but a whole plaintext. -/
structure OnlyAuthentic (partial_path destination : String) (files : String → Entry)
    (plain : List UInt8 → Prop) (later : Sealing) : Prop where
  beside : ∀ other, other ≠ partial_path → other ≠ destination → later.files other = files other
  published : later.files destination = files destination ∨
    ∃ plaintext, plain plaintext ∧ later.files destination = .own plaintext

/-- Nothing but two paths was changed so far, and each only by a call that remembers it. -/
structure Sealing.Remembered (partial_path destination : String) (state later : Sealing) : Prop where
  beside : ∀ other, other ≠ partial_path → other ≠ destination →
    later.files other = state.files other
  unmade : later.created = false → later.files partial_path = state.files partial_path
  made : later.created = true → state.files partial_path = .absent
  unpublished : later.published = false → later.files destination = state.files destination
  published : later.published = true → state.files destination = .absent

namespace Sealing.Remembered

variable {partial_path destination : String} {later : Sealing}

omit [Platform] [Cryptography] in
/-- Where nothing was published yet, a call that remembers one path remembers both. -/
theorem of_tidy (apart : destination ≠ partial_path) (unpublished : state.published = false)
    (tidy : state.Tidy partial_path later) : state.Remembered partial_path destination later :=
  ⟨fun other one _ => tidy.beside other one, tidy.unmade, tidy.made,
    fun _ => tidy.beside destination apart, fun published => by
      rw [tidy.published, unpublished] at published
      cases published⟩

/-- A call behind the removal of its partial file. -/
def discarded (partial_path : String) (later : Sealing) : Sealing :=
  if later.created then later.put partial_path .absent else later

omit [Platform] [Cryptography] in
theorem published_discarded (path : String) (later : Sealing) :
    (discarded path later).published = later.published := by
  rw [discarded]
  split <;> rfl

omit [Platform] [Cryptography] in
/-- The removal of the partial file touches no other one. -/
theorem beside_discarded (path : String) (later : Sealing) {other : String} (apart : other ≠ path) :
    (discarded path later).files other = later.files other := by
  rw [discarded]
  split
  · exact Function.update_of_ne apart _ _
  · rfl

omit [Platform] [Cryptography] in
/-- The removal of the partial file leaves its path as it was. -/
theorem files_discarded (remembered : state.Remembered partial_path destination later) :
    (discarded partial_path later).files partial_path = state.files partial_path := by
  rw [discarded]
  cases made : later.created with
  | true => rw [if_pos rfl, files_put, remembered.made made]
  | false => rw [if_neg Bool.false_ne_true, remembered.unmade made]

omit [Platform] [Cryptography] in
/-- The removal of both files leaves all files as they were. -/
theorem retracted (remembered : state.Remembered partial_path destination later)
    (apart : destination ≠ partial_path) :
    (if (discarded partial_path later).published then
      (discarded partial_path later).put destination .absent
    else discarded partial_path later).files = state.files := by
  rw [published_discarded]
  funext other
  by_cases at_ : other = destination
  · -- At the destination there was nothing, if what is there was published by the call.
    cases published : later.published with
    | true => rw [at_, if_pos rfl, files_put, remembered.published published]
    | false =>
      rw [at_, if_neg Bool.false_ne_true, beside_discarded _ _ apart,
        remembered.unpublished published]
  · have kept : (discarded partial_path later).files other = state.files other := by
      by_cases beside : other = partial_path
      · rw [beside, remembered.files_discarded]
      · rw [beside_discarded _ _ beside, remembered.beside other beside at_]
    split
    · exact (Function.update_of_ne at_ _ _).trans kept
    · exact kept

end Sealing.Remembered

/-- How the publication of a plaintext ends before the cleanup. -/
structure PublishEnds (ports : Ports) (state : Sealing)
    (encrypted partial_path destination key_ref expected_plan_sha256 : String)
    (outcome : Except Error (Json Wide)) (later : Sealing) : Prop where
  wiped : later.Wiped
  failed : ∀ error, outcome = .error error →
    state.Remembered partial_path destination later ∧ (ports.Faulty ∨
    ¬∃ content opened key plaintext, Publishable ports state.files encrypted partial_path destination
      key_ref expected_plan_sha256 content opened key plaintext)
  done : ∀ header, outcome = .ok header → ∃ content opened key plaintext,
    Publishable ports state.files encrypted partial_path destination key_ref expected_plan_sha256
      content opened key plaintext ∧ header = opened.header ∧
    later.files = Function.update state.files destination (.own plaintext)

/-- A publication that fails before its link has only its partial file to take back. -/
theorem PublishEnds.of_tidy
    {encrypted partial_path destination key_ref expected_plan_sha256 : String} {later : Sealing}
    {error : Error} (apart : destination ≠ partial_path) (unpublished : state.published = false)
    (wiped : later.Wiped) (tidy : state.Tidy partial_path later)
    (why : ports.Faulty ∨ ¬∃ content opened key plaintext, Publishable ports state.files encrypted
      partial_path destination key_ref expected_plan_sha256 content opened key plaintext) :
    PublishEnds ports state encrypted partial_path destination key_ref expected_plan_sha256
      (.error error) later :=
  ⟨wiped, fun _ _ => ⟨.of_tidy apart unpublished tidy, why⟩, fun _ same => by cases same⟩

/-- A plaintext is published under its name as a whole, and only where it is authentic. -/
theorem attempts_publishPlaintext
    {encrypted partial_path destination key_ref expected_plan_sha256 : String}
    (honest : ports.Honest) (secured : ports.fails .chmod = none) (fresh : state.created = false)
    (unpublished : state.published = false) (clean : state.Wiped) (unread : state.plaintext = [])
    (apart : destination ≠ partial_path) :
    (publishPlaintext ports encrypted partial_path destination key_ref expected_plan_sha256).Attempts
      (OnlyAuthentic partial_path destination state.files (Publishes ports state.files encrypted
        partial_path destination key_ref expected_plan_sha256))
      (PublishEnds ports state encrypted partial_path destination key_ref expected_plan_sha256)
      state := by
  have still : OnlyAuthentic partial_path destination state.files (Publishes ports state.files
      encrypted partial_path destination key_ref expected_plan_sha256) state :=
    ⟨fun _ _ _ => rfl, .inl rfl⟩
  refine attempts_openFile_bind still (fun content there => ?_)
    fun error why => .of_tidy apart unpublished clean (.refl fresh) ?_
  swap
  · refine why.imp_right fun none_ => ?_
    rintro ⟨content, opened, key, plaintext, held⟩
    rw [held.there] at none_
    cases none_
  refine .ofExcept_bind still (fun opened opens => ?_)
    fun error refused => .of_tidy apart unpublished clean (.refl fresh) (.inr ?_)
  swap
  · rintro ⟨other, opened, key, plaintext, held⟩
    obtain rfl : content = other := Option.some.inj (there.symm.trans held.there)
    cases refused.symm.trans held.authentic.opens
  have run (key : List UInt8) (_ : ports.Yields key_ref key)
      (_ : state.files partial_path = .absent) :
      (writePlaintext ports partial_path opened key).Attempts
        (Framed partial_path (state.beginFile partial_path key))
        (Wrote ports partial_path (state.beginFile partial_path key) (fun later =>
          Cryptography.tag key opened.nonce opened.front opened.ciphertext = opened.tag ∧
          later.files partial_path = .own (crypt key opened.nonce 0 opened.ciphertext) ∧
          later.plaintext = crypt key opened.nonce 0 opened.ciphertext)
          (Cryptography.tag key opened.nonce opened.front opened.ciphertext ≠ opened.tag))
        (state.beginFile partial_path key) := by
    have empty : (state.beginFile partial_path key).files partial_path = .own [] :=
      Function.update_self _ _ _
    refine (attempts_writePlaintext key (openEnvelope_short opens) empty).mono (fun _ => id)
      fun outcome later ended => ⟨ended.framed, ended.failed, fun same => ?_⟩
    obtain ⟨tag, files, plaintext⟩ := ended.done same
    exact ⟨tag, files, plaintext.trans ((congrArg (· ++ _) unread).trans (List.nil_append _))⟩
  refine ((attempts_keyed_file honest secured fresh clean run).mono
    (fun later beside => (⟨fun other apart_ _ => beside other apart_, .inl (beside _ apart)⟩ :
      OnlyAuthentic _ _ _ _ later)) fun _ _ => id).bind
    (fun _ later through ended => ?_) fun error later ended => .of_tidy apart unpublished ended.wiped ended.tidy ?_
  swap
  · refine (ended.failed error rfl).imp_right fun none_ => ?_
    rintro ⟨other, opened_, key, plaintext, held⟩
    obtain rfl : content = other := Option.some.inj (there.symm.trans held.there)
    obtain rfl : opened = opened_ := Except.ok.inj (opens.symm.trans held.authentic.opens)
    exact none_ ⟨key, held.authentic.yields, held.aside, fun differs => differs held.authentic.tag⟩
  obtain ⟨aside, key, before, yields, ⟨tag, files, plaintext⟩, rfl⟩ := ended.done rfl
  refine .read_bind through (.ofExcept_bind through (fun _ checked => ?_)
    fun error refused => .of_tidy apart unpublished ended.wiped ended.tidy (.inr ?_))
  swap
  · -- The plaintext that was hashed is the one that the key and the envelope determine.
    rintro ⟨other, opened_, key_, plaintext_, held⟩
    obtain rfl : content = other := Option.some.inj (there.symm.trans held.there)
    obtain rfl : opened = opened_ := Except.ok.inj (opens.symm.trans held.authentic.opens)
    obtain rfl : key = key_ := yields.unique held.authentic.yields
    have accepted := (@checkPlaintext_iff _ opened.header
      "Authenticated restore does not match the recorded plaintext" _).mpr held.authentic.described
    rw [held.authentic.decrypted, ← plaintext] at accepted
    cases refused.symm.trans accepted
  have described : Describes opened.header (crypt key opened.nonce 0 opened.ciphertext) :=
    plaintext ▸ checkPlaintext_iff.mp checked
  refine attempts_fallible_bind through ?_ fun error why => .of_tidy apart unpublished ended.wiped ended.tidy (.inl why)
  dsimp only [id]
  have same : before.wiped.files destination = state.files destination :=
    ended.tidy.beside destination apart
  refine attempts_fresh_bind through (fun free => ?_)
    fun taken => .of_tidy apart unpublished ended.wiped ended.tidy (.inr ?_)
  swap
  · rintro ⟨other, opened_, key_, plaintext_, held⟩
    exact taken (same.trans held.fresh)
  -- The link makes the whole plaintext visible at once, and the partial name is dropped behind it.
  have publishable : Publishable ports state.files encrypted partial_path destination key_ref
      expected_plan_sha256 content opened key (crypt key opened.nonce 0 opened.ciphertext) :=
    ⟨there, aside, same.symm.trans free, opens, yields, tag, rfl, described⟩
  have linked : OnlyAuthentic partial_path destination state.files (Publishes ports state.files
      encrypted partial_path destination key_ref expected_plan_sha256)
      { before.wiped.put destination (before.wiped.files partial_path) with published := true } :=
    ⟨fun other one two => (Function.update_of_ne two _ _).trans (through.beside other one two),
      .inr ⟨_, ⟨content, opened, key, publishable⟩, (Function.update_self _ _ _).trans files⟩⟩
  have kept : OnlyAuthentic partial_path destination state.files (Publishes ports state.files
      encrypted partial_path destination key_ref expected_plan_sha256)
      ({ (Sealing.put partial_path .absent { before.wiped.put destination
        (before.wiped.files partial_path) with published := true }) with created := false }) :=
    ⟨fun other one two => (Function.update_of_ne one _ _).trans (linked.beside other one two),
      .inr ⟨_, ⟨content, opened, key, publishable⟩, (Function.update_of_ne apart _ _).trans
        ((Function.update_self _ _ _).trans files)⟩⟩
  refine attempts_fallible_bind linked ⟨kept, ended.wiped, fun _ same => (by cases same),
    fun header same => ?_⟩ fun error why =>
      -- Where the partial name cannot be dropped, the call remembers both of its files.
      ⟨ended.wiped, fun _ _ => ⟨⟨linked.beside, fun unmade => ?_, fun _ => aside,
        fun none_ => (by cases none_), fun _ => same.symm.trans free⟩, .inl why⟩,
        fun _ same => by cases same⟩
  swap
  · exact (Function.update_of_ne apart.symm _ _).trans (ended.tidy.unmade unmade)
  cases same
  refine ⟨content, opened, key, _, publishable, rfl, ?_⟩
  funext other
  by_cases at_ : other = destination
  · rw [at_, Function.update_self]
    exact (Function.update_of_ne apart _ _).trans ((Function.update_self _ _ _).trans files)
  rw [Function.update_of_ne at_]
  by_cases beside : other = partial_path
  · rw [beside, aside]
    exact Function.update_self _ _ _
  · exact kept.beside other beside at_

/-- Where a backup is restored to. -/
def destinationPath (directory name : String) : String := directory ++ "/" ++ name

/-- Where a restored backup is written before it is published. -/
def partialPath (directory name token : String) : String :=
  directory ++ "/." ++ name ++ ".partial-" ++ token

omit [Platform] [Cryptography] in
theorem destination_apart (directory name token : String) :
    destinationPath directory name ≠ partialPath directory name token := by
  -- The path of the partial file is longer.
  intro same
  have lengths := congrArg String.length same
  have one : "/".length = 1 := rfl
  have two : "/.".length = 2 := rfl
  simp only [destinationPath, partialPath, String.length_append, one, two] at lengths
  omega

/-- What it takes to restore a backup, its operations apart. -/
structure Restoration (ports : Ports) (files : String → Entry)
    (encrypted directory name key_ref expected_plan_sha256 token : String) (content : List UInt8)
    (opened : Opened) (key plaintext : List UInt8) : Prop where
  regular : (files encrypted).isRegular = true
  directory_ : (files directory).isDirectory = true
  digest : isSha256 (.str expected_plan_sha256) = true
  reference : _safe_reference "key_ref" (.str key_ref) = .ok ()
  publishable : Publishable ports files encrypted (partialPath directory name token)
    (destinationPath directory name) key_ref expected_plan_sha256 content opened key plaintext

/--
How the restoration of a backup ends: with one new file, or with the files as they were, unless its
files cannot be taken back.
-/
structure RestorationEnds (ports : Ports) (files : String → Entry)
    (encrypted directory name key_ref expected_plan_sha256 token : String)
    (outcome : Except Error BackupArtifact) (later : Sealing) : Prop where
  wiped : later.Wiped
  failed : ∀ error, outcome = .error error →
    (ports.fails .discard = none → ports.fails .retract = none → later.files = files) ∧
    (ports.Faulty ∨ ¬∃ content opened key plaintext, Restoration ports files encrypted directory name
      key_ref expected_plan_sha256 token content opened key plaintext)
  done : ∀ artifact, outcome = .ok artifact → ∃ content opened key plaintext,
    Restoration ports files encrypted directory name key_ref expected_plan_sha256 token content
      opened key plaintext ∧
    later.files = Function.update files (destinationPath directory name) (.own plaintext) ∧
    artifact = ⟨destinationPath directory name, decryptedEvidence opened.header key_ref⟩

omit [Platform] [Cryptography] in
/-- Where nothing is faulty, no operation fails. -/
theorem Ports.fails_of_faultless (ports : Ports) (faultless : ¬ports.Faulty) (operation : Operation) :
    ports.fails operation = none := by
  cases fails : ports.fails operation with
  | none => rfl
  | some error => exact absurd (.inl ⟨operation, error, fails⟩) faultless

/-- A restoration is cut short with nothing but authentic plaintext published, or ends cleanly. -/
theorem attempts_decrypt_to (honest : ports.Honest)
    (secured : ports.fails .chmod = none) (files : String → Entry)
    (encrypted directory name key_ref expected_plan_sha256 token : String) :
    (decrypt_to ports encrypted directory name key_ref expected_plan_sha256 token).Attempts
      (OnlyAuthentic (partialPath directory name token) (destinationPath directory name) files
        fun plaintext => ∃ content opened key, Restoration ports files encrypted directory name
          key_ref expected_plan_sha256 token content opened key plaintext)
      (RestorationEnds ports files encrypted directory name key_ref expected_plan_sha256 token)
      (.start files) := by
  let restores (plaintext : List UInt8) : Prop := ∃ content opened key, Restoration ports files
    encrypted directory name key_ref expected_plan_sha256 token content opened key plaintext
  have unchanged {later : Sealing} (same : later.files = files) : OnlyAuthentic
      (partialPath directory name token) (destinationPath directory name) files restores later :=
    ⟨fun other _ _ => congrFun same other, .inl (congrFun same _)⟩
  have still := @unchanged (.start files) rfl
  have clean : (Sealing.start files).Wiped := fun byte there => by cases there
  -- What is refused before the first file is opened leaves the files as they are.
  have stopped (error : Error) (why : ports.Faulty ∨ ¬∃ content opened key plaintext, Restoration
      ports files encrypted directory name key_ref expected_plan_sha256 token content opened key
        plaintext) :
      RestorationEnds ports files encrypted directory name key_ref expected_plan_sha256 token
        (.error error) (.start files) :=
    ⟨clean, fun _ _ => ⟨fun _ _ => rfl, why⟩, fun _ same => by cases same⟩
  have refused (error : Error) (why : ¬∃ content opened key plaintext, Restoration ports files
      encrypted directory name key_ref expected_plan_sha256 token content opened key plaintext) :
      RestorationEnds ports files encrypted directory name key_ref expected_plan_sha256 token
        (.error error) (.start files) := stopped error (.inr why)
  refine attempts_check_bind still (fun regular => ?_) (fun irregular => refused _ ?_)
    fun error why => stopped error (.inl why)
  swap
  · rintro ⟨content, opened, key, plaintext, held⟩
    exact Bool.false_ne_true ((Bool.not_eq_true' _ ▸ irregular).symm.trans held.regular)
  have regular : (files encrypted).isRegular = true := Bool.not_eq_false' _ ▸ regular
  refine attempts_check_bind still (fun placed => ?_) (fun none_ => refused _ ?_)
    fun error why => stopped error (.inl why)
  swap
  · rintro ⟨content, opened, key, plaintext, held⟩
    exact Bool.false_ne_true ((Bool.not_eq_true' _ ▸ none_).symm.trans held.directory_)
  have placed : (files directory).isDirectory = true := Bool.not_eq_false' _ ▸ placed
  refine attempts_lookAt_bind still (.ofExcept_bind still (fun _ free => ?_) fun error taken => ?_)
    fun error why => stopped error (.inl why)
  swap
  · refine refused error ?_
    rintro ⟨content, opened, key, plaintext, held⟩
    rw [show (Sealing.start files).files (directory ++ "/" ++ name) = .absent from
      held.publishable.fresh] at taken
    cases taken
  refine .ofExcept_bind still (fun _ digest => ?_) fun error undigested => ?_
  swap
  · refine refused error ?_
    rintro ⟨content, opened, key, plaintext, held⟩
    rw [_validate_sha256, asChecked_of, held.digest] at undigested
    cases undigested
  have digest : isSha256 (.str expected_plan_sha256) = true := by
    rw [_validate_sha256, asChecked_of] at digest
    exact of_refuseIf digest
  refine .ofExcept_bind still (fun _ reference => ?_) fun error unsafe_ => ?_
  swap
  · refine refused error ?_
    rintro ⟨content, opened, key, plaintext, held⟩
    cases unsafe_.symm.trans held.reference
  have whole {content : List UInt8} {opened : Opened} {key plaintext : List UInt8}
      (publishable : Publishable ports files encrypted (partialPath directory name token)
        (destinationPath directory name) key_ref expected_plan_sha256 content opened key plaintext) :
      Restoration ports files encrypted directory name key_ref expected_plan_sha256 token content
        opened key plaintext := ⟨regular, placed, digest, reference, publishable⟩
  let cleaned (outcome : Except Error (Json Wide)) (later : Sealing) : Prop := later.Wiped ∧
    (∀ error, outcome = .error error →
      (ports.fails .discard = none → ports.fails .retract = none → later.files = files) ∧
      (ports.Faulty ∨ ¬∃ content opened key plaintext, Restoration ports files encrypted directory
        name key_ref expected_plan_sha256 token content opened key plaintext)) ∧
    ∀ header, outcome = .ok header → ∃ content opened key plaintext,
      Restoration ports files encrypted directory name key_ref expected_plan_sha256 token content
        opened key plaintext ∧ header = opened.header ∧
      later.files = Function.update files (destinationPath directory name) (.own plaintext)
  have apart := destination_apart directory name token
  -- The cleanup takes back the partial file, and behind it what was published.
  refine Prog.Attempts.bind (@Prog.Attempts.catch _ _ _ _ _ cleaned _ _ _ _
    ((@attempts_publishPlaintext _ _ ports (.start files) encrypted
      (partialPath directory name token) (destinationPath directory name) key_ref
      expected_plan_sha256 honest secured rfl rfl clean rfl apart).mono
      (fun later through => ?_) fun _ _ => id)
    (fun header later ended => ?_) fun error later through ended => ?_)
    (fun header later through ended => ?_) fun error later ended => ?_
  · refine ⟨through.beside, through.published.imp_right ?_⟩
    rintro ⟨plaintext, ⟨content, opened, key, publishable⟩, there⟩
    exact ⟨plaintext, ⟨content, opened, key, whole publishable⟩, there⟩
  · refine ⟨ended.wiped, fun _ same => (by cases same), fun header_ same => ?_⟩
    cases same
    obtain ⟨content, opened, key, plaintext, publishable, same, written⟩ := ended.done _ rfl
    exact ⟨content, opened, key, plaintext, whole publishable, same, written⟩
  · obtain ⟨remembered, why⟩ := ended.failed error rfl
    let kept := Sealing.Remembered.discarded (partialPath directory name token) later
    have wiped : kept.Wiped := by
      show Sealing.Wiped (if later.created then _ else later)
      split <;> exact ended.wiped
    have wiped_ : Sealing.Wiped (if kept.published then
        kept.put (destinationPath directory name) .absent else kept) := by
      split <;> exact wiped
    have restored := remembered.retracted apart
    have failing {operation : Operation} {error_ : Error} {last : Sealing} (clean_ : last.Wiped)
        (fails : ports.fails operation = some error_)
        (own : operation = .discard ∨ operation = .retract) : cleaned (.error error_) last := by
      refine ⟨clean_, fun _ _ => ⟨fun one two => ?_, .inl (.inl ⟨operation, error_, fails⟩)⟩,
        fun _ same => by cases same⟩
      rcases own with rfl | rfl
      · rw [fails] at one
        cases one
      · rw [fails] at two
        cases two
    refine attempts_removeOwn_bind through (attempts_removeOwn_bind ?_ ⟨unchanged restored, wiped_,
      fun _ _ => ⟨fun _ _ => restored, why.imp_right fun none_ => ?_⟩, fun _ same => by cases same⟩
      fun error_ fails => failing wiped fails (.inr rfl)) fun error_ fails =>
        failing ended.wiped fails (.inl rfl)
    · -- What was published stays as it is until the partial file is gone.
      refine ⟨fun other one two => ?_, ?_⟩
      · exact (Sealing.Remembered.beside_discarded _ _ one).trans (through.beside other one two)
      · show kept.files _ = _ ∨ ∃ plaintext, _ ∧ kept.files _ = _
        rw [Sealing.Remembered.beside_discarded _ _ apart]
        exact through.published
    · rintro ⟨content, opened, key, plaintext, held⟩
      exact none_ ⟨content, opened, key, plaintext, held.publishable⟩
  · obtain ⟨wiped, _, done⟩ := ended
    refine ⟨through, wiped, fun _ same => (by cases same), fun artifact same => ?_⟩
    cases same
    obtain ⟨content, opened, key, plaintext, restoration, rfl, written⟩ := done header rfl
    exact ⟨content, opened, key, plaintext, restoration, written, rfl⟩
  · obtain ⟨wiped, failed, _⟩ := ended
    exact ⟨wiped, fun _ _ => failed error rfl, fun _ same => by cases same⟩

end Decryption

section RoundTrip

variable [Platform] [Cryptography]

omit [Cryptography] in
/-- The members of a header that is read back are those that were written. -/
theorem HeaderParts.getD_sorted (parts : HeaderParts) (name : Wide) :
    (Json.sorted parts.header).getD name = parts.header.getD name := by
  have perm := parts.sortedMembers_perm 0 (.inl rfl : IsTag (.int TAG_BYTES))
  have distinct := ((perm.map (·.1)).nodup_iff).mpr (parts.distinct_members 0)
  rw [Json.getD, Json.getD, HeaderFields.header, Json.sorted, Json.get?_perm distinct perm]

variable {parts : HeaderParts} {named : String}

omit [Cryptography] in
/-- A header that is written for a reference without surrogates is parsed. -/
theorem HeaderParts.parse (key : parts.key_ref = named) :
    _parse_header (_canonical parts.header) = .ok (Json.sorted parts.header, parts.nonce) :=
  (parse_header_image _ _ _).mpr ⟨parts, .int TAG_BYTES, 0, key ▸ unpaired_string named, rfl,
    .inl rfl, rfl, rfl⟩

omit [Cryptography] in
theorem HeaderParts.canonical_pos (key : parts.key_ref = named) :
    0 < (_canonical parts.header).length := by
  apply List.length_pos_iff.mpr
  intro empty
  have parsed := HeaderParts.parse key
  rw [empty, parse_header_iff] at parsed
  cases parsed.1

omit [Platform] [Cryptography] in
/-- A check that is passed is followed by what stands behind it. -/
theorem refuseIf_passed {α : Type} {failed : Bool} {error : Error} {rest : Unit → Except Error α}
    (passed : failed = false) : (refuseIf failed error >>= rest) = rest () := by
  rw [passed]
  rfl

omit [Cryptography] in
/-- The parts of an envelope are found where they were written, for the plan and the key it names. -/
theorem openEnvelope_parts {raw cipher tag nonce : List UInt8} {header : Json Wide}
    {plan_sha256 : String} (pos : 0 < raw.length) (short : raw.length ≤ MAX_HEADER_BYTES)
    (parsed : _parse_header raw = .ok (header, nonce))
    (plan : (header.getD "plan_sha256" : Json Wide) = .str plan_sha256)
    (key : (header.getD "key_ref" : Json Wide) = .str named)
    (size : (header.getD "plaintext_bytes" : Json Wide) = .int cipher.length)
    (sized : tag.length = TAG_BYTES) (key_ref expected_plan_sha256 : String) :
    openEnvelope (envelopeFront raw ++ cipher ++ tag) key_ref expected_plan_sha256 =
      if plan_sha256 = expected_plan_sha256 ∧ named = key_ref then
        .ok ⟨header, nonce, envelopeFront raw, cipher.length, cipher, tag⟩
      else .error (.encryption "Encrypted backup does not match the approved restore request") := by
  have eight : MAGIC.length = 8 := rfl
  have four : (lengthBytes raw.length).length = 4 := rfl
  have whole : envelopeFront raw ++ cipher ++ tag =
      MAGIC ++ (lengthBytes raw.length ++ (raw ++ (cipher ++ tag))) := by
    simp only [envelopeFront, List.append_assoc]
  -- Each part is read behind those before it, whose lengths are known.
  have first : (envelopeFront raw ++ cipher ++ tag).take 8 = MAGIC := by
    rw [whole]
    exact List.take_left' eight
  have second : ((envelopeFront raw ++ cipher ++ tag).drop 8).take 4 = lengthBytes raw.length := by
    rw [whole, List.drop_left' eight]
    exact List.take_left' four
  have third : ((envelopeFront raw ++ cipher ++ tag).drop 12).take raw.length = raw := by
    rw [whole, ← List.append_assoc MAGIC, List.drop_left' (by rw [List.length_append, eight, four])]
    exact List.take_left' rfl
  have fourth : ((envelopeFront raw ++ cipher ++ tag).drop (envelopeFront raw).length).take
      cipher.length = cipher := by
    rw [List.append_assoc, List.drop_left' rfl]
    exact List.take_left' rfl
  have total : (envelopeFront raw ++ cipher ++ tag).length =
      (envelopeFront raw).length + cipher.length + TAG_BYTES := by
    rw [List.length_append, List.length_append, sized]
  have last : (envelopeFront raw ++ cipher ++ tag).drop
      ((envelopeFront raw ++ cipher ++ tag).length - TAG_BYTES) = tag := by
    refine List.drop_left' ?_
    rw [total, List.length_append]
    omega
  have length : bytesLength (lengthBytes raw.length) = raw.length := by
    apply bytesLength_lengthBytes
    have bound : MAX_HEADER_BYTES < 2 ^ 32 := by decide
    omega
  have bounded : ¬(raw.length < 1 ∨ MAX_HEADER_BYTES < raw.length) := by omega
  rw [openEnvelope, first, refuseIf_passed (by simp), second]
  dsimp only
  rw [refuseIf_passed (by simp [four]), length, refuseIf_passed (decide_eq_false bounded), third,
    refuseIf_passed (by simp), parsed]
  show (refuseIf (decide ((header.getD "plan_sha256" : Json Wide) ≠ .str expected_plan_sha256) ||
    decide ((header.getD "key_ref" : Json Wide) ≠ .str key_ref)) _ >>= _) = _
  rw [plan, key]
  by_cases asked : plan_sha256 = expected_plan_sha256 ∧ named = key_ref
  · rw [if_pos asked, refuseIf_passed (by simp [asked]), size]
    show (refuseIf (decide ((envelopeFront raw ++ cipher ++ tag).length ≠
      (envelopeFront raw).length + cipher.length + TAG_BYTES)) _ >>= _) = _
    rw [refuseIf_passed (decide_eq_false (not_not.mpr total))]
    show Except.ok (Opened.mk header nonce (envelopeFront raw) cipher.length
      (((envelopeFront raw ++ cipher ++ tag).drop (envelopeFront raw).length).take cipher.length)
      ((envelopeFront raw ++ cipher ++ tag).drop
        ((envelopeFront raw ++ cipher ++ tag).length - TAG_BYTES))) = _
    rw [fourth, last]
  · rw [if_neg asked]
    have refused : (decide (Json.str (Wide.of plan_sha256) ≠ .str expected_plan_sha256) ||
        decide (Json.str (Wide.of named) ≠ .str key_ref)) = true := by
      simp only [ne_eq, Json.str.injEq, Wide.of_injective.eq_iff]
      by_cases same : plan_sha256 = expected_plan_sha256 <;> by_cases other : named = key_ref <;>
        simp_all
    rw [refused]
    rfl

/-- What an envelope is opened to. -/
def openedEnvelope (parts : HeaderParts) (key content : List UInt8) : Opened :=
  ⟨Json.sorted parts.header, parts.nonce, envelopeFront (_canonical parts.header), content.length,
    crypt key parts.nonce 0 content,
    Cryptography.tag key parts.nonce (envelopeFront (_canonical parts.header))
      (crypt key parts.nonce 0 content)⟩

/-- An envelope is opened for the plan and the key it was made for, and for no other. -/
theorem openEnvelope_sealed {key content : List UInt8} (named_ : parts.key_ref = named)
    (short : (_canonical parts.header).length ≤ MAX_HEADER_BYTES)
    (sized : (Cryptography.tag key parts.nonce (envelopeFront (_canonical parts.header))
      (crypt key parts.nonce 0 content)).length = TAG_BYTES)
    (described : Describes parts.header content) (key_ref expected_plan_sha256 : String) :
    openEnvelope (sealedBytes parts.nonce parts.header key content) key_ref expected_plan_sha256 =
      if parts.plan_sha256 = expected_plan_sha256 ∧ named = key_ref then
        .ok (openedEnvelope parts key content)
      else .error (.encryption "Encrypted backup does not match the approved restore request") := by
  have size : ((Json.sorted parts.header).getD "plaintext_bytes" : Json Wide) =
      .int (crypt key parts.nonce 0 content).length := by
    rw [length_crypt]
    exact (parts.getD_sorted _).trans described.1
  have reference : ((Json.sorted parts.header).getD "key_ref" : Json Wide) = .str named := by
    rw [parts.getD_sorted, ← named_]
    rfl
  have opened := openEnvelope_parts (HeaderParts.canonical_pos named_) short (HeaderParts.parse named_)
    (parts.getD_sorted _) reference size sized key_ref expected_plan_sha256
  rw [length_crypt] at opened
  exact opened

/-- An envelope that was left somewhere can be restored where its names are free. -/
theorem restoration_of_sealed {ports : Ports} {key content : List UInt8}
    {later : String → Entry} {encrypted directory name token : String}
    (named_ : parts.key_ref = named)
    (stored : later encrypted = .own (sealedBytes parts.nonce parts.header key content))
    (placed : (later directory).isDirectory = true)
    (fresh : later (destinationPath directory name) = .absent)
    (aside : later (partialPath directory name token) = .absent)
    (short : (_canonical parts.header).length ≤ MAX_HEADER_BYTES)
    (sized : (Cryptography.tag key parts.nonce (envelopeFront (_canonical parts.header))
      (crypt key parts.nonce 0 content)).length = TAG_BYTES)
    (described : Describes parts.header content) (yields : ports.Yields named key) :
    Restoration ports later encrypted directory name named parts.plan_sha256 token
      (sealedBytes parts.nonce parts.header key content) (openedEnvelope parts key content) key
      content := by
  have opens := openEnvelope_sealed named_ short sized described named parts.plan_sha256
  rw [if_pos ⟨rfl, rfl⟩] at opens
  have reference : _safe_reference "key_ref" (.str named) = .ok () := by
    rw [← named_]
    exact safe_reference_ok.mpr ⟨parts.bounded, parts.clean⟩
  have read : Describes (Json.sorted parts.header) content := by
    rw [Describes, parts.getD_sorted, parts.getD_sorted]
    exact described
  -- The cipher undoes itself, and so the plaintext is what was encrypted.
  have back : content = crypt key parts.nonce 0 (crypt key parts.nonce 0 content) :=
    (crypt_crypt _ _ _ _).symm
  have regular : (later encrypted).isRegular = true := by
    rw [stored]
    rfl
  have there : (later encrypted).content? = some (sealedBytes parts.nonce parts.header key content) := by
    rw [stored]
    rfl
  exact ⟨regular, placed, parts.plan, reference, there, aside, fresh, opens, yields, rfl, back, read⟩

/--
A backup is restored whole or not at all: at no moment is there anything under the name it is
restored to but the whole plaintext of an authentic envelope for the key and the plan, the key is
wiped, and an error leaves the files as they were, unless they could not be taken back. It is an
error only where an operation fails or the backup could not be restored.
-/
theorem decryption_authentic (ports : Ports) (honest : ports.Honest)
    (secured : ports.fails .chmod = none) (files : String → Entry)
    (encrypted directory name key_ref expected_plan_sha256 token : String) :
    (∀ steps, OnlyAuthentic (partialPath directory name token) (destinationPath directory name) files
      (fun plaintext => ∃ content opened key, Restoration ports files encrypted directory name
        key_ref expected_plan_sha256 token content opened key plaintext)
      ((decrypt_to ports encrypted directory name key_ref expected_plan_sha256 token).after steps
        (.start files)).2) ∧
    (decrypt_to ports encrypted directory name key_ref expected_plan_sha256 token).Ends (.start files)
      (RestorationEnds ports files encrypted directory name key_ref expected_plan_sha256 token) := by
  have attempts := attempts_decrypt_to honest secured files encrypted directory name key_ref
    expected_plan_sha256 token
  exact ⟨attempts.after, attempts.ends⟩

end RoundTrip

section Examples

open Sample

local instance openingPlatform : Platform := envelopePlatform

local instance openingCryptography : Cryptography := sampleCryptography

/-- The files behind the encryption of a backup. -/
def Sample.encryptedFiles (path : String) : Entry :=
  if path = "/encrypted/backup.enc" then
    .own (sealedBytes headerParts.nonce headerParts.header backupKey [0])
  else backupFiles path

/-- A backup of one byte is restored. -/
theorem decryption_authentic_one_byte :
    (decrypt_to soundPorts "/encrypted/backup.enc" "/restored" "copy.db" backupKeyRef
      headerParts.plan_sha256 "f5e4d3c2b1a0").Ends (.start encryptedFiles) fun outcome later =>
        ∃ artifact, outcome = .ok artifact ∧ RestorationEnds soundPorts encryptedFiles
          "/encrypted/backup.enc" "/restored" "copy.db" backupKeyRef headerParts.plan_sha256
          "f5e4d3c2b1a0" outcome later := by
  refine (decryption_authentic soundPorts honest_soundPorts rfl encryptedFiles "/encrypted/backup.enc"
    "/restored" "copy.db" backupKeyRef headerParts.plan_sha256 "f5e4d3c2b1a0").2.mono
    fun outcome later ended => ?_
  cases outcome with
  | ok artifact => exact ⟨artifact, rfl, ended⟩
  | error error =>
    rcases (ended.failed error rfl).2 with fault | none_
    · exact absurd fault faultless_soundPorts
    · exact absurd ⟨_, _, _, _, restoration_of_sealed rfl rfl rfl (by decide +kernel) (by decide +kernel)
        short_header rfl ⟨rfl, rfl⟩ yields_backupKey⟩ none_

end Examples

section Restored

variable [Platform] [Cryptography]

/--
What was encrypted is restored: an envelope that an encryption left is decrypted, in any directory
where its names are free, to exactly the content of the source, if the plan is the one it was made
for, and is refused with nothing changed for any other plan.
-/
theorem backup_restored (ports restoring : Ports) (honest : ports.Honest)
    (secured : ports.fails .chmod = none) (measured : ports.fails .stat = none)
    (honest_ : restoring.Honest) (secured_ : restoring.fails .chmod = none)
    (faultless : ¬restoring.Faulty) (files : String → Entry)
    (output_directory source : String) (plan : Json Wide) (key_ref : String)
    (same : ∀ key, ports.Yields key_ref key → restoring.Yields key_ref key)
    (nonce : List UInt8) (length : nonce.length = NONCE_BYTES) (token : String) :
    (encrypt ports output_directory source plan key_ref nonce token).Ends (.start files)
      fun outcome sealing => ∀ artifact, outcome = .ok artifact → ∃ content,
        (files source).content? = some content ∧
        ∀ (later : String → Entry) (directory name expected_plan_sha256 token_ : String),
          later artifact.path = sealing.files artifact.path →
          (later directory).isDirectory = true →
          later (destinationPath directory name) = .absent →
          later (partialPath directory name token_) = .absent →
          (decrypt_to restoring artifact.path directory name key_ref expected_plan_sha256 token_).Ends
            (.start later) fun restored changed =>
              if (plan.getD "plan_sha256" : Json Wide) = .str expected_plan_sha256 then
                (∃ copy, restored = .ok copy ∧ copy.path = destinationPath directory name) ∧
                changed.files =
                  Function.update later (destinationPath directory name) (.own content)
              else (∃ error, restored = .error error) ∧ changed.files = later := by
  refine (attempts_encrypt honest secured measured files output_directory source plan key_ref nonce
    token).ends.mono fun outcome sealing ended artifact returned => ?_
  obtain ⟨header, key, content, encryption, written, rfl⟩ := ended.done artifact returned
  have sealable := encryption.sealable
  refine ⟨content, sealable.encryptable.1, fun later directory name expected token_ there placed fresh
    aside => ?_⟩
  obtain ⟨parts, planned, _, _, named, rfl, rfl⟩ :=
    (header_from_plan_iff plan key_ref nonce header length).mp encryption.encoded
  have stored : later (sealedPath output_directory plan token) =
      .own (sealedBytes parts.nonce parts.header key content) := by
    rw [there, written, Function.update_self]
  have opens := openEnvelope_sealed named.symm encryption.short sealable.encryptable.2
    sealable.described key_ref expected
  have yields := same key sealable.yields
  refine (attempts_decrypt_to honest_ secured_ later _ directory name key_ref expected
    token_).ends.mono fun restored changed ended => ?_
  rw [planned]
  by_cases asked : Json.str (Wide.of parts.plan_sha256) = .str expected
  · rw [if_pos asked]
    obtain rfl := Wide.of_injective (Json.str.inj asked)
    rw [if_pos ⟨rfl, rfl⟩] at opens
    have restoration := restoration_of_sealed named.symm stored placed fresh aside encryption.short
      sealable.encryptable.2 sealable.described yields
    cases restored with
    | error error =>
      rcases (ended.failed error rfl).2 with fault | none_
      · exact absurd fault faultless
      · exact absurd ⟨_, _, _, _, restoration⟩ none_
    | ok copy =>
      obtain ⟨found, opened, key_, plaintext, held, changed_, rfl⟩ := ended.done copy rfl
      refine ⟨⟨_, rfl, rfl⟩, ?_⟩
      -- The envelope and the resolver leave no other plaintext to be restored, and the cipher
      -- undoes itself on this one.
      have one := held.publishable.there
      have two := held.publishable.authentic
      obtain rfl := Option.some.inj (restoration.publishable.there.symm.trans one)
      obtain rfl := Except.ok.inj (opens.symm.trans two.opens)
      obtain rfl := yields.unique two.yields
      rw [changed_, two.decrypted]
      exact congrArg (fun plain => Function.update later (destinationPath directory name) (.own plain))
        (crypt_crypt _ _ _ _)
  · rw [if_neg asked]
    rw [if_neg fun both => asked (congrArg (Json.str ∘ Wide.of) both.1)] at opens
    cases restored with
    | error error =>
      exact ⟨⟨error, rfl⟩, (ended.failed error rfl).1 (restoring.fails_of_faultless faultless _)
        (restoring.fails_of_faultless faultless _)⟩
    | ok copy =>
      obtain ⟨found, opened, key_, plaintext, held, _, _⟩ := ended.done copy rfl
      have one := held.publishable.there
      rw [stored] at one
      obtain rfl := Option.some.inj one
      cases opens.symm.trans held.publishable.authentic.opens

end Restored

section RestoredExample

open Sample

local instance restoredPlatform : Platform := envelopePlatform

local instance restoredCryptography : Cryptography := sampleCryptography

/-- The backup of one byte that was encrypted is restored under another name. -/
theorem backup_restored_one_byte :
    (encrypt soundPorts "/encrypted" "/backup.db" backupPlan backupKeyRef headerParts.nonce
      "0a1b2c3d4e5f").Ends (.start backupFiles) fun outcome sealing => ∃ artifact,
        outcome = .ok artifact ∧
        (decrypt_to soundPorts artifact.path "/restored" "copy.db" backupKeyRef
          headerParts.plan_sha256 "f5e4d3c2b1a0").Ends (.start sealing.files) fun restored changed =>
            (∃ copy, restored = .ok copy) ∧
            changed.files "/restored/copy.db" = .own [0] := by
  have encrypted := (attempts_encrypt honest_soundPorts rfl rfl backupFiles "/encrypted" "/backup.db"
    backupPlan backupKeyRef headerParts.nonce "0a1b2c3d4e5f").ends
  refine (encrypted.and (backup_restored soundPorts soundPorts honest_soundPorts rfl rfl
    honest_soundPorts rfl faultless_soundPorts backupFiles "/encrypted" "/backup.db" backupPlan
    backupKeyRef (fun _ => id) headerParts.nonce headerParts.length "0a1b2c3d4e5f")).mono
    fun outcome sealing both => ?_
  obtain ⟨ended, restores⟩ := both
  cases outcome with
  | error error =>
    rcases (ended.failed error rfl).2 with fault | none_
    · exact absurd fault faultless_soundPorts
    · exact absurd ⟨_, _, _, Sample.encryption⟩ none_
  | ok artifact =>
    refine ⟨artifact, rfl, ?_⟩
    obtain ⟨content, there, restored⟩ := restores artifact rfl
    obtain ⟨header, key, content_, _, written, _⟩ := ended.done artifact rfl
    -- The names in the other directory are as free as they were.
    have kept (path : String) (apart : path ≠ sealedPath "/encrypted" backupPlan "0a1b2c3d4e5f") :
        sealing.files path = backupFiles path := by
      rw [written]
      exact Function.update_of_ne apart _ _
    refine (restored sealing.files "/restored" "copy.db" headerParts.plan_sha256 "f5e4d3c2b1a0" rfl
      ?_ ?_ ?_).mono fun outcome changed ends => ?_
    · rw [kept _ (by decide +kernel)]
      rfl
    · rw [kept _ (by decide +kernel)]
      decide +kernel
    · rw [kept _ (by decide +kernel)]
      decide +kernel
    · have planned : (backupPlan.getD "plan_sha256" : Json Wide) = .str headerParts.plan_sha256 := rfl
      rw [if_pos planned] at ends
      obtain ⟨⟨copy, returned, _⟩, files⟩ := ends
      refine ⟨⟨copy, returned⟩, ?_⟩
      cases there
      rw [files]
      exact Function.update_self _ _ _

end RestoredExample

end SeanOs
