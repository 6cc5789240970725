import SeanOs.Backup.Envelope

/-! What the steps of an encryption or a decryption do to the files, and how they may end. -/

namespace SeanOs

open Atomic

section Bytes

theorem flatten_pieces : ∀ (bound : ℕ) (bytes : List UInt8), bytes.length ≤ bound →
    (pieces bound bytes).flatten = bytes
  | 0, bytes, short => by
    rw [pieces, List.flatten_nil, List.length_eq_zero_iff.mp (Nat.le_zero.mp short)]
  | bound + 1, bytes, short => by
    rw [pieces]
    split
    next empty => rw [List.flatten_nil, List.isEmpty_iff.mp empty]
    next some_ =>
      -- A piece that is not empty leaves fewer bytes for the others.
      have positive : 0 < bytes.length := List.length_pos_iff.mpr fun none_ => some_ (by rw [none_]; rfl)
      have rest : (bytes.drop CHUNK_BYTES).length ≤ bound := by
        rw [List.length_drop]
        have size : 0 < CHUNK_BYTES := by decide
        omega
      rw [List.flatten_cons, flatten_pieces bound _ rest, List.take_append_drop]

variable [Cryptography]

@[simp] theorem length_crypt (key nonce : List UInt8) (offset : ℕ) (bytes : List UInt8) :
    (crypt key nonce offset bytes).length = bytes.length := List.length_mapIdx

@[simp] theorem crypt_nil (key nonce : List UInt8) (offset : ℕ) : crypt key nonce offset [] = [] := rfl

/-- Bytes are encrypted alike in one piece and in several. -/
theorem crypt_append (key nonce : List UInt8) (offset : ℕ) (one two : List UInt8) :
    crypt key nonce offset (one ++ two) =
      crypt key nonce offset one ++ crypt key nonce (offset + one.length) two := by
  rw [crypt, List.mapIdx_append]
  refine congrArg₂ _ rfl (congrArg₂ _ ?_ rfl)
  funext index byte
  rw [show offset + (index + one.length) = offset + one.length + index by omega]

/-- Encryption undoes itself. -/
theorem crypt_crypt (key nonce : List UInt8) (offset : ℕ) (bytes : List UInt8) :
    crypt key nonce offset (crypt key nonce offset bytes) = bytes := by
  rw [crypt, crypt, List.mapIdx_mapIdx]
  refine List.ext_getElem (by simp) fun index one two => ?_
  rw [List.getElem_mapIdx]
  show bytes[index] ^^^ _ ^^^ _ = bytes[index]
  rw [UInt8.xor_assoc, UInt8.xor_self, UInt8.xor_zero]

end Bytes

/-- A header length that is written is read back. -/
theorem bytesLength_lengthBytes {length : ℕ} (small : length < 2 ^ 32) :
    bytesLength (lengthBytes length) = length := by
  simp only [bytesLength, lengthBytes, List.foldl_cons, List.foldl_nil, UInt8.toNat_ofNat']
  omega

/-- Some operation fails by itself, or the resolver does behind a body that returned. -/
def Ports.Faulty (ports : Ports) : Prop :=
  (∃ operation error, ports.fails operation = some error) ∨ ports.leave (.ok ()) ≠ .ok ()

/-- The resolver never hides an error of the body under it. -/
def Ports.Honest (ports : Ports) : Prop := ∀ error, ports.leave (.error error) ≠ .ok ()

/-- A step of a call that touches nothing but one file and what was hashed. -/
structure Framed (path : String) (state later : Sealing) : Prop where
  beside : ∀ other, other ≠ path → later.files other = state.files other
  key : later.key = state.key
  created : later.created = state.created
  published : later.published = state.published

namespace Framed

variable {path : String} {state later last : Sealing}

theorem refl (state : Sealing) : Framed path state state := ⟨fun _ _ => rfl, rfl, rfl, rfl⟩

theorem trans (first : Framed path state later) (second : Framed path later last) :
    Framed path state last :=
  ⟨fun other apart => (second.beside other apart).trans (first.beside other apart),
    second.key.trans first.key, second.created.trans first.created,
    second.published.trans first.published⟩

end Framed

section Files

variable {path : String} {state : Sealing}

@[simp] theorem Sealing.files_put (entry : Entry) : (state.put path entry).files path = entry :=
  Function.update_self _ _ _

/-- Bytes are written behind the content that a file of the caller has. -/
theorem Sealing.append_own {content : List UInt8} (bytes : List UInt8)
    (there : state.files path = .own content) :
    state.append path bytes = state.put path (.own (content ++ bytes)) := by
  rw [append, there, Entry.own]
  rfl

theorem Sealing.emit_own {content : List UInt8} (bytes : List UInt8)
    (there : state.files path = .own content) :
    state.emit path bytes = { state.put path (.own (content ++ bytes)) with
      ciphertext := state.ciphertext ++ bytes } := by
  rw [emit, append_own bytes there]

theorem Sealing.plaintext_emit (bytes : List UInt8) :
    (state.emit path bytes).plaintext = state.plaintext := by
  rw [emit, append]
  split <;> rfl

theorem Framed.emit {content bytes : List UInt8} (there : state.files path = .own content) :
    Framed path state (state.emit path bytes) := by
  rw [Sealing.emit_own bytes there]
  exact ⟨fun _ apart => Function.update_of_ne apart _ _, rfl, rfl, rfl⟩

theorem Sealing.files_emit {content bytes : List UInt8} (there : state.files path = .own content) :
    (state.emit path bytes).files path = .own (content ++ bytes) := by
  rw [emit_own bytes there]
  exact Function.update_self _ _ _

end Files

section Jobs

variable {ports : Ports} {state : Sealing} {through : Sealing → Prop}

/-- What follows an operation is attempted behind it, unless the operation fails. -/
theorem attempts_fallible_bind {α : Type} {operation : Operation} {change : Sealing → Sealing}
    {rest : Unit → Job α} {post : Except Error α → Sealing → Prop} (now : through state)
    (second : (rest ()).Attempts through post (change state))
    (failed : ∀ error, ports.Faulty → post (.error error) state) :
    (fallible ports operation change >>= rest).Attempts through post state := by
  rw [fallible]
  cases fails : ports.fails operation with
  | none => exact .write_bind now second
  | some error => exact ⟨now, failed error (.inl ⟨operation, error, fails⟩)⟩

theorem attempts_fallible {operation : Operation} {change : Sealing → Sealing}
    {post : Except Error Unit → Sealing → Prop} (now : through state) (behind : through (change state))
    (ended : post (.ok ()) (change state))
    (failed : ∀ error, ports.Faulty → post (.error error) state) :
    (fallible ports operation change).Attempts through post state := by
  rw [fallible]
  cases fails : ports.fails operation with
  | none => exact ⟨now, behind, ended⟩
  | some error => exact ⟨now, failed error (.inl ⟨operation, error, fails⟩)⟩

/-- What follows a look at a path is attempted with the entry at it, unless the look fails. -/
theorem attempts_lookAt_bind {α : Type} {path : String} {rest : Entry → Job α}
    {post : Except Error α → Sealing → Prop} (now : through state)
    (second : (rest (state.files path)).Attempts through post state)
    (failed : ∀ error, ports.Faulty → post (.error error) state) :
    (lookAt ports path >>= rest).Attempts through post state := by
  rw [lookAt, fallible]
  cases fails : ports.fails (.look path) with
  | none => exact ⟨now, now, second⟩
  | some error => exact ⟨now, failed error (.inl ⟨_, error, fails⟩)⟩

/-- What follows a look at a path is attempted where the entry at it is not refused. -/
theorem attempts_check_bind {α : Type} {path : String} {rejects : Entry → Bool} {error : Error}
    {rest : Unit → Job α} {post : Except Error α → Sealing → Prop} (now : through state)
    (passed : rejects (state.files path) = false → (rest ()).Attempts through post state)
    (refused : rejects (state.files path) = true → post (.error error) state)
    (failed : ∀ error, ports.Faulty → post (.error error) state) :
    ((do
      let entry ← lookAt ports path
      Prog.ofExcept (refuseIf (rejects entry) error)) >>= rest : Job α).Attempts through post
      state := by
  rw [lookAt, fallible]
  cases fails : ports.fails (.look path) with
  | some error_ => exact ⟨now, failed error_ (.inl ⟨_, error_, fails⟩)⟩
  | none =>
    refine ⟨now, now, ?_⟩
    show (Prog.ofExcept (refuseIf (rejects (state.files path)) error) >>= rest).Attempts _ _ state
    cases rejected : rejects (state.files path) with
    | false => exact passed rejected
    | true => exact ⟨now, refused rejected⟩

/-- What follows a removal in the cleanup is attempted behind it, unless the removal fails. -/
theorem attempts_removeOwn_bind {α : Type} {operation : Operation} {path : String}
    {own : Sealing → Bool} {rest : Unit → Job α} {post : Except Error α → Sealing → Prop}
    (now : through state)
    (second : (rest ()).Attempts through post (if own state then state.put path .absent else state))
    (failed : ∀ error, ports.fails operation = some error → post (.error error) state) :
    (removeOwn ports operation path own >>= rest).Attempts through post state := by
  rw [removeOwn]
  refine ⟨now, ?_⟩
  show ((if own state then fallible ports operation (.put path .absent) else pure ()) >>=
    rest).Attempts _ _ state
  -- A file that is not the call's own is left alone, and that cannot fail.
  cases mine : own state with
  | false =>
    rw [mine] at second
    exact second
  | true =>
    rw [mine, if_pos rfl] at second
    rw [if_pos rfl, fallible]
    cases fails : ports.fails operation with
    | none => exact .write_bind now second
    | some error => exact ⟨now, failed error fails⟩

/-- What follows the creation of something at a path is attempted where there is nothing yet. -/
theorem attempts_fresh_bind {α : Type} {operation : Operation} {path : String}
    {change : Sealing → Sealing} {error : Error} {rest : Unit → Job α}
    {post : Except Error α → Sealing → Prop} (now : through state)
    (free : state.files path = .absent → (rest ()).Attempts through post (change state))
    (taken : state.files path ≠ .absent → post (.error error) state) :
    ((Prog.transact operation fun state : Sealing =>
      if state.files path = .absent then (.ok (), change state)
      else (.error error, state)) >>= rest : Job α).Attempts through post state := by
  by_cases none_ : state.files path = .absent
  · have second := free none_
    have created : (Prog.transact operation fun state : Sealing =>
        if state.files path = .absent then (.ok (), change state)
        else (.error error, state) : Job Unit).Attempts through
        (fun outcome later => outcome = .ok () ∧ later = change state) state := by
      refine .transact now ?_ ?_
      · rw [if_pos none_]
        exact second.first
      · rw [if_pos none_]
        exact ⟨rfl, rfl⟩
    refine created.bind (fun _ later _ made => ?_) fun _ later made => by cases made.1
    obtain ⟨_, rfl⟩ := made
    exact second
  · have refused : (Prog.transact operation fun state : Sealing =>
        if state.files path = .absent then (.ok (), change state)
        else (.error error, state) : Job Unit).Attempts through
        (fun outcome later => outcome = .error error ∧ later = state) state := by
      refine .transact now ?_ ?_
      · rw [if_neg none_]
        exact now
      · rw [if_neg none_]
        exact ⟨rfl, rfl⟩
    refine refused.bind (fun _ later _ made => by cases made.1) fun other later made => ?_
    obtain ⟨same, rfl⟩ := made
    cases same
    exact taken none_

/-- How a part of a call ends that writes to one file: in a fault, or with what it was to write. -/
structure Wrote (ports : Ports) (path : String) (state : Sealing) (written : Sealing → Prop)
    (refused : Prop) (outcome : Except Error Unit) (later : Sealing) : Prop where
  framed : Framed path state later
  failed : ∀ error, outcome = .error error → ports.Faulty ∨ refused
  done : outcome = .ok () → written later

theorem Wrote.of_error {path : String} {first later : Sealing} {written : Sealing → Prop}
    {refused : Prop} {error : Error} (framed : Framed path first later) (why : ports.Faulty ∨ refused) :
    Wrote ports path first written refused (.error error) later :=
  ⟨framed, fun _ _ => why, fun same => by cases same⟩

/-- What is written behind other steps counts from where those started. -/
theorem Wrote.of_framed {path : String} {first middle later : Sealing} {written : Sealing → Prop}
    {refused : Prop} {outcome : Except Error Unit} (framed : Framed path first middle)
    (wrote : Wrote ports path middle written refused outcome later) :
    Wrote ports path first written refused outcome later :=
  ⟨framed.trans wrote.framed, wrote.failed, wrote.done⟩

/-- What follows the opening of a file is attempted with its content, if it has one. -/
theorem attempts_openFile_bind {α : Type} {path : String} {rest : List UInt8 → Job α}
    {post : Except Error α → Sealing → Prop} (now : through state)
    (second : ∀ content, (state.files path).content? = some content →
      (rest content).Attempts through post state)
    (failed : ∀ error, ports.Faulty ∨ (state.files path).content? = none → post (.error error) state) :
    (openFile ports path >>= rest).Attempts through post state := by
  have opened : (openFile ports path).Attempts through (fun outcome later => later = state ∧
      (∀ content, outcome = .ok content → (state.files path).content? = some content) ∧
      ∀ error, outcome = .error error → ports.Faulty ∨ (state.files path).content? = none) state := by
    refine attempts_fallible_bind now (.read_bind now ?_) fun error why =>
      ⟨rfl, fun _ same => (by cases same), fun _ _ => .inl why⟩
    dsimp only [id]
    cases held : (state.files path).content? with
    | none => exact ⟨now, rfl, fun _ same => (by cases same), fun _ _ => .inr rfl⟩
    | some content =>
      refine ⟨now, rfl, fun other same => ?_, fun _ same => by cases same⟩
      cases same
      rfl
  refine opened.bind (fun content later _ held => ?_) fun error later held => ?_
  · obtain ⟨rfl, there, _⟩ := held
    exact second content (there content rfl)
  · obtain ⟨rfl, _, why⟩ := held
    exact failed error (why error rfl)

/-- Nothing but one path was changed so far, and that only by a call that remembers it. -/
structure Sealing.Tidy (path : String) (state later : Sealing) : Prop where
  beside : ∀ other, other ≠ path → later.files other = state.files other
  published : later.published = state.published
  unmade : later.created = false → later.files path = state.files path
  made : later.created = true → state.files path = .absent

namespace Sealing.Tidy

variable {path : String} {state later : Sealing}

theorem refl (fresh : state.created = false) : state.Tidy path state :=
  ⟨fun _ _ => rfl, rfl, fun _ => rfl, fun made => by
    rw [fresh] at made
    cases made⟩

/-- The removal of a file that was created leaves all files as they were. -/
theorem discarded (tidy : state.Tidy path later) :
    (if later.created then later.put path .absent else later).files = state.files := by
  funext other
  by_cases same : other = path
  · -- At the path itself there was nothing, if the file is the call's own.
    cases made : later.created with
    | true => rw [same, if_pos rfl, Sealing.files_put, tidy.made made]
    | false => rw [same, if_neg Bool.false_ne_true, tidy.unmade made]
  · have beside := tidy.beside other same
    split
    · exact (Function.update_of_ne same _ _).trans beside
    · exact beside

end Sealing.Tidy

/-- How a part of a call ends that creates a file: with the file, or in a fault, or refused. -/
structure Made (ports : Ports) (path : String) (state : Sealing) (written : Sealing → Prop)
    (refused : Prop) (outcome : Except Error Unit) (later : Sealing) : Prop where
  tidy : state.Tidy path later
  failed : ∀ error, outcome = .error error → ports.Faulty ∨ refused
  done : outcome = .ok () → state.files path = .absent ∧ later.created = true ∧ written later

/-- A file is created where nothing is yet, and a body that writes to it is run on it. -/
theorem attempts_exclusive {path : String} {body : Job Unit} {written : Sealing → Prop} {refused : Prop}
    (secured : ports.fails .chmod = none) (fresh : state.created = false)
    (run : state.files path = .absent →
      body.Attempts (Framed path { state.put path (.own []) with created := true })
      (Wrote ports path { state.put path (.own []) with created := true } written refused)
      { state.put path (.own []) with created := true }) :
    (_exclusive_private_file ports path body).Attempts
      (fun later => ∀ other, other ≠ path → later.files other = state.files other)
      (Made ports path state written (state.files path ≠ .absent ∨ refused)) state := by
  have still : ∀ other, other ≠ path → state.files other = state.files other := fun _ _ => rfl
  have put : ∀ other, other ≠ path → (state.put path (.own [])).files other = state.files other :=
    fun _ apart => Function.update_of_ne apart _ _
  have tidy : state.Tidy path state := .refl fresh
  refine attempts_fallible_bind still ?_ fun error why =>
    ⟨tidy, fun _ _ => .inl why, fun same => by cases same⟩
  dsimp only [id]
  refine attempts_fresh_bind still (fun none_ => ?_) fun taken =>
    ⟨tidy, fun _ _ => .inr (.inl taken), fun same => by cases same⟩
  rw [fallible, secured]
  refine .write_bind put (.write_bind put ?_)
  have beside {later : Sealing} (framed : Framed path
      { state.put path (.own []) with created := true } later) :
      ∀ other, other ≠ path → later.files other = state.files other :=
    fun other apart => (framed.beside other apart).trans (put other apart)
  have kept {later : Sealing} (framed : Framed path
      { state.put path (.own []) with created := true } later) : state.Tidy path later :=
    ⟨beside framed, framed.published, fun unmade => (by
      rw [framed.created] at unmade
      cases unmade), fun _ => none_⟩
  refine ((run none_).mono (fun _ => beside) fun _ _ => id).ensuring fun ended changed now wrote => ?_
  refine attempts_fallible now now ⟨fun _ => ?_, fun error same => by cases same⟩ fun error why =>
    ⟨fun same => (by cases same), fun _ _ =>
      ⟨kept wrote.framed, fun _ _ => .inl why, fun same => by cases same⟩⟩
  exact ⟨kept wrote.framed, fun error same => (wrote.failed error same).imp_right .inr,
    fun same => ⟨none_, wrote.framed.created, wrote.done same⟩⟩

/-- A key can be had under a reference. -/
def Ports.Yields (ports : Ports) (key_ref : String) (key : List UInt8) : Prop :=
  ports.enter key_ref = .ok (.buffer key) ∧ key.length = 32

/-- A call behind which its key is wiped. -/
def Sealing.wiped (state : Sealing) : Sealing := { state with key := state.key.map fun _ => 0 }

/-- The buffer of the key holds nothing but zeros. -/
def Sealing.Wiped (state : Sealing) : Prop := ∀ byte ∈ state.key, byte = 0

theorem Sealing.wiped_wiped (state : Sealing) : state.wiped.Wiped := by
  intro byte there
  obtain ⟨_, _, rfl⟩ := List.mem_map.mp there
  rfl

/-- How a block under a key ends: as its body does, or without a key, and with the key wiped. -/
structure Unlocked (ports : Ports) (key_ref : String) (state : Sealing)
    (middle : List UInt8 → Except Error Unit → Sealing → Prop) (outcome : Except Error Unit)
    (later : Sealing) : Prop where
  wiped : later.Wiped
  done : outcome = .ok () → ∃ key before, ports.Yields key_ref key ∧ middle key (.ok ()) before ∧
    later = before.wiped
  failed : ∀ error, outcome = .error error →
    (later.files = state.files ∧ later.created = state.created ∧ later.published = state.published ∧
      ¬∃ key, ports.Yields key_ref key) ∨
    ∃ key ended before, ports.Yields key_ref key ∧ middle key ended before ∧ later = before.wiped ∧
      (ended = .ok () → ports.Faulty)

/-- A body is run with the key under a reference, and the key is wiped behind it however it ends. -/
theorem attempts_withKey {key_ref : String} {body : List UInt8 → Job Unit}
    {holds : (String → Entry) → Prop} {middle : List UInt8 → Except Error Unit → Sealing → Prop}
    (honest : ports.Honest) (now : holds state.files) (clean : state.Wiped)
    (run : ∀ key, ports.Yields key_ref key →
      (body key).Attempts (fun later => holds later.files) (middle key) { state with key := key }) :
    (withKey ports key_ref body).Attempts (fun later => holds later.files)
      (Unlocked ports key_ref state middle) state := by
  rw [withKey]
  cases entered : ports.enter key_ref with
  | error error =>
    refine ⟨now, clean, fun same => (by cases same), fun _ _ => .inl ⟨rfl, rfl, rfl, ?_⟩⟩
    rintro ⟨key, yields⟩
    exact absurd (entered.symm.trans yields.1) (by simp)
  | ok resolved =>
    refine .write_bind now ?_
    let ends (ended : Except Error Unit) (later : Sealing) : Prop := later.Wiped ∧
      ((later.files = state.files ∧ later.created = state.created ∧
          later.published = state.published ∧ ended ≠ .ok () ∧ ¬∃ key, ports.Yields key_ref key) ∨
        ∃ key before, ports.Yields key_ref key ∧ middle key ended before ∧ later = before.wiped)
    -- However the body ends, the buffer is wiped behind it.
    have wiped (ended : Except Error Unit) {before : Sealing} (kept : holds before.files)
        (holding : ends ended before.wiped) :
        (_wipe_key : Job Unit).Attempts (fun later => holds later.files) (fun result changed =>
          (result = .ok () → ends ended changed) ∧
            ∀ error, result = .error error → ends (.error error) changed) before :=
      ⟨kept, kept, fun _ => holding, fun _ same => by cases same⟩
    have run_ : (Prog.ensuring (Prog.ofExcept (_require_key_material resolved) >>= body)
        _wipe_key).Attempts (fun later => holds later.files) ends
        { state with key := resolved.held } := by
      by_cases sized : ∃ key, resolved = .buffer key ∧ key.length = 32
      · obtain ⟨key, rfl, sized⟩ := sized
        have material : _require_key_material (.buffer key) = .ok key := if_pos sized
        rw [material]
        refine (run key ⟨entered, sized⟩).ensuring fun ended before kept held => ?_
        exact wiped ended kept
          ⟨before.wiped_wiped, .inr ⟨key, before, ⟨entered, sized⟩, held, rfl⟩⟩
      · have none_ : ¬∃ key, ports.Yields key_ref key := by
          rintro ⟨key, yields, size⟩
          rw [entered] at yields
          cases yields
          exact sized ⟨key, rfl, size⟩
        obtain ⟨error, refused⟩ : ∃ error, _require_key_material resolved = .error error := by
          cases resolved with
          | buffer key => exact ⟨_, if_neg fun size => sized ⟨key, rfl, size⟩⟩
          | other => exact ⟨_, rfl⟩
        rw [refused]
        refine @Prog.Attempts.ensuring _ _ _ _ _ _ (fun ended later => ended ≠ .ok () ∧
          later = { state with key := resolved.held }) _ _ _ ⟨now, fun same => (by cases same), rfl⟩
          fun ended before kept held => ?_
        obtain ⟨raised, rfl⟩ := held
        exact wiped ended kept ⟨Sealing.wiped_wiped _, .inl ⟨rfl, rfl, rfl, raised, none_⟩⟩
    refine run_.outcome.bind (fun ended later kept held => ?_) fun error later held => ?_
    swap
    · obtain ⟨ended, same, _⟩ := held
      cases same
    obtain ⟨ended_, same, clean_, held⟩ := held
    cases same
    cases left : ports.leave ended with
    | ok _ =>
      refine ⟨kept, clean_, fun _ => ?_, fun _ same => by cases same⟩
      have returned : ended = .ok () := by
        cases ended with
        | ok _ => rfl
        | error error => exact absurd left (honest error)
      rcases held with ⟨_, _, _, raised, _⟩ | ⟨key, before, yields, held, rfl⟩
      · exact absurd returned raised
      · exact ⟨key, before, yields, returned ▸ held, rfl⟩
    | error error =>
      refine ⟨kept, clean_, fun same => (by cases same), fun _ _ => ?_⟩
      rcases held with ⟨files, created, published, _, none_⟩ | ⟨key, before, yields, held, rfl⟩
      · exact .inl ⟨files, created, published, none_⟩
      · refine .inr ⟨key, ended, before, yields, held, rfl, fun returned => .inr fun same => ?_⟩
        rw [returned, same] at left
        cases left

/-- A state of a call before its file, with the key that it holds, and the file as yet empty. -/
def Sealing.beginFile (state : Sealing) (path : String) (key : List UInt8) : Sealing :=
  { { state with key := key }.put path (.own []) with created := true }

/-- How the creation of a file under a key ends: with the file, or in a fault, or refused. -/
structure KeyedFile (ports : Ports) (key_ref path : String) (state : Sealing)
    (written : List UInt8 → Sealing → Prop) (refused : List UInt8 → Prop)
    (outcome : Except Error Unit) (later : Sealing) : Prop where
  wiped : later.Wiped
  tidy : state.Tidy path later
  failed : ∀ error, outcome = .error error → ports.Faulty ∨
    ¬∃ key, ports.Yields key_ref key ∧ state.files path = .absent ∧ ¬refused key
  done : outcome = .ok () → state.files path = .absent ∧ ∃ key before, ports.Yields key_ref key ∧
    written key before ∧ later = before.wiped

theorem Ports.Yields.unique {key_ref : String} {key other : List UInt8}
    (one : ports.Yields key_ref key) (two : ports.Yields key_ref other) : key = other := by
  have same := one.1.symm.trans two.1
  cases same
  rfl

theorem Sealing.Tidy.unlocked {path : String} {key : List UInt8} {before : Sealing}
    (tidy : Sealing.Tidy path { state with key := key } before) : state.Tidy path before.wiped :=
  ⟨tidy.beside, tidy.published, tidy.unmade, tidy.made⟩

/-- A file is created and written under a key, which is wiped behind it. -/
theorem attempts_keyed_file {key_ref path : String} {body : List UInt8 → Job Unit}
    {written : List UInt8 → Sealing → Prop} {refused : List UInt8 → Prop} (honest : ports.Honest)
    (secured : ports.fails .chmod = none) (fresh : state.created = false) (clean : state.Wiped)
    (run : ∀ key, ports.Yields key_ref key → state.files path = .absent →
      (body key).Attempts (Framed path (state.beginFile path key))
        (Wrote ports path (state.beginFile path key) (written key) (refused key))
        (state.beginFile path key)) :
    (withKey ports key_ref fun key => do
      fallible ports .setup id
      _exclusive_private_file ports path (body key)).Attempts
      (fun later => ∀ other, other ≠ path → later.files other = state.files other)
      (KeyedFile ports key_ref path state written refused) state := by
  refine (@attempts_withKey ports state key_ref _
    (fun files => ∀ other, other ≠ path → files other = state.files other)
    (fun key => Made ports path { state with key := key } (written key)
      (state.files path ≠ .absent ∨ refused key))
    honest (fun _ _ => rfl) clean fun key yields => ?_).mono (fun _ => id) fun outcome later ended => ?_
  · refine attempts_fallible_bind (fun _ _ => rfl)
      (@attempts_exclusive ports { state with key := key } path _ _ _ secured fresh
        (run key yields)) fun error why => ?_
    exact ⟨.refl fresh, fun _ _ => .inl why, fun same => by cases same⟩
  cases outcome with
  | ok _ =>
    obtain ⟨key, before, yields, made, rfl⟩ := ended.done rfl
    obtain ⟨none_, _, done⟩ := made.done rfl
    exact ⟨ended.wiped, made.tidy.unlocked, fun _ same => (by cases same),
      fun _ => ⟨none_, key, before, yields, done, rfl⟩⟩
  | error error =>
    rcases ended.failed error rfl with ⟨files, created, published, none_⟩ |
      ⟨key, ended_, before, yields, made, rfl, returned⟩
    · -- Without a key nothing was created.
      refine ⟨ended.wiped, ⟨fun other _ => congrFun files other, published,
        fun _ => congrFun files path, fun some_ => ?_⟩, fun _ _ => .inr ?_, fun same => by cases same⟩
      · rw [created, fresh] at some_
        cases some_
      · rintro ⟨key, yields, _⟩
        exact none_ ⟨key, yields⟩
    · refine ⟨ended.wiped, made.tidy.unlocked, fun _ _ => ?_, fun same => by cases same⟩
      cases ended_ with
      | ok _ => exact .inl (returned rfl)
      | error error_ =>
        refine (made.failed error_ rfl).imp_right fun why => ?_
        rintro ⟨other, yields_, none_, fits⟩
        obtain rfl := yields.unique yields_
        exact why.elim (fun some_ => some_ none_) fits

section Pieces

variable [Cryptography]

/-- The pieces of a file are encrypted behind what the target has. -/
theorem attempts_encryptPieces (target : String) (key nonce : List UInt8) (rest : List (List UInt8))
    (offset : ℕ) {written : List UInt8} (there : state.files target = .own written) :
    (encryptPieces ports target key nonce offset rest).Attempts (Framed target state)
      (Wrote ports target state (fun later =>
        later.files target = .own (written ++ crypt key nonce offset rest.flatten) ∧
        later.plaintext = state.plaintext ++ rest.flatten ∧
        later.ciphertext = state.ciphertext ++ crypt key nonce offset rest.flatten) False) state := by
  -- The induction is on the pieces, behind each of which the target has one more.
  induction rest generalizing state offset written with
  | nil =>
    refine attempts_fallible (.refl state) (.refl state) ⟨.refl state, fun _ same => (by cases same),
      fun _ => ?_⟩ fun error why => .of_error (.refl state) (.inl why)
    simp [there]
  | cons piece rest ih =>
    let read : Sealing := { state with plaintext := state.plaintext ++ piece }
    have first : Framed target state read := ⟨fun _ _ => rfl, rfl, rfl, rfl⟩
    refine attempts_fallible_bind (.refl state) (attempts_fallible_bind first (attempts_fallible_bind
      first ?_ fun error why => .of_error first (.inl why)) fun error why => .of_error first (.inl why))
      fun error why => .of_error (.refl state) (.inl why)
    have held : read.files target = .own written := there
    have second : Framed target state (read.emit target (crypt key nonce offset piece)) :=
      first.trans (.emit held)
    refine (ih (offset + piece.length) (Sealing.files_emit held)).mono
      (fun _ => second.trans) fun outcome later ended => ?_
    refine .of_framed second ⟨ended.framed, ended.failed, fun same => ?_⟩
    obtain ⟨files, plaintext, ciphertext⟩ := ended.done same
    refine ⟨?_, ?_, ?_⟩
    · rw [files, List.flatten_cons, crypt_append, List.append_assoc]
    · rw [plaintext, Sealing.plaintext_emit, List.flatten_cons]
      exact List.append_assoc ..
    · rw [ciphertext, List.flatten_cons, crypt_append]
      exact List.append_assoc ..

/-- The bytes of an envelope. -/
def envelope (key nonce front content : List UInt8) : List UInt8 :=
  front ++ crypt key nonce 0 content ++
    Cryptography.tag key nonce front (crypt key nonce 0 content)

/-- A file can be encrypted: it is there, and the cipher gives it a tag of the right size. -/
def Encryptable (files : String → Entry) (source : String) (key nonce front content : List UInt8) : Prop :=
  (files source).content? = some content ∧
    (Cryptography.tag key nonce front (crypt key nonce 0 content)).length = TAG_BYTES

/-- An envelope is written to a target other than the source. -/
theorem attempts_writeEnvelope {source target : String} (key nonce front : List UInt8)
    (apart : source ≠ target) {written : List UInt8} (there : state.files target = .own written) :
    (writeEnvelope ports source target key nonce front).Attempts (Framed target state)
      (Wrote ports target state (fun later => ∃ content,
        Encryptable state.files source key nonce front content ∧
        later.files target = .own (written ++ envelope key nonce front content) ∧
        later.plaintext = state.plaintext ++ content ∧
        later.ciphertext = state.ciphertext ++ envelope key nonce front content)
        (¬∃ content, Encryptable state.files source key nonce front content)) state := by
  have first : Framed target state (state.emit target front) := .emit there
  have stored := first.beside source apart
  refine attempts_fallible_bind (.refl state) ?_ fun error why => .of_error (.refl state) (.inl why)
  refine attempts_openFile_bind first (fun content held => ?_) fun error why => .of_error first ?_
  swap
  · refine why.imp_right fun none_ => ?_
    rintro ⟨content, held, _⟩
    rw [stored, held] at none_
    cases none_
  have held : (state.files source).content? = some content := by
    rw [← stored]
    exact held
  have whole : (pieces content.length content).flatten = content := flatten_pieces _ _ le_rfl
  refine ((attempts_encryptPieces target key nonce (pieces content.length content) 0
      (Sealing.files_emit there)).mono (fun _ => first.trans)
    fun _ _ => id).bind (fun _ middle now pieces_ => ?_) fun error middle ended =>
      .of_error (first.trans ended.framed) (.inl ((ended.failed error rfl).resolve_right id))
  obtain ⟨files, plaintext, ciphertext⟩ := pieces_.done rfl
  rw [whole] at files plaintext ciphertext
  refine attempts_fallible_bind now ?_ fun error why => .of_error now (.inl why)
  dsimp only [id]
  refine .ofExcept_bind now (fun _ checked => ?_) fun error refused => .of_error now (.inr ?_)
  swap
  · rintro ⟨other, held_, size⟩
    cases held.symm.trans held_
    rw [size] at refused
    cases refused
  have size : (Cryptography.tag key nonce front (crypt key nonce 0 content)).length = TAG_BYTES := by
    rw [refuseIf] at checked
    split at checked
    · cases checked
    next fits => simpa using fits
  have behind := now.trans (@Framed.emit _ _ _ (Cryptography.tag key nonce front
    (crypt key nonce 0 content)) files)
  refine attempts_fallible_bind now (attempts_fallible_bind behind (attempts_fallible behind behind
    ⟨behind, fun _ same => (by cases same), fun _ => ⟨content, ⟨held, size⟩, ?_, ?_, ?_⟩⟩
    fun error why => .of_error behind (.inl why)) fun error why => .of_error behind (.inl why))
    fun error why => .of_error now (.inl why)
  · rw [envelope, ← List.append_assoc, ← List.append_assoc]
    exact Sealing.files_emit files
  · exact (Sealing.plaintext_emit _).trans (plaintext.trans (congrArg (· ++ _) (Sealing.plaintext_emit _)))
  · rw [envelope, ← List.append_assoc, ← List.append_assoc]
    exact congrArg (· ++ _) ciphertext

end Pieces

end Jobs

/-- A condition that is not refused holds. -/
theorem of_refuseIf {holds : Bool} {error : Error} (passed : refuseIf (!holds) error = .ok ()) :
    holds = true := by
  cases holds with
  | true => rfl
  | false => cases passed

end SeanOs
