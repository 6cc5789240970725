import SeanOs.Lib.Gate

/-! Programs that look before they act, in interleavings where nobody acts between a look and its act. -/

namespace Atomic

namespace Pool

variable {κ σ ι ε τ γ : Type} [DecidableEq κ]

/--
A move of an interleaving in which some steps at a gate exclude the callers behind that gate.

A caller is behind a gate from its look to the last target step it may still take.
-/
inductive ExclusiveStep (seals target look : γ → ι → Prop) (calls : κ → Prog σ ι ε Unit → Prop)
    (outside : σ → σ → Prop) : Pool κ σ ι ε → Pool κ σ ι ε → Prop
  | act {pool : Pool κ σ ι ε} (caller : κ) {label : ι} {change : σ → σ}
      {next : σ → Prog σ ι ε Unit} (ready : pool.running caller = .atom label change next)
      (exclusive : ∀ gate, seals gate label → ∀ other, other ≠ caller →
        ¬Prog.MayReach (target gate) (look gate) (pool.running other)) :
      ExclusiveStep seals target look calls outside pool
        ⟨change pool.shared, Function.update pool.running caller (next pool.shared)⟩
  | start {pool : Pool κ σ ι ε} (caller : κ) {program : Prog σ ι ε Unit}
      (called : calls caller program) :
      ExclusiveStep seals target look calls outside pool
        ⟨pool.shared, Function.update pool.running caller program⟩
  | outside {pool : Pool κ σ ι ε} {changed : σ} (moved : outside pool.shared changed) :
      ExclusiveStep seals target look calls outside pool ⟨changed, pool.running⟩

/-- The pools that such moves reach. -/
abbrev ExclusiveRun (seals target look : γ → ι → Prop) (calls : κ → Prog σ ι ε Unit → Prop)
    (outside : σ → σ → Prop) : Pool κ σ ι ε → Pool κ σ ι ε → Prop :=
  Relation.ReflTransGen (ExclusiveStep seals target look calls outside)

/--
The shared state has an invariant, and every call keeps to a phase whose knowledge holds.

What a phase claims about a gate holds only while its caller is behind that gate.
-/
def Claiming (target look : γ → ι → Prop) (moves : τ → ι → σ → σ → τ → Prop)
    (invariant : σ → Prop) (knows : τ → σ → Prop) (claims : τ → γ → σ → Prop)
    (pool : Pool κ σ ι ε) : Prop :=
  invariant pool.shared ∧ ∃ phases : κ → τ, ∀ caller,
    Prog.Follows (fun _ _ => True) moves (fun _ _ => True) (phases caller) (pool.running caller) ∧
      knows (phases caller) pool.shared ∧ ∀ gate,
        Prog.MayReach (target gate) (look gate) (pool.running caller) →
          claims (phases caller) gate pool.shared

/-- What one move keeps, learns and spoils, in a state with the invariant. -/
structure ClaimRule (seals look : γ → ι → Prop) (invariant : σ → Prop) (knows : τ → σ → Prop) (claims : τ → γ → σ → Prop)
    (phase : τ) (label : ι) (state changed : σ) (later : τ) : Prop where
  /-- The invariant is kept. -/
  sound : invariant changed
  /-- What any caller knows is kept. -/
  kept : ∀ other, knows other state → knows other changed
  /-- What a caller behind another gate claims is kept. -/
  spared : ∀ other gate, ¬seals gate label → claims other gate state → claims other gate changed
  /-- What the caller itself knows next holds. -/
  known : knows later changed
  /-- What it claims next holds, where a claim before a look is worth nothing. -/
  claimed : ∀ gate, (¬look gate label → claims phase gate state) → claims later gate changed

variable {seals target look : γ → ι → Prop} {moves : τ → ι → σ → σ → τ → Prop} {invariant : σ → Prop}
  {knows : τ → σ → Prop} {claims : τ → γ → σ → Prop} {calls : κ → Prog σ ι ε Unit → Prop}
  {outside : σ → σ → Prop} {first : τ}

/-- Every move keeps the claims of all callers, those of the one that moves included. -/
theorem Claiming.step
    (ignorant : ∀ state, knows first state ∧ ∀ gate, claims first gate state)
    (entered : ∀ caller program, calls caller program →
      Prog.Follows (fun _ _ => True) moves (fun _ _ => True) first program)
    (moved : ∀ phase label state changed later, invariant state → knows phase state →
      (∀ gate, target gate label → claims phase gate state) →
        moves phase label state changed later →
          ClaimRule seals look invariant knows claims phase label state changed later)
    (drifted : ∀ state changed, invariant state → outside state changed → invariant changed ∧
      (∀ phase, knows phase state → knows phase changed) ∧
        ∀ phase gate, claims phase gate state → claims phase gate changed)
    {pool last : Pool κ σ ι ε} (claiming : Claiming target look moves invariant knows claims pool)
    (stepped : ExclusiveStep seals target look calls outside pool last) :
    Claiming target look moves invariant knows claims last := by
  obtain ⟨sound, phases, hold⟩ := claiming
  cases stepped with
  | @act caller label change next ready exclusive =>
    obtain ⟨follows, known, claimed⟩ := hold caller
    rw [ready] at follows claimed
    obtain ⟨later, move, rest⟩ := follows pool.shared trivial
    -- In front of its own target step a caller is behind the gate.
    have rule := moved _ _ _ _ _ sound known
      (fun gate targets => claimed gate ⟨pool.shared, .inl targets⟩) move
    refine ⟨rule.sound, Function.update phases caller later, fun other => ?_⟩
    by_cases same : other = caller
    · subst same
      dsimp only
      rw [Function.update_self, Function.update_self]
      refine ⟨rest, rule.known, fun gate reaches => rule.claimed gate fun blind => ?_⟩
      exact claimed gate ⟨pool.shared, .inr ⟨blind, reaches⟩⟩
    · obtain ⟨follows_, known_, claimed_⟩ := hold other
      dsimp only
      rw [Function.update_of_ne same, Function.update_of_ne same]
      refine ⟨follows_, rule.kept _ known_, fun gate reaches => ?_⟩
      -- Nobody else is behind a gate at which such a step is taken.
      exact rule.spared _ gate (fun sealed => exclusive gate sealed other same reaches)
        (claimed_ gate reaches)
  | @start caller program called =>
    refine ⟨sound, Function.update phases caller first, fun other => ?_⟩
    by_cases same : other = caller
    · subst same
      dsimp only
      rw [Function.update_self, Function.update_self]
      exact ⟨entered _ program called, (ignorant _).1, fun gate _ => (ignorant _).2 gate⟩
    · dsimp only
      rw [Function.update_of_ne same, Function.update_of_ne same]
      exact hold other
  | outside drift =>
    obtain ⟨sound_, known, claimed⟩ := drifted _ _ sound drift
    refine ⟨sound_, phases, fun caller => ⟨(hold caller).1, known _ (hold caller).2.1,
      fun gate reaches => claimed _ gate ((hold caller).2.2 gate reaches)⟩⟩

/--
The rule for calls that look before they act.

In a run where the steps that would spoil a claim exclude the callers behind the gate, every caller
acts on claims that still hold.
-/
theorem ExclusiveRun.claiming
    (ignorant : ∀ state, knows first state ∧ ∀ gate, claims first gate state)
    (entered : ∀ caller program, calls caller program →
      Prog.Follows (fun _ _ => True) moves (fun _ _ => True) first program)
    (moved : ∀ phase label state changed later, invariant state → knows phase state →
      (∀ gate, target gate label → claims phase gate state) →
        moves phase label state changed later →
          ClaimRule seals look invariant knows claims phase label state changed later)
    (drifted : ∀ state changed, invariant state → outside state changed → invariant changed ∧
      (∀ phase, knows phase state → knows phase changed) ∧
        ∀ phase gate, claims phase gate state → claims phase gate changed)
    {start : σ} (initial : invariant start) {last : Pool κ σ ι ε}
    (reached : ExclusiveRun seals target look calls outside (idle start) last) :
    Claiming target look moves invariant knows claims last := by
  -- At first nobody runs a program, so nobody knows or claims anything yet.
  induction reached with
  | refl => exact ⟨initial, fun _ => first, fun _ => ⟨trivial, (ignorant _).1, fun _ => False.elim⟩⟩
  | tail _ stepped ih => exact ih.step ignorant entered moved drifted stepped

/-- What every move and the outside do from claims that hold, a run does as a whole. -/
theorem Claiming.relates {relation : σ → σ → Prop} (refl : ∀ state, relation state state)
    (trans : ∀ first middle last, relation first middle → relation middle last →
      relation first last)
    (ignorant : ∀ state, knows first state ∧ ∀ gate, claims first gate state)
    (entered : ∀ caller program, calls caller program →
      Prog.Follows (fun _ _ => True) moves (fun _ _ => True) first program)
    (moved : ∀ phase label state changed later, invariant state → knows phase state →
      (∀ gate, target gate label → claims phase gate state) →
        moves phase label state changed later → relation state changed ∧
          ClaimRule seals look invariant knows claims phase label state changed later)
    (drifted : ∀ state changed, invariant state → outside state changed →
      relation state changed ∧ invariant changed ∧
        (∀ phase, knows phase state → knows phase changed) ∧
          ∀ phase gate, claims phase gate state → claims phase gate changed)
    {pool last : Pool κ σ ι ε} (claiming : Claiming target look moves invariant knows claims pool)
    (reached : ExclusiveRun seals target look calls outside pool last) :
    relation pool.shared last.shared ∧ Claiming target look moves invariant knows claims last := by
  induction reached with
  | refl => exact ⟨refl _, claiming⟩
  | @tail middle _ _ stepped ih =>
    -- The claims before a step permit the step, and the step then is in the relation.
    obtain ⟨before, holds⟩ := ih
    refine ⟨trans _ _ _ before ?_, holds.step ignorant entered (fun _ _ _ _ _ sound knows inserting
      move => (moved _ _ _ _ _ sound knows inserting move).2) (fun _ _ sound drift =>
        (drifted _ _ sound drift).2) stepped⟩
    obtain ⟨sound, phases, hold⟩ := holds
    cases stepped with
    | act caller ready exclusive =>
      obtain ⟨follows, known, claimed⟩ := hold caller
      rw [ready] at follows claimed
      obtain ⟨later, move, rest⟩ := follows middle.shared trivial
      exact (moved _ _ _ _ _ sound known
        (fun gate targets => claimed gate ⟨middle.shared, .inl targets⟩) move).1
    | start caller called => exact refl _
    | outside drift => exact (drifted _ _ sound drift).1

/-- Without the exclusion, such a run is one of all interleavings. -/
theorem ExclusiveRun.reaches {start last : Pool κ σ ι ε}
    (reached : ExclusiveRun seals target look calls outside start last) :
    Reaches calls outside (fun _ _ _ => True) start last := by
  -- That a step was exclusive is forgotten.
  induction reached with
  | refl => exact .refl
  | tail _ stepped ih =>
    cases stepped with
    | act caller ready exclusive => exact .step ih (.act caller ready trivial)
    | start caller called => exact .step ih (.start caller called)
    | outside moved => exact .step ih (.outside moved)

/-- Whether the other one of two callers has returned. -/
def lonely (pool : Pool Bool σ ι ε) (caller : Bool) : Bool :=
  match pool.running !caller with
  | .ret _ => true
  | _ => false

/-- Behind no gate is who has returned. -/
theorem not_mayReach_of_lonely {pool : Pool Bool σ ι ε} {caller : Bool}
    (alone : lonely pool caller = true) {other : Bool} (apart : other ≠ caller) (gate : γ) :
    ¬Prog.MayReach (target gate) (look gate) (pool.running other) := by
  -- There are two callers, so the other one is the one that was looked at.
  rw [lonely, show (!caller) = other by cases other <;> cases caller <;> simp_all] at alone
  cases ended : pool.running other with
  | ret value => exact id
  | raise error => exact id
  | atom label act next =>
    rw [ended] at alone
    cases alone

/-- Whether a chosen move is harmless, or is taken by a caller that is alone. -/
def played (alone : Pool κ σ ι ε → κ → Bool) (harmless : ι → Bool) (pool : Pool κ σ ι ε) :
    Event κ σ ι ε → Bool
  | .act caller => match pool.running caller with
    | .atom label _ _ => harmless label || alone pool caller
    | _ => true
  | _ => true

/-- Whether every one of some chosen moves is so. -/
def playedAll (alone : Pool κ σ ι ε → κ → Bool) (harmless : ι → Bool) :
    List (Event κ σ ι ε) → Pool κ σ ι ε → Bool
  | [], _ => true
  | event :: events, pool =>
    played alone harmless pool event && playedAll alone harmless events (pool.play event)

/-- Chosen moves are such a run where each step that excludes others is taken by a caller alone. -/
theorem ExclusiveRun.play {start pool : Pool κ σ ι ε} (alone : Pool κ σ ι ε → κ → Bool)
    (free : ∀ pool caller, alone pool caller = true → ∀ other, other ≠ caller → ∀ gate,
      ¬Prog.MayReach (target gate) (look gate) (pool.running other))
    (harmless : ι → Bool) (sound : ∀ label, harmless label = true → ∀ gate, ¬seals gate label)
    (events : List (Event κ σ ι ε))
    (started : ∀ caller program, .start caller program ∈ events → calls caller program)
    (drifted : ∀ change, .outside change ∈ events → ∀ state, outside state (change state))
    (passed : playedAll alone harmless events pool = true)
    (reached : ExclusiveRun seals target look calls outside start pool) :
    ExclusiveRun seals target look calls outside start (events.foldl Pool.play pool) := by
  -- The induction takes one move after another from the pool reached so far.
  induction events generalizing pool with
  | nil => exact reached
  | cons event events ih =>
    rw [playedAll, Bool.and_eq_true] at passed
    refine ih (fun caller program there => started caller program (.tail _ there))
      (fun change there => drifted change (.tail _ there)) passed.2 ?_
    cases event with
    | act caller =>
      rw [Pool.play, advance]
      cases ready : pool.running caller with
      | atom label change next =>
        refine reached.tail (.act caller ready fun gate sealed other apart => ?_)
        rw [played, ready, Bool.or_eq_true] at passed
        rcases passed.1 with quiet | lonely
        · exact absurd sealed (sound label quiet gate)
        · exact free pool caller lonely other apart gate
      | ret value | raise error => exact reached
    | start caller program => exact reached.tail (.start caller (started _ _ (.head _)))
    | outside change => exact reached.tail (.outside (drifted _ (.head _) _))

end Pool

end Atomic
