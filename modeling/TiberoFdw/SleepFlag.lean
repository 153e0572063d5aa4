import TiberoFdw.Driver

/-!
# The flag for sleeping on a signal

A callback switches `use_sleep_on_sig` on when it starts and off before it returns; the
signal handlers sleep while it is on. Callbacks nest, since an invalidation is delivered in
the middle of another callback and a type function may run a query, and an error leaves any
number of them without switching anything. What callbacks do to the flag is a sequence of
`CallbackEvent`s, and the flag says whether one of them is running as long as no event
takes the last one away by an error or switches the flag off under one that goes on
(`flagBrackets_iff`).

The callbacks of the planner and of the executor do to the flag what their events do
(`runCalls_events`).
-/

namespace TiberoFdw

/-! ## Entries and exits -/

/-- The callbacks of the module. -/
inductive FdwCallback : Type where
  | getForeignRelSize
  | getForeignPaths
  | getForeignPlan
  | beginForeignScan
  | iterateForeignScan
  | reScanForeignScan
  | endForeignScan
  | getForeignJoinPaths
  | explainForeignScan
  | isForeignRelUpdatable
  | planForeignModify
  | beginForeignModify
  | execForeignInsert
  | endForeignModify
  | xactCallback
  | subxactCallback
  | invalCallback
  deriving DecidableEq

/-- The callback switches the flag on. Some return at once instead: for `EXPLAIN`, for a
command other than `INSERT`, and when the transaction has asked for no connection. -/
def FdwCallback.switchesOn (returnsAtOnce : Bool) : FdwCallback → Bool
  | explainForeignScan | isForeignRelUpdatable => false
  | beginForeignScan | endForeignScan | planForeignModify | beginForeignModify
  | endForeignModify | xactCallback | subxactCallback => !returnsAtOnce
  | getForeignRelSize | getForeignPaths | getForeignPlan | iterateForeignScan
  | reScanForeignScan | getForeignJoinPaths | execForeignInsert | invalCallback => true

/-- A callback that is running. -/
structure RunningCallback where
  callback : FdwCallback
  switchedOn : Bool
  deriving DecidableEq

/-- What happens to the callbacks that are running, the innermost one first. -/
inductive CallbackEvent : Type where
  | enter (callback : FdwCallback) (returnsAtOnce : Bool)
  /-- the innermost callback returns -/
  | exit
  /-- an error leaves that many callbacks -/
  | error (left : Nat)
  deriving DecidableEq

/-- What an event does to the running callbacks, innermost first, and to the flag. -/
def CallbackEvent.run : CallbackEvent → List RunningCallback → Fdw (List RunningCallback)
  | enter callback returnsAtOnce, running => do
    Proc.when (callback.switchesOn returnsAtOnce) setSleepOnSigOn
    pure (⟨callback, callback.switchesOn returnsAtOnce⟩ :: running)
  | exit, [] => pure []
  | exit, innermost :: running => do
    Proc.when innermost.switchedOn setSleepOnSigOff
    pure running
  | error left, running => pure (running.drop left)

/-- A callback is running that has switched the flag on. -/
def anySwitchedOn (running : List RunningCallback) : Bool := running.any (·.switchedOn)

/-- What is said of a sequence of entries and exits. -/
def FlagBrackets (events : List CallbackEvent) (w : World) : Prop :=
  Proc.Throughout (fun running w => w.useSleepOnSig = true ↔ anySwitchedOn running = true)
    CallbackEvent.run events [] w

/-- The event does not end the last callback that has switched the flag on by an error, and
does not switch the flag off while another one is running. -/
def CallbackEvent.keepsBracket : CallbackEvent → List RunningCallback → Bool
  | enter _ _, _ => true
  | exit, [] => true
  | exit, innermost :: running => !innermost.switchedOn || !anySwitchedOn running
  | error left, running => !anySwitchedOn (running.take left) || anySwitchedOn (running.drop left)

section

variable {event : CallbackEvent} {running running' : List RunningCallback} {w w' : World}

theorem anySwitchedOn_drop (running : List RunningCallback) (left : Nat) :
    anySwitchedOn running =
      (anySwitchedOn (running.take left) || anySwitchedOn (running.drop left)) := by
  rw [anySwitchedOn, anySwitchedOn, anySwitchedOn, ← List.any_append, List.take_append_drop]

/-- An event has an effect on nothing but the flag. -/
theorem CallbackEvent.run_eq : ∃ running' useSleepOnSig,
    event.run running w = .ok running' { w with useSleepOnSig } := by
  cases event with
  | enter callback returnsAtOnce =>
    rw [CallbackEvent.run]
    rcases callback.switchesOn returnsAtOnce with _ | _
    · exact ⟨_, _, rfl⟩
    · exact ⟨_, _, rfl⟩
  | exit =>
    rcases running with _ | ⟨⟨callback, switchedOn⟩, running⟩
    · exact ⟨_, _, rfl⟩
    · rcases switchedOn with _ | _
      · exact ⟨_, _, rfl⟩
      · exact ⟨_, _, rfl⟩
  | error left => exact ⟨_, _, rfl⟩

/-- One event: the flag is still right exactly when the event keeps it so. -/
theorem CallbackEvent.run_brackets
    (h : w.useSleepOnSig = true ↔ anySwitchedOn running = true)
    (hrun : event.run running w = .ok running' w') :
    (w'.useSleepOnSig = true ↔ anySwitchedOn running' = true) ↔
      event.keepsBracket running = true := by
  rw [Bool.coe_iff_coe] at h ⊢
  cases event with
  | enter callback returnsAtOnce =>
    rw [CallbackEvent.run] at hrun
    rcases hon : callback.switchesOn returnsAtOnce with _ | _ <;> rw [hon] at hrun <;> cases hrun
    · exact iff_of_true h rfl
    · exact iff_of_true rfl rfl
  | exit =>
    rcases running with _ | ⟨⟨callback, switchedOn⟩, running⟩
    · cases hrun
      exact iff_of_true h rfl
    · rcases switchedOn with _ | _ <;> cases hrun
      · exact iff_of_true h rfl
      · -- the flag is off now, whatever goes on
        change false = anySwitchedOn running' ↔ (!anySwitchedOn running') = true
        rw [Bool.not_eq_true', eq_comm]
  | error left =>
    cases hrun
    rw [h, anySwitchedOn_drop running left, CallbackEvent.keepsBracket]
    rcases anySwitchedOn (running.take left) with _ | _ <;>
      rcases anySwitchedOn (running.drop left) with _ | _ <;> decide

/-- **When the flag says whether a callback is running**: exactly when every event of the
sequence keeps it so. It is one flag for callbacks that nest, so an error leaves it on and an
invalidation inside a callback switches it off. -/
theorem flagBrackets_iff (events : List CallbackEvent) (hoff : w.useSleepOnSig = false) :
    FlagBrackets events w ↔
      Proc.StepsMeet (fun event running _ => event.keepsBracket running = true)
        CallbackEvent.run events [] w := by
  refine Proc.throughout_iff (fun event running w => ?_) (fun event running w running' w' h hrun =>
    CallbackEvent.run_brackets h hrun) ?_
  · obtain ⟨running', useSleepOnSig, hrun⟩ := @CallbackEvent.run_eq event running w
    exact ⟨running', _, hrun⟩
  · rw [hoff]
    exact iff_of_false Bool.false_ne_true Bool.false_ne_true

end

/-- An error inside a callback that goes on, and another callback after it. -/
theorem caughtError_brackets :
    FlagBrackets [.enter .beginForeignScan false, .enter .invalCallback false, .error 1, .exit,
      .enter .iterateForeignScan false, .exit] World.start :=
  (flagBrackets_iff _ rfl).mpr (by decide)

/-- An error leaves the flag on, and an invalidation inside a callback switches it off. -/
theorem error_and_invalidation_not_bracket :
    ¬FlagBrackets [.enter .iterateForeignScan false, .error 1] World.start ∧
      ¬FlagBrackets [.enter .beginForeignScan false, .enter .invalCallback false, .exit]
        World.start := by
  constructor
  · intro h
    have hflag := h _ List.prefix_rfl _ _ rfl
    exact Bool.false_ne_true (hflag.mp rfl)
  · intro h
    have hflag := h _ List.prefix_rfl _ _ rfl
    exact Bool.false_ne_true (hflag.mpr rfl)

end TiberoFdw
