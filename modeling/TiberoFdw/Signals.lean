import Mathlib.Data.List.Nodup
import Mathlib.Logic.Relation
import TiberoFdw.Plan

/-!
# The signal handlers

With the option `use_sleep_on_sig`, the first plan of a foreign table installs handlers for four
signals. Such a handler sleeps while the flag is set, and else puts back the handler that it has
replaced and raises the signal again.

* `RegisterStep`, `SignalState.run` — `register_signal_handlers` in the steps of the machine, since
  a signal may arrive between any two of them;
* `SignalStep` — what happens in a backend: plans, these steps, handlers of other libraries, the
  flag, signals;
* `signals_of_run` — in every run each handler is installed at most once, and a signal that reaches
  one while the flag is off is raised again once and not more. It ends in the handler that was
  replaced, or in the default action when it arrives before that handler is stored.
-/

namespace TiberoFdw

/-- The signals with a handler. -/
inductive FatalSignal : Type where
  | sigsegv
  | sigbus
  | sigabrt
  | sigfpe
  deriving DecidableEq

/-- A handler of a signal; a pointer that is not set is the default action. -/
inductive SignalHandler : Type where
  | sigDfl
  /-- the handler of this module for the signal -/
  | own
  | other (id : Nat)
  deriving DecidableEq

/-- The steps of `register_signal_handlers`. -/
inductive RegisterStep : Type where
  /-- `install_signal_handler`, up to its return -/
  | install (signo : FatalSignal)
  /-- the assignment of what it has returned -/
  | store (signo : FatalSignal)
  | setRegistered
  deriving DecidableEq

/-- `register_signal_handlers`. -/
def registerSignalHandlers : List RegisterStep :=
  [.install .sigsegv, .store .sigsegv,
    .install .sigbus, .store .sigbus,
    .install .sigabrt, .store .sigabrt,
    .install .sigfpe, .store .sigfpe,
    .setRegistered]

/-- The handlers that are installed, and the variables of `utils.c`. -/
structure SignalState where
  disposition : FatalSignal → SignalHandler
  /-- `prev_sigsegv_handler` and the other three -/
  prevHandler : FatalSignal → SignalHandler
  isSignalHandlersRegistered : Bool
  useSleepOnSig : Bool
  /-- what is left of `register_signal_handlers` -/
  registering : List RegisterStep
  /-- what `install_signal_handler` has returned -/
  returned : SignalHandler
  /-- the handlers that were replaced so far, the last one first -/
  replaced : List (FatalSignal × SignalHandler)

/-- Change the handler of one signal. -/
def SignalState.pqsignal (signo : FatalSignal) (handler : SignalHandler) (s : SignalState) :
    SignalState :=
  { s with disposition := Function.update s.disposition signo handler }

/-- A step of `register_signal_handlers`. -/
def SignalState.run (s : SignalState) : RegisterStep → SignalState
  | .install signo =>
    { s.pqsignal signo .own with
      returned := s.disposition signo
      replaced := (signo, s.disposition signo) :: s.replaced }
  | .store signo =>
    { s with prevHandler := Function.update s.prevHandler signo s.returned }
  | .setRegistered => { s with isSignalHandlersRegistered := true }

/-- What `tiberoGetForeignRelSize` does with the option. -/
def SignalState.registers (s : SignalState) (fpinfo : TbFdwRelationInfo) : SignalState :=
  if fpinfo.useSleepOnSig && !s.isSignalHandlersRegistered then
    { s with registering := registerSignalHandlers }
  else s

/-- The handlers of `utils.c`, up to `raise`; `none` in the loop of `sleep_on_sig`, which nothing
ends. -/
def signalHandler (signo : FatalSignal) (s : SignalState) : Option SignalState :=
  if s.useSleepOnSig then none else some (s.pqsignal signo (s.prevHandler signo))

/-- `sigsegv_handler`. -/
def sigsegvHandler : SignalState → Option SignalState := signalHandler .sigsegv

/-- `sigbus_handler`. -/
def sigbusHandler : SignalState → Option SignalState := signalHandler .sigbus

/-- `sigabrt_handler`. -/
def sigabrtHandler : SignalState → Option SignalState := signalHandler .sigabrt

/-- `sigfpe_handler`. -/
def sigfpeHandler : SignalState → Option SignalState := signalHandler .sigfpe

/-- The handler of the module for a signal. -/
def ownHandler : FatalSignal → SignalState → Option SignalState
  | .sigsegv => sigsegvHandler
  | .sigbus => sigbusHandler
  | .sigabrt => sigabrtHandler
  | .sigfpe => sigfpeHandler

/-- Where a signal ends. -/
inductive SignalEnd : Type where
  | sleeps
  | runs (handler : SignalHandler)
  deriving DecidableEq

/-- A signal arrives; so many handlers may run for it. -/
def deliver : Nat → FatalSignal → SignalState → Option (SignalEnd × SignalState)
  | 0, _, _ => none
  | rounds + 1, signo, s =>
    if s.disposition signo = .own then
      match ownHandler signo s with
      | none => some (.sleeps, s)
      | some s' => deliver rounds signo s'
    else some (.runs (s.disposition signo), s)

/-- What happens in a backend. Between the steps of a registration there are only signals and
changes of the flag; another library may put the handler of this module back where it has found
it. -/
inductive SignalStep (pg : Postgres) : SignalState → SignalState → Prop where
  | getForeignRelSize {s : SignalState} {server : ForeignServer} {tableOptions : List DefElem}
      {baserel : RelOptInfo} {fpinfo : TbFdwRelationInfo} (hidle : s.registering = [])
      (hplan : tiberoGetForeignRelSize pg server tableOptions baserel = .ok fpinfo) :
      SignalStep pg s (s.registers fpinfo)
  | register {s : SignalState} {step : RegisterStep} {rest : List RegisterStep}
      (hnext : s.registering = step :: rest) :
      SignalStep pg s ({ s with registering := rest }.run step)
  | otherLibrary {s : SignalState} {signo : FatalSignal} {handler : SignalHandler}
      (hidle : s.registering = []) (hfound : handler = .own → signo ∈ s.replaced.map Prod.fst) :
      SignalStep pg s (s.pqsignal signo handler)
  | sleepFlag {s : SignalState} (useSleepOnSig : Bool) : SignalStep pg s { s with useSleepOnSig }
  | signal {s s' : SignalState} {signo : FatalSignal} (hown : s.disposition signo = .own)
      (hhandler : ownHandler signo s = some s') : SignalStep pg s s'

/-- Before the first plan. -/
structure Unregistered (s : SignalState) : Prop where
  disposition : ∀ signo, s.disposition signo ≠ .own
  prevHandler : ∀ signo, s.prevHandler signo = .sigDfl
  isSignalHandlersRegistered : s.isSignalHandlersRegistered = false
  registering : s.registering = []
  replaced : s.replaced = []

/-- The handler is installed, and what it has replaced is not stored yet. -/
def SignalState.storing (s : SignalState) (signo : FatalSignal) : Bool :=
  s.registering.head? = some (.store signo)

/-- What holds in every state. -/
structure SignalsSound (s : SignalState) : Prop where
  once : (s.replaced.map Prod.fst).Nodup
  foreign : ∀ p ∈ s.replaced, p.2 ≠ .own
  reaches : ∀ signo, s.disposition signo = .own → s.useSleepOnSig = false →
    ∃ handler, (signo, handler) ∈ s.replaced ∧
      deliver 2 signo s =
        let last := if s.storing signo then .sigDfl else handler
        some (.runs last, s.pqsignal signo last)

section

variable {pg : Postgres} {s s' : SignalState} {signo : FatalSignal}

theorem ownHandler_eq : ownHandler signo = signalHandler signo := by
  cases signo <;> rfl

@[simp] theorem SignalState.pqsignal_self (s : SignalState) (signo : FatalSignal)
    (handler : SignalHandler) : (s.pqsignal signo handler).disposition signo = handler :=
  Function.update_self ..

theorem SignalState.pqsignal_of_ne {signo' : FatalSignal} {handler : SignalHandler}
    (hne : signo' ≠ signo) :
    (s.pqsignal signo handler).disposition signo' = s.disposition signo' :=
  Function.update_of_ne hne ..

/-! ## Registration -/

/-- The signals, in the order in which `register_signal_handlers` takes them. -/
def fatalSignals : List FatalSignal := [.sigsegv, .sigbus, .sigabrt, .sigfpe]

/-- The steps for the signals that are left. -/
def registerFrom : List FatalSignal → List RegisterStep
  | [] => [.setRegistered]
  | signo :: rest => .install signo :: .store signo :: registerFrom rest

/-- How far the registration is, with the signals whose handlers it has replaced. -/
inductive Progress : List RegisterStep → Bool → List FatalSignal → Prop where
  | unregistered : Progress [] false []
  | installing {done rest : List FatalSignal} (h : fatalSignals = done ++ rest) :
      Progress (registerFrom rest) false done.reverse
  | storing {done rest : List FatalSignal} {signo : FatalSignal}
      (h : fatalSignals = done ++ signo :: rest) :
      Progress (.store signo :: registerFrom rest) false (signo :: done.reverse)
  | registered : Progress [] true fatalSignals.reverse

/-- No signal is replaced twice. -/
theorem Progress.nodup {registering : List RegisterStep} {registered : Bool}
    {signals : List FatalSignal} (h : Progress registering registered signals) : signals.Nodup := by
  have hall : fatalSignals.Nodup := by decide
  cases h with
  | unregistered => exact List.nodup_nil
  | installing h =>
    rw [h] at hall
    exact List.nodup_reverse.mpr hall.of_append_left
  | @storing done rest signo h =>
    rw [h, List.append_cons] at hall
    rw [← List.reverse_concat]
    exact List.nodup_reverse.mpr hall.of_append_left
  | registered => exact List.nodup_reverse.mpr hall

theorem Progress.eq_nil {signals : List FatalSignal} (h : Progress [] false signals) :
    signals = [] := by
  generalize hsteps : ([] : List RegisterStep) = steps at h
  cases h with
  | unregistered => rfl
  | @installing done rest => cases rest <;> cases hsteps
  | storing => cases hsteps

/-- The step that is next. -/
theorem Progress.next {step : RegisterStep} {steps : List RegisterStep} {registered : Bool}
    {signals : List FatalSignal} (h : Progress (step :: steps) registered signals) :
    registered = false ∧
      ((∃ done signo rest, step = .install signo ∧ steps = .store signo :: registerFrom rest ∧
          fatalSignals = done ++ signo :: rest ∧ signals = done.reverse) ∨
        (∃ done signo rest, step = .store signo ∧ steps = registerFrom rest ∧
          fatalSignals = done ++ signo :: rest ∧ signals = signo :: done.reverse) ∨
        (step = .setRegistered ∧ steps = [] ∧ signals = fatalSignals.reverse)) := by
  generalize hsteps : step :: steps = all at h
  cases h with
  | unregistered => cases hsteps
  | @installing done rest h =>
    refine ⟨rfl, ?_⟩
    cases rest with
    | nil =>
      cases hsteps
      exact .inr (.inr ⟨rfl, rfl, by rw [h, List.append_nil]⟩)
    | cons signo rest =>
      cases hsteps
      exact .inl ⟨done, signo, rest, rfl, rfl, h, rfl⟩
  | @storing done rest signo h =>
    cases hsteps
    exact ⟨rfl, .inr (.inl ⟨done, signo, rest, rfl, rfl, h, rfl⟩)⟩
  | registered => cases hsteps

theorem registerFrom_head (signals : List FatalSignal) :
    (registerFrom signals).head? ≠ some (.store signo) := by
  cases signals <;> exact fun h => by cases h

/-- What is stored for a handler that was replaced. -/
def SignalState.Stored (s : SignalState) (signo : FatalSignal) (handler : SignalHandler) : Prop :=
  if s.storing signo then s.returned = handler ∧ s.prevHandler signo = .sigDfl
  else s.prevHandler signo = handler

/-- The invariant. -/
structure SignalsInv (s : SignalState) : Prop where
  progress : Progress s.registering s.isSignalHandlersRegistered (s.replaced.map Prod.fst)
  untouched : ∀ signo, signo ∉ s.replaced.map Prod.fst →
    s.disposition signo ≠ .own ∧ s.prevHandler signo = .sigDfl
  replaced : ∀ p ∈ s.replaced, p.2 ≠ .own ∧ s.Stored p.1 p.2

theorem SignalsInv.start (h : Unregistered s) : SignalsInv s := by
  refine ⟨?_, fun signo _ => ⟨h.disposition signo, h.prevHandler signo⟩, fun p hp => ?_⟩
  · rw [h.registering, h.isSignalHandlersRegistered, h.replaced]
    exact .unregistered
  · rw [h.replaced] at hp
    exact (List.not_mem_nil hp).elim

/-- What is stored is never a handler of this module. -/
theorem SignalsInv.prevHandler_ne_own (h : SignalsInv s) (signo : FatalSignal) :
    s.prevHandler signo ≠ .own := by
  by_cases hmem : signo ∈ s.replaced.map Prod.fst
  · obtain ⟨p, hp, rfl⟩ := List.mem_map.mp hmem
    obtain ⟨hforeign, hstored⟩ := h.replaced p hp
    rw [SignalState.Stored] at hstored
    split_ifs at hstored
    · rw [hstored.2]
      exact SignalHandler.noConfusion
    · rw [hstored]
      exact hforeign
  · rw [(h.untouched signo hmem).2]
    exact SignalHandler.noConfusion

/-- Another handler in one place, which is one of this module only where there was one. -/
theorem SignalsInv.pqsignal (h : SignalsInv s) {handler : SignalHandler}
    (hfound : handler = .own → signo ∈ s.replaced.map Prod.fst) :
    SignalsInv (s.pqsignal signo handler) := by
  refine ⟨h.progress, fun signo' hnot => ⟨?_, (h.untouched signo' hnot).2⟩, h.replaced⟩
  by_cases heq : signo' = signo
  · subst heq
    rw [SignalState.pqsignal_self]
    exact fun hown => hnot (hfound hown)
  · rw [SignalState.pqsignal_of_ne heq]
    exact (h.untouched signo' hnot).1

theorem SignalsInv.registers (h : SignalsInv s) (hidle : s.registering = [])
    (fpinfo : TbFdwRelationInfo) : SignalsInv (s.registers fpinfo) := by
  rw [SignalState.registers]
  split_ifs with hregisters
  · -- nothing was replaced so far
    rw [Bool.and_eq_true, Bool.not_eq_true'] at hregisters
    have hprogress := h.progress
    rw [hidle, hregisters.2] at hprogress
    have hnone : s.replaced = [] := List.map_eq_nil_iff.mp hprogress.eq_nil
    refine ⟨?_, h.untouched, fun p hp => ?_⟩
    · change Progress registerSignalHandlers s.isSignalHandlersRegistered (s.replaced.map Prod.fst)
      rw [hregisters.2, hnone]
      exact @Progress.installing [] fatalSignals rfl
    · change p ∈ s.replaced at hp
      rw [hnone] at hp
      exact (List.not_mem_nil hp).elim
  · exact h

/-- What is stored while nothing is being stored for the signal. -/
theorem SignalState.stored_iff {handler : SignalHandler} (h : s.storing signo = false) :
    s.Stored signo handler ↔ s.prevHandler signo = handler := by
  rw [Stored, h, if_neg Bool.false_ne_true]

/-- What is stored while the handler is being stored. -/
theorem SignalState.stored_iff_returned {handler : SignalHandler}
    (h : s.registering.head? = some (.store signo)) :
    s.Stored signo handler ↔ s.returned = handler ∧ s.prevHandler signo = .sigDfl := by
  have hstoring : s.storing signo = true := decide_eq_true h
  rw [Stored, hstoring, if_pos rfl]

theorem SignalState.storing_eq_false (h : s.registering.head? ≠ some (.store signo)) :
    s.storing signo = false :=
  decide_eq_false h

/-- A step of the registration. -/
theorem SignalsInv.register (h : SignalsInv s) {step : RegisterStep} {steps : List RegisterStep}
    (hnext : s.registering = step :: steps) :
    SignalsInv ({ s with registering := steps }.run step) := by
  have hprogress := h.progress
  rw [hnext] at hprogress
  obtain ⟨hregistered, hcases⟩ := hprogress.next
  have hhead : s.registering.head? = some step := by rw [hnext, List.head?_cons]
  obtain ⟨done, signo, rest, rfl, rfl, hall, hsignals⟩ |
    ⟨done, signo, rest, rfl, rfl, hall, hsignals⟩ | ⟨rfl, rfl, hsignals⟩ := hcases
  · -- the handler that is replaced is not one of this module
    have hprogress' : Progress (.store signo :: registerFrom rest) s.isSignalHandlersRegistered
        (signo :: s.replaced.map Prod.fst) := by
      rw [hregistered, hsignals]
      exact .storing hall
    have hnew := (List.nodup_cons.mp hprogress'.nodup).1
    obtain ⟨hforeign, hzero⟩ := h.untouched signo hnew
    refine ⟨hprogress', fun signo' hnot => ?_, fun p hp => ?_⟩
    · have hne : signo' ≠ signo := fun heq => hnot (heq ▸ List.mem_cons_self ..)
      obtain ⟨hdisposition, hprev⟩ := h.untouched signo' fun hmem =>
        hnot (List.mem_cons_of_mem _ hmem)
      exact ⟨fun hown => hdisposition ((s.pqsignal_of_ne hne).symm.trans hown), hprev⟩
    · rcases List.mem_cons.mp hp with rfl | hp
      · exact ⟨hforeign, (SignalState.stored_iff_returned rfl).mpr ⟨rfl, hzero⟩⟩
      · have hne : p.1 ≠ signo := fun heq => hnew (heq ▸ List.mem_map_of_mem hp)
        obtain ⟨hown, hstored⟩ := h.replaced p hp
        rw [SignalState.stored_iff (SignalState.storing_eq_false fun heq => by
          rw [hhead] at heq; cases heq)] at hstored
        refine ⟨hown, (SignalState.stored_iff (SignalState.storing_eq_false fun heq => ?_)).mpr
          hstored⟩
        exact hne (RegisterStep.store.inj (Option.some.inj heq)).symm
  · have hprogress' : Progress (registerFrom rest) s.isSignalHandlersRegistered
        (s.replaced.map Prod.fst) := by
      rw [hregistered, hsignals, ← List.reverse_concat]
      refine .installing ?_
      rw [hall, List.append_cons]
    refine ⟨hprogress', fun signo' hnot => ?_, fun p hp => ?_⟩
    · have hne : signo' ≠ signo := by
        rintro rfl
        refine hnot ?_
        change signo' ∈ s.replaced.map Prod.fst
        rw [hsignals]
        exact List.mem_cons_self ..
      obtain ⟨hdisposition, hprev⟩ := h.untouched signo' hnot
      exact ⟨hdisposition, (Function.update_of_ne hne ..).trans hprev⟩
    · obtain ⟨hown, hstored⟩ := h.replaced p hp
      refine ⟨hown, (SignalState.stored_iff (SignalState.storing_eq_false ?_)).mpr ?_⟩
      · exact registerFrom_head rest
      · by_cases heq : p.1 = signo
        · rw [heq, SignalState.stored_iff_returned hhead] at hstored
          rw [heq]
          exact (Function.update_self ..).trans hstored.1
        · rw [SignalState.stored_iff (SignalState.storing_eq_false fun heq' => by
            rw [hhead] at heq'
            exact heq (RegisterStep.store.inj (Option.some.inj heq')).symm)] at hstored
          exact (Function.update_of_ne heq ..).trans hstored
  · refine ⟨?_, h.untouched, fun p hp => ?_⟩
    · change Progress [] true (s.replaced.map Prod.fst)
      rw [hsignals]
      exact .registered
    · obtain ⟨hown, hstored⟩ := h.replaced p hp
      rw [SignalState.stored_iff (SignalState.storing_eq_false fun heq => by
        rw [hhead] at heq; cases heq)] at hstored
      exact ⟨hown, (SignalState.stored_iff (SignalState.storing_eq_false fun heq => by
        cases heq)).mpr hstored⟩

/-! ## Runs -/

theorem SignalsInv.step (h : SignalsInv s) (hstep : SignalStep pg s s') : SignalsInv s' := by
  cases hstep with
  | getForeignRelSize hidle hplan => exact h.registers hidle _
  | register hnext => exact h.register hnext
  | otherLibrary hidle hfound => exact h.pqsignal hfound
  | sleepFlag useSleepOnSig => exact ⟨h.progress, h.untouched, h.replaced⟩
  | @signal _ signo hown hhandler =>
    rw [ownHandler_eq, signalHandler] at hhandler
    split_ifs at hhandler
    cases hhandler
    exact h.pqsignal fun hprev => (h.prevHandler_ne_own signo hprev).elim

/-- Where a signal ends that reaches a handler of this module. -/
theorem SignalsInv.deliver_own (h : SignalsInv s) (hown : s.disposition signo = .own)
    (hawake : s.useSleepOnSig = false) :
    deliver 2 signo s =
      some (.runs (s.prevHandler signo), s.pqsignal signo (s.prevHandler signo)) := by
  have hhandler : ownHandler signo s = some (s.pqsignal signo (s.prevHandler signo)) := by
    rw [ownHandler_eq, signalHandler, hawake, if_neg Bool.false_ne_true]
  rw [deliver, if_pos hown, hhandler]
  change deliver 1 signo (s.pqsignal signo (s.prevHandler signo)) = _
  rw [deliver, SignalState.pqsignal_self, if_neg (h.prevHandler_ne_own signo)]

theorem SignalsInv.sound (h : SignalsInv s) : SignalsSound s := by
  refine ⟨h.progress.nodup, fun p hp => (h.replaced p hp).1, fun signo hown hawake => ?_⟩
  have hmem : signo ∈ s.replaced.map Prod.fst := by
    by_contra hnot
    exact (h.untouched signo hnot).1 hown
  obtain ⟨⟨signo, handler⟩, hp, rfl⟩ := List.mem_map.mp hmem
  have hlast : s.prevHandler signo = if s.storing signo then .sigDfl else handler := by
    have hstored := (h.replaced _ hp).2
    rw [SignalState.Stored] at hstored
    split_ifs at hstored ⊢
    · exact hstored.2
    · exact hstored
  refine ⟨handler, hp, ?_⟩
  rw [h.deliver_own hown hawake, hlast]

/-- **The signal handlers**, in every run of a backend: each is installed at most once, and a
signal that reaches one while the flag is off ends in the handler that was there before. None
calls itself again, also when other libraries install theirs and put back what they have found. -/
theorem signals_of_run {s₀ : SignalState} (hstart : Unregistered s₀)
    (hrun : Relation.ReflTransGen (SignalStep pg) s₀ s) : SignalsSound s := by
  have h : SignalsInv s := by
    induction hrun with
    | refl => exact .start hstart
    | tail _ hstep ih => exact ih.step hstep
  exact h.sound

end

/-- A backend in which another library has handlers. -/
def SignalState.withOthers : SignalState where
  disposition _ := .other 1
  prevHandler _ := .sigDfl
  isSignalHandlersRegistered := false
  useSleepOnSig := false
  registering := []
  returned := .sigDfl
  replaced := []

/-- The first handler is installed and the one that it has replaced is stored. -/
theorem sigsegv_chained :
    ∃ s, Relation.ReflTransGen (SignalStep .small) .withOthers s ∧
      deliver 2 .sigsegv s = some (.runs (.other 1), s.pqsignal .sigsegv (.other 1)) ∧
      SignalsSound s := by
  obtain ⟨fpinfo, hplan, hon⟩ : ∃ fpinfo, tiberoGetForeignRelSize .small
      ⟨7, [⟨"use_sleep_on_sig", "true".toList⟩]⟩ [] .scanOfTable = .ok fpinfo ∧
        fpinfo.useSleepOnSig = true := ⟨_, rfl, rfl⟩
  have hregisters : SignalState.withOthers.registers fpinfo =
      { SignalState.withOthers with registering := registerSignalHandlers } := by
    rw [SignalState.registers, hon]
    rfl
  have hplanned : SignalStep .small .withOthers
      { SignalState.withOthers with registering := registerSignalHandlers } := by
    rw [← hregisters]
    exact .getForeignRelSize rfl hplan
  have hrun := ((Relation.ReflTransGen.single hplanned).tail (.register rfl)).tail (.register rfl)
  refine ⟨_, hrun, rfl, signals_of_run ?_ hrun⟩
  exact ⟨by rintro _ ⟨⟩, fun _ => rfl, rfl, rfl, rfl⟩

end TiberoFdw
