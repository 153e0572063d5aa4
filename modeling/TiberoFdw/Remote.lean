import TiberoFdw.Driver

/-!
# The remote side

What the driver calls do at Tibero: a session for each connection handle, in
autocommit mode at first, with the work of its open transaction. The state is
computed from the trace of the calls, so it needs no place in the world. A call
that fails does nothing; disconnecting a session discards its uncommitted work.
-/

namespace TiberoFdw

/-- The commands a session receives. -/
inductive Command : Type where
  | autocommitOff
  | setTransaction (serializable : Bool)
  | statement
  | endTran (completionType : CompletionType)
  deriving DecidableEq

/-- The command in a text that is executed directly. -/
def commandOfSql (sql : Text) : Command :=
  if sql = "SET TRANSACTION ISOLATION LEVEL SERIALIZABLE".toList then .setTransaction true
  else if sql = "SET TRANSACTION ISOLATION LEVEL READ COMMITTED".toList then .setTransaction false
  else .statement

/-- The state of the remote sessions. The executions of prepared statements are
numbered in the order of their `SQLExecute`. -/
structure Remote where
  /-- the session of a statement -/
  session : Handle → Handle
  /-- the session is there -/
  isOpen : Handle → Bool
  autocommit : Handle → Bool
  /-- the executions in the open transaction of a session -/
  work : Handle → List Nat
  /-- the number of executions so far -/
  executed : Nat
  /-- the executions that were committed by an `SQLEndTran` on their transaction -/
  committed : List Nat
  /-- the executions that were committed one by one, in autocommit mode -/
  autocommitted : List Nat
  /-- the commands a session has received -/
  log : Handle → List Command

namespace Remote

/-- Change one place of a function. -/
def set {α : Type} (f : Handle → α) (h : Handle) (a : α) : Handle → α :=
  fun x => if x = h then a else f x

@[simp] theorem set_same {α : Type} (f : Handle → α) (h : Handle) (a : α) : set f h a h = a := by
  simp [set]

theorem set_of_ne {α : Type} {f : Handle → α} {h x : Handle} {a : α} (hx : x ≠ h) :
    set f h a x = f x := by
  simp [set, hx]

@[simp] theorem set_set {α : Type} (f : Handle → α) (h : Handle) (a b : α) :
    set (set f h a) h b = set f h b := by
  funext x
  by_cases hx : x = h
  · simp [hx]
  · simp [set_of_ne hx]

/-- Before the first call. -/
def initial : Remote where
  session := fun _ => SQL_NULL_HANDLE
  isOpen := fun _ => false
  autocommit := fun _ => true
  work := fun _ => []
  executed := 0
  committed := []
  autocommitted := []
  log := fun _ => []

/-- Add a command to the log of a session. -/
def receive (r : Remote) (hdbc : Handle) (command : Command) : Remote :=
  { r with log := set r.log hdbc (r.log hdbc ++ [command]) }

/-- What a successful call does. -/
def effect (r : Remote) : SqlCall → Remote
  | .allocHandle .stmt hdbc hstmt => { r with session := set r.session hstmt hdbc }
  | .driverConnect hdbc _ =>
    { r with
      isOpen := set r.isOpen hdbc true
      autocommit := set r.autocommit hdbc true
      work := set r.work hdbc [] }
  | .setConnectAttr hdbc attr value =>
    if attr = SQL_ATTR_AUTOCOMMIT ∧ value = SQL_AUTOCOMMIT_OFF then
      { r.receive hdbc .autocommitOff with autocommit := set r.autocommit hdbc false }
    else r
  | .execDirect hstmt sql => r.receive (r.session hstmt) (commandOfSql sql)
  | .execute hstmt _ =>
    let hdbc := r.session hstmt
    let r' := { r.receive hdbc .statement with executed := r.executed + 1 }
    if r.autocommit hdbc then { r' with autocommitted := r.autocommitted ++ [r.executed] }
    else { r' with work := set r.work hdbc (r.work hdbc ++ [r.executed]) }
  | .endTran hdbc .commit =>
    { r.receive hdbc (.endTran .commit) with
      committed := r.committed ++ r.work hdbc
      work := set r.work hdbc [] }
  | .endTran hdbc .rollback =>
    { r.receive hdbc (.endTran .rollback) with work := set r.work hdbc [] }
  | .disconnect hdbc =>
    { r with isOpen := set r.isOpen hdbc false, work := set r.work hdbc [] }
  | _ => r

/-- One call of the trace. -/
def step (r : Remote) (issued : Issued) : Remote :=
  if sqlSucceeded issued.rc then r.effect issued.call else r

/-- The state after a trace. -/
def ofTrace (trace : List Issued) : Remote := trace.foldl step initial

theorem ofTrace_concat (trace : List Issued) (issued : Issued) :
    ofTrace (trace ++ [issued]) = (ofTrace trace).step issued := by
  rw [ofTrace, List.foldl_append]
  rfl

end Remote

/-- The remote side of a world. -/
def World.remote (w : World) : Remote := Remote.ofTrace w.trace

end TiberoFdw
