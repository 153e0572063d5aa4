import TiberoFdw.Accounts
import TiberoFdw.ConnString
import TiberoFdw.Lib.Versions

/-!
# Options that change

The options of servers and user mappings are altered while connections are cached, and
PostgreSQL announces each change by an invalidation, also inside the lookup of
`make_tb_connection`. A connected entry is *current* when it is marked, or was opened with
the options of the last announced versions (`EntryCurrent`). The callback skips entries
that are not connected; so what is announced while one is being connected is lost **if it
is about the user mapping**, which was read before. A change of the server is not: the
lookup returns the server after the callbacks.
-/

namespace TiberoFdw

/-! ## The catalog -/

/-- What has options. -/
inductive CatalogObject : Type where
  | server (serverid : Oid)
  | mapping (umid : Oid)
  deriving DecidableEq

/-- The objects that an invalidation is about. -/
def invalidates (env : Environment) (note : CacheId × Nat) : CatalogObject → Bool
  | .server serverid =>
    note.1 == .foreignServerOid && (note.2 == 0 || env.serverHash serverid == note.2)
  | .mapping umid =>
    note.1 == .userMappingOid && (note.2 == 0 || env.mappingHash umid == note.2)

/-- A change, or the callback of one. -/
abbrev CatalogEvent := VersionEvent CatalogObject (CacheId × Nat)

/-- The versions of the servers and the user mappings: the latest ones, and the ones that were
announced. -/
abbrev Catalog := Versions CatalogObject

/-- What the catalog holds, version after version. -/
structure History where
  serverOptions : Oid → Nat → List DefElem
  mappingOptions : Oid → Nat → List DefElem
  /-- the server of a user mapping -/
  serverOf : Oid → Oid
  /-- what happens inside the `n`-th `GetForeignServer` -/
  during : Nat → List CatalogEvent
  /-- the version that the `n`-th `GetForeignServer` returns -/
  found : Nat → Nat

namespace History

variable (H : History)

/-- A server that was read at a version. -/
def server (serverid : Oid) (version : Nat) : ForeignServer :=
  ⟨serverid, H.serverOptions serverid version⟩

/-- A user mapping that was read at a version. -/
def user (umid : Oid) (version : Nat) : UserMapping :=
  ⟨umid, H.serverOf umid, H.mappingOptions umid version⟩

/-- The lookups see this catalog. -/
def environment (env : Environment) : Environment :=
  { env with
    foreignServer := fun n serverid => H.server serverid (H.found n)
    deliveries := fun n => (H.during n).filterMap VersionEvent.note? }

/-- The catalog after `count` lookups, from the `n`-th on. -/
def lookedUp (env : Environment) (catalog : Catalog) (n count : Nat) : Catalog :=
  catalog.after (invalidates env) ((List.range' n count).flatMap H.during)

end History

/-! ## Sessions and options -/

/-- `keep_connections` as `make_tb_connection` reads it. -/
def keepConnectionsOf (pg : Postgres) : List DefElem → Bool → Bool
  | [], keep => keep
  | def_ :: rest, keep =>
    keepConnectionsOf pg rest
      (if def_.defname = "keep_connections" then (pg.defGetBoolean def_.arg).getD keep else keep)

/-- The entry has a session that was opened with these versions of the options. -/
structure OpenedWith (pg : Postgres) (H : History) (umid : Oid) (serverVersion mappingVersion : Nat)
    (conn : ConnCacheEntry) (calls : List Issued) : Prop where
  dialed : ∃ rc, ⟨.driverConnect conn.hdbc (connectionString (connectionParams
    (H.server (H.serverOf umid) serverVersion) (H.user umid mappingVersion))), rc⟩ ∈ calls
  keepConnections : conn.keepConnections =
    keepConnectionsOf pg (H.serverOptions (H.serverOf umid) serverVersion) true

/-- The entry is marked, or its session was opened with the options that were
announced last, or later ones. -/
structure EntryCurrent (pg : Postgres) (env : Environment) (H : History) (catalog : Catalog)
    (umid : Oid) (conn : ConnCacheEntry) (calls : List Issued) : Prop where
  serverHashvalue : conn.serverHashvalue = env.serverHash (H.serverOf umid)
  mappingHashvalue : conn.mappingHashvalue = env.mappingHash umid
  opened : ∃ serverVersion mappingVersion,
    OpenedWith pg H umid serverVersion mappingVersion conn calls ∧
    catalog.Current (.server (H.serverOf umid)) serverVersion conn.invalidated ∧
    catalog.Current (.mapping umid) mappingVersion conn.invalidated

/-- All connections are current. -/
def AllCurrent (pg : Postgres) (env : Environment) (H : History) (catalog : Catalog) (w : World) :
    Prop :=
  ∀ k, w.Live k → EntryCurrent pg env H catalog k (w.conn k) w.trace

section

variable {pg : Postgres} {env : Environment} {H : History} {catalog : Catalog} {w w' : World}
  {key : ConnCacheKey} {umid : Oid} {conn conn' : ConnCacheEntry} {calls calls' : List Issued}

/-! ## What keeps them current -/

/-- The entry goes on with its session. -/
theorem EntryCurrent.of_kept (h : EntryCurrent pg env H catalog umid conn calls)
    (hkept : SessionKept conn conn') (hpre : calls <+: calls') :
    EntryCurrent pg env H catalog umid conn' calls' := by
  obtain ⟨serverVersion, mappingVersion, ⟨⟨rc, hdialed⟩, hkeep⟩, hserver, hmapping⟩ := h.opened
  have hunmarked : conn'.invalidated = false → conn.invalidated = false := by
    intro hno
    rcases hold : conn.invalidated with _ | _
    · rfl
    · rw [hkept.invalidated hold] at hno
      cases hno
  refine ⟨hkept.serverHashvalue.trans h.serverHashvalue,
    hkept.mappingHashvalue.trans h.mappingHashvalue, serverVersion, mappingVersion, ⟨⟨rc, ?_⟩, ?_⟩,
    ⟨hserver.le, fun hno => hserver.known (hunmarked hno)⟩,
    ⟨hmapping.le, fun hno => hmapping.known (hunmarked hno)⟩⟩
  · rw [hkept.hdbc]
    exact hpre.subset hdialed
  · exact hkept.keepConnections.trans hkeep

theorem AllCurrent.of_kept (h : AllCurrent pg env H catalog w) (hkeys : w'.keys = w.keys)
    (hpre : w.trace <+: w'.trace)
    (hentry : ∀ k, (w'.conn k).connected = true → SessionKept (w.conn k) (w'.conn k)) :
    AllCurrent pg env H catalog w' := by
  intro k hk
  have hkept := hentry k hk.2
  exact (h k ⟨hkeys ▸ hk.1, hkept.connected⟩).of_kept hkept hpre

theorem AllCurrent.of_settled (h : AllCurrent pg env H catalog w) (hs : Settled w w') :
    AllCurrent pg env H catalog w' :=
  h.of_kept hs.keys hs.trace fun k hk => (hs.entry k hk).toSessionKept

/-- A field of the entry that says nothing about its options. -/
theorem AllCurrent.setConn (h : AllCurrent pg env H catalog w) {f : ConnCacheEntry → ConnCacheEntry}
    (hf : ∀ c : ConnCacheEntry, (f c).connected = true → SessionKept c (f c)) :
    AllCurrent pg env H catalog (w.setConn key f) := by
  refine h.of_kept rfl List.prefix_rfl fun k hk => ?_
  by_cases hne : k = key
  · subst hne
    rw [World.setConn_self] at hk ⊢
    exact hf _ hk
  · rw [World.setConn_of_ne hne] at hk ⊢
    exact ⟨hk, rfl, rfl, rfl, rfl, id⟩

/-- An object changes. -/
theorem AllCurrent.changed (h : AllCurrent pg env H catalog w) (object : CatalogObject) :
    AllCurrent pg env H (catalog.step (invalidates env) (.changed object)) w := by
  intro k hk
  obtain ⟨serverVersion, mappingVersion, hopened, hserver, hmapping⟩ := (h k hk).opened
  have hstep : ∀ {o n}, catalog.Current o n (w.conn k).invalidated →
      (catalog.step (invalidates env) (.changed object)).Current o n (w.conn k).invalidated :=
    fun hcurrent => hcurrent.step id (by rintro note ⟨⟩)
  exact ⟨(h k hk).serverHashvalue, (h k hk).mappingHashvalue, serverVersion, mappingVersion,
    hopened, hstep hserver, hstep hmapping⟩

/-- A callback marks the entries that it is about. -/
theorem AllCurrent.announced (h : AllCurrent pg env H catalog w) (note : CacheId × Nat) :
    AllCurrent pg env H (catalog.step (invalidates env) (.announced note))
      (w.invalidated note.1 note.2) := by
  intro k hk
  have hconn : (w.invalidated note.1 note.2).conn k = invalidateEntry note.1 note.2 (w.conn k) :=
    if_pos hk.1
  have hconnected : (w.conn k).connected = true := by
    have hsame := (SameButInvalidated.invalidate note.1 note.2 (w.conn k)).connected
    rw [← hsame, ← hconn]
    exact hk.2
  have hold := h k ⟨hk.1, hconnected⟩
  have hkept := (ConnCacheEntry.Continues.invalidate note.1 note.2 (w.conn k)) (hconn ▸ hk.2)
  obtain ⟨serverVersion, mappingVersion, ⟨⟨rc, hdialed⟩, hkeep⟩, hserver, hmapping⟩ := hold.opened
  rw [hconn]
  have hmarks : ∀ {o}, o = .server (H.serverOf k) ∨ o = .mapping k →
      invalidates env note o = true →
        (invalidateEntry note.1 note.2 (w.conn k)).invalidated = true := by
    rintro _ (rfl | rfl) hcovers <;>
      rw [invalidates, Bool.and_eq_true, Bool.or_eq_true] at hcovers <;>
      obtain ⟨hcache, hhash⟩ := hcovers
    · rw [invalidateEntry, if_pos]
      rcases hhash with hhash | hhash <;> simp [hconnected, hold.serverHashvalue, hcache, hhash]
    · rw [invalidateEntry, if_pos]
      rcases hhash with hhash | hhash <;> simp [hconnected, hold.mappingHashvalue, hcache, hhash]
  refine ⟨hkept.serverHashvalue.trans hold.serverHashvalue,
    hkept.mappingHashvalue.trans hold.mappingHashvalue, serverVersion, mappingVersion,
    ⟨⟨rc, ?_⟩, hkept.keepConnections.trans hkeep⟩, hserver.step hkept.invalidated ?_,
    hmapping.step hkept.invalidated ?_⟩
  · rw [hkept.hdbc]
    exact hdialed
  · rintro _ ⟨⟩ hcovers
    exact hmarks (.inl rfl) hcovers
  · rintro _ ⟨⟩ hcovers
    exact hmarks (.inr rfl) hcovers

/-- What happens inside a lookup. -/
theorem AllCurrent.delivered (h : AllCurrent pg env H catalog w) (events : List CatalogEvent) :
    AllCurrent pg env H (catalog.after (invalidates env) events)
      (Proc.forEach (events.filterMap VersionEvent.note?)
        (fun (cacheid, hashvalue) => tbfdwInvalCallback cacheid hashvalue) w).next := by
  induction events generalizing catalog w with
  | nil => exact h
  | cons event rest ih =>
    cases event with
    | changed object => exact ih (h.changed object)
    | announced note => exact ih (h.announced note)

/-- An entry without a connection may change. -/
theorem AllCurrent.of_disconnected (h : AllCurrent pg env H catalog w) (hkeys : w'.keys = w.keys)
    (hpre : w.trace <+: w'.trace) (hothers : ∀ k, k ≠ key → (w.conn k).Continues (w'.conn k))
    (hno : (w'.conn key).connected = false) : AllCurrent pg env H catalog w' := by
  refine h.of_kept hkeys hpre fun k hk => (hothers k ?_ hk).toSessionKept
  rintro rfl
  rw [hk] at hno
  cases hno

/-! ## Connecting -/

/-- The loop over the server options sets `keep_connections`. -/
theorem applyConnectionOptions_keep {options : List DefElem} {params params' : ConnParams}
    (h : applyConnectionOptions pg key options params w = .ok params' w') :
    w' = w.setConn key fun c => { c with
      keepConnections := keepConnectionsOf pg options (w.conn key).keepConnections } := by
  induction options generalizing params w with
  | nil =>
    cases h
    exact (World.setConn_eq_self rfl).symm
  | cons d rest ih =>
    obtain ⟨params₁, w₁, hone, hrest⟩ := Proc.bind_eq_ok.mp h
    have hset : w₁ = w.setConn key fun c => { c with
        keepConnections := if d.defname = "keep_connections" then
          (pg.defGetBoolean d.arg).getD (w.conn key).keepConnections
          else (w.conn key).keepConnections } := by
      rw [applyConnectionOption] at hone
      split_ifs at hone with hhost hport hdbname hkeep
      · cases hone
        rw [if_neg (by rw [hhost]; decide)]
        exact (World.setConn_eq_self rfl).symm
      · cases hone
        rw [if_neg (by rw [hport]; decide)]
        exact (World.setConn_eq_self rfl).symm
      · cases hone
        rw [if_neg (by rw [hdbname]; decide)]
        exact (World.setConn_eq_self rfl).symm
      · rcases hbool : pg.defGetBoolean d.arg with _ | keep
        · rw [hbool] at hone
          cases hone
        · rw [hbool] at hone
          cases hone
          rw [if_pos hkeep]
          rfl
      · cases hone
        rw [if_neg hkeep]
        exact (World.setConn_eq_self rfl).symm
    rw [ih hrest, hset, World.setConn_setConn, World.setConn_self]
    rfl

theorem callRules_lookups (env : Environment) (key : ConnCacheKey) (n : Nat) :
    CallRules env key (·.lookups = n) :=
  ⟨fun _ _ _ _ h => h, fun _ _ _ h => h⟩

/-- A lookup returns the server after the callbacks. -/
theorem getForeignServer_current (h : AllCurrent pg env H catalog w) (serverid : Oid) :
    ∃ w₁, getForeignServer (H.environment env) serverid w =
        .ok (H.server serverid (H.found w.lookups)) w₁ ∧
      AllCurrent pg env H (catalog.after (invalidates env) (H.during w.lookups)) w₁ ∧
      w₁.lookups = w.lookups + 1 ∧ (w₁.conn key).connected = (w.conn key).connected := by
  obtain ⟨w₁, hrun, hdelivered⟩ := deliveries_run ((H.environment env).deliveries w.lookups)
    { w with lookups := w.lookups + 1 }
  have hcounted : AllCurrent pg env H catalog { w with lookups := w.lookups + 1 } :=
    fun k hk => h k hk
  have hcurrent := hcounted.delivered (H.during w.lookups)
  have hlookups : Proc.Keeps (·.lookups = w.lookups + 1)
      (Proc.forEach ((H.environment env).deliveries w.lookups)
        fun (cacheid, hashvalue) => tbfdwInvalCallback cacheid hashvalue) :=
    .forEach fun d _ w h => h
  refine ⟨w₁, ?_, ?_, hlookups.apply_ok rfl hrun, (hdelivered.conn key).connected⟩
  · rw [getForeignServer, Proc.read_bind_run, Proc.modify_bind_run, Proc.bind_of_ok hrun]
    rfl
  · have hrun' : Proc.forEach ((H.during w.lookups).filterMap VersionEvent.note?)
        (fun (cacheid, hashvalue) => tbfdwInvalCallback cacheid hashvalue)
        { w with lookups := w.lookups + 1 } = .ok () w₁ := hrun
    rw [hrun'] at hcurrent
    exact hcurrent

/-- A new connection is current, if the options that it was opened with are. -/
theorem connectTbServer_current {serverVersion mappingVersion : Nat}
    (h : AllCurrent pg env H catalog w) (hno : (w.conn umid).connected = false)
    (hserverHash : (w.conn umid).serverHashvalue = env.serverHash (H.serverOf umid))
    (hmappingHash : (w.conn umid).mappingHashvalue = env.mappingHash umid)
    (hkeep : (w.conn umid).keepConnections =
      keepConnectionsOf pg (H.serverOptions (H.serverOf umid) serverVersion) true)
    (hserver : catalog.Current (.server (H.serverOf umid)) serverVersion false)
    (hmapping : catalog.Current (.mapping umid) mappingVersion false) :
    AllCurrent pg env H catalog (connectTbServer (H.environment env) umid (connectionParams
      (H.server (H.serverOf umid) serverVersion) (H.user umid mappingVersion)) w).next := by
  have htouches := ((snapshotRules_touches (H.environment env) w umid).connectTbServer
    (connectionParams (H.server (H.serverOf umid) serverVersion) (H.user umid mappingVersion))).next
    (Touches.refl umid w)
  rcases hrun : connectTbServer (H.environment env) umid (connectionParams
      (H.server (H.serverOf umid) serverVersion) (H.user umid mappingVersion)) w with
    ⟨u, w'⟩ | ⟨e, w'⟩ <;> rw [hrun] at htouches
  · have hmade := connectTbServer_ok hrun
    intro k hk
    by_cases hne : k = umid
    · subst hne
      have hmem : ⟨.driverConnect (w.trace.length + 3) (connectionString (connectionParams
          (H.server (H.serverOf k) serverVersion) (H.user k mappingVersion))),
          (H.environment env).rc (w.trace.length + 3)⟩ ∈ w'.trace := by
        rw [connectTbServer_calls hrun]
        simp [connectingCalls]
      rw [Outcome.next_ok, hmade.entry]
      exact ⟨hserverHash, hmappingHash, serverVersion, mappingVersion, ⟨⟨_, hmem⟩, hkeep⟩,
        hserver.marked _, hmapping.marked _⟩
    · have hkept := htouches.others k hne hk.2
      exact (h k ⟨htouches.keys ▸ hk.1, hkept.connected⟩).of_kept hkept.toSessionKept htouches.trace
  · exact h.of_disconnected htouches.keys htouches.trace htouches.others
      (connectTbServer_raise hno hrun).2

/-- **`make_tb_connection`** makes a connection that is current, if the user mapping was
read after the changes of it that have been announced, also inside the lookup. -/
theorem makeTbConnection_current {version : Nat} (h : AllCurrent pg env H catalog w)
    (hno : (w.conn umid).connected = false)
    (hserver : (catalog.after (invalidates env) (H.during w.lookups)).Current
      (.server (H.serverOf umid)) (H.found w.lookups) false)
    (hmapping : (catalog.after (invalidates env) (H.during w.lookups)).Current
      (.mapping umid) version false) :
    AllCurrent pg env H (catalog.after (invalidates env) (H.during w.lookups))
      (makeTbConnection pg (H.environment env) umid (H.user umid version) w).next := by
  obtain ⟨w₁, hlookup, hcurrent, -, hno₁⟩ :=
    @getForeignServer_current _ _ _ _ _ umid h (H.serverOf umid)
  rw [hno] at hno₁
  have hset : ∀ {f : ConnCacheEntry → ConnCacheEntry}, (f (w₁.conn umid)).connected = false →
      AllCurrent pg env H (catalog.after (invalidates env) (H.during w.lookups))
        (w₁.setConn umid f) := by
    intro f hf
    refine @AllCurrent.of_disconnected _ _ _ _ _ _ umid hcurrent rfl List.prefix_rfl
      (fun k hk => ?_) ?_
    · rw [World.setConn_of_ne hk]
      exact .refl _
    · rw [World.setConn_self]
      exact hf
  have hlookup' : getForeignServer (H.environment env) (H.user umid version).serverid w =
      .ok (H.server (H.serverOf umid) (H.found w.lookups)) w₁ := hlookup
  rw [makeTbConnection, Proc.bind_of_ok hlookup', modifyConn, Proc.modify_bind_run]
  rcases hoptions : applyConnectionOptions pg umid
      (H.server (H.serverOf umid) (H.found w.lookups)).options ⟨none, none, none, none, none⟩
      (w₁.setConn umid (resetEntry (H.environment env)
        (H.server (H.serverOf umid) (H.found w.lookups)) (H.user umid version)))
    with ⟨params, w₂⟩ | ⟨e, w₂⟩
  · have hparams : (H.user umid version).options.foldl applyUserOption params = connectionParams
        (H.server (H.serverOf umid) (H.found w.lookups)) (H.user umid version) := by
      rw [foldl_applyUserOption, applyConnectionOptions_ok hoptions]
      simp [connectionParams]
    have hkeep := applyConnectionOptions_keep hoptions
    rw [World.setConn_setConn, World.setConn_self] at hkeep
    rw [Proc.bind_of_ok hoptions, hparams]
    subst hkeep
    refine connectTbServer_current (hset hno₁) ?_ ?_ ?_ ?_ hserver hmapping <;>
      rw [World.setConn_self] <;> first | exact hno₁ | rfl
  · obtain ⟨keep, hnext⟩ := applyConnectionOptions_next
      (w₁.setConn umid (resetEntry (H.environment env)
        (H.server (H.serverOf umid) (H.found w.lookups)) (H.user umid version))) umid pg
      (H.server (H.serverOf umid) (H.found w.lookups)).options ⟨none, none, none, none, none⟩
    rw [hoptions, World.setConn_setConn] at hnext
    rw [Proc.bind_of_raise hoptions]
    exact hnext ▸ hset hno₁

/-- Each lookup of a call sees the changes that were announced: PostgreSQL returns the
server as new as that, and the user mapping was read after its own. -/
def LookupsSee (env : Environment) (H : History) (catalog : Catalog) (umid : Oid) (version : Nat)
    (n count : Nat) : Prop :=
  ∀ i < count,
    (H.lookedUp env catalog n (i + 1)).Current (.server (H.serverOf umid)) (H.found (n + i)) false ∧
    (H.lookedUp env catalog n (i + 1)).Current (.mapping umid) version false

theorem lookedUp_succ (n count : Nat) : H.lookedUp env catalog n (count + 1) =
    (H.lookedUp env catalog n count).after (invalidates env) (H.during (n + count)) := by
  rw [History.lookedUp, History.lookedUp, List.range'_concat, List.flatMap_append,
    Versions.after_append]
  simp

theorem makeTbConnection_lookups (user : UserMapping) :
    (makeTbConnection pg env key user w).next.lookups = w.lookups + 1 := by
  have hlookup : (getForeignServer env user.serverid w).next.lookups = w.lookups + 1 := by
    have hloop : Proc.Keeps (·.lookups = w.lookups + 1) (do
        Proc.forEach (env.deliveries w.lookups) fun (cacheid, hashvalue) =>
          tbfdwInvalCallback cacheid hashvalue
        pure (env.foreignServer w.lookups user.serverid) : Fdw ForeignServer) :=
      .bind (.forEach fun d _ w h => h) fun _ => .pure _
    rw [getForeignServer, Proc.read_bind_run, Proc.modify_bind_run]
    exact hloop.next rfl
  have hoptions : ∀ options params, Proc.Keeps (·.lookups = w.lookups + 1)
      (applyConnectionOptions pg key options params) :=
    applyConnectionOptions_keeps (fun _ _ h => h) pg
  obtain ⟨w₁, hrun, -⟩ := getForeignServer_run env user.serverid w
  rw [hrun] at hlookup
  rw [makeTbConnection, Proc.bind_of_ok hrun, modifyConn, Proc.modify_bind_run]
  refine Proc.Keeps.next (.bind (hoptions _ _) fun params => ?_) hlookup
  exact (callRules_lookups env key _).connectTbServer _

/-- What holds while a call that began after `n` lookups goes on. -/
def CurrentSince (pg : Postgres) (env : Environment) (H : History) (catalog : Catalog) (umid : Oid)
    (version n : Nat) (w : World) : Prop :=
  ∃ count, w.lookups = n + count ∧ (LookupsSee env H catalog umid version n count →
    AllCurrent pg env H (H.lookedUp env catalog n count) w)

variable {version n : Nat}

theorem CurrentSince.of_kept (h : CurrentSince pg env H catalog umid version n w)
    (hlookups : w'.lookups = w.lookups)
    (hcurrent : ∀ {catalog}, AllCurrent pg env H catalog w → AllCurrent pg env H catalog w') :
    CurrentSince pg env H catalog umid version n w' := by
  obtain ⟨count, hcount, hall⟩ := h
  exact ⟨count, hlookups.trans hcount, fun hsee => hcurrent (hall hsee)⟩

theorem CurrentSince.of_settled (h : CurrentSince pg env H catalog umid version n w)
    (hs : Settled w w') : CurrentSince pg env H catalog umid version n w' :=
  h.of_kept hs.lookups fun hall => hall.of_settled hs

theorem sessionRules_current (pg : Postgres) (env : Environment) (H : History) (catalog : Catalog)
    (umid : Oid) (version n : Nat) :
    SessionRules pg (H.environment env) umid (H.user umid version)
      (CurrentSince pg env H catalog umid version n) where
  setConn w f hf h := h.of_kept rfl fun hall => hall.setConn fun c hc =>
    ⟨(hf.connected c).symm.trans hc, hf.hdbc c, hf.serverHashvalue c, hf.mappingHashvalue c,
      hf.keepConnections c, fun hinv => (hf.invalidated c).trans hinv⟩
  issued w call rc _ h := h.of_settled ((Settled.refl w).issued call rc)
  report := Settled.keeps (fun _ _ hs h => h.of_settled hs) fun _ => dropConnection_settled
  disconnect := Settled.keeps (fun _ _ hs h => h.of_settled hs) fun _ => disconnectTbServer_settled
  makeTbConnection := by
    refine .of_next ?_
    rintro w ⟨⟨count, hcount, hall⟩, hno⟩
    refine ⟨count + 1, ?_, fun hsee => ?_⟩
    · rw [makeTbConnection_lookups, hcount, Nat.add_assoc]
    · have hcurrent := hall fun i hi => hsee i (Nat.lt_succ_of_lt hi)
      obtain ⟨hserver, hmapping⟩ := hsee count (Nat.lt_succ_self count)
      rw [lookedUp_succ, ← hcount] at hserver hmapping
      rw [lookedUp_succ, ← hcount]
      exact makeTbConnection_current hcurrent hno hserver hmapping

/-- **`get_tb_statement`** leaves all connections current, if its lookups see the changes. What it
connects has the options that its lookups have found. -/
theorem getTbStatement_current (h : AllCurrent pg env H catalog w) (tbStmt : TbStatement)
    (useFbQuery : Bool) :
    CurrentSince pg env H catalog umid version w.lookups
      (getTbStatement pg (H.environment env) (H.user umid version) tbStmt useFbQuery w).next := by
  have hentered : CurrentSince pg env H catalog umid version w.lookups
      (w.entered (H.environment env) umid) := by
    refine ⟨0, ?_, fun _ k hk => ?_⟩
    · rw [World.entered]
      split_ifs <;> rfl
    · obtain ⟨hlive, hsame⟩ := World.entered_live hk
      rw [hsame, World.entered_trace]
      exact h k hlive
  refine (sessionRules_current pg env H catalog umid version w.lookups).getTbStatement_next ?_
    hentered tbStmt useFbQuery
  exact fun w tsn h => h.of_kept rfl fun hall => hall.setConn fun c hc =>
    ⟨hc, rfl, rfl, rfl, rfl, id⟩

/-- The statement that is handed out belongs to the connection of the entry, which is not
marked. -/
theorem getTbStatement_unmarked {user : UserMapping} {tbStmt stmt : TbStatement} {useFbQuery : Bool}
    (h : getTbStatement pg env user tbStmt useFbQuery w = .ok stmt w') :
    stmt.conn = user.umid ∧ w'.Live user.umid ∧ (w'.conn user.umid).invalidated = false ∧
      w'.remote.session stmt.hstmt = (w'.conn user.umid).hdbc := by
  have hkeys := (getTbStatement_touches pg env user tbStmt useFbQuery w).keys
  rw [h] at hkeys
  have hkey : user.umid ∈ w'.keys := by
    rw [show w'.keys = _ from hkeys]
    exact World.mem_entered_keys.mpr (.inl rfl)
  obtain ⟨w₁, hconnected, hunmarked, hopened⟩ : ∃ w₁ : World, (w₁.conn user.umid).connected = true ∧
      (w₁.conn user.umid).invalidated = false ∧ Opened user.umid w₁ w' stmt := by
    rcases getTbStatement_ok h with htry | ⟨_, w₀, -, -, hretry⟩
    · obtain ⟨w₁, hensured, hopened⟩ := tryTbStatement_ok htry
      rcases hensured with ⟨hup, rfl⟩ | ⟨-, hreplaced⟩
      · rw [ConnCacheEntry.upToDate, Bool.and_eq_true, Bool.not_eq_true'] at hup
        exact ⟨_, hup.1, hup.2, hopened⟩
      · exact ⟨w₁, hreplaced.connected, hreplaced.invalidated, hopened⟩
    · obtain ⟨w₁, hreplaced, hopened⟩ := retryTbStatement_ok hretry
      exact ⟨w₁, hreplaced.connected, hreplaced.invalidated, hopened⟩
  refine ⟨hopened.stmtConn, ⟨hkey, hopened.connected.trans hconnected⟩,
    hopened.invalidated.trans hunmarked, ?_⟩
  rw [hopened.session, hopened.hdbc]
  exact Remote.set_same ..

end

/-! ## Runs -/

/-- The call is one of `get_tb_statement`. -/
def ConnectionOp.asksForStatement : ConnectionOp → Bool
  | .getTbStatement _ _ _ => true
  | _ => false

/-- The callback that a call is. -/
def ConnectionOp.announces : ConnectionOp → List CatalogEvent
  | .invalidate cacheid hashvalue => [.announced (cacheid, hashvalue)]
  | _ => []

/-- What may happen: an object is altered, `get_tb_statement` is called with a user mapping
that was read at a version, or anything else is called. -/
inductive CatalogOp : Type where
  | changed (object : CatalogObject)
  | getTbStatement (umid : Oid) (version : Nat) (tbStmt : TbStatement) (useFbQuery : Bool)
  | connection (op : ConnectionOp) (hop : op.asksForStatement = false)

/-- One step, which keeps track of the catalog. -/
def CatalogOp.step (pg : Postgres) (env : Environment) (H : History) :
    CatalogOp → Catalog → Fdw Catalog
  | .changed object, catalog => pure (catalog.change object)
  | .getTbStatement umid version tbStmt useFbQuery, catalog => do
    let w ← Proc.read
    (ConnectionOp.getTbStatement (H.user umid version) tbStmt useFbQuery).step pg
      (H.environment env) ()
    let w' ← Proc.read
    pure (H.lookedUp env catalog w.lookups (w'.lookups - w.lookups))
  | .connection op _, catalog => do
    op.step pg (H.environment env) ()
    pure (catalog.after (invalidates env) op.announces)

/-- A run of calls, changes and announcements. -/
def runCatalog (pg : Postgres) (env : Environment) (H : History) (ops : List CatalogOp) :
    Fdw Catalog :=
  Proc.fold (CatalogOp.step pg env H) ops (Versions.start CatalogObject)

/-- The lookups of a call of `get_tb_statement`. -/
def lookupsMade (pg : Postgres) (env : Environment) (user : UserMapping) (tbStmt : TbStatement)
    (useFbQuery : Bool) (w : World) : Nat :=
  (getTbStatement pg env user tbStmt useFbQuery w).next.lookups - w.lookups

/-- PostgreSQL reads the user mapping and the server as new as what it has announced. -/
def readsFresh (pg : Postgres) (env : Environment) (H : History) (op : CatalogOp)
    (catalog : Catalog) (w : World) : Bool :=
  match op with
  | .getTbStatement umid version tbStmt useFbQuery =>
    catalog.isCurrent (.mapping umid) version &&
      (List.range
          (lookupsMade pg (H.environment env) (H.user umid version) tbStmt useFbQuery w)).all
        fun i => (H.lookedUp env catalog w.lookups (i + 1)).isCurrent (.server (H.serverOf umid))
          (H.found (w.lookups + i))
  | _ => true

/-- No lookup of a call delivers the callback of a change that was made to the user mapping
after it was read. -/
def mappingStays (pg : Postgres) (env : Environment) (H : History) (op : CatalogOp)
    (catalog : Catalog) (w : World) : Bool :=
  match op with
  | .getTbStatement umid version tbStmt useFbQuery =>
    decide ((H.lookedUp env catalog w.lookups (lookupsMade pg (H.environment env)
      (H.user umid version) tbStmt useFbQuery w)).known (.mapping umid) ≤ version)
  | _ => true

/-- The session that is handed out was opened with the options that had been announced, or
later ones. -/
structure HandsOutCurrent (pg : Postgres) (H : History) (catalog later : Catalog) (umid : Oid)
    (stmt : TbStatement) (w : World) : Prop where
  session : w.remote.session stmt.hstmt = (w.conn umid).hdbc
  opened : ∃ serverVersion mappingVersion,
    OpenedWith pg H umid serverVersion mappingVersion (w.conn umid) w.trace ∧
    (catalog.known (.server (H.serverOf umid)) ≤ serverVersion ∧
      serverVersion ≤ later.latest (.server (H.serverOf umid))) ∧
    catalog.known (.mapping umid) ≤ mappingVersion ∧ mappingVersion ≤ later.latest (.mapping umid)

/-- What is said of every call that returns. -/
def NoInvalidationLost (pg : Postgres) (env : Environment) (H : History) (ops : List CatalogOp)
    (w₀ : World) : Prop :=
  Proc.StepsMeet (fun op catalog w => readsFresh pg env H op catalog w = true)
    (CatalogOp.step pg env H) ops (Versions.start CatalogObject) w₀ →
  ∀ ops₁ ops₂ umid version tbStmt useFbQuery catalog w stmt w',
    ops = ops₁ ++ .getTbStatement umid version tbStmt useFbQuery :: ops₂ →
    runCatalog pg env H ops₁ w₀ = .ok catalog w →
    getTbStatement pg (H.environment env) (H.user umid version) tbStmt useFbQuery w = .ok stmt w' →
    HandsOutCurrent pg H catalog (H.lookedUp env catalog w.lookups (w'.lookups - w.lookups)) umid
      stmt w'

section

variable {pg : Postgres} {env : Environment} {H : History} {catalog : Catalog} {w w' : World}
  {umid : Oid} {version : Nat}

/-- Any other call keeps the connections current. -/
theorem ConnectionOp.step_current {op : ConnectionOp} (hop : op.asksForStatement = false)
    (h : AllCurrent pg env H catalog w) :
    AllCurrent pg env H (catalog.after (invalidates env) op.announces)
      (op.step pg (H.environment env) () w).next := by
  rw [op.step_next]
  have R : StatementRules (H.environment env) (AllCurrent pg env H catalog)
      fun _ _ => AllCurrent pg env H catalog := .of_settled fun _ _ hs h => h.of_settled hs
  have hsettled : ∀ {m : Fdw Unit}, (∀ w₀, Proc.Keeps (Settled w₀) m) →
      AllCurrent pg env H catalog (m w).next := fun hm =>
    (Settled.keeps (fun _ _ hs h => h.of_settled hs) hm).next h
  have hserves : ∀ {hstmt key} {m : Fdw Unit},
      Serves (AllCurrent pg env H catalog) (fun _ _ => AllCurrent pg env H catalog) hstmt key m →
      AllCurrent pg env H catalog (m w).next := fun hm => Proc.Keeps.next hm h
  -- no operation but one looks up options, so the entries stay current
  cases op with
  | getTbStatement => cases hop
  | call conn sqlCall => exact hsettled fun w₀ => tbCall_settled sqlCall
  | describeCol tbStmt colNo =>
    exact hserves ((R.checked.serves_describeCol tbStmt colNo).bind fun _ => .pure _)
  | execute tbStmt =>
    exact hserves (.bind (.bind (.read_bind fun w => R.serves_issue rfl) fun rc =>
      .bind (R.serves_checkReturn _ _) fun _ => .pure _) fun _ => .pure _)
  | fetch tbStmt => exact hserves ((R.serves_fetch tbStmt).bind fun _ => .pure _)
  | xactEvent event => exact hsettled fun w₀ => tbfdwXactCallback_settled event
  | subxactEvent =>
    exact hsettled fun w₀ => .read_bind fun _ => .when (.bind
      (.modify fun w h => ⟨h.keys, h.statementStart, h.lookups, h.trace, h.entry⟩) fun _ =>
      .modify fun w h => ⟨h.keys, h.statementStart, h.lookups, h.trace, h.entry⟩)
  | invalidate cacheid hashvalue => exact h.announced (cacheid, hashvalue)
  | moment => exact fun k hk => h k hk

/-- More lookups see more. -/
theorem lookedUp_add (n a b : Nat) : H.lookedUp env catalog n (a + b) =
    (H.lookedUp env catalog n a).after (invalidates env)
      ((List.range' (n + a) b).flatMap H.during) := by
  rw [History.lookedUp, History.lookedUp, ← Versions.after_append, ← List.flatMap_append,
    List.range'_append_1]

theorem getTbStatement_step_current {tbStmt : TbStatement} {useFbQuery : Bool}
    (h : AllCurrent pg env H catalog w)
    (hfresh : readsFresh pg env H (.getTbStatement umid version tbStmt useFbQuery) catalog w = true)
    (hstays : mappingStays pg env H (.getTbStatement umid version tbStmt useFbQuery) catalog w =
      true) :
    AllCurrent pg env H (H.lookedUp env catalog w.lookups (lookupsMade pg (H.environment env)
        (H.user umid version) tbStmt useFbQuery w))
      (getTbStatement pg (H.environment env) (H.user umid version) tbStmt useFbQuery w).next := by
  obtain ⟨count, hcount, hall⟩ :=
    @getTbStatement_current _ _ _ _ _ umid version h tbStmt useFbQuery
  have hmade : lookupsMade pg (H.environment env) (H.user umid version) tbStmt useFbQuery w =
      count := by
    rw [lookupsMade, hcount, Nat.add_sub_cancel_left]
  rw [readsFresh, hmade, Bool.and_eq_true, List.all_eq_true, Versions.isCurrent_iff] at hfresh
  rw [mappingStays, hmade, decide_eq_true_eq] at hstays
  rw [hmade]
  refine hall fun i hi => ⟨?_, ?_, fun _ => ?_⟩
  · exact Versions.isCurrent_iff.mp (hfresh.2 i (List.mem_range.mpr hi))
  · exact Nat.le_trans hfresh.1.le (Versions.latest_le_after _)
  · -- a later lookup knows at least as much
    obtain ⟨b, rfl⟩ : ∃ b, count = i + 1 + b := ⟨count - (i + 1), by omega⟩
    rw [lookedUp_add] at hstays
    exact Nat.le_trans (Versions.known_le_after _) hstays

theorem CatalogOp.step_current {op : CatalogOp} {catalog' : Catalog}
    (hfresh : readsFresh pg env H op catalog w = true)
    (hstays : mappingStays pg env H op catalog w = true) (h : AllCurrent pg env H catalog w)
    (hstep : op.step pg env H catalog w = .ok catalog' w') : AllCurrent pg env H catalog' w' := by
  cases op with
  | changed object =>
    cases hstep
    exact h.changed object
  | getTbStatement umid version tbStmt useFbQuery =>
    have hcurrent := getTbStatement_step_current h hfresh hstays
    rw [CatalogOp.step, Proc.read_bind_run] at hstep
    obtain ⟨u, w₁, hrun, hnext⟩ := Proc.bind_eq_ok.mp hstep
    -- the state behind the call, whether it raised an error or not
    have hw₁ : w₁ = (TiberoFdw.getTbStatement pg (H.environment env) (H.user umid version) tbStmt
        useFbQuery w).next := by
      have hsame := @ConnectionOp.step_next pg (H.environment env) w
        (.getTbStatement (H.user umid version) tbStmt useFbQuery)
      rw [hrun, ConnectionOp.run, Proc.bind_pure_next] at hsame
      exact hsame
    cases hnext
    rw [lookupsMade, ← hw₁] at hcurrent
    exact hcurrent
  | connection op hop =>
    have hcurrent := ConnectionOp.step_current hop h
    obtain ⟨u, w₁, hrun, hnext⟩ := Proc.bind_eq_ok.mp hstep
    rw [hrun] at hcurrent
    cases hnext
    exact hcurrent

end

/-- A server whose address and a user mapping whose password are altered. -/
def History.altered (during : Nat → List CatalogEvent) (found : Nat → Nat) : History where
  serverOptions
    | _, 0 => [⟨"host", "old".toList⟩]
    | _, _ + 1 => [⟨"host", "new".toList⟩]
  mappingOptions
    | _, 0 => [⟨"password", "old".toList⟩]
    | _, _ + 1 => [⟨"password", "new".toList⟩]
  serverOf _ := 7
  during
  found

/-- The server is altered inside the first lookup. -/
def serverMeanwhile : History :=
  .altered
    (fun n => if n = 0 then [.changed (.server 7), .announced (.foreignServerOid, 7)] else [])
    fun _ => 1

/-- A first call, and a change of the password after it. -/
def firstCallThenPassword : List CatalogOp :=
  [.getTbStatement 1 0 .zeroed false, .changed (.mapping 1),
    .connection (.invalidate .userMappingOid 1) rfl]

/-- The password is altered inside the first lookup. -/
def passwordMeanwhile : History :=
  { History.altered (fun n =>
      if n = 0 then [.changed (.mapping 1), .announced (.userMappingOid, 1)] else []) fun _ => 0
    with serverOptions := fun _ _ => [] }

end TiberoFdw
