import BrowserController.Browser.System

/-!
# The BrowserConfig reconciler

`BrowserConfigReconciler` (`controllers/browserconfig`) keeps `browserConfigFinalizer` on every
BrowserConfig that is not being deleted, and drops it from one that is. Unlike the Browser
reconciler it writes with `client.Update`, which sends back the whole object it read, resource
version included. The API server refuses an update whose resource version is not the stored one
(`ConfigServer.update`), so an update can only land on the version it was computed from.

`ConfigSys` interleaves the reconciliations, one at a time (a `Get`, then an `Update` if one is
due), with other clients' writes and deletes and the passing of time. Reads may return any
earlier committed version, as the informer cache does. In every reachable state the committed
versions are newest first with strictly decreasing resource versions (`ConfigInv`), so a
resource version names one committed version (`ConfigInv.eq_of_version`). Hence the result: each
`Update` the reconciler sends either changes nothing or does exactly what a reconciliation that
read the object as it stands, and wrote it at once, would do (`reconciler_update_atomic`). The
reconciler changes nothing but its finalizer, so no edit of another client is lost, however the
steps interleave and however stale the read was.

Left alone, the reconciler converges: a BrowserConfig is settled when it holds the finalizer
exactly while it is not marked for deletion, a reconciliation plans an `Update` exactly when the
object it read is not settled (`reconcile_done_iff`), and the `Update` it plans settles it. So one
reconciliation in which every call succeeds settles any BrowserConfig, and the next changes
nothing (`ConfigSys.reconcile_settles`).
-/

namespace BrowserController

/-- `browserConfigFinalizer`. -/
def browserConfigFinalizer : String := "browserconfig.selenosis.io/finalizer"

/-- A BrowserConfig as the API server stores it: the object, its finalizers and deletion stamp,
and the resource version an `Update` is checked against. -/
structure ConfigObject where
  config : BrowserConfig
  finalizers : List String := []
  deletionTimestamp : Option Nat := none
  resourceVersion : Nat

/-- The API server's state for one BrowserConfig: the stored object, every committed version
newest first (what a lagging cache may still return), the resource version of the next commit,
and the clock. -/
structure ConfigServer where
  obj : Option ConfigObject
  log : List ConfigObject
  nextVersion : Nat
  clock : Nat

namespace ConfigServer

/-- Commit a new state of the object under the next resource version. An object marked for
deletion with no finalizer left is removed. -/
def commit (s : ConfigServer) (x : ConfigObject) : ConfigServer :=
  let x' := { x with resourceVersion := s.nextVersion }
  { s with
    obj := if x'.deletionTimestamp.isSome ∧ x'.finalizers = [] then none else some x'
    log := x' :: s.log
    nextVersion := s.nextVersion + 1 }

/-- The object a `Get` returns: as it stands, from the `i`-th newest committed version (a
lagging cache), or an error. -/
def read (s : ConfigServer) : Outcome → Except ApiError ConfigObject
  | .fail e => .error e
  | .stale i =>
    match s.log[i]? with
    | some x => .ok x
    | none => match s.obj with
      | some x => .ok x
      | none => .error .notFound
  | .ok => match s.obj with
    | some x => .ok x
    | none => .error .notFound

/-- `client.Update` of `sent`: refused with a conflict unless `sent` carries the stored resource
version. The deletion stamp stays the server's. -/
def update (s : ConfigServer) (o : Outcome) (sent : ConfigObject) :
    ConfigServer × Except ApiError Unit :=
  match o, s.obj with
  | .fail e, _ => (s, .error e)
  | _, none => (s, .error .notFound)
  | _, some cur =>
    if sent.resourceVersion = cur.resourceVersion then
      (s.commit { sent with deletionTimestamp := cur.deletionTimestamp }, .ok ())
    else (s, .error .conflict)

/-- An `Update` changes nothing, or commits what was sent, with the server's deletion stamp,
over a stored object of the same resource version. -/
theorem update_cases (s : ConfigServer) (o : Outcome) (sent : ConfigObject) :
    (s.update o sent).1 = s ∨ ∃ cur, s.obj = some cur ∧
      sent.resourceVersion = cur.resourceVersion ∧
      (s.update o sent).1 = s.commit { sent with deletionTimestamp := cur.deletionTimestamp } := by
  unfold update
  split
  · exact .inl rfl
  · exact .inl rfl
  · next cur _ hcur =>
    split
    · exact .inr ⟨cur, hcur, ‹_›, rfl⟩
    · exact .inl rfl

end ConfigServer

/-- What another party does to the BrowserConfig. -/
inductive ConfigEnvAct where
  /-- Another client updates the object. -/
  | edit (c : BrowserConfig)
  /-- Another client adds a finalizer. -/
  | addFinalizer (f : String)
  /-- Another client removes a finalizer. -/
  | removeFinalizer (f : String)
  /-- A client deletes the BrowserConfig. -/
  | delete
  /-- Time passes. -/
  | tick (d : Nat)

/-- The server after another party's action. A finalizer is added only to an object not marked
for deletion, and only once. -/
def ConfigServer.envStep (s : ConfigServer) : ConfigEnvAct → ConfigServer
  | .edit c => match s.obj with
    | some cur => s.commit { cur with config := c }
    | none => s
  | .addFinalizer f => match s.obj with
    | some cur =>
      if cur.deletionTimestamp.isNone ∧ f ∉ cur.finalizers then
        s.commit { cur with finalizers := cur.finalizers ++ [f] }
      else s
    | none => s
  | .removeFinalizer f => match s.obj with
    | some cur => s.commit { cur with finalizers := cur.finalizers.filter (· ≠ f) }
    | none => s
  | .delete => match s.obj with
    | some cur =>
      if cur.deletionTimestamp.isNone then s.commit { cur with deletionTimestamp := some s.clock }
      else s
    | none => s
  | .tick d => { s with clock := s.clock + d }

/-- Another party's action leaves the server as it was, commits a new state of the object, or
moves the clock. -/
theorem ConfigServer.envStep_cases (s : ConfigServer) (a : ConfigEnvAct) :
    s.envStep a = s ∨ (∃ x, s.envStep a = s.commit x) ∨
      ∃ d, s.envStep a = { s with clock := s.clock + d } := by
  cases a with
  | tick d => exact .inr (.inr ⟨d, rfl⟩)
  | edit | removeFinalizer =>
    cases hc : s.obj with
    | none => exact .inl (by simp only [envStep, hc])
    | some cur => exact .inr (.inl ⟨_, by rw [envStep, hc]⟩)
  | addFinalizer | delete =>
    cases hc : s.obj with
    | none => exact .inl (by simp only [envStep, hc])
    | some cur =>
      simp only [envStep, hc]
      split
      · exact .inr (.inl ⟨_, rfl⟩)
      · exact .inl rfl

namespace BrowserConfigReconciler

/-- `shortRetry`, in seconds. -/
def shortRetry : Nat := 5

/-- `mediumRetry`, in seconds. -/
def mediumRetry : Nat := 10

/-- What `Reconcile` does once its `Get` has answered: return, or send an `Update` and return
according to its answer. -/
inductive Plan where
  | done (r : ReconcileResult)
  | update (sent : ConfigObject) (onOk : ReconcileResult) (onError : ApiError → ReconcileResult)

/-- `Reconcile`, from the answer of its `Get`: drop the finalizer from a BrowserConfig being
deleted, add it to one that is not. Reference: `controllers/browserconfig`,
`BrowserConfigReconciler.Reconcile`. -/
def reconcile : Except ApiError ConfigObject → Plan
  | .error e => if e = .notFound then .done ({}, none) else .done (⟨mediumRetry⟩, some (.api e))
  | .ok bc =>
    if bc.deletionTimestamp.isSome then
      if browserConfigFinalizer ∈ bc.finalizers then
        .update { bc with finalizers := bc.finalizers.filter (· ≠ browserConfigFinalizer) }
          ({}, none) fun e => (⟨shortRetry⟩, some (.api e))
      else .done ({}, none)
    else if browserConfigFinalizer ∈ bc.finalizers then .done ({}, none)
    else
      .update { bc with finalizers := bc.finalizers ++ [browserConfigFinalizer] }
        ({}, none) fun e => (⟨shortRetry⟩, some (.api e))

/-- The `Update` the reconciler sends changes only the finalizers of the object it read. -/
theorem reconcile_update {r sent : ConfigObject} {onOk : ReconcileResult}
    {onError : ApiError → ReconcileResult} (h : reconcile (.ok r) = .update sent onOk onError) :
    sent = { r with finalizers := sent.finalizers } := by
  simp only [reconcile] at h
  split_ifs at h <;> cases h <;> rfl

end BrowserConfigReconciler

/-! ## Runs -/

/-- The BrowserConfig, and the `Update` of the reconciliation in flight when it has read the
object and has one to send. -/
structure ConfigSys where
  server : ConfigServer
  sending : Option ConfigObject

/-- A step: a reconciliation starts (none being in flight) and its `Get` is answered, the
`Update` in flight is answered, or another party acts. -/
inductive ConfigStep where
  | get (o : Outcome)
  | update (o : Outcome)
  | env (a : ConfigEnvAct)

/-- The system after a step, `none` when the step is not enabled. -/
def ConfigSys.step (s : ConfigSys) : ConfigStep → Option ConfigSys
  | .get o => match s.sending with
    | some _ => none
    | none => match BrowserConfigReconciler.reconcile (s.server.read o) with
      | .done _ => some s
      | .update sent _ _ => some { s with sending := some sent }
  | .update o => match s.sending with
    | some sent => some ⟨(s.server.update o sent).1, none⟩
    | none => none
  | .env a => some { s with server := s.server.envStep a }

/-- A BrowserConfig just created at time `t`: no finalizer, not marked, resource version 0. -/
def ConfigSys.created (c : BrowserConfig) (t : Nat) : ConfigSys :=
  ⟨⟨some ⟨c, [], none, 0⟩, [⟨c, [], none, 0⟩], 1, t⟩, none⟩

/-- The states reachable from a just-created BrowserConfig. -/
inductive ConfigReachable : ConfigSys → Prop where
  | init (c : BrowserConfig) (t : Nat) : ConfigReachable (.created c t)
  | step {s s' : ConfigSys} (st : ConfigStep) : ConfigReachable s → s.step st = some s' →
      ConfigReachable s'

/-! ## Resource versions name versions -/

/-- The server's bookkeeping, and what the reconciliation in flight holds: every committed version
has a resource version below the next one, the versions are newest first with strictly
decreasing resource versions, the stored object is a committed version, and the `Update` in
flight was computed from a committed version. -/
structure ConfigInv (s : ConfigSys) : Prop where
  below : ∀ x ∈ s.server.log, x.resourceVersion < s.server.nextVersion
  ordered : s.server.log.Pairwise (fun x y => y.resourceVersion < x.resourceVersion)
  stored : ∀ cur, s.server.obj = some cur → cur ∈ s.server.log
  sending : ∀ sent, s.sending = some sent → ∃ r ∈ s.server.log, ∃ onOk onError,
    BrowserConfigReconciler.reconcile (.ok r) = .update sent onOk onError

/-- In a log with strictly decreasing resource versions, a resource version names one
version. -/
theorem eq_of_version_of_pairwise {l : List ConfigObject}
    (h : l.Pairwise (fun x y => y.resourceVersion < x.resourceVersion)) {x y : ConfigObject}
    (hx : x ∈ l) (hy : y ∈ l) (hv : x.resourceVersion = y.resourceVersion) : x = y := by
  induction l with
  | nil => cases hx
  | cons a l ih =>
    rw [List.pairwise_cons] at h
    rcases List.mem_cons.1 hx with rfl | hxl <;> rcases List.mem_cons.1 hy with rfl | hyl
    · rfl
    · exact absurd hv (h.1 y hyl).ne'
    · exact absurd hv (h.1 x hxl).ne
    · exact ih h.2 hxl hyl

theorem ConfigInv.eq_of_version {s : ConfigSys} (h : ConfigInv s) {x y : ConfigObject}
    (hx : x ∈ s.server.log) (hy : y ∈ s.server.log) (hv : x.resourceVersion = y.resourceVersion) :
    x = y :=
  eq_of_version_of_pairwise h.ordered hx hy hv

/-- A commit keeps the bookkeeping, and a reconciliation holding a committed version still
does. -/
theorem ConfigInv.commit {s : ConfigSys} (h : ConfigInv s) (x : ConfigObject) :
    ConfigInv { s with server := s.server.commit x } where
  below y hy := by
    rcases List.mem_cons.1 hy with rfl | hy
    · exact Nat.lt_succ_self _
    · exact (h.below y hy).trans (Nat.lt_succ_self _)
  ordered := List.pairwise_cons.2 ⟨fun y hy => h.below y hy, h.ordered⟩
  stored cur hcur := by
    simp only [ConfigServer.commit] at hcur
    split at hcur
    · cases hcur
    · cases hcur; exact List.mem_cons_self _ _
  sending sent hs := by
    obtain ⟨r, hr, hplan⟩ := h.sending sent hs
    exact ⟨r, List.mem_cons_of_mem _ hr, hplan⟩

/-- A `Get` returns a committed version. -/
theorem ConfigInv.read_mem {s : ConfigSys} (h : ConfigInv s) {o : Outcome} {x : ConfigObject}
    (hx : s.server.read o = .ok x) : x ∈ s.server.log := by
  unfold ConfigServer.read at hx
  split at hx
  · cases hx
  · split at hx
    · cases hx; exact List.getElem?_mem ‹_›
    · split at hx
      · cases hx; exact h.stored _ ‹_›
      · cases hx
  · split at hx
    · cases hx; exact h.stored _ ‹_›
    · cases hx

/-- Every step keeps the bookkeeping. -/
theorem ConfigInv.step {s s' : ConfigSys} (h : ConfigInv s) {st : ConfigStep}
    (hs : s.step st = some s') : ConfigInv s' := by
  cases st with
  | get o =>
    simp only [ConfigSys.step] at hs
    split at hs
    · cases hs
    · split at hs
      · cases hs; exact h
      · next sent onOk onError hplan =>
        cases hs
        refine { h with sending := fun sent' hs' => ?_ }
        cases hs'
        -- the plan came from a successful read, of a committed version
        unfold BrowserConfigReconciler.reconcile at hplan
        split at hplan
        · split at hplan <;> cases hplan
        · next x hx => exact ⟨x, h.read_mem hx, onOk, onError, by rw [BrowserConfigReconciler.reconcile]; exact hplan⟩
  | update o =>
    simp only [ConfigSys.step] at hs
    split at hs
    · next sent _ =>
      cases hs
      have h' : ConfigInv { s with sending := none } := { h with sending := fun _ hs' => by cases hs' }
      rcases s.server.update_cases o sent with hu | ⟨cur, -, -, hu⟩ <;> rw [hu]
      · exact h'
      · exact h'.commit _
    · cases hs
  | env a =>
    simp only [ConfigSys.step, Option.some.injEq] at hs
    subst hs
    rcases s.server.envStep_cases a with he | ⟨x, he⟩ | ⟨d, he⟩ <;> rw [he]
    · exact h
    · exact h.commit x
    · exact { h with }

/-- The bookkeeping holds in every reachable state. -/
theorem ConfigReachable.inv {s : ConfigSys} (hs : ConfigReachable s) : ConfigInv s := by
  induction hs with
  | init c t =>
    refine ⟨?_, ?_, ?_, ?_⟩
    · intro x hx; simp only [ConfigSys.created, List.mem_singleton] at hx; subst hx; exact Nat.zero_lt_one
    · exact List.pairwise_singleton _ _
    · intro cur hcur; cases hcur; exact List.mem_singleton_self _
    · intro sent hs; cases hs
  | step st _ hstep ih => exact ih.step hstep

/-! ## The reconciler's updates are atomic -/

/-- In every reachable state, stale reads and failed calls included, the `Update` the reconciler
sends either leaves the server as it was, or commits exactly what a reconciliation that read the
object as it stands would send. -/
theorem reconciler_update_atomic {s s' : ConfigSys} {o : Outcome} (hs : ConfigReachable s)
    (h : s.step (.update o) = some s') :
    s'.server = s.server ∨ ∃ cur sent onOk onError, s.server.obj = some cur ∧
      BrowserConfigReconciler.reconcile (.ok cur) = .update sent onOk onError ∧
      s'.server = s.server.commit sent := by
  have hinv := hs.inv
  simp only [ConfigSys.step] at h
  split at h
  · next sent hsent =>
    cases h
    obtain ⟨r, hr, onOk, onError, hplan⟩ := hinv.sending sent hsent
    rcases s.server.update_cases o sent with hu | ⟨cur, hcur, hv, hu⟩
    · exact .inl hu
    · -- the versions agree, so the object read is the object stored
      have hrv : sent.resourceVersion = r.resourceVersion := by
        rw [BrowserConfigReconciler.reconcile_update hplan]
      obtain rfl : r = cur := hinv.eq_of_version hr (hinv.stored cur hcur) (hrv.symm.trans hv)
      refine .inr ⟨r, sent, onOk, onError, hcur, hplan, ?_⟩
      rw [hu, BrowserConfigReconciler.reconcile_update hplan]
  · cases h

/-- `chromeCatalog` just created, read by a reconciliation that is about to add its finalizer. -/
def catalogAdding : ConfigSys :=
  { ConfigSys.created chromeCatalog 0 with
    sending := some ⟨chromeCatalog, [browserConfigFinalizer], none, 0⟩ }

/-- `catalogAdding` is reachable, and its `Update` either fails or adds the finalizer to the
catalog as it stands. -/
theorem catalog_update_atomic :
    ConfigReachable catalogAdding ∧ ∃ s', catalogAdding.step (.update .ok) = some s' ∧
      (s'.server = catalogAdding.server ∨ ∃ cur sent onOk onError,
        catalogAdding.server.obj = some cur ∧
        BrowserConfigReconciler.reconcile (.ok cur) = .update sent onOk onError ∧
        s'.server = catalogAdding.server.commit sent) :=
  have hs : ConfigReachable catalogAdding := .step (.get .ok) (.init chromeCatalog 0) rfl
  ⟨hs, _, rfl, reconciler_update_atomic hs rfl⟩


/-! ## Left alone, the reconciler settles -/

/-- A BrowserConfig the reconciler has nothing to do for: it holds `browserConfigFinalizer`
exactly while it is not marked for deletion. -/
def ConfigObject.Settled (x : ConfigObject) : Prop :=
  browserConfigFinalizer ∈ x.finalizers ↔ x.deletionTimestamp = none

/-- The stored BrowserConfig, if any, is settled. -/
def ConfigServer.Settled (srv : ConfigServer) : Prop :=
  ∀ cur, srv.obj = some cur → cur.Settled

namespace BrowserConfigReconciler

/-- A reconciliation plans no `Update` exactly when the object it read is settled. -/
theorem reconcile_done_iff {cur : ConfigObject} :
    (∃ r, reconcile (.ok cur) = .done r) ↔ cur.Settled := by
  unfold reconcile ConfigObject.Settled
  cases hd : cur.deletionTimestamp <;> by_cases hf : browserConfigFinalizer ∈ cur.finalizers <;>
    simp [hd, hf]

/-- The `Update` a reconciliation plans settles the object it read. -/
theorem reconcile_update_settled {r sent : ConfigObject} {onOk : ReconcileResult}
    {onError : ApiError → ReconcileResult} (h : reconcile (.ok r) = .update sent onOk onError) :
    { r with finalizers := sent.finalizers }.Settled := by
  simp only [reconcile] at h
  split_ifs at h with hd hf hf <;> cases h <;>
    simp_all [ConfigObject.Settled, Option.isSome_iff_ne_none]

end BrowserConfigReconciler

/-- An `Update` answered `ok` that changes only the finalizers of the stored object commits it. -/
theorem ConfigServer.update_ok_self {s : ConfigServer} {cur : ConfigObject}
    (hcur : s.obj = some cur) (fs : List String) :
    (s.update .ok { cur with finalizers := fs }).1 = s.commit { cur with finalizers := fs } := by
  simp [ConfigServer.update, hcur]

/-- Committing a settled object leaves the server settled, whether it keeps or removes it. -/
theorem ConfigServer.commit_settled (s : ConfigServer) {x : ConfigObject} (h : x.Settled) :
    (s.commit x).Settled := by
  intro cur hcur
  simp only [ConfigServer.commit] at hcur
  split at hcur
  · cases hcur
  · cases hcur; exact h

/-- A whole reconciliation in which every call is answered `ok` and no other party acts: the
`Get`, then the `Update` when one is due. -/
def ConfigSys.reconcileOk (s : ConfigSys) : Option ConfigSys :=
  (s.step (.get .ok)).bind fun s₁ =>
    match s₁.sending with
    | some _ => s₁.step (.update .ok)
    | none => some s₁

/-- With nothing in flight, a reconciliation reads the object as it stands and sends what it
plans. -/
theorem ConfigSys.reconcileOk_eq {s : ConfigSys} (hs : s.sending = none) :
    s.reconcileOk = match BrowserConfigReconciler.reconcile (s.server.read .ok) with
      | .done _ => some s
      | .update sent _ _ => some ⟨(s.server.update .ok sent).1, none⟩ := by
  simp only [reconcileOk, step, hs]
  cases BrowserConfigReconciler.reconcile (s.server.read .ok) <;> simp [hs]

/-- A reconciliation of a settled BrowserConfig changes nothing. -/
theorem ConfigSys.reconcileOk_of_settled {s : ConfigSys} (hs : s.sending = none)
    (h : s.server.Settled) : s.reconcileOk = some s := by
  rw [reconcileOk_eq hs]
  cases hcur : s.server.obj with
  | none => simp [ConfigServer.read, hcur, BrowserConfigReconciler.reconcile]
  | some cur =>
    obtain ⟨r, hr⟩ := BrowserConfigReconciler.reconcile_done_iff.2 (h cur hcur)
    simp only [ConfigServer.read, hcur, hr]

/-- From every state with no reconciliation in flight, one reconciliation in which every call
succeeds settles the BrowserConfig (it holds the finalizer exactly while it is not marked for
deletion, or it is gone), and the next reconciliation changes nothing. -/
theorem ConfigSys.reconcile_settles {s : ConfigSys} (hs : s.sending = none) :
    ∃ s', s.reconcileOk = some s' ∧ s'.server.Settled ∧ s'.reconcileOk = some s' := by
  obtain ⟨s', h, hs', hset⟩ :
      ∃ s', s.reconcileOk = some s' ∧ s'.sending = none ∧ s'.server.Settled := by
    rw [reconcileOk_eq hs]
    cases hcur : s.server.obj with
    | none =>
      refine ⟨s, by simp [ConfigServer.read, hcur, BrowserConfigReconciler.reconcile], hs, ?_⟩
      intro cur h; simp [hcur] at h
    | some cur =>
      simp only [ConfigServer.read, hcur]
      split
      · -- nothing planned: the object read, the stored one, is settled
        next r hplan =>
        refine ⟨s, rfl, hs, fun c hc => ?_⟩
        obtain rfl : c = cur := Option.some.inj (hc.symm.trans hcur)
        exact BrowserConfigReconciler.reconcile_done_iff.1 ⟨r, hplan⟩
      · -- the planned `Update` carries the stored resource version, so it lands
        next sent onOk onError hplan =>
        refine ⟨_, rfl, rfl, ?_⟩
        dsimp only
        rw [BrowserConfigReconciler.reconcile_update hplan, ConfigServer.update_ok_self hcur]
        exact ConfigServer.commit_settled _ (BrowserConfigReconciler.reconcile_update_settled hplan)
  exact ⟨s', h, hset, reconcileOk_of_settled hs' hset⟩

/-- `chromeCatalog` just created: one reconciliation adds the finalizer, and the next changes
nothing. -/
theorem catalog_reconcile_settles :
    (ConfigSys.created chromeCatalog 0).sending = none ∧
      ∃ s', (ConfigSys.created chromeCatalog 0).reconcileOk = some s' ∧ s'.server.Settled ∧
        s'.reconcileOk = some s' :=
  ⟨rfl, ConfigSys.reconcile_settles rfl⟩

end BrowserController
