import BrowserController.Api.Prog
import BrowserController.Store.Events

/-!
# The API server, the other parties, and runs

The state a reconciliation acts on (`World`): the stored Browser and pod, the process's
configuration store, the clock, and two histories, the committed versions of each object
(which a lagging informer cache may still return) and what has happened so far (pod creates,
whether the Browser ever carried the finalizer).

`exec` answers one call. A patch is a JSON merge patch computed by `client.MergeFrom`: the
fields the update changed, replaced in the object the server stores when the patch arrives
(`mergePatchMeta`, `mergePatchStatus`). No resource version is sent, so the server never
reports a conflict. An object marked for deletion whose last finalizer goes is removed
(`settleBrowser`, `settlePod`). A pod delete follows the server's grace periods
(`Pod.delete`).

Other parties act between any two calls (`EnvAct`): the kubelet reports pod status and finishes
graceful deletions, clients delete the pod or the Browser and add or remove finalizers, the
garbage collector deletes a pod whose owner is gone, time passes, and the catalog informer
delivers notifications to the store. `Prog.runOk` runs a program alone with every call answered `ok`;
`Prog.runWith` interleaves its calls with a schedule of other parties' actions.
-/

namespace BrowserController

/-- The API server's objects for one Browser, the configuration store, the clock and the
histories. -/
structure World where
  browser : Option Browser
  pod : Option Pod
  clock : Nat
  store : BrowserConfigStore
  /-- Every committed version of the Browser, newest first. -/
  browserLog : List Browser
  /-- Every committed state of the pod slot, newest first. -/
  podLog : List (Option Pod)
  /-- Successful pod creates so far. -/
  podCreates : Nat
  /-- Whether a committed version of the Browser carried `browserPodFinalizer`. -/
  finalized : Bool

/-- How the server answers one call: as it stands, from the `i`-th newest committed version (a
lagging cache; only reads heed it), or with an error and no effect. -/
inductive Outcome where
  | ok
  | stale (i : Nat)
  | fail (e : ApiError)

/-! ## Objects -/

/-- One field of a JSON merge patch: replaced by `after`'s value when the update changed it. -/
def patchField {α : Type} [DecidableEq α] (before after base : α) : α :=
  if before = after then base else after

/-- A merge patch of the Browser's metadata applied to the stored `base`: labels and annotations
key by key, finalizers as one list. The status belongs to the status subresource. -/
def mergePatchMeta (before after base : Browser) : Browser :=
  { base with
    labels := fun k => patchField (before.labels k) (after.labels k) (base.labels k)
    annotations := fun k => patchField (before.annotations k) (after.annotations k) (base.annotations k)
    finalizers := patchField before.finalizers after.finalizers base.finalizers }

/-- A merge patch of the status subresource applied to the stored `base`, field by field; the
container statuses are one atomic list. -/
def mergePatchStatus (before after base : Browser) : Browser :=
  { base with status :=
    { podIP := patchField before.status.podIP after.status.podIP base.status.podIP
      phase := patchField before.status.phase after.status.phase base.status.phase
      message := patchField before.status.message after.status.message base.status.message
      reason := patchField before.status.reason after.status.reason base.status.reason
      startTime := patchField before.status.startTime after.status.startTime base.status.startTime
      containerStatuses := patchField before.status.containerStatuses
        after.status.containerStatuses base.status.containerStatuses } }

/-- The server storing a Browser: marked for deletion with no finalizer left, it is removed. -/
def settleBrowser (b : Browser) : Option Browser :=
  if b.deletionTimestamp.isSome ∧ b.finalizers = [] then none else some b

/-- A field the update left alone keeps the stored value. -/
@[simp] theorem patchField_same {α : Type} [DecidableEq α] (a base : α) :
    patchField a a base = base := if_pos rfl

/-- A patch computed from the stored value itself writes the update's value. -/
@[simp] theorem patchField_base {α : Type} [DecidableEq α] (a b : α) : patchField a b a = b := by
  unfold patchField; split <;> simp_all

@[simp] theorem mergePatchMeta_status (before after base : Browser) :
    (mergePatchMeta before after base).status = base.status := rfl

@[simp] theorem mergePatchMeta_finalizers (before after base : Browser) :
    (mergePatchMeta before after base).finalizers =
      patchField before.finalizers after.finalizers base.finalizers := rfl

@[simp] theorem mergePatchStatus_finalizers (before after base : Browser) :
    (mergePatchStatus before after base).finalizers = base.finalizers := rfl

/-- A status patch sent against the status the server still stores writes the update's
status. -/
theorem mergePatchStatus_status {before after base : Browser} (h : base.status = before.status) :
    (mergePatchStatus before after base).status = after.status := by
  simp only [mergePatchStatus, h, patchField_base]

/-- The server keeps what it stores unchanged, or removes it when it has no finalizer left. -/
theorem settleBrowser_cases (b : Browser) :
    (settleBrowser b = none ∧ b.finalizers = []) ∨ settleBrowser b = some b := by
  unfold settleBrowser; split <;> simp_all

/-- The server keeps a Browser that is not marked for deletion. -/
theorem settleBrowser_of_not_marked {b : Browser} (h : b.deletionTimestamp = none) :
    settleBrowser b = some b := by
  simp [settleBrowser, h]

/-- A delete of the Browser at time `t`: marked, and removed if no finalizer holds it. -/
def markDeleted (t : Nat) (b : Browser) : Option Browser :=
  settleBrowser { b with deletionTimestamp := b.deletionTimestamp.or (some t) }

/-- A delete keeps the status and the finalizers, or removes a Browser that has none. -/
theorem markDeleted_cases (t : Nat) (b : Browser) :
    (markDeleted t b = none ∧ b.finalizers = []) ∨
      ∃ b', markDeleted t b = some b' ∧ b'.status = b.status ∧ b'.finalizers = b.finalizers := by
  rcases settleBrowser_cases { b with deletionTimestamp := b.deletionTimestamp.or (some t) } with
    h | h
  · exact .inl h
  · exact .inr ⟨_, h, rfl, rfl⟩

/-- A Browser a delete keeps is marked, and holds the finalizers it held. -/
theorem markDeleted_marks {t : Nat} {c b' : Browser} (h : markDeleted t c = some b') :
    b'.deletionTimestamp.isSome ∧ b'.finalizers = c.finalizers := by
  unfold markDeleted settleBrowser at h
  split at h
  · cases h
  · cases h; simp

/-! ## Deleting a pod

The server's half of a pod delete, which the controller and the other parties make with zero
grace or with no grace period given. `BeforeDelete` records the deletion. A pod not yet marked
is stamped with the end of the grace period the pod strategy settles (`CheckGracefulDelete`):
zero for a zero-grace request and for a pod that has terminated, else the pod's default. A
marked one with grace left is re-stamped only by a shorter grace period, so by a zero-grace
delete, counted from the first request; a graceful delete leaves it pending. One with no grace
left is marked as deleting now, never later than its stamp (`markAsDeleting`). A pod with no
grace left is removed unless a finalizer holds it (`updateForGracefulDeletionAndFinalizers`),
and so is one whose last finalizer goes then (`shouldDeleteDuringUpdate`). The kubelet ends a
graceful deletion with a zero-grace delete of its own. The model does not track node
assignment, so it does not give an unscheduled pod zero grace; the kubelet may end any graceful
deletion at once instead.
-/

/-- The grace period the server gives a delete of `p` (the pod strategy's
`CheckGracefulDelete`): zero for a zero-grace request and for a pod that has terminated, else
the pod's default. -/
def Pod.deleteGrace (force : Bool) (p : Pod) : Nat :=
  if force = true ∨ p.status.phase = .failed ∨ p.status.phase = .succeeded then 0
  else defaultTerminationGracePeriodSeconds

/-- The deletion `BeforeDelete` records for a delete at time `t`, with zero grace (`force`) or
with no grace period given. -/
def Pod.beforeDelete (t : Nat) (force : Bool) (p : Pod) : Pod :=
  match p.deletionTimestamp, p.deletionGracePeriodSeconds with
  | none, _ =>
    { p with deletionTimestamp := some (t + p.deleteGrace force),
             deletionGracePeriodSeconds := some (p.deleteGrace force) }
  | some ts, some (g + 1) =>
    -- a zero-grace delete ends the grace period, counted from the first request; a graceful
    -- one leaves it pending
    if force then
      { p with deletionTimestamp := some (ts - (g + 1)), deletionGracePeriodSeconds := some 0 }
    else p
  | some ts, _ =>
    -- no grace left: `markAsDeleting`
    { p with deletionTimestamp := some (min ts t), deletionGracePeriodSeconds := some 0 }

/-- The server storing a pod: marked with no grace left and no finalizer, it is removed. -/
def settlePod (p : Pod) : Option Pod :=
  if p.deletionTimestamp.isSome ∧ p.deletionGracePeriodSeconds = some 0 ∧ p.finalizers = [] then
    none
  else some p

/-- What the server stores after a delete of `p` at time `t`, with zero grace (`force`) or with
no grace period given. -/
def Pod.delete (t : Nat) (force : Bool) (p : Pod) : Option Pod :=
  settlePod (p.beforeDelete t force)

@[simp] theorem Pod.deleteGrace_true (p : Pod) : p.deleteGrace true = 0 := by
  simp [Pod.deleteGrace]

theorem Pod.deleteGrace_le (force : Bool) (p : Pod) :
    p.deleteGrace force ≤ defaultTerminationGracePeriodSeconds := by
  unfold Pod.deleteGrace; split <;> omega

@[simp] theorem Pod.beforeDelete_creationTimestamp (t : Nat) (force : Bool) (p : Pod) :
    (p.beforeDelete t force).creationTimestamp = p.creationTimestamp := by
  unfold Pod.beforeDelete; split <;> (try split) <;> rfl

@[simp] theorem Pod.beforeDelete_finalizers (t : Nat) (force : Bool) (p : Pod) :
    (p.beforeDelete t force).finalizers = p.finalizers := by
  unfold Pod.beforeDelete; split <;> (try split) <;> rfl

/-- A pod the server keeps is the one handed to it, and not finished: not marked, with grace
left, or held by a finalizer. -/
theorem settlePod_some {p p' : Pod} (h : settlePod p = some p') :
    p' = p ∧
      ¬(p.deletionTimestamp.isSome ∧ p.deletionGracePeriodSeconds = some 0 ∧ p.finalizers = []) := by
  unfold settlePod at h
  split at h
  · cases h
  · exact ⟨(Option.some.inj h).symm, ‹_›⟩

/-- `BeforeDelete` stamps a pod not yet marked with the end of its grace period, and never moves
the stamp of a marked one later. -/
theorem Pod.beforeDelete_stamp (t : Nat) (force : Bool) (p : Pod) :
    (p.deletionTimestamp = none ∧
        (p.beforeDelete t force).deletionTimestamp = some (t + p.deleteGrace force)) ∨
      ∃ ts ts', p.deletionTimestamp = some ts ∧
        (p.beforeDelete t force).deletionTimestamp = some ts' ∧ ts' ≤ ts := by
  unfold Pod.beforeDelete
  split
  · exact .inl ⟨‹_›, rfl⟩
  · next _ _ ts g hd _ =>
    split
    · exact .inr ⟨ts, _, hd, rfl, Nat.sub_le _ _⟩
    · exact .inr ⟨ts, ts, hd, hd, le_rfl⟩
  · next _ _ ts hd _ => exact .inr ⟨ts, _, hd, rfl, Nat.min_le_left _ _⟩

/-- After a zero-grace delete the pod is marked with no grace left. -/
theorem Pod.beforeDelete_force (t : Nat) (p : Pod) :
    (p.beforeDelete t true).deletionTimestamp.isSome ∧
      (p.beforeDelete t true).deletionGracePeriodSeconds = some 0 := by
  unfold Pod.beforeDelete; split <;> simp

/-- A marked pod with no grace left keeps none through any delete. -/
theorem Pod.beforeDelete_of_noGrace {p : Pod} (hm : p.deletionTimestamp.isSome)
    (hg : p.deletionGracePeriodSeconds = some 0) (t : Nat) (force : Bool) :
    (p.beforeDelete t force).deletionTimestamp.isSome ∧
      (p.beforeDelete t force).deletionGracePeriodSeconds = some 0 := by
  unfold Pod.beforeDelete; split <;> simp_all

/-! ## Committing -/

namespace World

/-- Store a new state of the Browser. -/
def commitBrowser (w : World) (b : Option Browser) : World :=
  { w with
    browser := b
    browserLog := match b with
      | some v => v :: w.browserLog
      | none => w.browserLog
    finalized := w.finalized || b.any (browserPodFinalizer ∈ ·.finalizers) }

/-- Store a new state of the pod slot. -/
def commitPod (w : World) (p : Option Pod) : World :=
  { w with pod := p, podLog := p :: w.podLog }

/-- A delete of the pod handed to it; `force`: with zero grace. -/
def deletePodWith (w : World) (force : Bool) : Option Pod → World
  | none => w
  | some p => w.commitPod (p.delete w.clock force)

/-- The Browser a read returns. -/
def readBrowser (w : World) : Outcome → Except ApiError Browser
  | .fail e => .error e
  | .stale i =>
    match w.browserLog[i]? with
    | some b => .ok b
    | none => match w.browser with
      | some b => .ok b
      | none => .error .notFound
  | .ok => match w.browser with
    | some b => .ok b
    | none => .error .notFound

/-- The pod a read returns. -/
def readPod (w : World) : Outcome → Except ApiError Pod
  | .fail e => .error e
  | .stale i =>
    match (w.podLog[i]?).getD w.pod with
    | some p => .ok p
    | none => .error .notFound
  | .ok => match w.pod with
    | some p => .ok p
    | none => .error .notFound

/-- A write of the stored Browser by `f`. -/
def writeBrowser (w : World) (o : Outcome) (f : Browser → Option Browser) :
    World × Except ApiError Unit :=
  match o, w.browser with
  | .fail e, _ => (w, .error e)
  | _, none => (w, .error .notFound)
  | _, some b => (w.commitBrowser (f b), .ok ())

/-- The pod the server stores for a create: timestamped, Pending, not marked. -/
def created (w : World) (p : Pod) : Pod :=
  { p with creationTimestamp := some w.clock, deletionTimestamp := none,
           deletionGracePeriodSeconds := none, status := { phase := .pending } }

@[simp] theorem commitBrowser_browser (w : World) (b : Option Browser) :
    (w.commitBrowser b).browser = b := rfl

@[simp] theorem commitBrowser_podCreates (w : World) (b : Option Browser) :
    (w.commitBrowser b).podCreates = w.podCreates := rfl

@[simp] theorem commitBrowser_pod (w : World) (b : Option Browser) :
    (w.commitBrowser b).pod = w.pod := rfl

@[simp] theorem commitPod_pod (w : World) (p : Option Pod) : (w.commitPod p).pod = p := rfl

@[simp] theorem commitPod_browser (w : World) (p : Option Pod) :
    (w.commitPod p).browser = w.browser := rfl

@[simp] theorem commitPod_podCreates (w : World) (p : Option Pod) :
    (w.commitPod p).podCreates = w.podCreates := rfl

@[simp] theorem deletePodWith_browser (w : World) (force : Bool) (p : Option Pod) :
    (w.deletePodWith force p).browser = w.browser := by
  cases p <;> rfl

@[simp] theorem deletePodWith_podCreates (w : World) (force : Bool) (p : Option Pod) :
    (w.deletePodWith force p).podCreates = w.podCreates := by
  cases p <;> rfl

end World

/-- The server's answer to a call, and its new state. -/
def exec (o : Outcome) (w : World) : (c : Call) → World × c.Resp
  | .getBrowser => (w, w.readBrowser o)
  | .getPod => (w, w.readPod o)
  | .patchBrowser before after => w.writeBrowser o fun b => settleBrowser (mergePatchMeta before after b)
  | .patchBrowserStatus before after => w.writeBrowser o fun b => some (mergePatchStatus before after b)
  | .deleteBrowser => w.writeBrowser o (markDeleted w.clock)
  | .createPod p =>
    match o, w.pod with
    | .fail e, _ => (w, .error e)
    | _, some _ => (w, .error .alreadyExists)
    | _, none => ({ w.commitPod (some (w.created p)) with podCreates := w.podCreates + 1 }, .ok ())
  | .deletePod force =>
    match o, w.pod with
    | .fail e, _ => (w, .error e)
    | _, none => (w, .error .notFound)
    | _, some p => (w.deletePodWith force (some p), .ok ())
  | .getConfig ns browserName version => (w, w.store.get ns browserName version)
  | .now => (w, w.clock)

/-! ## Other parties -/

/-- What another party does between two calls. -/
inductive EnvAct where
  /-- The kubelet reports the pod's status. -/
  | podStatus (st : PodStatus)
  /-- Another client deletes the pod. -/
  | deletePod (force : Bool)
  /-- The kubelet finishes a graceful deletion. -/
  | podTerminated
  /-- The owning client deletes the Browser. -/
  | deleteBrowser
  /-- Another client adds a finalizer to the Browser. -/
  | addFinalizer (f : String)
  /-- Another client adds a finalizer to the pod. -/
  | addPodFinalizer (f : String)
  /-- A client removes a finalizer from the pod. -/
  | removePodFinalizer (f : String)
  /-- The garbage collector deletes a pod whose owner is gone. -/
  | collectGarbage
  /-- Time passes. -/
  | tick (d : Nat)
  /-- The catalog informer delivers a notification to the store. -/
  | storeEvent (e : Event) (it : MapIter)

/-- The world after another party's action. -/
def envStep (w : World) : EnvAct → World
  | .podStatus st => match w.pod with
    | some p => w.commitPod (some { p with status := st })
    | none => w
  | .deletePod force => w.deletePodWith force w.pod
  | .podTerminated => match w.pod with
    | some p => if p.deletionTimestamp.isSome then w.commitPod (p.delete w.clock true) else w
    | none => w
  | .deleteBrowser => match w.browser with
    | some b => w.commitBrowser (markDeleted w.clock b)
    | none => w
  | .addFinalizer f => match w.browser with
    | some b => if b.deletionTimestamp.isNone then w.commitBrowser (some (addFinalizer f b)) else w
    | none => w
  | .addPodFinalizer f => match w.pod with
    | some p =>
      -- no finalizer may be added to an object being deleted
      if p.deletionTimestamp.isNone then w.commitPod (some { p with finalizers := p.finalizers ++ [f] })
      else w
    | none => w
  | .removePodFinalizer f => match w.pod with
    | some p => w.commitPod (settlePod { p with finalizers := p.finalizers.filter (· ≠ f) })
    | none => w
  | .collectGarbage => match w.browser, w.pod with
    | none, some p => w.commitPod (p.delete w.clock false)
    | _, _ => w
  | .tick d => { w with clock := w.clock + d }
  | .storeEvent e it => { w with store := w.store.handle it e }

/-- Whether another party's move acts on the Browser. -/
def EnvAct.onBrowser : EnvAct → Bool
  | .deleteBrowser | .addFinalizer _ => true
  | _ => false

/-- A move that does not act on the Browser leaves it as it is. -/
theorem envStep_browser_of_not_onBrowser {w : World} {a : EnvAct} (h : a.onBrowser = false) :
    (envStep w a).browser = w.browser := by
  cases a <;> simp only [EnvAct.onBrowser, Bool.true_eq_false] at h <;> simp only [envStep] <;>
    (try split) <;> (try split) <;> simp

/-- What another party's move can do to the pod: nothing; replace its status; delete it; add a
finalizer to it while it is not marked; or remove a finalizer from it. -/
theorem envStep_pod_cases (w : World) (a : EnvAct) :
    (envStep w a).pod = w.pod ∨ ∃ p, w.pod = some p ∧
      ((∃ st, (envStep w a).pod = some { p with status := st }) ∨
       (∃ force, (envStep w a).pod = p.delete w.clock force) ∨
       (p.deletionTimestamp = none ∧
         ∃ f, (envStep w a).pod = some { p with finalizers := p.finalizers ++ [f] }) ∨
       ∃ f, (envStep w a).pod = settlePod { p with finalizers := p.finalizers.filter (· ≠ f) }) := by
  cases hp : w.pod with
  | none =>
    refine .inl ?_
    cases a <;> simp only [envStep, hp] <;> (try split) <;> (try split) <;>
      simp_all [World.deletePodWith]
  | some p =>
    cases a with
    | podStatus st => exact .inr ⟨p, rfl, .inl ⟨st, by simp [envStep, hp]⟩⟩
    | deletePod force =>
      exact .inr ⟨p, rfl, .inr (.inl ⟨force, by simp [envStep, hp, World.deletePodWith]⟩)⟩
    | podTerminated =>
      by_cases hm : p.deletionTimestamp.isSome
      · exact .inr ⟨p, rfl, .inr (.inl ⟨true, by simp [envStep, hp, hm]⟩)⟩
      · exact .inl (by simp [envStep, hp, hm])
    | addPodFinalizer f =>
      by_cases hm : p.deletionTimestamp = none
      · exact .inr ⟨p, rfl, .inr (.inr (.inl ⟨hm, f, by simp [envStep, hp, hm]⟩))⟩
      · exact .inl (by simp [envStep, hp, hm])
    | removePodFinalizer f => exact .inr ⟨p, rfl, .inr (.inr (.inr ⟨f, by simp [envStep, hp]⟩))⟩
    | collectGarbage =>
      cases hb : w.browser with
      | none => exact .inr ⟨p, rfl, .inr (.inl ⟨false, by simp [envStep, hp, hb]⟩)⟩
      | some b => exact .inl (by simp [envStep, hp, hb])
    | deleteBrowser | addFinalizer _ =>
      exact .inl (by simp only [envStep]; split <;> (try split) <;> simp [hp])
    | tick _ | storeEvent _ _ => exact .inl hp

/-! ## Runs of one program -/

/-- A program run to its end with every call answered `ok` and no other party acting. -/
def Prog.runOk {α : Type} : Prog α → World → World × α
  | .ret a, w => (w, a)
  | .call c k, w => (k (exec .ok w c).2).runOk (exec .ok w c).1

@[simp] theorem Prog.runOk_ret {α : Type} (a : α) (w : World) : (Prog.ret a).runOk w = (w, a) :=
  rfl

@[simp] theorem Prog.runOk_bind {α β : Type} (p : Prog α) (f : α → Prog β) (w : World) :
    (p >>= f).runOk w = (f (p.runOk w).2).runOk (p.runOk w).1 := by
  induction p generalizing w with
  | ret a => rfl
  | call c k ih => exact ih _ _

@[simp] theorem getBrowser_runOk (w : World) : getBrowser.runOk w = (w, w.readBrowser .ok) := rfl

@[simp] theorem getPod_runOk (w : World) : getPod.runOk w = (w, w.readPod .ok) := rfl

@[simp] theorem deletePodCall_runOk (force : Bool) (w : World) :
    (deletePodCall force).runOk w = exec .ok w (.deletePod force) := rfl

@[simp] theorem deleteBrowserCall_runOk (w : World) :
    deleteBrowserCall.runOk w = w.writeBrowser .ok (markDeleted w.clock) := rfl

@[simp] theorem getConfig_runOk (ns browserName version : String) (w : World) :
    (getConfig ns browserName version).runOk w = (w, w.store.get ns browserName version) := rfl

@[simp] theorem createPodCall_runOk (p : Pod) (w : World) :
    (createPodCall p).runOk w = exec .ok w (.createPod p) := rfl

@[simp] theorem now_runOk (w : World) : now.runOk w = (w, w.clock) := rfl

/-- A program run against a schedule: before each call, the other parties' actions of the
schedule's next entry, then the call answered by the entry's outcome; `none` when the schedule
runs out before the program ends. -/
def Prog.runWith {α : Type} : Prog α → List (List EnvAct × Outcome) → World → Option (World × α)
  | .ret a, _, w => some (w, a)
  | .call _ _, [], _ => none
  | .call c k, (acts, o) :: rest, w =>
    let w₁ := acts.foldl envStep w
    (k (exec o w₁ c).2).runWith rest (exec o w₁ c).1

end BrowserController
