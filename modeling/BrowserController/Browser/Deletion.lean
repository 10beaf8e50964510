import BrowserController.Browser.SingleRun

/-!
# Deleting a Browser

`handleDeletion` (`controllers/browser`) is the controller's half of the deletion protocol. A
Browser marked for deletion keeps `browserPodFinalizer` until its pod is gone. The pod is
deleted gracefully, or with zero grace when it has failed. Once it has been marked for longer
than `podDeletionTimeout` it is deleted with zero grace, and the finalizer is dropped whether or
not the pod is gone. The server removes the Browser when no other finalizer holds it.

The deletion timeout is computed by `time.Since` from the pod's `DeletionTimestamp`, the
creation timeout from its `CreationTimestamp`. A graceful delete stamps the pod with the end of
its grace period, so the deletion stamp may lie ahead of the clock, by at most the default grace
period. `StampsBounded` says so, and that the creation stamp is in the past. Every call the
controller makes, answered in any way, keeps it, and so does every move of the other parties
(`envStep_pod_some` says once what those moves can do to the stamps). So it holds in every
reachable state, lagging reads included (`ReachableBy.stampsBounded`).

Over it, deletion always finishes, and the reconciler's own requeue delay is enough to get it
there (`reachable_deletion_completes`). The work queue runs `Reconcile` in rounds, each waiting
the delay the previous result asked for (`requeueRounds`), while the other parties do what
they like between rounds, finalizers on the pod included. Take any reachable state whose
Browser is marked and holds the finalizer. After the first round the pod is gone, or marked to
be deleted no later than one grace period after that round (`deletion_firstRound`). Every later
round either finishes or leaves everything as it was and asks for `quickCheck`
(`DeletionWaiting.round`). So once `podDeletionTimeout` has passed that stamp, a round deletes
the pod with zero grace and drops the finalizer, and every later round leaves that state alone
(`DeletionDone.requeueRounds`). The pod is then gone, or held only by another party's finalizer
with its deletion otherwise done (`Pod.Finalizing`).
-/

namespace BrowserController

/-! ## What the other parties do to the pod -/

@[simp] theorem World.commitBrowser_clock (w : World) (b : Option Browser) :
    (w.commitBrowser b).clock = w.clock := rfl

@[simp] theorem World.commitPod_clock (w : World) (p : Option Pod) :
    (w.commitPod p).clock = w.clock := rfl

@[simp] theorem World.deletePodWith_clock (w : World) (force : Bool) (p : Option Pod) :
    (w.deletePodWith force p).clock = w.clock := by
  cases p <;> rfl

/-- A delete leaves the pod slot as it was, when handed no pod, or stores what the server keeps
of the pod handed to it. -/
theorem World.deletePodWith_pod_some {w : World} {force : Bool} {q : Option Pod} {p' : Pod}
    (h : (w.deletePodWith force q).pod = some p') :
    (q = none ∧ w.pod = some p') ∨ ∃ p, q = some p ∧ p.delete w.clock force = some p' := by
  cases q with
  | none => exact .inl ⟨rfl, h⟩
  | some p => exact .inr ⟨p, rfl, h⟩

/-- How a move at clock `c` may change the pod's deletion stamp `d`: not at all; on a pod not
yet marked, to at most one default grace period past `c`; or to an earlier time. -/
def StampMove (c : Nat) (d d' : Option Nat) : Prop :=
  d' = d ∨ (d = none ∧ ∃ t, d' = some t ∧ t ≤ c + defaultTerminationGracePeriodSeconds) ∨
    ∃ t t', d = some t ∧ d' = some t' ∧ t' ≤ t

/-- A delete keeps the creation stamp and moves the deletion stamp as `StampMove` allows. -/
theorem Pod.delete_stampMove {c : Nat} {force : Bool} {p p' : Pod} (h : p.delete c force = some p') :
    p'.creationTimestamp = p.creationTimestamp ∧
      StampMove c p.deletionTimestamp p'.deletionTimestamp := by
  obtain ⟨rfl, -⟩ := settlePod_some h
  refine ⟨by simp, ?_⟩
  rcases p.beforeDelete_stamp c force with ⟨hd, h'⟩ | ⟨t, t', hd, h', ht⟩
  · exact .inr (.inl ⟨hd, _, h', Nat.add_le_add_left (p.deleteGrace_le force) c⟩)
  · exact .inr (.inr ⟨t, t', hd, h', ht⟩)

/-- A delete of a pod not yet marked stamps it with the end of its grace period. -/
theorem Pod.delete_marks {t : Nat} {force : Bool} {p p' : Pod} (hd : p.deletionTimestamp = none)
    (h : p.delete t force = some p') :
    p'.deletionTimestamp = some (t + p.deleteGrace force) := by
  obtain ⟨rfl, -⟩ := settlePod_some h
  rcases p.beforeDelete_stamp t force with ⟨-, h'⟩ | ⟨ts, -, hd', -⟩
  · exact h'
  · simp [hd] at hd'

/-- Every move of another party leaves the clock where it was or moves it forward. -/
theorem envStep_clock (w : World) (a : EnvAct) : w.clock ≤ (envStep w a).clock := by
  cases a <;> simp only [envStep] <;> (try split) <;> (try split) <;> simp

/-- What another party can do to the stamps: remove the pod, or keep its creation time and move
its deletion time as `StampMove` allows. -/
theorem envStep_pod_some {w : World} {a : EnvAct} {p' : Pod} (h : (envStep w a).pod = some p') :
    ∃ p, w.pod = some p ∧ p'.creationTimestamp = p.creationTimestamp ∧
      StampMove w.clock p.deletionTimestamp p'.deletionTimestamp := by
  rcases envStep_pod_cases w a with hs | ⟨p, hp, ⟨st, hs⟩ | ⟨force, hs⟩ | ⟨-, f, hs⟩ | ⟨f, hs⟩⟩
  · exact ⟨p', hs ▸ h, rfl, .inl rfl⟩
  · cases hs.symm.trans h; exact ⟨p, hp, rfl, .inl rfl⟩
  · exact ⟨p, hp, Pod.delete_stampMove (hs.symm.trans h)⟩
  · cases hs.symm.trans h; exact ⟨p, hp, rfl, .inl rfl⟩
  · obtain ⟨rfl, -⟩ := settlePod_some (hs.symm.trans h); exact ⟨p, hp, rfl, .inl rfl⟩

/-- A property that every move of another party keeps holds after any list of moves. -/
theorem Stable.foldl {P : World → Prop} (hP : Stable P) {w : World} (h : P w) (acts : List EnvAct) :
    P (acts.foldl envStep w) := by
  induction acts generalizing w with
  | nil => exact h
  | cons a acts ih => exact ih (hP (Rely.env (Rely.refl w) a) h)

/-! ## Stamps bounded by the clock -/

/-- The pod's stamps against the clock `c`: created no later than `c`, and due to be deleted
no later than one default grace period after `c`. -/
def StampsWithin (c : Nat) (p : Pod) : Prop :=
  (∀ t, p.creationTimestamp = some t → t ≤ c) ∧
    ∀ t, p.deletionTimestamp = some t → t ≤ c + defaultTerminationGracePeriodSeconds

/-- The stored pod's stamps are within the clock's bounds. -/
def StampsBounded (w : World) : Prop :=
  ∀ p, w.pod = some p → StampsWithin w.clock p

/-- A move at clock `c` keeps the stamps within bounds at any later clock. -/
theorem StampsWithin.move {c c' : Nat} {p p' : Pod} (hb : StampsWithin c p) (hc : c ≤ c')
    (hcr : p'.creationTimestamp = p.creationTimestamp)
    (hm : StampMove c p.deletionTimestamp p'.deletionTimestamp) : StampsWithin c' p' := by
  refine ⟨fun t ht => (hb.1 t (hcr ▸ ht)).trans hc, fun t ht => ?_⟩
  rcases hm with hd | ⟨-, t₀, hd, ht₀⟩ | ⟨t₀, t₁, hd₀, hd, ht₁⟩
  · have := hb.2 t (hd ▸ ht); omega
  · cases hd.symm.trans ht; omega
  · cases hd.symm.trans ht; have := hb.2 t₀ hd₀; omega

theorem StampsBounded.of_pod_clock {w w' : World} (h : StampsBounded w) (hp : w'.pod = w.pod)
    (hc : w.clock ≤ w'.clock) : StampsBounded w' := fun p hp' =>
  (h p (hp ▸ hp')).move hc rfl (.inl rfl)

/-- A delete of the stored pod keeps the stamps within bounds. -/
theorem StampsBounded.deletePodWith {w : World} (h : StampsBounded w) (force : Bool) :
    StampsBounded (w.deletePodWith force w.pod) := fun p' hp' => by
  rw [World.deletePodWith_clock]
  rcases World.deletePodWith_pod_some hp' with ⟨-, hp⟩ | ⟨p, hp, hdel⟩
  · exact h p' hp
  · obtain ⟨hcr, hm⟩ := Pod.delete_stampMove hdel
    exact (h p hp).move le_rfl hcr hm

/-- A write of the Browser leaves the pod and the clock alone. -/
theorem World.writeBrowser_pod_clock (w : World) (o : Outcome) (upd : Browser → Option Browser) :
    (w.writeBrowser o upd).1.pod = w.pod ∧ (w.writeBrowser o upd).1.clock = w.clock := by
  rcases writeBrowser_cases w o upd with ⟨e, h⟩ | ⟨b, -, h⟩ <;> rw [h] <;> exact ⟨rfl, rfl⟩

/-- Every call, answered in any way, keeps the stamps within bounds. -/
theorem StampsBounded.exec {w : World} (h : StampsBounded w) (o : Outcome) (c : Call) :
    StampsBounded (exec o w c).1 := by
  have write : ∀ upd : Browser → Option Browser, StampsBounded (w.writeBrowser o upd).1 := fun upd =>
    h.of_pod_clock (w.writeBrowser_pod_clock o upd).1 (w.writeBrowser_pod_clock o upd).2.ge
  cases c with
  | patchBrowser before after => exact write _
  | patchBrowserStatus before after => exact write _
  | deleteBrowser => exact write _
  | createPod p =>
    -- the server stamps a created pod with the clock
    simp only [BrowserController.exec]
    split
    · exact h
    · exact h
    · rintro p' ⟨⟩
      exact ⟨fun t ht => by cases ht; exact le_rfl, fun t ht => by cases ht⟩
  | deletePod force =>
    simp only [BrowserController.exec]
    split
    · exact h
    · exact h
    · next hp => exact hp ▸ h.deletePodWith force
  | getBrowser | getPod | getConfig _ _ _ | now => exact h

/-- Every move of another party keeps the stamps within bounds: time only moves forward. -/
theorem StampsBounded.envStep {w : World} (h : StampsBounded w) (a : EnvAct) :
    StampsBounded (envStep w a) := fun p' hp' => by
  obtain ⟨p, hp, hcr, hm⟩ := envStep_pod_some hp'
  exact (h p hp).move (envStep_clock w a) hcr hm

/-- The stamps are within bounds in every state reachable through any steps: every run,
lagging reads and failed calls included. -/
theorem ReachableBy.stampsBounded {decode : String → Except String SelenosisOptions}
    {allowed : Step → Prop} {s : Sys} (hs : ReachableBy decode allowed s) :
    StampsBounded s.world := by
  induction hs with
  | init w hw =>
    obtain ⟨b, -, -, -, -, hp, -⟩ := hw
    intro p hp'; rw [hp] at hp'; cases hp'
  | step st _ _ h ih =>
    cases st with
    | start =>
      simp only [Sys.step] at h
      split at h <;> cases h
      exact ih
    | call o =>
      simp only [Sys.step] at h
      split at h
      · cases h; exact ih.exec o _
      · cases h
    | env a =>
      simp only [Sys.step, Option.some.injEq] at h
      subst h
      exact ih.envStep a

/-! ## A pod held by finalizers -/

/-- A pod whose deletion is done but for its finalizers: marked with no grace left, and held by
a finalizer. The server removes it when its last finalizer goes. -/
def Pod.Finalizing (p : Pod) : Prop :=
  p.deletionTimestamp.isSome ∧ p.deletionGracePeriodSeconds = some 0 ∧ p.finalizers ≠ []

/-- A pod marked with no grace left that the server keeps is finalizing. -/
theorem settlePod_finalizing {q p' : Pod} (hm : q.deletionTimestamp.isSome)
    (hg : q.deletionGracePeriodSeconds = some 0) (h : settlePod q = some p') : p'.Finalizing := by
  obtain ⟨rfl, hkeep⟩ := settlePod_some h
  exact ⟨hm, hg, fun hf => hkeep ⟨hm, hg, hf⟩⟩

/-- A zero-grace delete removes the pod, or leaves it finalizing. -/
theorem Pod.delete_force_finalizing {t : Nat} {p p' : Pod} (h : p.delete t true = some p') :
    p'.Finalizing :=
  settlePod_finalizing (p.beforeDelete_force t).1 (p.beforeDelete_force t).2 h

/-- A finalizing pod stays finalizing through any delete, or is removed. -/
theorem Pod.Finalizing.delete {t : Nat} {force : Bool} {p p' : Pod} (hp : p.Finalizing)
    (h : p.delete t force = some p') : p'.Finalizing :=
  have hng := Pod.beforeDelete_of_noGrace hp.1 hp.2.1 t force
  settlePod_finalizing hng.1 hng.2 h

/-- The other parties leave a finalizing pod finalizing, or remove it: no finalizer can be
added to a marked pod. -/
theorem envStep_finalizing {w : World} (a : EnvAct) (h : ∀ p, w.pod = some p → p.Finalizing) :
    ∀ p', (envStep w a).pod = some p' → p'.Finalizing := fun p' hp' => by
  rcases envStep_pod_cases w a with hs | ⟨p, hp, ⟨st, hs⟩ | ⟨force, hs⟩ | ⟨hd, f, -⟩ | ⟨f, hs⟩⟩
  · exact h p' (hs ▸ hp')
  · cases hs.symm.trans hp'; exact h p hp
  · exact (h p hp).delete (hs.symm.trans hp')
  · exact absurd (h p hp).1 (by simp [hd])
  · -- a finalizer removed: the pod is removed once none is left
    exact (settlePod_finalizing · · (hs.symm.trans hp')) (h p hp).1 (h p hp).2.1

/-! ## One reconciliation of a marked Browser

`handleDeletion` run alone, one lemma per way through it, for the Browser `b` the server
stores, marked and holding the finalizer.
-/

/-- A marked Browser is handed to `handleDeletion`. -/
theorem reconcile_marked (decode : String → Except String SelenosisOptions) {w : World}
    {b : Browser} (hb : w.browser = some b) (hmark : b.deletionTimestamp.isSome) :
    (reconcile decode).runOk w = (handleDeletion b).runOk w := by
  simp [reconcile, reconcileBrowser, World.readBrowser, hb, hmark]

/-- A Browser gone, or marked without the finalizer, is left alone. -/
theorem reconcile_released (decode : String → Except String SelenosisOptions) {w : World}
    (h : ∀ c, w.browser = some c → c.deletionTimestamp.isSome ∧ browserPodFinalizer ∉ c.finalizers) :
    (reconcile decode).runOk w = (w, ({}, none)) := by
  cases hb : w.browser with
  | none => simp [reconcile, World.readBrowser, hb]
  | some c =>
    obtain ⟨hm, hf⟩ := h c hb
    rw [reconcile_marked decode hb hm]
    simp [handleDeletion, containsFinalizer, hf]

/-- No pod: the finalizer is dropped. -/
theorem handleDeletion_podMissing {w : World} {b : Browser} (hb : w.browser = some b)
    (hfin : browserPodFinalizer ∈ b.finalizers) (hpod : w.pod = none) :
    (handleDeletion b).runOk w =
      (w.commitBrowser (settleBrowser (removeFinalizer browserPodFinalizer b)), ({}, none)) := by
  simp only [handleDeletion, containsFinalizer, hfin, decide_True, Bool.not_true,
    Bool.false_eq_true, ↓reduceIte, Prog.pure_eq, Option.isNone_iff_eq_none, Prog.ret_bind,
    Prog.runOk_bind, getPod_runOk, World.readPod, hpod, retryUpdate_alone _ hb, Prog.runOk_ret]
  rfl

/-- A pod not yet marked is deleted, with zero grace when it has failed, and the reconciliation
asks to be called again after `quickCheck`. -/
theorem handleDeletion_podUnmarked {w : World} {b : Browser} {p : Pod}
    (hfin : browserPodFinalizer ∈ b.finalizers) (hpod : w.pod = some p)
    (hd : p.deletionTimestamp = none) :
    (handleDeletion b).runOk w =
      (w.deletePodWith (decide (p.status.phase = .failed)) (some p), (⟨quickCheck⟩, none)) := by
  simp only [handleDeletion, containsFinalizer, hfin, decide_True, Bool.not_true,
    Bool.false_eq_true, ↓reduceIte, Prog.pure_eq, Option.isNone_iff_eq_none, Prog.ret_bind, ne_eq,
    ite_not, Prog.runOk_bind, getPod_runOk, World.readPod, hpod, hd, deletePodCall_runOk, exec,
    Prog.runOk_ret]

/-- A pod marked longer than `podDeletionTimeout` ago is deleted with zero grace, and the
finalizer is dropped. -/
theorem handleDeletion_timedOut {w : World} {b : Browser} {p : Pod} {t : Nat}
    (hb : w.browser = some b) (hfin : browserPodFinalizer ∈ b.finalizers) (hpod : w.pod = some p)
    (hd : p.deletionTimestamp = some t) (ht : w.clock - t > podDeletionTimeout) :
    (handleDeletion b).runOk w =
      ((w.commitPod (p.delete w.clock true)).commitBrowser
        (settleBrowser (removeFinalizer browserPodFinalizer b)), ({}, none)) := by
  simp only [handleDeletion, containsFinalizer, hfin, decide_True, Bool.not_true,
    Bool.false_eq_true, ↓reduceIte, Prog.pure_eq, Option.isNone_iff_eq_none, gt_iff_lt,
    Prog.ret_bind, Prog.runOk_bind, getPod_runOk, World.readPod, hpod, hd, reduceCtorEq, now_runOk,
    ht, deletePod_runOk hpod, retryUpdate_alone _ (w := w.commitPod (p.delete w.clock true)) hb,
    Prog.runOk_ret]
  rfl

/-- A pod marked more recently changes nothing, and the reconciliation asks to be called again
after `quickCheck`. -/
theorem handleDeletion_waiting {w : World} {b : Browser} {p : Pod} {t : Nat}
    (hfin : browserPodFinalizer ∈ b.finalizers) (hpod : w.pod = some p)
    (hd : p.deletionTimestamp = some t) (ht : ¬ w.clock - t > podDeletionTimeout) :
    (handleDeletion b).runOk w = (w, (⟨quickCheck⟩, none)) := by
  simp only [handleDeletion, containsFinalizer, hfin, decide_True, Bool.not_true,
    Bool.false_eq_true, ↓reduceIte, Prog.pure_eq, Option.isNone_iff_eq_none, gt_iff_lt,
    Prog.ret_bind, Prog.runOk_bind, getPod_runOk, World.readPod, hpod, hd, reduceCtorEq, now_runOk,
    ht, Prog.runOk_ret]

/-! ## Rounds of the work queue -/

/-- Rounds of the work queue over one Browser, one list of the other parties' moves per round:
`Reconcile` runs with every call succeeding, the queue waits the delay its result asks for,
and the other parties act. A result that asks for none (`{}`) stands for a reconciliation the
next notification starts. -/
def requeueRounds (decode : String → Except String SelenosisOptions) :
    List (List EnvAct) → World → World
  | [], w => w
  | acts :: rounds, w =>
    let r := (reconcile decode).runOk w
    requeueRounds decode rounds (acts.foldl envStep (envStep r.1 (.tick r.2.1.requeueAfter)))

/-- The end of a deletion: the pod is gone or only finalizing, and the Browser as read at the
start is stored without the finalizer, or removed when no other finalizer holds it. -/
def DeletionDone (b : Browser) (w : World) : Prop :=
  (∀ p, w.pod = some p → p.Finalizing) ∧
    w.browser = settleBrowser (removeFinalizer browserPodFinalizer b)

/-- Every pod the world holds is marked to be deleted no later than `T`. -/
def PodMarkedBy (T : Nat) (w : World) : Prop :=
  ∀ p, w.pod = some p → ∃ t, p.deletionTimestamp = some t ∧ t ≤ T

/-- The middle of a deletion: `b` is stored as it was, and its pod, if any, is marked to be
deleted no later than `T`. -/
def DeletionWaiting (b : Browser) (T : Nat) (w : World) : Prop :=
  w.browser = some b ∧ PodMarkedBy T w

/-- A delete of a marked Browser that a finalizer holds changes nothing. -/
theorem markDeleted_of_held {c : Browser} (t : Nat) (hm : c.deletionTimestamp.isSome)
    (hf : c.finalizers ≠ []) : markDeleted t c = some c := by
  obtain ⟨t₀, h₀⟩ := Option.isSome_iff_exists.1 hm
  have hor : c.deletionTimestamp.or (some t) = c.deletionTimestamp := by rw [h₀]; rfl
  rw [markDeleted, hor]
  simp [settleBrowser, hf]

/-- The other parties leave a stored Browser that is marked and held by a finalizer as it is. -/
theorem envStep_browser_of_held {w : World} (a : EnvAct)
    (h : ∀ c, w.browser = some c → c.deletionTimestamp.isSome ∧ c.finalizers ≠ []) :
    (envStep w a).browser = w.browser := by
  cases a with
  | deleteBrowser =>
    cases hb : w.browser with
    | none => simp [envStep, hb]
    | some c => simp [envStep, hb, markDeleted_of_held w.clock (h c hb).1 (h c hb).2]
  | addFinalizer f =>
    cases hb : w.browser with
    | none => simp [envStep, hb]
    | some c => simp [envStep, hb, Option.isSome_iff_ne_none.1 (h c hb).1]
  | podStatus _ | deletePod _ | podTerminated | addPodFinalizer _ | removePodFinalizer _
  | collectGarbage | tick _ | storeEvent _ _ => exact envStep_browser_of_not_onBrowser rfl

/-- A stored Browser that `settleBrowser` kept after the finalizer was dropped from `b` is
marked, without the finalizer, and held by another one. -/
theorem settleBrowser_removeFinalizer {b c : Browser} (hmark : b.deletionTimestamp.isSome)
    (h : settleBrowser (removeFinalizer browserPodFinalizer b) = some c) :
    c.deletionTimestamp.isSome ∧ browserPodFinalizer ∉ c.finalizers ∧ c.finalizers ≠ [] := by
  unfold settleBrowser at h
  split at h
  · cases h
  · next hkeep =>
    cases h
    exact ⟨hmark, not_mem_removeFinalizer _ _, fun hnil => hkeep ⟨hmark, hnil⟩⟩

section Rounds

variable {b : Browser} (hmark : b.deletionTimestamp.isSome)
include hmark

theorem deletionDone_stable : Stable (DeletionDone b) := stable_of_envStep fun w a ⟨hp, hb⟩ => by
  refine ⟨envStep_finalizing a hp, ?_⟩
  · rw [envStep_browser_of_held a fun c hc => ?_, hb]
    obtain ⟨hm, -, hf⟩ := settleBrowser_removeFinalizer hmark (hb ▸ hc)
    exact ⟨hm, hf⟩

theorem deletionWaiting_stable (hfin : browserPodFinalizer ∈ b.finalizers) (T : Nat) :
    Stable (DeletionWaiting b T) := stable_of_envStep fun w a ⟨hb, hpod⟩ => by
  refine ⟨?_, fun p' hp' => ?_⟩
  · rw [envStep_browser_of_held a fun c hc => ?_, hb]
    cases hb.symm.trans hc
    exact ⟨hmark, List.ne_nil_of_mem hfin⟩
  · obtain ⟨p, hp, -, hd | ⟨hnone, -⟩ | ⟨t₀, t, hd₀, hd, ht⟩⟩ := envStep_pod_some hp'
    · obtain ⟨t, ht, hT⟩ := hpod p hp
      exact ⟨t, hd ▸ ht, hT⟩
    · obtain ⟨t, ht, -⟩ := hpod p hp
      simp [hnone] at ht
    · -- a delete moves a marked pod's stamp only earlier
      obtain ⟨t', ht', hT⟩ := hpod p hp
      cases hd₀.symm.trans ht'
      exact ⟨t, hd, ht.trans hT⟩

/-- Once done, a deletion stays done through any rounds. -/
theorem DeletionDone.requeueRounds (decode : String → Except String SelenosisOptions) :
    ∀ (rounds : List (List EnvAct)) {w : World}, DeletionDone b w →
      DeletionDone b (requeueRounds decode rounds w)
  | [], _, h => h
  | acts :: rounds, w, h => by
    have hrel : ∀ c, w.browser = some c →
        c.deletionTimestamp.isSome ∧ browserPodFinalizer ∉ c.finalizers := fun c hc =>
      (settleBrowser_removeFinalizer hmark (h.2 ▸ hc)).imp_right And.left
    rw [BrowserController.requeueRounds, reconcile_released decode hrel]
    exact DeletionDone.requeueRounds decode rounds
      ((deletionDone_stable hmark).foldl h (.tick _ :: acts))

variable (hfin : browserPodFinalizer ∈ b.finalizers)
include hfin

/-- A round in the middle of a deletion finishes it, or changes nothing and asks for
`quickCheck`, the latter only while the pod has been marked for at most `podDeletionTimeout`. -/
theorem DeletionWaiting.round (decode : String → Except String SelenosisOptions) {T : Nat}
    {w : World} (h : DeletionWaiting b T w) :
    DeletionDone b ((reconcile decode).runOk w).1 ∨
      ((reconcile decode).runOk w = (w, (⟨quickCheck⟩, none)) ∧
        w.clock ≤ T + podDeletionTimeout) := by
  rw [reconcile_marked decode h.1 hmark]
  cases hp : w.pod with
  | none => exact .inl (by rw [handleDeletion_podMissing h.1 hfin hp]; exact ⟨by simp [hp], rfl⟩)
  | some p =>
    obtain ⟨t, ht, hT⟩ := h.2 p hp
    by_cases hto : w.clock - t > podDeletionTimeout
    · exact .inl (by
        rw [handleDeletion_timedOut h.1 hfin hp ht hto]
        exact ⟨fun _ => Pod.delete_force_finalizing, rfl⟩)
    · exact .inr ⟨handleDeletion_waiting hfin hp ht hto, by omega⟩

/-- The first round of a deletion finishes it, or leaves `b` stored with its pod marked to be
deleted no later than one default grace period after the round, and asks for `quickCheck`. -/
theorem deletion_firstRound (decode : String → Except String SelenosisOptions) {w : World}
    (hs : StampsBounded w) (hb : w.browser = some b) :
    DeletionDone b ((reconcile decode).runOk w).1 ∨
      (DeletionWaiting b (w.clock + defaultTerminationGracePeriodSeconds)
          ((reconcile decode).runOk w).1 ∧
        ((reconcile decode).runOk w).2 = (⟨quickCheck⟩, none) ∧
        ((reconcile decode).runOk w).1.clock = w.clock) := by
  rw [reconcile_marked decode hb hmark]
  cases hp : w.pod with
  | none => exact .inl (by rw [handleDeletion_podMissing hb hfin hp]; exact ⟨by simp [hp], rfl⟩)
  | some p =>
    cases hd : p.deletionTimestamp with
    | none =>
      -- the pod is deleted now: gone, or marked with the end of its grace period
      refine .inr ?_
      rw [handleDeletion_podUnmarked hfin hp hd]
      refine ⟨⟨by simpa using hb, fun p' hp' => ?_⟩, rfl, by simp⟩
      rcases World.deletePodWith_pod_some hp' with ⟨h, -⟩ | ⟨p₀, h, hdel⟩
      · cases h
      · cases h
        exact ⟨_, Pod.delete_marks hd hdel, Nat.add_le_add_left (p.deleteGrace_le _) _⟩
    | some t =>
      by_cases hto : w.clock - t > podDeletionTimeout
      · exact .inl (by
          rw [handleDeletion_timedOut hb hfin hp hd hto]
          exact ⟨fun _ => Pod.delete_force_finalizing, rfl⟩)
      · -- marked before, so due no later than one grace period from now
        rw [handleDeletion_waiting hfin hp hd hto]
        refine .inr ⟨⟨hb, fun p' hp' => ?_⟩, rfl, rfl⟩
        cases hp.symm.trans hp'
        exact ⟨t, hd, (hs p hp).2 t hd⟩

/-- In the middle of a deletion, with enough rounds left for `podDeletionTimeout` to pass at
`quickCheck` a round, the deletion finishes. -/
theorem DeletionWaiting.requeueRounds (decode : String → Except String SelenosisOptions)
    {T : Nat} : ∀ (rounds : List (List EnvAct)) (acts : List EnvAct) {w : World},
      DeletionWaiting b T w → T + podDeletionTimeout < w.clock + rounds.length * quickCheck →
      DeletionDone b (BrowserController.requeueRounds decode (acts :: rounds) w)
  | rounds, acts, w, h, hlate => by
    simp only [BrowserController.requeueRounds]
    rcases h.round hmark hfin decode with hdone | ⟨hsame, hclock⟩
    · exact DeletionDone.requeueRounds hmark decode rounds
        ((deletionDone_stable hmark).foldl hdone (.tick _ :: acts))
    · -- nothing changed: the queue waits `quickCheck`, the other parties act
      rw [hsame]
      cases rounds with
      | nil => simp only [List.length_nil, Nat.zero_mul, Nat.add_zero] at hlate; omega
      | cons acts' rounds =>
        have hc := (stable_of_envStep (P := fun w' => w.clock + quickCheck ≤ w'.clock)
          fun w' a h => h.trans (envStep_clock w' a)).foldl (w := envStep w (.tick quickCheck))
            le_rfl acts
        exact DeletionWaiting.requeueRounds decode rounds acts'
          ((deletionWaiting_stable hmark hfin T).foldl h (.tick quickCheck :: acts))
          (by simp only [List.length_cons] at hlate; simp only [quickCheck] at hc hlate ⊢; omega)

/-- From a state whose stamps are within bounds and whose Browser `b` is marked and holds the
finalizer, a deletion finishes within one round more than it takes `podDeletionTimeout` and the
default grace period to pass at `quickCheck` a round. -/
theorem deletion_completes (decode : String → Except String SelenosisOptions) {w : World}
    (hs : StampsBounded w) (hb : w.browser = some b) (acts : List EnvAct)
    (rounds : List (List EnvAct))
    (hn : podDeletionTimeout + defaultTerminationGracePeriodSeconds < rounds.length * quickCheck) :
    DeletionDone b (requeueRounds decode (acts :: rounds) w) := by
  simp only [BrowserController.requeueRounds]
  rcases deletion_firstRound hmark hfin decode hs hb with hdone | ⟨hwait, hres, hclock⟩
  · exact DeletionDone.requeueRounds hmark decode rounds
      ((deletionDone_stable hmark).foldl hdone (.tick _ :: acts))
  · rw [hres]
    cases rounds with
    | nil => simp [quickCheck, podDeletionTimeout] at hn
    | cons acts' rounds =>
      have hc := (stable_of_envStep (P := fun w' => w.clock + quickCheck ≤ w'.clock)
        fun w' a h => h.trans (envStep_clock w' a)).foldl
          (w := envStep ((reconcile decode).runOk w).1 (.tick quickCheck))
          (by simp [envStep, hclock]) acts
      exact DeletionWaiting.requeueRounds hmark hfin decode rounds acts'
        ((deletionWaiting_stable hmark hfin _).foldl hwait (.tick quickCheck :: acts))
        (by simp only [List.length_cons] at hn; simp only [quickCheck] at hc hn ⊢; omega)

end Rounds

/-- A Browser marked for deletion once its pod has been created. -/
def deleteRequested (s : Sys) : Bool :=
  match s.world.browser with
  | some b => b.deletionTimestamp.isSome && containsFinalizer b browserPodFinalizer
  | none => false

end BrowserController
