import Mathlib.Tactic.LiftLets
import BrowserController.Browser.Reconcile

/-!
# What the reconciler's decisions rest on

`Reconcile` (`controllers/browser`) deletes pods, deletes the Browser, creates pods, marks the
Browser Failed, which ends its life, and decides whether to be called again. This module proves
that it takes each of these decisions only on the grounds of what it has read in the same
reconciliation, along every path of the program, whatever the answers are: fresh, lagging or
failed. So no interleaving with other parties and no lag of the cache makes it act for a reason
the code does not check. A path is recorded as the calls made so far with their answers
(`Answered`), oldest first, and `Grounds` says what the answers must show before each call
(`reconcile_grounded`):

* the pod is deleted only when the Browser read first is marked for deletion, or when it is
  neither marked nor Failed and a read of the pod found it failed, or Pending with a container
  waiting for a reason other than `ContainerCreating` and `PodInitializing` (`PodFaulty`);
* the Browser is deleted only when the Browser read first is neither marked nor Failed and a read
  of the pod found it marked for deletion, or with its browser or seleniferous container
  terminated (`PodEnding`);
* a pod is created only after a read of the pod answered NotFound, for the Browser read first,
  neither marked nor Failed, and it is the pod `buildBrowserPod` builds from that Browser, the
  configuration the store answered for its browser and version, and the options its annotation
  decodes to;
* a status patch turns a Browser Failed only when the Browser read first is neither marked nor
  Failed and the store answered no configuration for it, or its options annotation does not
  decode, or a read of the pod found it failing (`PodFailing`): failed, a browser or seleniferous
  container terminated, or Pending with a container terminated or waiting badly, or Pending
  longer than `podCreationTimeout` by a clock reading of the same reconciliation.

And a reconciliation that returns neither an error nor a requeue delay, after which the work
queue only calls it again on a watch event, has read the Browser gone, marked or Failed, or has
had a patch that fails it, or a delete of it, accepted (`reconcile_drops_only_settled`): a live
Browser is never dropped from the queue.

There are two layers. `Prog.OnlyCalls` is the call discipline of a function over its arguments
alone (`retryPatch` only reads and patches with its update; `handleDeletion` deletes the pod and
nothing else). `Prog.Along` follows the answers, for the functions whose grounds are answers: the
pod read, the configuration, the clock, the acceptance of a patch or a delete. It inherits a
function's discipline when the answers so far ground every call the discipline allows
(`Prog.Along.of_onlyCalls`), and what it needs of the answers persists as more are given
(`LiveRead.append`, `PodRead.append`, `Settled.append`). Both results follow from one pass over
the program (`reconcile_along`).
-/

namespace BrowserController

/-! ## Call disciplines -/

/-- Every call `p` can make, whatever the answers, satisfies `D`. -/
def Prog.OnlyCalls {α : Type} (D : Call → Prop) : Prog α → Prop
  | .ret _ => True
  | .call c k => D c ∧ ∀ r, (k r).OnlyCalls D

section OnlyCalls

variable {D D' : Call → Prop} {α β : Type}

@[simp] theorem Prog.onlyCalls_ret (a : α) : (Prog.ret a).OnlyCalls D := trivial

@[simp] theorem Prog.onlyCalls_pure (a : α) : (pure a : Prog α).OnlyCalls D := trivial

theorem Prog.onlyCalls_op {c : Call} (hc : D c) : (Prog.op c).OnlyCalls D :=
  ⟨hc, fun _ => trivial⟩

/-- Sequencing: a discipline both parts keep. -/
theorem Prog.OnlyCalls.bind {p : Prog α} {f : α → Prog β} (hp : p.OnlyCalls D)
    (hf : ∀ a, (f a).OnlyCalls D) : (p >>= f).OnlyCalls D := by
  induction p with
  | ret a => exact hf a
  | call c k ih => exact ⟨hp.1, fun r => ih r (hp.2 r)⟩

/-- One call, then a continuation that keeps the discipline. -/
theorem Prog.OnlyCalls.op_bind {c : Call} {f : c.Resp → Prog α} (hc : D c)
    (hf : ∀ r, (f r).OnlyCalls D) : (Prog.op c >>= f).OnlyCalls D :=
  ⟨hc, hf⟩

/-- A weaker discipline. -/
theorem Prog.OnlyCalls.mono {p : Prog α} (hp : p.OnlyCalls D) (hD : ∀ c, D c → D' c) :
    p.OnlyCalls D' := by
  induction p with
  | ret a => trivial
  | call c k ih => exact ⟨hD c hp.1, fun r => ih r (hp.2 r)⟩

end OnlyCalls

/-- The calls that decide nothing: the reads, the clock, and the patches of the metadata. -/
def Call.Benign : Call → Prop
  | .getBrowser | .getPod | .getConfig .. | .now | .patchBrowser .. => True
  | _ => False

section Disciplines

variable {D : Call → Prop} (hD : ∀ c, c.Benign → D c)
include hD

/-- The retry loop reads the Browser and sends the patch its update computes from the copy read. -/
theorem retryPatch_onlyCalls (status : Bool) (exhausted : String) (f : Browser → Browser)
    (hpatch : ∀ cur, (patchCall status cur (f cur)).OnlyCalls D) :
    ∀ n, (retryPatch status exhausted f n).OnlyCalls D
  | 0 => trivial
  | n + 1 => by
    refine Prog.OnlyCalls.op_bind (hD _ trivial) fun r => ?_
    split
    · trivial
    · refine (hpatch _).bind fun r => ?_
      split
      · trivial
      · split
        · exact retryPatch_onlyCalls status exhausted f hpatch n
        · trivial

theorem retryUpdate_onlyCalls (f : Browser → Browser) : (retryUpdate f).OnlyCalls D :=
  retryPatch_onlyCalls hD false _ f (fun _ => Prog.onlyCalls_op (hD _ trivial)) maxRetries

omit hD in
/-- `deletePod` makes one zero-grace delete. -/
theorem deletePod_onlyCalls (h : D (.deletePod true)) : deletePod.OnlyCalls D :=
  Prog.OnlyCalls.op_bind h fun r => by split <;> (try split) <;> trivial

/-- `handleDeletion` deletes the pod and drops the finalizer: it creates nothing, deletes no
Browser and patches no status. Each join point of the `do` block is handled once. -/
theorem handleDeletion_onlyCalls (b : Browser) (h : ∀ force, D (.deletePod force)) :
    (handleDeletion b).OnlyCalls D := by
  unfold handleDeletion
  lift_lets
  intro done dropFinalizer podGone
  have hdrop : ∀ y, (dropFinalizer y).OnlyCalls D := fun _ => by
    dsimp only [dropFinalizer]
    split
    · refine (retryUpdate_onlyCalls hD _).bind fun r => ?_
      split
      · trivial
      · exact (Prog.onlyCalls_pure _).bind fun _ => trivial
    · exact (Prog.onlyCalls_pure _).bind fun _ => trivial
  have hgone : ∀ y, (podGone y).OnlyCalls D := fun _ => by
    dsimp -zeta only [podGone]
    refine Prog.OnlyCalls.op_bind (hD _ trivial) fun r => ?_
    cases r with
    | error => exact (Prog.onlyCalls_pure _).bind hdrop
    | ok pod =>
      dsimp -zeta only
      lift_lets
      intro waitGone
      have hwait : ∀ y, (waitGone y).OnlyCalls D := fun _ => by
        dsimp only [waitGone]
        split
        · refine Prog.OnlyCalls.op_bind (hD _ trivial) fun t => ?_
          split
          · exact (deletePod_onlyCalls (h true)).bind fun _ => (Prog.onlyCalls_pure _).bind hdrop
          · trivial
        · trivial
      split
      · refine Prog.OnlyCalls.op_bind (h _) fun r => ?_
        split
        · exact (Prog.onlyCalls_pure _).bind hwait
        · split
          · trivial
          · exact (Prog.onlyCalls_pure _).bind hwait
      · exact (Prog.onlyCalls_pure _).bind hwait
  split
  · trivial
  · exact (Prog.onlyCalls_pure _).bind hgone

end Disciplines

/-! ## Following the answers -/

/-- A call with the answer it was given. -/
def Answered : Type := Σ c : Call, c.Resp

/-- Along every path of `p` after the answers `h` (oldest first): every call `c` it makes is
allowed by `G` given the answers before it, and every result it ends with satisfies `post` with
the answers given on the way. Every answer counts, whatever the server could have said. -/
def Prog.Along {α : Type} (G : List Answered → Call → Prop) :
    Prog α → (α → List Answered → Prop) → List Answered → Prop
  | .ret a, post, h => post a h
  | .call c k, post, h => G h c ∧ ∀ r, (k r).Along G post (h ++ [⟨c, r⟩])

section Along

variable {G : List Answered → Call → Prop} {α β : Type}

@[simp] theorem Prog.along_ret (a : α) (post : α → List Answered → Prop) (h : List Answered) :
    (Prog.ret a).Along G post h = post a h := rfl

@[simp] theorem Prog.along_pure (a : α) (post : α → List Answered → Prop) (h : List Answered) :
    (pure a : Prog α).Along G post h = post a h := rfl

@[simp] theorem Prog.along_op_bind (c : Call) (f : c.Resp → Prog α)
    (post : α → List Answered → Prop) (h : List Answered) :
    (Prog.op c >>= f).Along G post h = (G h c ∧ ∀ r, (f r).Along G post (h ++ [⟨c, r⟩])) :=
  rfl

/-- Sequencing: what the rest needs is the postcondition of the first part. -/
@[simp] theorem Prog.along_bind (p : Prog α) (f : α → Prog β) (post : β → List Answered → Prop) :
    (p >>= f).Along G post = p.Along G fun a => (f a).Along G post := by
  induction p with
  | ret a => rfl
  | call c k ih =>
    funext h
    exact congrArg (G h c ∧ ·) (forall_congr fun r => congrFun (ih r) _)

/-- A function's discipline carries over when every call it allows is grounded after the answers
so far and any that follow. -/
theorem Prog.Along.of_onlyCalls {p : Prog α} {post : α → List Answered → Prop} :
    ∀ {h : List Answered}, p.OnlyCalls (fun c => ∀ x, G (h ++ x) c) →
      (∀ a x, post a (h ++ x)) → p.Along G post h := by
  induction p with
  | ret a => intro h _ hpost; simpa using hpost a []
  | call c k ih =>
    intro h hp hpost
    refine ⟨by simpa using hp.1 [], fun r => ih r ?_ fun a x => by simpa using hpost a (⟨c, r⟩ :: x)⟩
    exact (hp.2 r).mono fun c' hc x => by simpa using hc (⟨c, r⟩ :: x)

/-- Consequence: weaker grounds and a weaker postcondition. -/
theorem Prog.Along.mono {G' : List Answered → Call → Prop} {p : Prog α}
    {post post' : α → List Answered → Prop} (hG : ∀ h c, G h c → G' h c)
    (hpost : ∀ a h, post a h → post' a h) : ∀ {h}, p.Along G post h → p.Along G' post' h := by
  induction p with
  | ret a => exact hpost a _
  | call c k ih => exact fun hp => ⟨hG _ c hp.1, fun r => ih r (hp.2 r)⟩

/-- The answers only grow along a path. -/
theorem Prog.Along.extend {p : Prog α} {post : α → List Answered → Prop} :
    ∀ {h}, p.Along G post h → p.Along G (fun a h' => post a h' ∧ ∃ x, h' = h ++ x) h := by
  induction p with
  | ret a => exact fun hp => ⟨hp, [], (List.append_nil _).symm⟩
  | call c k ih =>
    intro h hp
    refine ⟨hp.1, fun r => (ih r (hp.2 r)).mono (fun _ _ => id) fun a h' ⟨hq, x, hx⟩ => ?_⟩
    exact ⟨hq, ⟨c, r⟩ :: x, by simpa using hx⟩

/-- Sequencing with an intermediate postcondition `Q`, the rest run after more answers. -/
theorem Prog.Along.bind_of {p : Prog α} {f : α → Prog β} {Q : α → List Answered → Prop}
    {post : β → List Answered → Prop} {h : List Answered} (hp : p.Along G Q h)
    (hf : ∀ a x, Q a (h ++ x) → (f a).Along G post (h ++ x)) : (p >>= f).Along G post h := by
  rw [Prog.along_bind]
  exact hp.extend.mono (fun _ _ => id) fun a _ ⟨hq, x, hx⟩ => by subst hx; exact hf a x hq

end Along

/-! ## The grounds -/

/-- The first answer stays the first. -/
theorem head?_append_of_eq_some {h : List Answered} {a : Answered} (ha : h.head? = some a)
    (x : List Answered) : (h ++ x).head? = some a := by
  cases h with
  | nil => cases ha
  | cons _ _ => exact ha

/-- The Browser the reconciliation read first is `b`, neither marked for deletion nor Failed. -/
def LiveRead (b : Browser) (h : List Answered) : Prop :=
  h.head? = some ⟨.getBrowser, .ok b⟩ ∧ b.deletionTimestamp = none ∧ b.status.phase ≠ .failed

theorem LiveRead.append {b : Browser} {h : List Answered} (hb : LiveRead b h)
    (x : List Answered) : LiveRead b (h ++ x) :=
  ⟨head?_append_of_eq_some hb.1 x, hb.2⟩

/-- A read of the pod answered `pod`. -/
def PodRead (pod : Pod) (h : List Answered) : Prop :=
  ⟨.getPod, .ok pod⟩ ∈ h

theorem PodRead.append {pod : Pod} {h : List Answered} (hp : PodRead pod h) (x : List Answered) :
    PodRead pod (h ++ x) :=
  List.mem_append_left x hp

/-- A container waits for a reason other than `ContainerCreating` and `PodInitializing`. -/
def WaitsBadly (cs : ContainerStatus) : Prop :=
  ∃ wt, cs.state.waiting = some wt ∧ wt.reason ≠ "ContainerCreating" ∧
    wt.reason ≠ "PodInitializing"

/-- What lets the reconciler delete the pod of a live Browser: the pod has failed, or it is
Pending with a container that waits badly. -/
def PodFaulty (pod : Pod) : Prop :=
  pod.status.phase = .failed ∨
    pod.status.phase = .pending ∧ ∃ cs ∈ pod.status.containerStatuses, WaitsBadly cs

/-- What lets the reconciler delete the Browser: its pod is marked for deletion, or its browser or
seleniferous container has terminated. -/
def PodEnding (pod : Pod) : Prop :=
  pod.deletionTimestamp.isSome ∨ pod.status.containerStatuses.any criticalTerminated

/-- What lets the reconciler fail the Browser, of its pod: the pod has failed, or a browser or
seleniferous container has terminated, or the pod is Pending with a container terminated or
waiting badly, or Pending longer than `podCreationTimeout` by a clock reading among `h`. -/
def PodFailing (pod : Pod) (h : List Answered) : Prop :=
  pod.status.phase = .failed ∨ pod.status.containerStatuses.any criticalTerminated ∨
    pod.status.phase = .pending ∧
      ((∃ cs ∈ pod.status.containerStatuses, cs.state.terminated.isSome ∨ WaitsBadly cs) ∨
        ∃ (created t : Nat), pod.creationTimestamp = some created ∧ (⟨.now, t⟩ : Answered) ∈ h ∧
          t - created > podCreationTimeout)

/-- What lets the reconciler fail the Browser `b` it read: the store answered no configuration for
its browser and version, its options annotation does not decode, or a read of its pod found it
failing. -/
def FailGrounds (decode : String → Except String SelenosisOptions) (b : Browser)
    (h : List Answered) : Prop :=
  (∃ r, (⟨.getConfig b.ns b.spec.browserName b.spec.browserVersion, r⟩ : Answered) ∈ h ∧
      ∀ spec, r ≠ some (some spec)) ∨
    (∃ msg, parseSelenosisOptions decode b.annotations = .error msg) ∨
    ∃ pod, PodRead pod h ∧ PodFailing pod h

/-- What the answers `h` must show before each call that decides: a delete, a create, or a
status patch that turns the Browser Failed. -/
def Grounds (decode : String → Except String SelenosisOptions) (h : List Answered) : Call → Prop
  | .deletePod _ => ∃ b, h.head? = some ⟨.getBrowser, .ok b⟩ ∧
      (b.deletionTimestamp.isSome ∨ LiveRead b h ∧ ∃ pod, PodRead pod h ∧ PodFaulty pod)
  | .deleteBrowser => ∃ b, LiveRead b h ∧ ∃ pod, PodRead pod h ∧ PodEnding pod
  | .createPod p => ∃ b, LiveRead b h ∧ (⟨.getPod, .error .notFound⟩ : Answered) ∈ h ∧
      ∃ spec opts, (⟨.getConfig b.ns b.spec.browserName b.spec.browserVersion, some (some spec)⟩ :
        Answered) ∈ h ∧ parseSelenosisOptions decode b.annotations = .ok opts ∧
        p = buildBrowserPod b spec opts
  | .patchBrowserStatus before after => before.status.phase ≠ .failed →
      after.status.phase = .failed → ∃ b, LiveRead b h ∧ FailGrounds decode b h
  | _ => True

/-- Reads, the clock and metadata patches need no grounds. -/
theorem grounds_of_benign (decode : String → Except String SelenosisOptions) {h : List Answered}
    {c : Call} (hc : c.Benign) : Grounds decode h c := by
  cases c with
  | getBrowser | getPod | getConfig | now | patchBrowser => trivial
  | _ => exact hc.elim


/-! ## Ending without a requeue -/

/-- What lets a reconciliation end asking for nothing more, neither an error nor a requeue: the
Browser read first was gone, marked for deletion or Failed, or a status patch that makes it Failed
was accepted, or a delete of it was accepted or found it gone. -/
def Settled (h : List Answered) : Prop :=
  h.head? = some ⟨.getBrowser, .error .notFound⟩ ∨
    (∃ b, h.head? = some ⟨.getBrowser, .ok b⟩ ∧
      (b.deletionTimestamp.isSome ∨ b.status.phase = .failed)) ∨
    (∃ before after, (⟨.patchBrowserStatus before after, .ok ()⟩ : Answered) ∈ h ∧
      after.status.phase = .failed) ∨
    ∃ r, (⟨.deleteBrowser, r⟩ : Answered) ∈ h ∧ (r = .ok () ∨ r = .error .notFound)

theorem Settled.append {h : List Answered} (hs : Settled h) (x : List Answered) :
    Settled (h ++ x) := by
  rcases hs with hs | ⟨b, hb, hs⟩ | ⟨before, after, hm, hs⟩ | ⟨r, hm, hs⟩
  · exact .inl (head?_append_of_eq_some hs x)
  · exact .inr (.inl ⟨b, head?_append_of_eq_some hb x, hs⟩)
  · exact .inr (.inr (.inl ⟨before, after, List.mem_append_left x hm, hs⟩))
  · exact .inr (.inr (.inr ⟨r, List.mem_append_left x hm, hs⟩))

/-- An accepted status patch whose update always fails the Browser settles it. -/
theorem settled_of_accepted {f : Browser → Browser} (hf : ∀ cur, (f cur).status.phase = .failed)
    {h : List Answered}
    (ha : ∃ cur, (⟨.patchBrowserStatus cur (f cur), .ok ()⟩ : Answered) ∈ h) : Settled h :=
  let ⟨cur, hm⟩ := ha
  .inr (.inr (.inl ⟨cur, f cur, hm, hf cur⟩))

/-- A result that asks for nothing more comes with answers that settle the Browser. -/
def EndsSettled (r : ReconcileResult) (h : List Answered) : Prop :=
  r = ({}, none) → Settled h

/-- A result that asks to be requeued needs nothing. -/
theorem endsSettled_of_requeue {r : ReconcileResult} (hr : r.1.requeueAfter ≠ 0)
    {h : List Answered} : EndsSettled r h :=
  fun he => absurd (congrArg (·.1.requeueAfter) he) hr

/-- A verdict of the Pending checks ends the reconciliation as `EndsSettled` asks. -/
def VerdictSettled (o : Option ReconcileResult) (h : List Answered) : Prop :=
  ∀ r, o = some r → EndsSettled r h

/-! ## Every path of `Reconcile` -/

section Paths

variable (decode : String → Except String SelenosisOptions) {b : Browser} {h : List Answered}

/-- Grounded after the answers `h` and any that follow. -/
def GroundedFrom (h : List Answered) (c : Call) : Prop :=
  ∀ x, Grounds decode (h ++ x) c

theorem groundedFrom_of_benign {c : Call} (hc : c.Benign) : GroundedFrom decode h c :=
  fun _ => grounds_of_benign decode hc

/-- A status patch computed by an update that fails the Browser, from grounds that persist. -/
theorem groundedFrom_setFailed (hb : LiveRead b h)
    (hg : ∀ x, FailGrounds decode b (h ++ x)) {before after : Browser} :
    GroundedFrom decode h (.patchBrowserStatus before after) :=
  fun x _ _ => ⟨b, hb.append x, hg x⟩

/-- A part whose discipline the answers ground, then a rest run after more answers. -/
theorem Prog.Along.bind_grounded {α β : Type} {p : Prog α} {f : α → Prog β}
    {post : β → List Answered → Prop} (hp : p.OnlyCalls (GroundedFrom decode h))
    (hf : ∀ a x, (f a).Along (Grounds decode) post (h ++ x)) :
    (p >>= f).Along (Grounds decode) post h := by
  rw [Prog.along_bind]
  exact Prog.Along.of_onlyCalls hp hf

/-- The status update loop, every patch it may send grounded: when it reports no error, a patch
it computed was accepted. -/
theorem retryStatusPatch_along (f : Browser → Browser) (exhausted : String) :
    ∀ (n : Nat) {h : List Answered},
      (∀ cur, GroundedFrom decode h (.patchBrowserStatus cur (f cur))) →
      (retryPatch true exhausted f n).Along (Grounds decode) (fun r h' => r = none →
        ∃ cur, (⟨.patchBrowserStatus cur (f cur), .ok ()⟩ : Answered) ∈ h') h
  | 0, _, _ => nofun
  | n + 1, h, hpatch => by
    rw [retryPatch, getBrowser, Prog.along_op_bind]
    refine ⟨trivial, fun r => ?_⟩
    cases r with
    | error e => exact nofun
    | ok cur =>
      dsimp only
      rw [patchCall, if_pos rfl, patchBrowserStatus, Prog.along_op_bind]
      refine ⟨by simpa using hpatch cur [⟨.getBrowser, .ok cur⟩], fun r => ?_⟩
      cases r with
      | ok u => exact fun _ => ⟨cur, List.mem_append_right _ (List.mem_singleton_self _)⟩
      | error e =>
        dsimp only
        split
        · exact retryStatusPatch_along f exhausted n fun cur' x => by
            simpa using hpatch cur' (_ :: _ :: x)
        · exact nofun

/-- `retryStatusUpdate` with an update that fails the Browser read first, on grounds that
persist: when it reports no error, the Browser is settled. -/
theorem failBrowser_along {f : Browser → Browser} (hf : ∀ cur, (f cur).status.phase = .failed)
    (hb : LiveRead b h) (hg : ∀ x, FailGrounds decode b (h ++ x)) :
    (retryStatusUpdate f).Along (Grounds decode) (fun r h' => r = none → Settled h') h :=
  (retryStatusPatch_along decode f _ maxRetries fun _ => groundedFrom_setFailed decode hb hg).mono
    (fun _ _ => id) fun _ _ ha hr => settled_of_accepted hf (ha hr)

/-- `deleteBrowser`, the delete grounded: it ends asking for nothing more only once the delete was
accepted or found the Browser gone. -/
theorem deleteBrowser_along (hdel : GroundedFrom decode h .deleteBrowser) :
    (deleteBrowser b).Along (Grounds decode) EndsSettled h := by
  unfold deleteBrowser
  lift_lets
  intro delete
  have hdelete : ∀ y x, (delete y).Along (Grounds decode) EndsSettled (h ++ x) := fun _ x => by
    dsimp only [delete]
    rw [deleteBrowserCall, Prog.along_op_bind]
    refine ⟨hdel x, fun r => ?_⟩
    have hmem : (⟨.deleteBrowser, r⟩ : Answered) ∈ h ++ x ++ [⟨.deleteBrowser, r⟩] :=
      List.mem_append_right _ (List.mem_singleton_self _)
    cases r with
    | ok u => exact fun _ => .inr (.inr (.inr ⟨_, hmem, .inl rfl⟩))
    | error e =>
      dsimp only
      split
      · next he => exact fun _ => .inr (.inr (.inr ⟨_, hmem, .inr (he ▸ rfl)⟩))
      · exact nofun
  split
  · refine Prog.Along.bind_grounded decode
      (retryUpdate_onlyCalls (fun _ => groundedFrom_of_benign decode) _) fun r x => ?_
    split
    · exact nofun
    · simpa using hdelete () x
  · simpa using hdelete () []

/-- Deleting a Browser read marked for deletion; whatever it returns, the mark settles it. -/
theorem handleDeletion_grounded (hb : h.head? = some ⟨.getBrowser, .ok b⟩)
    (hdel : b.deletionTimestamp.isSome) :
    (handleDeletion b).Along (Grounds decode) EndsSettled h :=
  Prog.Along.of_onlyCalls (handleDeletion_onlyCalls (fun _ => groundedFrom_of_benign decode) b
    fun _ x => ⟨b, head?_append_of_eq_some hb x, .inl hdel⟩)
    fun _ x _ => .inr (.inl ⟨b, head?_append_of_eq_some hb x, .inl hdel⟩)

/-- The creation-timeout check on a Pending pod read for a live Browser: the clock it reads
grounds the failure, then `k` runs. -/
theorem checkCreationTimeout_grounded {pod : Pod} {k : Prog (Option ReconcileResult)}
    (hb : LiveRead b h) (hpod : PodRead pod h) (hpend : pod.status.phase = .pending)
    (hk : ∀ x, k.Along (Grounds decode) VerdictSettled (h ++ x)) :
    (checkCreationTimeout pod k).Along (Grounds decode) VerdictSettled h := by
  simp only [checkCreationTimeout, Prog.pure_eq, Prog.ret_bind]
  split
  · next created hc =>
    rw [now, Prog.along_op_bind]
    refine ⟨trivial, fun t => ?_⟩
    split
    · next hold =>
      have hnow : (⟨.now, t⟩ : Answered) ∈ h ++ [⟨.now, t⟩] :=
        List.mem_append_right _ (List.mem_singleton_self _)
      refine Prog.Along.bind_of (failBrowser_along decode (fun _ => rfl) (hb.append _)
        fun x => .inr (.inr ⟨pod, (hpod.append _).append x, .inr (.inr ⟨hpend, .inr ⟨created, t, hc,
          List.mem_append_left x hnow, hold⟩⟩)⟩)) fun r x hr => ?_
      cases r with
      | some err => rintro _ ⟨⟩ ⟨⟩
      | none => rintro _ ⟨⟩ -; exact hr rfl
    · simpa using hk [⟨.now, t⟩]
  · simpa using hk []

/-- The waiting-reason check on a container of a Pending pod read for a live Browser: a reason
other than `ContainerCreating` and `PodInitializing` grounds the delete and the failure, then `k`
runs. -/
theorem checkWaitingReason_grounded {pod : Pod} {cs : ContainerStatus}
    {wt : ContainerStateWaiting} {k : Prog (Option ReconcileResult)} (hb : LiveRead b h)
    (hpod : PodRead pod h) (hpend : pod.status.phase = .pending)
    (hcs : cs ∈ pod.status.containerStatuses) (hwt : cs.state.waiting = some wt)
    (hk : ∀ x, k.Along (Grounds decode) VerdictSettled (h ++ x)) :
    (checkWaitingReason cs wt k).Along (Grounds decode) VerdictSettled h := by
  simp only [checkWaitingReason, Prog.pure_eq, Prog.ret_bind]
  split
  · next hreason =>
    have hbad : WaitsBadly cs := ⟨wt, hwt, hreason⟩
    refine Prog.Along.bind_grounded decode (deletePod_onlyCalls fun x =>
      ⟨b, (hb.append x).1, .inr ⟨hb.append x, pod, hpod.append x, .inr ⟨hpend, cs, hcs, hbad⟩⟩⟩)
      fun r x => ?_
    cases r with
    | some err => rintro _ ⟨⟩ ⟨⟩
    | none =>
      refine Prog.Along.bind_of (failBrowser_along decode (fun _ => rfl) (hb.append x)
        fun y => .inr (.inr ⟨pod, (hpod.append x).append y, .inr (.inr ⟨hpend, .inl ⟨cs, hcs,
          .inr hbad⟩⟩)⟩)) fun r y hr => ?_
      cases r with
      | some err => rintro _ ⟨⟩ ⟨⟩
      | none => rintro _ ⟨⟩ -; exact hr rfl
  · simpa using hk []

/-- The loop over the containers of a Pending pod read for a live Browser. -/
theorem pendingChecks_grounded {pod : Pod} (hpend : pod.status.phase = .pending) :
    ∀ (l : List ContainerStatus) {h : List Answered}, l ⊆ pod.status.containerStatuses →
      LiveRead b h → PodRead pod h → (pendingChecks pod l).Along (Grounds decode) VerdictSettled h
  | [], _, _, _, _ => nofun
  | cs :: rest, h, hl, hb, hpod => by
    have hcs : cs ∈ pod.status.containerStatuses := hl (.head _)
    have hrest : ∀ x, (pendingChecks pod rest).Along (Grounds decode) VerdictSettled (h ++ x) :=
      fun x => pendingChecks_grounded hpend rest (fun _ hc => hl (.tail _ hc)) (hb.append x)
        (hpod.append x)
    simp only [pendingChecks, Prog.pure_eq, Prog.ret_bind]
    split
    · next hterm =>
      -- a terminated container fails the Browser
      refine Prog.Along.bind_of (failBrowser_along decode (fun _ => rfl) hb
        fun x => .inr (.inr ⟨pod, hpod.append x, .inr (.inr ⟨hpend, .inl ⟨cs, hcs, .inl hterm⟩⟩)⟩))
        fun r x hr => ?_
      cases r with
      | some err => rintro _ ⟨⟩ ⟨⟩
      | none => rintro _ ⟨⟩ -; exact hr rfl
    · split
      · simpa using hrest []
      · next wt hwt =>
        exact checkCreationTimeout_grounded decode hb hpod hpend fun x =>
          checkWaitingReason_grounded decode (hb.append x) (hpod.append x) hpend hcs hwt
            fun y => by simpa using hrest (x ++ y)

/-- "Handle failed pod", for a pod read for a live Browser, then a grounded `k`. -/
theorem handleFailedPod_grounded {pod : Pod} {k : Prog ReconcileResult} (hb : LiveRead b h)
    (hpod : PodRead pod h) (hk : ∀ x, k.Along (Grounds decode) EndsSettled (h ++ x)) :
    (handleFailedPod pod k).Along (Grounds decode) EndsSettled h := by
  simp only [handleFailedPod, Prog.pure_eq, Prog.ret_bind]
  split
  · next hfailed =>
    refine Prog.Along.bind_grounded decode (deletePod_onlyCalls fun x =>
      ⟨b, (hb.append x).1, .inr ⟨hb.append x, pod, hpod.append x, .inl hfailed⟩⟩) fun r x => ?_
    cases r with
    | some err => rintro ⟨⟩
    | none =>
      refine Prog.Along.bind_of (failBrowser_along decode (fun _ => rfl) (hb.append x)
        fun y => .inr (.inr ⟨pod, (hpod.append x).append y, .inl hfailed⟩)) fun r y _ => ?_
      cases r with
      | some err => rintro ⟨⟩
      | none => simpa using hk (x ++ y)
  · simpa using hk []

/-- `updateBrowserStatus` for the Browser read first and a pod read for it: the mirror turns the
Browser Failed only when the pod has failed, and the reconciliation asks for nothing more only
once the Browser is deleted. -/
theorem updateBrowserStatus_grounded {pod : Pod} (hb : LiveRead b h) (hpod : PodRead pod h) :
    (updateBrowserStatus b pod).Along (Grounds decode) EndsSettled h := by
  simp only [updateBrowserStatus, Prog.pure_eq, Prog.ret_bind]
  split
  · next hcrit =>
    have hdelete : ∀ x, (deleteBrowser b >>= Prog.ret).Along (Grounds decode) EndsSettled (h ++ x) :=
      fun x => Prog.Along.bind_of (deleteBrowser_along decode
        fun y => ⟨b, (hb.append x).append y, pod, (hpod.append x).append y, .inr hcrit⟩)
        fun _ _ => id
    split
    · refine Prog.Along.bind_of (failBrowser_along decode (fun _ => rfl) hb
        fun x => .inr (.inr ⟨pod, hpod.append x, .inr (.inl hcrit)⟩)) fun r x _ => ?_
      cases r with
      | some err => rintro ⟨⟩
      | none => exact hdelete x
    · simpa using hdelete []
  · split
    · refine Prog.Along.bind_of (retryStatusPatch_along decode
        (mirrorStatus (browserStatusChanged b pod) (containersStatusChanged b pod) pod) _ maxRetries
        fun _ x _ hfailed => ⟨b, hb.append x, .inr (.inr ⟨pod, hpod.append x,
          .inl (by simpa [mirrorStatus] using hfailed)⟩)⟩) fun r x _ => ?_
      cases r with
      | some err => rintro ⟨⟩
      | none => exact endsSettled_of_requeue (by decide)
    · exact endsSettled_of_requeue (by decide)

/-- `reconcilePod` for the Browser read first and a pod read for it. -/
theorem reconcilePod_grounded {pod : Pod} (hb : LiveRead b h) (hpod : PodRead pod h) :
    (reconcilePod b pod).Along (Grounds decode) EndsSettled h := by
  simp only [reconcilePod, Prog.pure_eq, Prog.ret_bind]
  split
  · next hend =>
    exact Prog.Along.bind_of (deleteBrowser_along decode
      fun x => ⟨b, hb.append x, pod, hpod.append x, .inl hend.1⟩) fun _ _ => id
  · refine handleFailedPod_grounded decode hb hpod fun x => ?_
    split
    · next hpend =>
      refine Prog.Along.bind_of (pendingChecks_grounded decode hpend _ (List.Subset.refl _)
        (hb.append x) (hpod.append x)) fun r y hr => ?_
      cases r with
      | some r => exact hr r rfl
      | none =>
        simpa using updateBrowserStatus_grounded decode (hb.append (x ++ y)) (hpod.append (x ++ y))
    · exact updateBrowserStatus_grounded decode (hb.append x) (hpod.append x)

/-- A missing pod of the Browser read first: the answer of the store grounds the failure or the
create, whose pod is built from that Browser and that answer. -/
theorem handleMissingPod_grounded (hb : LiveRead b h)
    (hmiss : (⟨.getPod, .error .notFound⟩ : Answered) ∈ h) :
    (handleMissingPod decode b).Along (Grounds decode) EndsSettled h := by
  have hfail : ∀ {h'} {f : Browser → Browser}, (∀ cur, (f cur).status.phase = .failed) →
      LiveRead b h' → (∀ x, FailGrounds decode b (h' ++ x)) →
      (retryStatusUpdate f >>= fun r => match r with
        | some err => (pure ({}, some err) : Prog ReconcileResult)
        | _ => do pure PUnit.unit; pure ({}, none)).Along (Grounds decode) EndsSettled h' :=
    fun hf hb' hg => Prog.Along.bind_of (failBrowser_along decode hf hb' hg) fun r _ hr => by
      cases r with
      | some err => rintro ⟨⟩
      | none => exact fun _ => hr rfl
  simp only [handleMissingPod, getConfig]
  rw [Prog.along_op_bind]
  refine ⟨trivial, fun r => ?_⟩
  have hconfig := List.mem_append_right h (List.mem_singleton_self
    (⟨.getConfig b.ns b.spec.browserName b.spec.browserVersion, r⟩ : Answered))
  split
  · next spec =>
    split
    · -- the options annotation does not decode
      next msg hmsg => exact hfail (fun _ => rfl) (hb.append _) fun _ => .inr (.inl ⟨msg, hmsg⟩)
    · next opts hopts =>
      rw [createPodCall, Prog.along_op_bind]
      refine ⟨⟨b, hb.append _, List.mem_append_left _ hmiss, spec, opts, hconfig, hopts, rfl⟩,
        fun r => ?_⟩
      cases r with
      | ok u => exact endsSettled_of_requeue (by decide)
      | error e =>
        dsimp only
        split
        · exact endsSettled_of_requeue (by decide)
        · rintro ⟨⟩
  · -- the store holds no configuration for the Browser
    next hnone =>
    split
    · exact hfail (fun _ => rfl) (hb.append _) fun x =>
        .inl ⟨r, List.mem_append_left x hconfig, fun spec h => hnone spec h⟩
    · next hph => exact absurd (not_not.1 hph) hb.2.2

/-- "get the associated Pod", for the Browser read first. -/
theorem reconcileFromPod_grounded (hb : LiveRead b h) :
    (reconcileFromPod decode b).Along (Grounds decode) EndsSettled h := by
  simp only [reconcileFromPod, getPod]
  rw [Prog.along_op_bind]
  refine ⟨trivial, fun r => ?_⟩
  have hlast : ⟨.getPod, r⟩ ∈ h ++ [⟨.getPod, r⟩] :=
    List.mem_append_right _ (List.mem_singleton_self _)
  cases r with
  | ok pod => exact reconcilePod_grounded decode (hb.append _) hlast
  | error e =>
    dsimp only
    split
    · next he =>
      subst he
      split
      · next hph => exact absurd hph hb.2.2
      · simp only [Prog.pure_eq, Prog.ret_bind, Prog.along_bind, Prog.along_ret]
        exact handleMissingPod_grounded decode (hb.append _) hlast
    · rintro ⟨⟩

/-- "ensure finalizer is set" patches the metadata, then runs a grounded `k`. -/
theorem ensureFinalizer_grounded {k : Prog ReconcileResult}
    (hk : ∀ x, k.Along (Grounds decode) EndsSettled (h ++ x)) :
    (ensureFinalizer b k).Along (Grounds decode) EndsSettled h := by
  simp only [ensureFinalizer, Prog.pure_eq, Prog.ret_bind]
  split
  · refine Prog.Along.bind_grounded decode
      (retryUpdate_onlyCalls (fun _ => groundedFrom_of_benign decode) _) fun r x => ?_
    cases r with
    | some err => rintro ⟨⟩
    | none => simpa using hk x
  · simpa using hk []

/-- "ensure label selenosis.io/browser.name exists" patches the metadata, then runs a grounded
`k`. -/
theorem ensureLabels_grounded {k : Prog ReconcileResult}
    (hk : ∀ x, k.Along (Grounds decode) EndsSettled (h ++ x)) :
    (ensureLabels b k).Along (Grounds decode) EndsSettled h := by
  simp only [ensureLabels, Prog.pure_eq, Prog.ret_bind]
  split
  · refine Prog.Along.bind_grounded decode
      (retryUpdate_onlyCalls (fun _ => groundedFrom_of_benign decode) _) fun r x => ?_
    cases r with
    | some err => rintro ⟨⟩
    | none => simpa using hk x
  · simpa using hk []

/-- "Set Pending status if not set" patches the status to Pending, which fails nothing, then runs
a grounded `k`. -/
theorem ensurePending_grounded {k : Prog ReconcileResult}
    (hk : ∀ x, k.Along (Grounds decode) EndsSettled (h ++ x)) :
    (ensurePending b k).Along (Grounds decode) EndsSettled h := by
  simp only [ensurePending, Prog.pure_eq, Prog.ret_bind]
  split
  · refine Prog.Along.bind_of (retryStatusPatch_along decode setPending _ maxRetries
      fun _ _ _ hfailed => by simp [setPending] at hfailed) fun r x _ => ?_
    cases r with
    | some err => rintro ⟨⟩
    | none => simpa using hk x
  · simpa using hk []

/-- `reconcileBrowser` on the Browser read first. -/
theorem reconcileBrowser_grounded (hb : h.head? = some ⟨.getBrowser, .ok b⟩) :
    (reconcileBrowser decode b).Along (Grounds decode) EndsSettled h := by
  simp only [reconcileBrowser, Prog.pure_eq, Prog.ret_bind]
  split
  · next hdel =>
    exact Prog.Along.bind_of (handleDeletion_grounded decode hb hdel) fun _ _ => id
  · next hdel =>
    split
    · -- a Failed Browser: dropping the finalizer is all that is left
      next hph =>
      have hs : ∀ x, Settled (h ++ x) := fun x =>
        .inr (.inl ⟨b, head?_append_of_eq_some hb x, .inr hph⟩)
      split
      · exact Prog.Along.bind_grounded decode
          (retryUpdate_onlyCalls (fun _ => groundedFrom_of_benign decode) _) fun r x => by
            cases r with
            | some err => rintro ⟨⟩
            | none => exact fun _ => hs x
      · simpa using fun _ => hs []
    · next hph =>
      have hlive : LiveRead b h := ⟨hb, Option.not_isSome_iff_eq_none.1 hdel, hph⟩
      exact ensureFinalizer_grounded decode fun x => ensureLabels_grounded decode fun y =>
        ensurePending_grounded decode fun z => by
          simpa using reconcileFromPod_grounded decode (hlive.append (x ++ y ++ z))

/-- Every path of `Reconcile`, whatever the answers: each call that decides rests on what the
reconciliation read before it, and a result that asks for nothing more comes with answers that
settle the Browser. -/
theorem reconcile_along (decode : String → Except String SelenosisOptions) :
    (reconcile decode).Along (Grounds decode) EndsSettled [] := by
  simp only [reconcile, getBrowser]
  rw [Prog.along_op_bind]
  refine ⟨trivial, fun r => ?_⟩
  cases r with
  | ok b => exact reconcileBrowser_grounded decode rfl
  | error e =>
    dsimp only
    split
    · next he => subst he; exact fun _ => .inl rfl
    · rintro ⟨⟩

end Paths

/-- Along every path of `Reconcile`, whatever the answers: each delete of the pod, delete of the
Browser, create of a pod, and status patch that turns the Browser Failed rests on what the
reconciliation has read before it (`Grounds`). -/
theorem reconcile_grounded (decode : String → Except String SelenosisOptions) :
    (reconcile decode).Along (Grounds decode) (fun _ _ => True) [] :=
  (reconcile_along decode).mono (fun _ _ => id) fun _ _ _ => trivial

/-- Along every path of `Reconcile`, whatever the answers: a reconciliation that returns neither an
error nor a requeue delay has read the Browser gone, marked for deletion or Failed, or has had a
patch that fails it, or a delete of it, accepted (`Settled`). So a live Browser is never dropped
from the work queue. -/
theorem reconcile_drops_only_settled (decode : String → Except String SelenosisOptions) :
    (reconcile decode).Along (fun _ _ => True) EndsSettled [] :=
  (reconcile_along decode).mono (fun _ _ _ => trivial) fun _ _ => id

end BrowserController
