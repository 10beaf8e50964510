import Mathlib.Tactic.LiftLets
import BrowserController.Browser.System

/-!
# A Failed Browser gets no new pod

With every read fresh, the reconciler creates a pod only while the Browser exists, holds
`browserPodFinalizer` and is not Failed, and a Browser that is Failed (or gone) stays so
(`fresh_step_creates_only_before_failed`); along a run, once a Browser is Failed no pod is
created for it again (`FreshReachable.failedOrGone_run`). A pod that disappears while its
Browser is not Failed is replaced, so one Browser can get several pods
(`second_pod_while_running`); and once reads may lag, Failed is no longer absorbing
(`lagging_reads_unfail_browser`).

The proof is a guarantee (`StepOk`) that every step keeps. The other parties never touch the
status subresource and never drop a finalizer (`keeps_envStep`); the reconciler's calls keep it
by the specifications of its functions below, one per function, from `wp_retryPatch` up to
`wp_reconcile`; `FreshReachable.guarantee` carries it to every run.
-/

namespace BrowserController

/-! ## The guarantee -/

/-- The stored Browser is Failed, or gone. -/
def FailedOrGone (w : World) : Prop := ∀ b, w.browser = some b → b.status.phase = .failed

/-- The stored Browser, if any, is not Failed. -/
def NotFailed (w : World) : Prop := ∀ b, w.browser = some b → b.status.phase ≠ .failed

/-- The stored Browser exists, holds the finalizer and is not Failed: the state in which a pod
may be created for it. -/
def Live (w : World) : Prop :=
  ∃ b, w.browser = some b ∧ browserPodFinalizer ∈ b.finalizers ∧ b.status.phase ≠ .failed

/-- What every step guarantees: a pod is created only while the Browser is `Live`, and a Browser
that is Failed or gone stays so. -/
structure StepOk (w w' : World) : Prop where
  creates : w'.podCreates ≠ w.podCreates → Live w
  failed : FailedOrGone w → FailedOrGone w'

theorem StepOk.refl (w : World) : StepOk w w := ⟨fun h => (h rfl).elim, id⟩

/-- The stored Browser, if `w'` has one, has the status it had in `w`. -/
def StatusKept (w w' : World) : Prop :=
  ∀ b', w'.browser = some b' → ∃ b, w.browser = some b ∧ b'.status = b.status

/-- A step that creates no pod and keeps the stored status keeps the guarantee. -/
theorem StepOk.of_statusKept {w w' : World} (hc : w'.podCreates = w.podCreates)
    (hs : StatusKept w w') : StepOk w w' where
  creates h := (h hc).elim
  failed hf b' hb' := by
    obtain ⟨b, hb, hst⟩ := hs b' hb'
    rw [hst]; exact hf b hb

/-! ## The other parties -/

/-- What the other parties leave of the stored Browser: they remove it only when no finalizer
holds it, and a Browser still stored keeps its status and every finalizer. -/
def Keeps (w w' : World) : Prop :=
  (∀ b, w.browser = some b → w'.browser = none → b.finalizers = []) ∧
  ∀ b', w'.browser = some b' → ∃ b, w.browser = some b ∧ b'.status = b.status ∧
    b.finalizers ⊆ b'.finalizers

theorem Keeps.refl (w : World) : Keeps w w :=
  ⟨fun _ hb h => by simp [hb] at h, fun b' h => ⟨b', h, rfl, List.Subset.refl _⟩⟩

theorem Keeps.trans {w₁ w₂ w₃ : World} (h₁ : Keeps w₁ w₂) (h₂ : Keeps w₂ w₃) : Keeps w₁ w₃ := by
  refine ⟨fun b hb h₃ => ?_, fun b₃ hb₃ => ?_⟩
  · cases hb₂ : w₂.browser with
    | none => exact h₁.1 b hb hb₂
    | some b₂ =>
      obtain ⟨b', hb', -, hsub⟩ := h₁.2 b₂ hb₂
      cases hb.symm.trans hb'
      exact List.eq_nil_of_subset_nil (hsub.trans (List.subset_nil.2 (h₂.1 b₂ hb₂ h₃)))
  · obtain ⟨b₂, hb₂, hst₂, hsub₂⟩ := h₂.2 b₃ hb₃
    obtain ⟨b₁, hb₁, hst₁, hsub₁⟩ := h₁.2 b₂ hb₂
    exact ⟨b₁, hb₁, hst₂.trans hst₁, hsub₁.trans hsub₂⟩

theorem Keeps.statusKept {w w' : World} (h : Keeps w w') : StatusKept w w' := fun b' hb' =>
  let ⟨b, hb, hst, _⟩ := h.2 b' hb'
  ⟨b, hb, hst⟩

/-- Every move of another party keeps the stored Browser in the sense of `Keeps`: the kubelet,
the garbage collector, the clock and the catalog touch only the pod, the clock and the store; a
delete marks the Browser (and removes it if no finalizer holds it); another client's finalizer
is added to the ones there. -/
theorem keeps_envStep (w : World) (a : EnvAct) : Keeps w (envStep w a) := by
  have same : (envStep w a).browser = w.browser → Keeps w (envStep w a) := fun h => by
    rw [Keeps, h]; exact Keeps.refl w
  cases a with
  | deleteBrowser =>
    cases hb : w.browser with
    | none => exact same (by simp [envStep, hb])
    | some b =>
      simp only [Keeps, envStep, hb, World.commitBrowser_browser, Option.some.injEq,
        forall_eq']
      rcases markDeleted_cases w.clock b with ⟨h, hf⟩ | ⟨b', h, hst, hf⟩
      · simp [h, hf]
      · simp [h, hst, hf]
  | addFinalizer f =>
    cases hb : w.browser with
    | none => exact same (by simp [envStep, hb])
    | some b =>
      simp only [envStep, hb]
      split
      · simp only [Keeps, World.commitBrowser_browser, hb, Option.some.injEq, forall_eq',
          reduceCtorEq, IsEmpty.forall_iff, addFinalizer_status, true_and]
        unfold addFinalizer; split <;> simp
      · exact Keeps.refl w
  | podStatus _ | deletePod _ | podTerminated | addPodFinalizer _ | removePodFinalizer _
  | collectGarbage | tick _ | storeEvent _ _ => exact same (envStep_browser_of_not_onBrowser rfl)

theorem Rely.keeps {w w' : World} (h : Rely w w') : Keeps w w' := by
  induction h with
  | refl => exact Keeps.refl _
  | tail _ hstep ih => obtain ⟨a, rfl⟩ := hstep; exact ih.trans (keeps_envStep _ a)

@[simp] theorem envStep_podCreates (w : World) (a : EnvAct) :
    (envStep w a).podCreates = w.podCreates := by
  cases a <;> simp only [envStep] <;> (try split) <;> (try split) <;> simp

/-- Every move of another party keeps the guarantee. -/
theorem stepOk_envStep (w : World) (a : EnvAct) : StepOk w (envStep w a) :=
  StepOk.of_statusKept (envStep_podCreates w a) (keeps_envStep w a).statusKept

theorem notFailed_stable : Stable NotFailed := fun _ _ hr hw b' hb' => by
  obtain ⟨b, hb, hst, -⟩ := hr.keeps.2 b' hb'
  rw [hst]; exact hw b hb

theorem live_stable : Stable Live := fun _ w' hr ⟨b, hb, hf, hph⟩ => by
  cases hb' : w'.browser with
  | none => exact absurd (hr.keeps.1 b hb hb') (List.ne_nil_of_mem hf)
  | some b' =>
    obtain ⟨b₀, hb₀, hst, hsub⟩ := hr.keeps.2 b' hb'
    cases hb.symm.trans hb₀
    exact ⟨b', hb', hsub hf, hst ▸ hph⟩

theorem Live.notFailed {w : World} (h : Live w) : NotFailed w := fun b' hb' => by
  obtain ⟨b, hb, -, hph⟩ := h
  cases hb.symm.trans hb'; exact hph

/-! ## The reconciler's calls -/

/-- A call that neither creates a pod nor patches the status subresource. -/
def Call.Harmless : Call → Prop
  | .createPod _ | .patchBrowserStatus .. => False
  | _ => True

/-- A harmless call keeps the guarantee, whatever the answer: a metadata patch and a delete keep
the status of a Browser they do not remove. -/
theorem stepOk_exec_harmless {c : Call} (hc : c.Harmless) (o : Outcome) (w : World) :
    StepOk w (exec o w c).1 := by
  have write : ∀ upd : Browser → Option Browser,
      (∀ b b', upd b = some b' → b'.status = b.status) → StepOk w (w.writeBrowser o upd).1 := by
    intro upd hupd
    rcases writeBrowser_cases w o upd with ⟨e, h⟩ | ⟨b, hb, h⟩ <;> rw [h]
    · exact StepOk.refl w
    · exact StepOk.of_statusKept rfl fun b' hb' => ⟨b, hb, hupd b b' hb'⟩
  cases c with
  | patchBrowser before after =>
    refine write _ fun b b' h => ?_
    rcases settleBrowser_cases (mergePatchMeta before after b) with ⟨h', -⟩ | h' <;>
      rw [h'] at h <;> cases h
    rfl
  | deleteBrowser =>
    refine write _ fun b b' h => ?_
    rcases markDeleted_cases w.clock b with ⟨h', -⟩ | ⟨b'', h', hst, -⟩
    · simp [h'] at h
    · exact Option.some.inj (h'.symm.trans h) ▸ hst
  | deletePod force =>
    simp only [exec]
    split
    · exact StepOk.refl w
    · exact StepOk.refl w
    · exact StepOk.of_statusKept (by simp) fun b' hb' => ⟨b', by simpa using hb', rfl⟩
  | createPod p => exact hc.elim
  | patchBrowserStatus before after => exact hc.elim
  | getBrowser | getPod | getConfig _ _ _ | now => exact StepOk.refl w

/-- A create keeps the guarantee when the Browser is `Live`. -/
theorem stepOk_exec_createPod {w : World} (hw : Live w) (o : Outcome) (p : Pod) :
    StepOk w (exec o w (.createPod p)).1 := by
  simp only [exec]
  split
  · exact StepOk.refl w
  · exact StepOk.refl w
  · exact ⟨fun _ => hw, id⟩

/-- What a patch from `before` to `after` stores over `base`: a status patch always keeps the
Browser; a metadata patch removes one marked for deletion that it leaves with no finalizer. -/
def patchResult (status : Bool) (before after base : Browser) : Option Browser :=
  if status then some (mergePatchStatus before after base)
  else settleBrowser (mergePatchMeta before after base)

/-- A patch computed from a read of the status the server still stores keeps the guarantee,
when a status patch's update keeps a Failed Browser Failed. -/
theorem stepOk_commit_patchResult {w : World} {status : Bool} {cur after base : Browser}
    (hb : w.browser = some base) (hst : base.status = cur.status)
    (hguar : status = true → base.status.phase = .failed → after.status.phase = .failed) :
    StepOk w (w.commitBrowser (patchResult status cur after base)) := by
  cases status with
  | false =>
    refine StepOk.of_statusKept rfl fun b' hb' => ⟨base, hb, ?_⟩
    simp only [patchResult, Bool.false_eq_true, if_false, World.commitBrowser_browser] at hb'
    rcases settleBrowser_cases (mergePatchMeta cur after base) with ⟨h, -⟩ | h <;>
      rw [h] at hb' <;> cases hb'
    rfl
  | true =>
    refine ⟨fun h => (h rfl).elim, fun hf b' hb' => ?_⟩
    simp only [patchResult, if_true, World.commitBrowser_browser, Option.some.injEq] at hb'
    rw [← hb', mergePatchStatus_status hst]
    exact hguar rfl (hf base hb)

/-- One patch attempt: an error leaves the world as it is; otherwise the Browser stored when
the patch lands is replaced by `patchResult` of it. -/
theorem wp_patchCall_bind {α : Type} {status : Bool} {before after : Browser}
    {k : Except ApiError Unit → Prog α} {post : α → World → Prop} {w : World}
    (h : ∀ w₁, Rely w w₁ → (∀ e, (k (.error e)).wp StepOk post w₁) ∧
      ∀ base, w₁.browser = some base →
        StepOk w₁ (w₁.commitBrowser (patchResult status before after base)) ∧
        (k (.ok ())).wp StepOk post (w₁.commitBrowser (patchResult status before after base))) :
    (patchCall status before after >>= k).wp StepOk post w := by
  have attempt : ∀ w₁ o (upd : Browser → Option Browser), upd = patchResult status before after →
      Rely w w₁ → StepOk w₁ (w₁.writeBrowser o upd).1 ∧
        (k (w₁.writeBrowser o upd).2).wp StepOk post (w₁.writeBrowser o upd).1 := by
    rintro w₁ o _ rfl hr
    obtain ⟨herr, hok⟩ := h w₁ hr
    rcases writeBrowser_cases w₁ o (patchResult status before after) with
      ⟨e, he⟩ | ⟨base, hb, he⟩ <;> rw [he]
    · exact ⟨StepOk.refl w₁, herr e⟩
    · exact hok base hb
  cases status <;> (rw [Prog.wp_bind]; intro w₁ hr o _; exact attempt w₁ o _ rfl hr)

/-! ## Optimistic writes -/

section Retry

variable {status : Bool} {exhausted : String} {f : Browser → Browser}
  {post : Option ReconcileError → World → Prop} {P : World → Prop}

/-- `retryPatch`, for a precondition `P` the other parties keep: an error ends in a world
satisfying `P`; a successful attempt stores `patchResult` of the Browser it read over the one
stored when the patch lands, which has the status of the one read and at least its
finalizers. A status patch keeps the guarantee when its update keeps a Failed Browser Failed. -/
theorem wp_retryPatch (hP : Stable P)
    (hguar : status = true → ∀ w cur base, P w → w.browser = some base →
      base.status = cur.status → base.status.phase = .failed → (f cur).status.phase = .failed)
    (herr : ∀ e w, P w → post (some e) w)
    (hok : ∀ w cur base, P w → w.browser = some base → base.status = cur.status →
      cur.finalizers ⊆ base.finalizers →
      post none (w.commitBrowser (patchResult status cur (f cur) base))) :
    ∀ n {w}, P w → (retryPatch status exhausted f n).wp StepOk post w
  | 0, _, hw => herr _ _ hw
  | n + 1, w, hw => by
    rw [retryPatch, Prog.wp_bind]
    refine callWp_getBrowser fun w₁ h₁ =>
      ⟨StepOk.refl _, fun cur hcur => ?_, fun e => herr _ _ (hP h₁ hw)⟩
    refine wp_patchCall_bind fun w₂ h₂ => ⟨fun e => ?_, fun base hbase => ?_⟩
    · have hw₂ := hP (h₁.trans h₂) hw
      dsimp only
      split
      · exact wp_retryPatch hP hguar herr hok n hw₂
      · exact herr _ _ hw₂
    · have hw₂ := hP (h₁.trans h₂) hw
      obtain ⟨b, hb, hst, hsub⟩ := h₂.keeps.2 base hbase
      obtain rfl := Option.some.inj (hcur.symm.trans hb)
      exact ⟨stepOk_commit_patchResult hbase hst fun hs => hguar hs w₂ cur base hw₂ hbase hst,
        hok w₂ cur base hw₂ hbase hst hsub⟩

end Retry

/-! ## Programs safe from any world -/

/-- A program that keeps the guarantee from every world, whatever it returns. -/
def Prog.Safe {α : Type} (p : Prog α) : Prop := ∀ w, p.wp StepOk (fun _ _ => True) w

theorem Prog.Safe.wp {α : Type} {p : Prog α} (hp : p.Safe) {post : α → World → Prop}
    (h : ∀ a w, post a w) (w : World) : p.wp StepOk post w :=
  Prog.wp_mono (fun a w _ => h a w) (hp w)

theorem Prog.Safe.bind {α β : Type} {p : Prog α} {f : α → Prog β} (hp : p.Safe)
    (hf : ∀ a, (f a).Safe) : (p >>= f).Safe := fun w =>
  Prog.wp_bind_of (hp w) fun a w _ => hf a w

theorem Prog.safe_pure {α : Type} (a : α) : (pure a : Prog α).Safe := fun _ => trivial

theorem Prog.safe_op {c : Call} (hc : c.Harmless) : (Prog.op c).Safe :=
  fun _ w₁ _ o _ => ⟨stepOk_exec_harmless hc o w₁, trivial⟩

theorem deletePod_safe : deletePod.Safe := by
  refine (Prog.safe_op (c := .deletePod true) trivial).bind fun r => ?_
  split
  · exact Prog.safe_pure _
  · split <;> exact Prog.safe_pure _

theorem Prog.Safe.op_bind {α : Type} {c : Call} {f : c.Resp → Prog α} (hc : c.Harmless)
    (hf : ∀ r, (f r).Safe) : (Prog.op c >>= f).Safe :=
  (Prog.safe_op hc).bind hf

/-- A metadata update keeps the guarantee from any world. -/
theorem retryUpdate_safe (f : Browser → Browser) : (retryUpdate f).Safe := fun _ =>
  wp_retryPatch (P := fun _ => True) (fun _ _ _ h => h) (fun h => absurd h Bool.false_ne_true)
    (fun _ _ _ => trivial) (fun _ _ _ _ _ _ _ => trivial) _ trivial

/-- A status update that marks the Browser Failed keeps the guarantee from any world. -/
theorem retryStatusUpdate_safe {f : Browser → Browser} (hf : ∀ b, (f b).status.phase = .failed) :
    (retryStatusUpdate f).Safe := fun _ =>
  wp_retryPatch (P := fun _ => True) (fun _ _ _ h => h) (fun _ _ cur _ _ _ _ _ => hf cur)
    (fun _ _ _ => trivial) (fun _ _ _ _ _ _ _ => trivial) _ trivial

/-- `deleteBrowser` drops the finalizer and deletes: no create, no status patch. The `do` block
shares its tail through a join point, proved safe once. -/
theorem deleteBrowser_safe (b : Browser) : (deleteBrowser b).Safe := by
  unfold deleteBrowser
  lift_lets
  intro delete
  have hdelete : ∀ y, (delete y).Safe := fun _ => by
    dsimp only [delete]
    refine Prog.Safe.op_bind (by trivial) fun r => ?_
    split
    · exact Prog.safe_pure _
    · split <;> exact Prog.safe_pure _
  split
  · refine (retryUpdate_safe _).bind fun r => ?_
    split
    · exact Prog.safe_pure _
    · exact (Prog.safe_pure _).bind hdelete
  · exact (Prog.safe_pure _).bind hdelete

/-- `handleDeletion` deletes the pod and drops the finalizer: no create, no status patch. Each
join point of the `do` block (the end, the finalizer removal, the pod handling, the wait for the
pod to go) is proved safe once, before the branches that reach it. -/
theorem handleDeletion_safe (b : Browser) : (handleDeletion b).Safe := by
  unfold handleDeletion
  lift_lets
  intro done dropFinalizer podGone
  have hdone : ∀ y, (done y).Safe := fun _ => Prog.safe_pure _
  have hdrop : ∀ y, (dropFinalizer y).Safe := fun _ => by
    dsimp only [dropFinalizer]
    split
    · refine (retryUpdate_safe _).bind fun r => ?_
      split
      · exact Prog.safe_pure _
      · exact (Prog.safe_pure _).bind hdone
    · exact (Prog.safe_pure _).bind hdone
  have hgone : ∀ y, (podGone y).Safe := fun _ => by
    dsimp -zeta only [podGone]
    refine Prog.Safe.op_bind (by trivial) fun r => ?_
    cases r with
    | error => exact (Prog.safe_pure _).bind hdrop
    | ok pod =>
      dsimp -zeta only
      lift_lets
      intro waitGone
      have hwait : ∀ y, (waitGone y).Safe := fun _ => by
        dsimp only [waitGone]
        split
        · refine Prog.Safe.op_bind (by trivial) fun t => ?_
          split
          · exact deletePod_safe.bind fun _ => (Prog.safe_pure _).bind hdrop
          · exact Prog.safe_pure _
        · exact Prog.safe_pure _
      split
      · refine Prog.Safe.op_bind (by trivial) fun r => ?_
        split
        · exact (Prog.safe_pure _).bind hwait
        · split
          · exact Prog.safe_pure _
          · exact (Prog.safe_pure _).bind hwait
      · exact (Prog.safe_pure _).bind hwait
  split
  · exact Prog.safe_pure _
  · exact (Prog.safe_pure _).bind hgone

/-! ## Keeping the Browser `Live` -/

/-- A read keeps what the other parties keep. -/
theorem wp_read_stable {c : Call} (hc : ∀ o w, (exec o w c).1 = w) {P : World → Prop}
    (hP : Stable P) {w : World} (hw : P w) : (Prog.op c).wp StepOk (fun _ w => P w) w :=
  callWp_of_read hc fun _ h₁ => ⟨StepOk.refl _, fun _ => hP h₁ hw⟩

theorem mem_patchField {x : String} {before after base : List String} (hx : x ∈ after)
    (hsub : before ⊆ base) : x ∈ patchField before after base := by
  unfold patchField; split
  · subst_vars; exact hsub hx
  · exact hx

/-- A metadata patch that leaves the finalizer on a Browser that is not Failed leaves it
`Live`. -/
theorem live_commit_meta {w : World} {cur after base : Browser}
    (hfin : browserPodFinalizer ∈ patchField cur.finalizers after.finalizers base.finalizers)
    (hph : base.status.phase ≠ .failed) :
    Live (w.commitBrowser (patchResult false cur after base)) := by
  rcases settleBrowser_cases (mergePatchMeta cur after base) with ⟨-, h⟩ | h
  · exact absurd h (List.ne_nil_of_mem (by simpa using hfin))
  · exact ⟨mergePatchMeta cur after base, by simp [patchResult, h], by simpa using hfin,
      by simpa using hph⟩

/-- An update that adds the finalizer leaves a Browser that is not Failed `Live` when it
succeeds. -/
theorem wp_retryUpdate_adds {f : Browser → Browser}
    (hf : ∀ b, browserPodFinalizer ∈ (f b).finalizers) {w : World} (hw : NotFailed w) :
    (retryUpdate f).wp StepOk (fun r w => r = none → Live w) w :=
  wp_retryPatch notFailed_stable (fun h => absurd h Bool.false_ne_true)
    (fun _ _ _ h => nomatch h)
    (fun _ cur _ hw hb _ hsub _ => live_commit_meta (mem_patchField (hf cur) hsub) (hw _ hb))
    _ hw

/-- An update that keeps the finalizers keeps a `Live` Browser `Live`. -/
theorem wp_retryUpdate_keeps {f : Browser → Browser} (hf : ∀ b, (f b).finalizers = b.finalizers)
    {w : World} (hw : Live w) : (retryUpdate f).wp StepOk (fun _ w => Live w) w :=
  wp_retryPatch live_stable (fun h => absurd h Bool.false_ne_true) (fun _ _ hw => hw)
    (fun _ cur base hw hb _ _ => by
      obtain ⟨b, hb', hfin, hph⟩ := hw
      obtain rfl := Option.some.inj (hb'.symm.trans hb)
      exact live_commit_meta (by rw [hf, patchField_same]; exact hfin) hph)
    _ hw

/-- A status update that never sets Failed keeps a `Live` Browser `Live`. -/
theorem wp_retryStatusUpdate_keeps {f : Browser → Browser}
    (hf : ∀ b, b.status.phase ≠ .failed → (f b).status.phase ≠ .failed) {w : World}
    (hw : Live w) : (retryStatusUpdate f).wp StepOk (fun _ w => Live w) w :=
  wp_retryPatch live_stable (fun _ _ _ base hw hb _ hfail => absurd hfail (hw.notFailed base hb))
    (fun _ _ hw => hw)
    (fun _ cur base hw hb hst _ => by
      obtain ⟨b, hb', hfin, hph⟩ := hw
      obtain rfl := Option.some.inj (hb'.symm.trans hb)
      refine ⟨_, rfl, hfin, ?_⟩
      rw [mergePatchStatus_status hst]
      exact hf cur (hst ▸ hph))
    _ hw

/-- The mirror of a failed pod sets Failed; of any other pod, it writes over a Browser that is
not Failed. -/
theorem wp_retryStatusUpdate_mirror {changed containersChanged : Bool} {pod : Pod} {w : World}
    (hw : pod.status.phase = .failed ∨ NotFailed w) :
    (retryStatusUpdate (mirrorStatus changed containersChanged pod)).wp StepOk
      (fun _ _ => True) w :=
  wp_retryPatch (P := fun w => pod.status.phase = .failed ∨ NotFailed w)
    (fun _ _ hr h => h.imp_right (notFailed_stable hr))
    (fun _ _ _ base hw hb _ hfail => hw.resolve_right fun h => h base hb hfail)
    (fun _ _ _ => trivial) (fun _ _ _ _ _ _ _ => trivial) _ hw

/-! ## The reconciler's functions -/

/-- The world has moved on, by the other parties only, from one that stored `b`: what a fresh
read of `b` leaves the reconciliation knowing. -/
def ReadFrom (b : Browser) (w : World) : Prop := ∃ w₀, w₀.browser = some b ∧ Rely w₀ w

theorem ReadFrom.stable {b : Browser} : Stable (ReadFrom b) := fun _ _ hr ⟨w₀, hb, h₀⟩ =>
  ⟨w₀, hb, h₀.trans hr⟩

theorem ReadFrom.notFailed {b : Browser} {w : World} (hw : ReadFrom b w)
    (hph : b.status.phase ≠ .failed) : NotFailed w := by
  obtain ⟨w₀, hb, hr⟩ := hw
  exact notFailed_stable hr fun b' hb' => by cases hb.symm.trans hb'; exact hph

theorem ReadFrom.live {b : Browser} {w : World} (hw : ReadFrom b w)
    (hf : browserPodFinalizer ∈ b.finalizers) (hph : b.status.phase ≠ .failed) : Live w := by
  obtain ⟨w₀, hb, hr⟩ := hw
  exact live_stable hr ⟨b, hb, hf, hph⟩

/-- The creation-timeout check: a verdict, or `k` in a world the other parties reached. -/
theorem wp_checkCreationTimeout {pod : Pod} {k : Prog (Option ReconcileResult)}
    {post : Option ReconcileResult → World → Prop} {P : World → Prop} (hP : Stable P) {w : World}
    (hw : P w) (hk : ∀ w, P w → k.wp StepOk post w) (hv : ∀ r w, post (some r) w) :
    (checkCreationTimeout pod k).wp StepOk post w := by
  simp only [checkCreationTimeout, Prog.pure_eq, Prog.ret_bind]
  split
  · refine Prog.wp_bind_of (wp_read_stable (c := .now) (fun _ _ => rfl) hP hw) fun t w₁ hw₁ => ?_
    split
    · exact Prog.wp_bind_of ((retryStatusUpdate_safe fun _ => rfl) _) fun _ _ _ => by
        split <;> exact hv _ _
    · exact hk w₁ hw₁
  · exact hk w hw

/-- The waiting-reason check: a verdict, or `k` in the world it started in. -/
theorem wp_checkWaitingReason {cs : ContainerStatus} {waiting : ContainerStateWaiting}
    {k : Prog (Option ReconcileResult)} {post : Option ReconcileResult → World → Prop}
    {w : World} (hk : k.wp StepOk post w) (hv : ∀ r w, post (some r) w) :
    (checkWaitingReason cs waiting k).wp StepOk post w := by
  simp only [checkWaitingReason, Prog.pure_eq, Prog.ret_bind]
  split
  · refine Prog.wp_bind_of (deletePod_safe w) fun _ _ _ => ?_
    split
    · exact hv _ _
    · exact Prog.wp_bind_of ((retryStatusUpdate_safe fun _ => rfl) _) fun _ _ _ => by
        split <;> exact hv _ _
  · exact hk

/-- The Pending checks keep the guarantee, and leave the Browser `Live` when they run out
without a verdict. -/
theorem wp_pendingChecks (pod : Pod) :
    ∀ (l : List ContainerStatus) {w : World}, Live w →
      (pendingChecks pod l).wp StepOk (fun r w => r = none → Live w) w
  | [], _, hw => fun _ => hw
  | cs :: rest, w, hw => by
    have verdict : ∀ (r : ReconcileResult) (w : World), some r = none → Live w :=
      fun _ _ h => nomatch h
    simp only [pendingChecks, Prog.pure_eq, Prog.ret_bind]
    split
    · exact Prog.wp_bind_of ((retryStatusUpdate_safe fun _ => rfl) _) fun _ _ _ => by
        split <;> exact verdict _ _
    · split
      · exact wp_pendingChecks pod rest hw
      · exact wp_checkCreationTimeout live_stable hw
          (fun w hw => wp_checkWaitingReason (wp_pendingChecks pod rest hw) verdict) verdict

/-- `updateBrowserStatus` keeps the guarantee for a failed pod, or over a Browser that is not
Failed. -/
theorem wp_updateBrowserStatus (b : Browser) (pod : Pod) {w : World}
    (hw : pod.status.phase = .failed ∨ NotFailed w) :
    (updateBrowserStatus b pod).wp StepOk (fun _ _ => True) w := by
  simp only [updateBrowserStatus, Prog.pure_eq, Prog.ret_bind]
  split
  · split
    · refine Prog.wp_bind_of ((retryStatusUpdate_safe fun _ => rfl) _) fun _ w _ => ?_
      split
      · trivial
      · exact Prog.wp_bind_of (deleteBrowser_safe b w) fun _ _ _ => trivial
    · exact Prog.wp_bind_of (deleteBrowser_safe b w) fun _ _ _ => trivial
  · split
    · exact Prog.wp_bind_of (wp_retryStatusUpdate_mirror hw) fun _ _ _ => by split <;> trivial
    · trivial

/-- "Handle failed pod": `k` runs after a failed pod, or in a world where the Browser is still
`Live`. -/
theorem wp_handleFailedPod {pod : Pod} {k : Prog ReconcileResult} {w : World} (hw : Live w)
    (hk : ∀ w, (pod.status.phase = .failed ∨ Live w) → k.wp StepOk (fun _ _ => True) w) :
    (handleFailedPod pod k).wp StepOk (fun _ _ => True) w := by
  simp only [handleFailedPod, Prog.pure_eq, Prog.ret_bind]
  split
  · rename_i hfailed
    refine Prog.wp_bind_of (deletePod_safe w) fun _ _ _ => ?_
    split
    · trivial
    · exact Prog.wp_bind_of ((retryStatusUpdate_safe fun _ => rfl) _) fun _ w _ => by
        split
        · trivial
        · exact hk w (.inl hfailed)
  · exact hk w (.inr hw)

/-- `reconcilePod` keeps the guarantee from a `Live` Browser. -/
theorem wp_reconcilePod (b : Browser) (pod : Pod) {w : World} (hw : Live w) :
    (reconcilePod b pod).wp StepOk (fun _ _ => True) w := by
  simp only [reconcilePod, Prog.pure_eq, Prog.ret_bind]
  split
  · exact Prog.wp_bind_of (deleteBrowser_safe b w) fun _ _ _ => trivial
  · refine wp_handleFailedPod hw fun w hw' => ?_
    split
    · rename_i hpending
      have hlive : Live w := hw'.resolve_left fun h => by rw [h] at hpending; cases hpending
      refine Prog.wp_bind_of (wp_pendingChecks pod _ hlive) fun r w hr => ?_
      cases r with
      | some r => trivial
      | none => exact wp_updateBrowserStatus b pod (.inr (hr rfl).notFailed)
    · exact wp_updateBrowserStatus b pod (hw'.imp_right Live.notFailed)

/-- `handleMissingPod` keeps the guarantee from a `Live` Browser: the create it makes is the
only one the reconciler makes. -/
theorem wp_handleMissingPod (decode : String → Except String SelenosisOptions) (b : Browser)
    {w : World} (hw : Live w) : (handleMissingPod decode b).wp StepOk (fun _ _ => True) w := by
  simp only [handleMissingPod, Prog.pure_eq, Prog.ret_bind]
  refine Prog.wp_bind_of (wp_read_stable (c := .getConfig b.ns b.spec.browserName
    b.spec.browserVersion) (fun _ _ => rfl) live_stable hw) fun _ w hw => ?_
  split
  · split
    · exact Prog.wp_bind_of ((retryStatusUpdate_safe fun _ => rfl) _) fun _ _ _ => by
        split <;> trivial
    · rw [Prog.wp_bind]
      exact fun w₁ h₁ o _ => ⟨stepOk_exec_createPod (live_stable h₁ hw) o _, by
        dsimp only [Prog.wp_ret]; split <;> (try split) <;> trivial⟩
  · split
    · exact Prog.wp_bind_of ((retryStatusUpdate_safe fun _ => rfl) _) fun _ _ _ => by
        split <;> trivial
    · trivial

/-- "get the associated Pod" keeps the guarantee from a `Live` Browser. -/
theorem wp_reconcileFromPod (decode : String → Except String SelenosisOptions) (b : Browser)
    {w : World} (hw : Live w) : (reconcileFromPod decode b).wp StepOk (fun _ _ => True) w := by
  simp only [reconcileFromPod, Prog.pure_eq, Prog.ret_bind]
  refine Prog.wp_bind_of (wp_read_stable (c := .getPod) (fun _ _ => rfl) live_stable hw)
    fun _ w hw => ?_
  split
  · exact wp_reconcilePod b _ hw
  · split
    · split
      · trivial
      · exact Prog.wp_bind_of (wp_handleMissingPod decode b hw) fun _ _ _ => trivial
    · trivial

/-- "ensure finalizer is set": `k` runs with the Browser `Live`. -/
theorem wp_ensureFinalizer {b : Browser} {k : Prog ReconcileResult} {w : World}
    (hw : ReadFrom b w) (hph : b.status.phase ≠ .failed)
    (hk : ∀ w, Live w → k.wp StepOk (fun _ _ => True) w) :
    (ensureFinalizer b k).wp StepOk (fun _ _ => True) w := by
  simp only [ensureFinalizer, Prog.pure_eq, Prog.ret_bind]
  split
  · refine Prog.wp_bind_of (wp_retryUpdate_adds (mem_addFinalizer _) (hw.notFailed hph))
      fun r w hr => ?_
    cases r with
    | some _ => trivial
    | none => exact hk w (hr rfl)
  · rename_i hcontains
    exact hk w (hw.live (by simpa [containsFinalizer] using hcontains) hph)

/-- "ensure label selenosis.io/browser.name exists" keeps the Browser `Live` for `k`. -/
theorem wp_ensureLabels {b : Browser} {k : Prog ReconcileResult} {w : World} (hw : Live w)
    (hk : ∀ w, Live w → k.wp StepOk (fun _ _ => True) w) :
    (ensureLabels b k).wp StepOk (fun _ _ => True) w := by
  simp only [ensureLabels, Prog.pure_eq, Prog.ret_bind]
  split
  · refine Prog.wp_bind_of (wp_retryUpdate_keeps (f := setBrowserLabels) (fun _ => rfl) hw)
      fun _ w hw => ?_
    split
    · trivial
    · exact hk w hw
  · exact hk w hw

/-- "Set Pending status if not set" keeps the Browser `Live` for `k`. -/
theorem wp_ensurePending {b : Browser} {k : Prog ReconcileResult} {w : World} (hw : Live w)
    (hk : ∀ w, Live w → k.wp StepOk (fun _ _ => True) w) :
    (ensurePending b k).wp StepOk (fun _ _ => True) w := by
  simp only [ensurePending, Prog.pure_eq, Prog.ret_bind]
  split
  · refine Prog.wp_bind_of (wp_retryStatusUpdate_keeps (fun _ _ => by simp [setPending]) hw)
      fun _ w hw => ?_
    split
    · trivial
    · exact hk w hw
  · exact hk w hw

/-- `reconcileBrowser` keeps the guarantee after a fresh read of the Browser. -/
theorem wp_reconcileBrowser (decode : String → Except String SelenosisOptions) (b : Browser)
    {w : World} (hw : ReadFrom b w) : (reconcileBrowser decode b).wp StepOk (fun _ _ => True) w := by
  simp only [reconcileBrowser, Prog.pure_eq, Prog.ret_bind]
  split
  · exact Prog.wp_bind_of (handleDeletion_safe b w) fun _ _ _ => trivial
  · split
    · split
      · exact Prog.wp_bind_of (retryUpdate_safe _ w) fun _ _ _ => by split <;> trivial
      · trivial
    · rename_i hph
      exact wp_ensureFinalizer hw hph fun _ hw => wp_ensureLabels hw fun _ hw =>
        wp_ensurePending hw fun _ hw => wp_reconcileFromPod decode b hw

/-- `Reconcile` keeps the guarantee from every world. -/
theorem wp_reconcile (decode : String → Except String SelenosisOptions) (w : World) :
    (reconcile decode).wp StepOk (fun _ _ => True) w := by
  simp only [reconcile, Prog.pure_eq, Prog.ret_bind]
  rw [Prog.wp_bind]
  refine callWp_getBrowser fun w₁ _ =>
    ⟨StepOk.refl _, fun b hb => wp_reconcileBrowser decode b ⟨w₁, hb, Rely.refl _⟩, fun e => ?_⟩
  dsimp only [Prog.wp_ret]
  split <;> trivial

/-! ## Every fresh run -/

section Runs

variable {decode : String → Except String SelenosisOptions}

/-- Every fresh step of a fresh run keeps the guarantee. -/
theorem FreshReachable.stepOk {s s' : Sys} {st : Step} (hs : FreshReachable decode s)
    (hst : st.Fresh) (h : s.step decode st = some s') : StepOk s.world s'.world :=
  FreshReachable.guarantee StepOk.refl stepOk_envStep (wp_reconcile decode) hs hst h

/-- With every read fresh, a pod is created only while the Browser exists, holds the finalizer
and is not Failed, and a Browser that is Failed or gone stays so. -/
theorem fresh_step_creates_only_before_failed {s s' : Sys} {st : Step}
    (hs : FreshReachable decode s) (hst : st.Fresh) (h : s.step decode st = some s') :
    (s'.world.podCreates ≠ s.world.podCreates → Live s.world) ∧
      (FailedOrGone s.world → FailedOrGone s'.world) :=
  ⟨(hs.stepOk hst h).creates, (hs.stepOk hst h).failed⟩

/-- The next call, answered `ok`, creates a pod. -/
def createsPod (s : Sys) : Bool :=
  (s.step rejectOptions (.call .ok)).any (·.world.podCreates != s.world.podCreates)

/-- The first reconciliation of a just-created Browser reaches its create call with every read
fresh; answered `ok`, the call creates the pod, and the Browser is live when it does. -/
theorem create_step_creates_only_before_failed :
    ∃ s s', FreshReachable rejectOptions s ∧ s.step rejectOptions (.call .ok) = some s' ∧
      s'.world.podCreates ≠ s.world.podCreates ∧
      (s'.world.podCreates ≠ s.world.podCreates → Live s.world) ∧
      (FailedOrGone s.world → FailedOrGone s'.world) := by
  obtain ⟨s, hs, hp⟩ := @ReachableBy.of_run rejectOptions Step.Fresh createsPod _ (reconcileOk 9)
    (.init _ (createdWorld_initial chromeStore)) (by decide) (by decide)
  cases h : s.step rejectOptions (.call .ok) with
  | none => simp [createsPod, h] at hp
  | some s' =>
    simp only [createsPod, h, Option.any_some, bne_iff_ne, ne_eq] at hp
    exact ⟨s, s', hs, h, hp,
      fresh_step_creates_only_before_failed hs (show Step.Fresh (.call .ok) from trivial) h⟩

/-- Along a fresh run, a Browser that is Failed or gone stays so and gets no new pod. -/
theorem FreshReachable.failedOrGone_run :
    ∀ {s s' : Sys} {l : List Step}, FreshReachable decode s → (∀ st ∈ l, st.Fresh) →
      s.run decode l = some s' → FailedOrGone s.world →
        FailedOrGone s'.world ∧ s'.world.podCreates = s.world.podCreates
  | _, _, [], _, _, h, hf => by cases h; exact ⟨hf, rfl⟩
  | s, _, st :: rest, hs, hl, h, hf => by
    simp only [Sys.run, Option.bind_eq_some] at h
    obtain ⟨s₁, h₁, h₂⟩ := h
    have hst := hl st (List.mem_cons_self _ _)
    have ok := hs.stepOk hst h₁
    have hc : s₁.world.podCreates = s.world.podCreates := by
      by_contra hne
      obtain ⟨b, hb, -, hph⟩ := ok.creates hne
      exact hph (hf b hb)
    obtain ⟨hf', hc'⟩ := FreshReachable.failedOrGone_run (ReachableBy.step st hs hst h₁)
      (fun st' h' => hl st' (List.mem_cons_of_mem _ h')) h₂ (ok.failed hf)
    exact ⟨hf', hc'.trans hc⟩

end Runs

/-! ## A second pod, and lagging reads

Neither half holds of a Browser that is not Failed, nor once reads may lag. In the first run,
every read fresh, the pod is created, runs, and is force-deleted by another client; the next
reconciliation creates a second pod while the stored phase is Running. In the second, the pod
fails and the Browser is marked Failed; a reconciliation whose reads lag then sees the Browser
as it was while Pending and the pod as it was while Running, mirrors the pod, and its status
patch moves the stored phase from Failed back to Running.
-/

/-- The kubelet's report of a running pod. -/
def runningStatus : PodStatus := { phase := .running, podIP := "10.0.0.1", startTime := some 5 }

/-- The kubelet's report of a failed pod. -/
def failedStatus : PodStatus := { phase := .failed, reason := "Error", message := "boom" }

/-- The pod created, running and mirrored, force-deleted by another client, and the next
reconciliation up to its create. -/
def recreateRun : List Step :=
  reconcileOk 10 ++ [.env (.podStatus runningStatus)] ++ reconcileOk 4 ++
    [.env (.deletePod true)] ++ reconcileOk 3

/-- The next call, answered `ok`, creates a second pod while the stored phase is Running. -/
def createsSecondPodWhileRunning (s : Sys) : Bool :=
  s.world.browser.map (·.status.phase) == some .running &&
    (s.step rejectOptions (.call .ok)).any (·.world.podCreates == 2)

theorem second_pod_while_running :
    ∃ s s', FreshReachable rejectOptions s ∧ s.step rejectOptions (.call .ok) = some s' ∧
      s.world.browser.map (·.status.phase) = some .running ∧ s'.world.podCreates = 2 := by
  obtain ⟨s, hs, hp⟩ := @ReachableBy.of_run rejectOptions Step.Fresh
    createsSecondPodWhileRunning _ recreateRun (.init _ (createdWorld_initial chromeStore))
    (by decide) (by decide)
  simp only [createsSecondPodWhileRunning, Bool.and_eq_true, beq_iff_eq] at hp
  cases h : s.step rejectOptions (.call .ok) with
  | none => simp [h] at hp
  | some s' => simp only [h, Option.any_some, beq_iff_eq] at hp; exact ⟨s, s', hs, h, hp⟩

/-- The pod created, running and mirrored, failed and force-deleted with the Browser marked
Failed, and a reconciliation whose reads lag: the Browser as it was while Pending, the pod as it
was while Running, then a fresh read in `retryStatusUpdate`. -/
def laggingRun : List Step :=
  reconcileOk 10 ++ [.env (.podStatus runningStatus)] ++ reconcileOk 4 ++
    [.env (.podStatus failedStatus)] ++ reconcileOk 7 ++
    [.start, .call (.stale 3), .call (.stale 2), .call .ok]

/-- The stored Browser is Failed, and the next call, answered `ok`, is a status patch that
leaves it Running. -/
def unfailsBrowser (s : Sys) : Bool :=
  s.world.browser.map (·.status.phase) == some .failed &&
    (match s.inflight with
     | some (.call (.patchBrowserStatus _ _) _) => true
     | _ => false) &&
    (s.step rejectOptions (.call .ok)).any (·.world.browser.map (·.status.phase) == some .running)

theorem lagging_reads_unfail_browser :
    ∃ s s', Reachable rejectOptions s ∧ s.step rejectOptions (.call .ok) = some s' ∧
      (∃ before after k, s.inflight = some (.call (.patchBrowserStatus before after) k)) ∧
      s.world.browser.map (·.status.phase) = some .failed ∧
      s'.world.browser.map (·.status.phase) = some .running := by
  obtain ⟨s, hs, hp⟩ := @ReachableBy.of_run rejectOptions (fun _ => True)
    unfailsBrowser _ laggingRun (.init _ (createdWorld_initial chromeStore)) (fun _ _ => trivial)
    (by decide)
  simp only [unfailsBrowser, Bool.and_eq_true, beq_iff_eq] at hp
  obtain ⟨⟨hf, hpatch⟩, hrun⟩ := hp
  have hcall : ∃ before after k, s.inflight = some (.call (.patchBrowserStatus before after) k) := by
    split at hpatch
    · exact ⟨_, _, _, ‹_›⟩
    · cases hpatch
  cases h : s.step rejectOptions (.call .ok) with
  | none => simp [h] at hrun
  | some s' => simp only [h, Option.any_some, beq_iff_eq] at hrun; exact ⟨s, s', hs, h, hcall, hf, hrun⟩

end BrowserController
