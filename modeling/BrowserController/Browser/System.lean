import BrowserController.Api.Wp
import BrowserController.Browser.Reconcile

/-!
# The system: reconciliations interleaved with the other parties

`Sys` is the world with at most one reconciliation in flight, as the work queue guarantees for
one object. A step starts a reconciliation, lets the one in flight make its next call (answered
by `exec` with any `Outcome`), or lets another party act (`envStep`). `Reachable` is the set of
states reachable from a just-created Browser, and `Reachable.run` the fact that replaying a
list of steps from a reachable state stays reachable, which the counterexample traces use.
`FreshReachable` admits only fresh reads; `FreshReachable.guarantee` turns a weakest
precondition of `reconcile` (`Prog.wp`) into a property of every step of every such run.
-/

namespace BrowserController

/-- The whole system: the world and the reconciliation in flight, if any. -/
structure Sys where
  world : World
  inflight : Option (Prog ReconcileResult)

/-- A step of the system: the work queue starts a reconciliation (none being in flight), the
reconciliation in flight makes its next call, or another party acts. -/
inductive Step where
  | start
  | call (o : Outcome)
  | env (a : EnvAct)

/-- A program still running: `none` once it has returned. -/
def Prog.pending {α : Type} : Prog α → Option (Prog α)
  | .ret _ => none
  | p => some p

/-- The system after a step, `none` when the step is not enabled. -/
def Sys.step (decode : String → Except String SelenosisOptions) (s : Sys) : Step → Option Sys
  | .start => match s.inflight with
    | none => some { s with inflight := some (reconcile decode) }
    | some _ => none
  | .call o => match s.inflight with
    | some (.call c k) =>
      let r := exec o s.world c
      some ⟨r.1, (k r.2).pending⟩
    | _ => none
  | .env a => some { s with world := envStep s.world a }

/-- The system after a list of steps. -/
def Sys.run (decode : String → Except String SelenosisOptions) : Sys → List Step → Option Sys
  | s, [] => some s
  | s, st :: rest => (s.step decode st).bind (·.run decode rest)

/-- A world in which the Browser has just been created: no finalizer, empty status, no pod. -/
def World.Initial (w : World) : Prop :=
  ∃ b, w.browser = some b ∧ b.finalizers = [] ∧ b.deletionTimestamp = none ∧ b.status = {} ∧
    w.pod = none ∧ w.browserLog = [b] ∧ w.podLog = [none] ∧ w.podCreates = 0 ∧ w.finalized = false

/-- The states reachable from a just-created Browser through steps that `allowed` admits. -/
inductive ReachableBy (decode : String → Except String SelenosisOptions) (allowed : Step → Prop) :
    Sys → Prop where
  | init (w : World) : w.Initial → ReachableBy decode allowed ⟨w, none⟩
  | step {s s' : Sys} (st : Step) : ReachableBy decode allowed s → allowed st →
      s.step decode st = some s' → ReachableBy decode allowed s'

/-- The reachable states, reads that lag included. -/
def Reachable (decode : String → Except String SelenosisOptions) : Sys → Prop :=
  ReachableBy decode fun _ => True

/-- A step whose call, if it makes one, is answered from the objects as they stand. -/
def Step.Fresh : Step → Prop
  | .call o => o.Fresh
  | _ => True

instance : DecidablePred Step.Fresh
  | .call o => inferInstanceAs (Decidable o.Fresh)
  | .start => isTrue trivial
  | .env _ => isTrue trivial

/-- The states reachable when every read is fresh. -/
def FreshReachable (decode : String → Except String SelenosisOptions) : Sys → Prop :=
  ReachableBy decode Step.Fresh

/-- Every state a run of admitted steps reaches from a reachable state is reachable. -/
theorem ReachableBy.run {decode : String → Except String SelenosisOptions}
    {allowed : Step → Prop} :
    ∀ {s s' : Sys} {l : List Step}, ReachableBy decode allowed s → (∀ st ∈ l, allowed st) →
      s.run decode l = some s' → ReachableBy decode allowed s'
  | _, _, [], hs, _, h => by cases h; exact hs
  | s, _, st :: rest, hs, hl, h => by
    simp only [Sys.run, Option.bind_eq_some] at h
    obtain ⟨s₁, h₁, h₂⟩ := h
    exact ReachableBy.run (ReachableBy.step st hs (hl st (List.mem_cons_self _ _)) h₁)
      (fun st' h' => hl st' (List.mem_cons_of_mem _ h')) h₂

/-- Every state a run reaches from a reachable state is reachable. -/
theorem Reachable.run {decode : String → Except String SelenosisOptions} {s s' : Sys}
    {l : List Step} (hs : Reachable decode s) (h : s.run decode l = some s') :
    Reachable decode s' :=
  ReachableBy.run hs (fun _ _ => trivial) h

/-- A run of admitted steps whose end passes the check `p` reaches a state that passes it. -/
theorem ReachableBy.of_run {decode : String → Except String SelenosisOptions}
    {allowed : Step → Prop} {p : Sys → Bool} {s : Sys} {l : List Step}
    (hs : ReachableBy decode allowed s) (hl : ∀ st ∈ l, allowed st)
    (h : (s.run decode l).map p = some true) : ∃ s', ReachableBy decode allowed s' ∧ p s' = true := by
  cases hr : s.run decode l with
  | none => simp [hr] at h
  | some s' => simp only [hr, Option.map_some', Option.some.injEq] at h; exact ⟨s', hs.run hl hr, h⟩

/-! ## A Browser to run

The counterexample runs of the following modules start from one just-created Browser for
chrome 120 in namespace `ns`, with a decoder that rejects every options document (none of the
runs has one).
-/

/-- A decoder that rejects every document. -/
def rejectOptions : String → Except String SelenosisOptions := fun _ => .error "unsupported"

/-- A catalog in `ns` that declares chrome 120, with no template. -/
def chromeCatalog : BrowserConfig :=
  { name := "browsers", ns := "ns",
    spec := { template := none,
              browsers := List.toAList [⟨"chrome",
                List.toAList [⟨"120", some { image := "chrome:120" }⟩]⟩] } }

/-- The store holding chrome 120 under its key, over the case map of the runs. -/
def chromeStore : BrowserConfigStore :=
  ⟨GoMap.empty.set "ns/chrome:120" (some { image := "chrome:120" }), CaseMap.asciiOnly⟩

/-- A just-created Browser for chrome 120. -/
def chromeBrowser : Browser := { name := "b1", ns := "ns", spec := ⟨"chrome", "120"⟩ }

/-- The world in which `chromeBrowser` has just been created, with the store `store`. -/
def createdWorld (store : BrowserConfigStore) : World :=
  { browser := some chromeBrowser, pod := none, clock := 0, store := store,
    browserLog := [chromeBrowser], podLog := [none], podCreates := 0, finalized := false }

theorem createdWorld_initial (store : BrowserConfigStore) : (createdWorld store).Initial :=
  ⟨chromeBrowser, rfl, rfl, rfl, rfl, rfl, rfl, rfl, rfl, rfl⟩

/-- A reconciliation started and its first `n` calls answered `ok`. -/
def reconcileOk (n : Nat) : List Step := .start :: List.replicate n (.call .ok)

/-! ## From a specification of `reconcile` to every run -/

section Guarantee

variable {decode : String → Except String SelenosisOptions} {G : World → World → Prop}

/-- The reconciliation in flight still meets its specification: it is the rest of a program
whose weakest precondition held in an earlier world, and the other parties have acted since. -/
def Sys.OnTrack (G : World → World → Prop) (s : Sys) : Prop :=
  ∀ p, s.inflight = some p → ∃ w₀, Rely w₀ s.world ∧ p.wp G (fun _ _ => True) w₀

theorem Prog.pending_eq_some {α : Type} {p q : Prog α} (h : p.pending = some q) : q = p := by
  cases p <;> simp [Prog.pending] at h ⊢; exact h.symm

/-- One fresh step keeps the reconciliation on track, and moves the world by a `G` transition. -/
theorem Sys.OnTrack.step (hrefl : ∀ w, G w w) (henv : ∀ w a, G w (envStep w a))
    (hwp : ∀ w, (reconcile decode).wp G (fun _ _ => True) w) {s s' : Sys} {st : Step}
    (hs : s.OnTrack G) (hst : st.Fresh) (h : s.step decode st = some s') :
    s'.OnTrack G ∧ G s.world s'.world := by
  cases st with
  | start =>
    cases hi : s.inflight <;> simp only [Sys.step, hi, Option.some.injEq, reduceCtorEq] at h
    subst h
    refine ⟨fun p hp => ⟨s.world, Rely.refl _, ?_⟩, hrefl _⟩
    cases hp; exact hwp _
  | call o =>
    cases hi : s.inflight with
    | none => simp only [Sys.step, hi, reduceCtorEq] at h
    | some p =>
      obtain ⟨w₀, hr, hp⟩ := hs p hi
      cases p with
      | ret a => simp only [Sys.step, hi, reduceCtorEq] at h
      | call c k =>
        simp only [Sys.step, hi, Option.some.injEq] at h
        subst h
        obtain ⟨hg, hk⟩ := hp s.world hr o hst
        exact ⟨fun q hq => ⟨_, Rely.refl _, Prog.pending_eq_some hq ▸ hk⟩, hg⟩
  | env a =>
    simp only [Sys.step, Option.some.injEq] at h
    subst h
    refine ⟨fun p hp => ?_, henv _ _⟩
    obtain ⟨w₀, hr, hw⟩ := hs p hp
    exact ⟨w₀, hr.env a, hw⟩

/-- A guarantee that `reconcile` meets from every world, and that every move of the other
parties meets, holds of every step of every run whose reads are fresh. -/
theorem FreshReachable.guarantee (hrefl : ∀ w, G w w) (henv : ∀ w a, G w (envStep w a))
    (hwp : ∀ w, (reconcile decode).wp G (fun _ _ => True) w) {s s' : Sys} {st : Step}
    (hs : FreshReachable decode s) (hst : st.Fresh) (h : s.step decode st = some s') :
    G s.world s'.world := by
  have track : ∀ {s}, FreshReachable decode s → s.OnTrack G := by
    intro s hs
    induction hs with
    | init w _ => intro p hp; cases hp
    | step st _ hst' h' ih => exact (ih.step hrefl henv hwp hst' h').1
  exact ((track hs).step hrefl henv hwp hst h).2

end Guarantee

end BrowserController
