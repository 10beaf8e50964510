import Mathlib.Logic.Relation
import BrowserController.Api.Server

/-!
# A program logic for reconciliations

`Prog.wp G p post w` says: run `p` from world `w`, with the other parties acting any number of
times before each call (`Rely`) and every call answered from the objects as they stand
(`Outcome.Fresh`: no lagging read); then every call moves the world by a transition that
satisfies `G`, and the result satisfies `post` in the world after the last call.

It is a fold over the program with one predicate transformer per call (`callWp`), so `wp_bind`
splits a `do` block at its binds, `wp_mono` weakens a postcondition, and each function of the
reconciler gets one specification that its callers cite. Properties that all moves of the other
parties keep are `Stable`; the call rules below hand the caller the world after those moves.
-/

namespace BrowserController

/-! ## The other parties -/

/-- The other parties' moves between two calls: any number of `envStep`s. -/
def Rely : World → World → Prop :=
  Relation.ReflTransGen fun w w' => ∃ a, w' = envStep w a

/-- A property of the world that every move of the other parties keeps. -/
def Stable (P : World → Prop) : Prop := ∀ ⦃w w'⦄, Rely w w' → P w → P w'

theorem Rely.refl (w : World) : Rely w w := Relation.ReflTransGen.refl

theorem Rely.trans {w₁ w₂ w₃ : World} (h₁ : Rely w₁ w₂) (h₂ : Rely w₂ w₃) : Rely w₁ w₃ :=
  Relation.ReflTransGen.trans h₁ h₂

theorem Rely.env {w w' : World} (h : Rely w w') (a : EnvAct) : Rely w (envStep w' a) :=
  Relation.ReflTransGen.tail h ⟨a, rfl⟩

/-- A property that one move of the other parties keeps is stable. -/
theorem stable_of_envStep {P : World → Prop} (h : ∀ w a, P w → P (envStep w a)) : Stable P := by
  intro w w' hr hw
  induction hr with
  | refl => exact hw
  | tail _ hstep ih => obtain ⟨a, rfl⟩ := hstep; exact h _ a ih

/-- An answer given from the objects as they stand: no lagging cache. -/
def Outcome.Fresh : Outcome → Prop
  | .stale _ => False
  | _ => True

instance : DecidablePred Outcome.Fresh
  | .stale _ => isFalse id
  | .ok => isTrue trivial
  | .fail _ => isTrue trivial

/-! ## Weakest preconditions -/

section Wp

variable (G : World → World → Prop)

/-- What one call needs of the world `w` for the rest `Q` of the program: after any moves of
the other parties, every fresh answer moves the world by a `G` transition and leaves a world in
which `Q` holds of the answer. -/
def callWp (c : Call) (Q : c.Resp → World → Prop) (w : World) : Prop :=
  ∀ w₁, Rely w w₁ → ∀ o, o.Fresh → G w₁ (exec o w₁ c).1 ∧ Q (exec o w₁ c).2 (exec o w₁ c).1

/-- The weakest precondition of a program for `post`, every call satisfying `G`. -/
def Prog.wp {α : Type} : Prog α → (α → World → Prop) → World → Prop
  | .ret a, post, w => post a w
  | .call c k, post, w => callWp G c (fun r => (k r).wp post) w

variable {G} {α β : Type}

@[simp] theorem Prog.wp_ret (a : α) (post : α → World → Prop) (w : World) :
    (Prog.ret a).wp G post w = post a w := rfl

@[simp] theorem Prog.wp_pure (a : α) (post : α → World → Prop) (w : World) :
    (pure a : Prog α).wp G post w = post a w := rfl

@[simp] theorem Prog.wp_op (c : Call) (post : c.Resp → World → Prop) (w : World) :
    (Prog.op c).wp G post w = callWp G c post w := rfl

theorem Prog.wp_call (c : Call) (k : c.Resp → Prog α) (post : α → World → Prop) (w : World) :
    (Prog.call c k).wp G post w = callWp G c (fun r => (k r).wp G post) w := rfl

/-- Sequencing: the precondition of the rest is the postcondition of the first part. -/
@[simp] theorem Prog.wp_bind (p : Prog α) (f : α → Prog β) (post : β → World → Prop) :
    (p >>= f).wp G post = p.wp G fun a => (f a).wp G post := by
  induction p with
  | ret a => rfl
  | call c k ih => funext w; simp only [Prog.call_bind, Prog.wp_call, ih]

/-- Consequence: a weaker postcondition. -/
theorem Prog.wp_mono {p : Prog α} {post post' : α → World → Prop}
    (h : ∀ a w, post a w → post' a w) : ∀ {w}, p.wp G post w → p.wp G post' w := by
  induction p with
  | ret a => exact h a _
  | call c k ih =>
    intro w hp w₁ hr o ho
    exact ⟨(hp w₁ hr o ho).1, ih _ (hp w₁ hr o ho).2⟩

/-- Sequencing with an intermediate postcondition `Q`. -/
theorem Prog.wp_bind_of {p : Prog α} {f : α → Prog β} {Q : α → World → Prop}
    {post : β → World → Prop} {w : World} (hp : p.wp G Q w)
    (hf : ∀ a w, Q a w → (f a).wp G post w) : (p >>= f).wp G post w := by
  rw [Prog.wp_bind]; exact Prog.wp_mono hf hp

/-! ## Call rules -/

/-- A call that changes nothing (a read of the pod or the store, the clock): every answer, in
every world the other parties reach. -/
theorem callWp_of_read {c : Call} {Q : c.Resp → World → Prop} {w : World}
    (hc : ∀ o w, (exec o w c).1 = w)
    (h : ∀ w₁, Rely w w₁ → G w₁ w₁ ∧ ∀ r, Q r w₁) : callWp G c Q w := by
  intro w₁ hr o _
  rw [hc]; exact ⟨(h w₁ hr).1, (h w₁ hr).2 _⟩

/-- A fresh read of the Browser returns the stored one, or an error. -/
theorem callWp_getBrowser {Q : Except ApiError Browser → World → Prop} {w : World}
    (h : ∀ w₁, Rely w w₁ → G w₁ w₁ ∧ (∀ b, w₁.browser = some b → Q (.ok b) w₁) ∧
      ∀ e, Q (.error e) w₁) : callWp G .getBrowser Q w := by
  intro w₁ hr o ho
  obtain ⟨hg, hok, herr⟩ := h w₁ hr
  refine ⟨hg, ?_⟩
  cases o with
  | ok =>
    cases hb : w₁.browser with
    | none => simp only [exec, World.readBrowser, hb]; exact herr _
    | some b => simp only [exec, World.readBrowser, hb]; exact hok b hb
  | stale i => exact ho.elim
  | fail e => exact herr e

/-- A write of the stored Browser by `upd`: no effect on an error or a missing Browser, else the
stored Browser replaced by `upd` of it. -/
theorem writeBrowser_cases (w : World) (o : Outcome) (upd : Browser → Option Browser) :
    (∃ e, w.writeBrowser o upd = (w, .error e)) ∨
    ∃ b, w.browser = some b ∧ w.writeBrowser o upd = (w.commitBrowser (upd b), .ok ()) := by
  unfold World.writeBrowser
  split
  · exact .inl ⟨_, rfl⟩
  · exact .inl ⟨_, rfl⟩
  · exact .inr ⟨_, ‹_›, rfl⟩

end Wp

end BrowserController
