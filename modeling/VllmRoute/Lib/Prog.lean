import Mathlib.Data.Nat.Init
import Mathlib.Logic.Basic

/-!
# Programs of threads

A thread runs straight-line code between the heads of its loops. The code is a
tree of operations on what the thread shares with the rest of the system: an
operation is one atomic step, and the code goes on with its response. `body`
gives the code at each loop head, and a head without code is where the thread
ends.

`Ensures` is the proof rule for such code against any environment: a log of the
operations made so far satisfies an invariant before every operation, and at
the next loop head it satisfies the condition of that head.
-/
namespace VllmRoute.Lib

inductive Prog (Op : Type) (Resp : Op → Type) (α : Type) where
  | pure (a : α)
  | op (o : Op) (k : Resp o → Prog Op Resp α)

namespace Prog

variable {Op : Type} {Resp : Op → Type} {α β γ : Type}

def bind : Prog Op Resp α → (α → Prog Op Resp β) → Prog Op Resp β
  | .pure a, f => f a
  | .op o k, f => .op o fun r => (k r).bind f

instance : Monad (Prog Op Resp) where
  pure := .pure
  bind := bind

theorem map_id (p : Prog Op Resp α) : id <$> p = p := by
  induction p with
  | pure a => rfl
  | op o k ih => exact congrArg (Prog.op o) (funext ih)

theorem bind_assoc (p : Prog Op Resp α) (f : α → Prog Op Resp β) (g : β → Prog Op Resp γ) :
    p >>= f >>= g = p >>= fun a => f a >>= g := by
  induction p with
  | pure a => rfl
  | op o k ih => exact congrArg (Prog.op o) (funext ih)

instance : LawfulMonad (Prog Op Resp) :=
  LawfulMonad.mk' (Prog Op Resp) map_id (fun _ _ => rfl) bind_assoc

/-- One operation. -/
def perform (o : Op) : Prog Op Resp (Resp o) := .op o .pure

/-- Every operation that the code can make meets `ok`. -/
def Only (ok : Op → Prop) : Prog Op Resp α → Prop
  | .pure _ => True
  | .op o k => ok o ∧ ∀ r, (k r).Only ok

theorem Only.mono {ok ok' : Op → Prop} {p : Prog Op Resp α} (weaker : ∀ o, ok o → ok' o)
    (only : p.Only ok) : p.Only ok' := by
  induction p with
  | pure a => trivial
  | op o k ih => exact ⟨weaker o only.1, fun r => ih r (only.2 r)⟩

theorem only_true (p : Prog Op Resp α) : p.Only fun _ => True := by
  induction p with
  | pure a => trivial
  | op o k ih => exact ⟨trivial, ih⟩

theorem only_bind {ok : Op → Prop} {p : Prog Op Resp α} {f : α → Prog Op Resp β}
    (first : p.Only ok) (next : ∀ a, (f a).Only ok) : (p >>= f).Only ok := by
  induction p with
  | pure a => exact next a
  | op o k ih => exact ⟨first.1, fun r => ih r (first.2 r)⟩

variable (note : (o : Op) → Resp o → γ → γ) (inv : γ → Prop)

/-- Whatever the responses: `inv` holds of the log before each operation, and
`post` of the result and the log at the end. -/
def Ensures (post : α → γ → Prop) : Prog Op Resp α → γ → Prop
  | .pure a, log => post a log
  | .op o k, log => inv log ∧ ∀ r, Ensures post (k r) (note o r log)

/-- A log that also says whether the responses so far met `rely`. -/
def relying (rely : (o : Op) → Resp o → γ → Prop) (o : Op) (r : Resp o) (log : γ × Prop) :
    γ × Prop := (note o r log.1, log.2 ∧ rely o r log.1)

variable {note inv}

@[simp] theorem ensures_pure (post : α → γ → Prop) (a : α) (log : γ) :
    Ensures note inv post (Pure.pure a : Prog Op Resp α) log ↔ post a log := Iff.rfl

@[simp] theorem ensures_perform (o : Op) (post : Resp o → γ → Prop) (log : γ) :
    Ensures note inv post (perform o) log ↔ inv log ∧ ∀ r, post r (note o r log) := Iff.rfl

@[simp] theorem ensures_bind (post : β → γ → Prop) (p : Prog Op Resp α) (f : α → Prog Op Resp β)
    (log : γ) : Ensures note inv post (p >>= f) log ↔
      Ensures note inv (fun a log => Ensures note inv post (f a) log) p log := by
  induction p generalizing log with
  | pure a => exact Iff.rfl
  | op o k ih => exact and_congr_right fun _ => forall_congr' fun r => ih r _

@[simp] theorem ensures_map (post : β → γ → Prop) (p : Prog Op Resp α) (f : α → β) (log : γ) :
    Ensures note inv post (f <$> p) log ↔
      Ensures note inv (fun a log => post (f a) log) p log :=
  ensures_bind post p (fun a => Pure.pure (f a)) log

theorem Ensures.mono {post post' : α → γ → Prop} {p : Prog Op Resp α} {log : γ}
    (weaker : ∀ a log, post a log → post' a log) (ensures : Ensures note inv post p log) :
    Ensures note inv post' p log := by
  induction p generalizing log with
  | pure a => exact weaker a log ensures
  | op o k ih => exact ⟨ensures.1, fun r => ih r (ensures.2 r)⟩

theorem Ensures.bind {post : α → γ → Prop} {post' : β → γ → Prop} {p : Prog Op Resp α}
    {f : α → Prog Op Resp β} {log : γ} (first : Ensures note inv post p log)
    (next : ∀ a log, post a log → Ensures note inv post' (f a) log) :
    Ensures note inv post' (p >>= f) log :=
  (ensures_bind post' p f log).mpr (first.mono next)

/-- The same code under a weaker invariant. -/
theorem Ensures.weaken {inv' : γ → Prop} {post : α → γ → Prop} {p : Prog Op Resp α} {log : γ}
    (weaker : ∀ log, inv log → inv' log) (ensures : Ensures note inv post p log) :
    Ensures note inv' post p log := by
  induction p generalizing log with
  | pure a => exact ensures
  | op o k ih => exact ⟨weaker log ensures.1, fun r => ih r (ensures.2 r)⟩

/-- An operation that leaves the log as it is. -/
theorem ensures_unnoted {post : α → γ → Prop} {o : Op} {f : Resp o → Prog Op Resp α} {log : γ}
    (unnoted : ∀ r, note o r log = log) (holds : inv log)
    (next : ∀ r, Ensures note inv post (f r) log) :
    Ensures note inv post (perform o >>= f) log := by
  refine ⟨holds, fun r => ?_⟩
  -- whatever the response, the rest starts from the same log
  rw [unnoted r]
  exact next r

/-- Code all of whose operations leave the log as it is. -/
theorem ensures_only {post : α → γ → Prop} {ok : Op → Prop} {p : Prog Op Resp α} {log : γ}
    (unnoted : ∀ o, ok o → ∀ r, note o r log = log) (only : p.Only ok) (holds : inv log)
    (ends : ∀ a, post a log) : Ensures note inv post p log := by
  induction p with
  | pure a => exact ends a
  | op o k ih =>
    refine ⟨holds, fun r => ?_⟩
    rw [unnoted o only.1 r]
    exact ih r (only.2 r)

/-- Where the code stands, the invariant holds, if its end meets it too. -/
theorem Ensures.now {post : α → γ → Prop} {p : Prog Op Resp α} {log : γ}
    (ensures : Ensures note inv post p log) (ends : ∀ a log, post a log → inv log) : inv log := by
  cases p with
  | pure a => exact ends a log ensures
  | op o k => exact ensures.1

section Total

variable (note) (rely : (o : Op) → Resp o → γ → Prop)

/-- With responses that meet `rely`, the code comes to its end, and `post` holds there. -/
def Meets (post : α → γ → Prop) : Prog Op Resp α → γ → Prop
  | .pure a, log => post a log
  | .op o k, log => ∀ r, rely o r log → Meets post (k r) (note o r log)

variable {note rely}

theorem Meets.mono {post post' : α → γ → Prop} {p : Prog Op Resp α} {log : γ}
    (weaker : ∀ a log, post a log → post' a log) (meets : Meets note rely post p log) :
    Meets note rely post' p log := by
  induction p generalizing log with
  | pure a => exact weaker a log meets
  | op o k ih => exact fun r holds => ih r (meets r holds)

theorem Meets.bind {post : α → γ → Prop} {post' : β → γ → Prop} {p : Prog Op Resp α}
    {f : α → Prog Op Resp β} {log : γ} (first : Meets note rely post p log)
    (next : ∀ a log, post a log → Meets note rely post' (f a) log) :
    Meets note rely post' (p >>= f) log := by
  induction p generalizing log with
  | pure a => exact next a log first
  | op o k ih => exact fun r holds => ih r (first r holds)

end Total

section Sequential

variable {σ : Type} (exec : σ → (o : Op) → Option (Resp o × σ))

/-- The code run on its own to its end, when no operation gets stuck. -/
def complete : Prog Op Resp α → σ → Option (α × σ)
  | .pure a, s => some (a, s)
  | .op o k, s => (exec s o).bind fun (r, s') => complete (k r) s'

/-- The code run on its own comes to its end, and `post` holds there. -/
def Completes (post : α → σ → Prop) : Prog Op Resp α → σ → Prop
  | .pure a, s => post a s
  | .op o k, s => ∃ r s', exec s o = some (r, s') ∧ Completes post (k r) s'

variable {exec}

/-- One operation, and what follows it. -/
theorem complete_op {o : Op} {f : Resp o → Prog Op Resp α} {r : Resp o} {s s' : σ}
    (executed : exec s o = some (r, s')) :
    (perform o >>= f).complete exec s = (f r).complete exec s' := by
  change (exec s o).bind _ = _
  rw [executed]
  rfl

theorem complete_bind (p : Prog Op Resp α) (f : α → Prog Op Resp β) (s : σ) :
    (p >>= f).complete exec s = (p.complete exec s).bind fun r => (f r.1).complete exec r.2 := by
  induction p generalizing s with
  | pure a => rfl
  | op o k ih =>
    change (exec s o).bind _ = ((exec s o).bind _).bind _
    cases exec s o with
    | none => rfl
    | some r => exact ih r.1 r.2

/-- What every operation of the code keeps, the code keeps. -/
theorem complete_only {ok : Op → Prop} (inv : σ → Prop)
    (kept : ∀ s o r s', ok o → exec s o = some (r, s') → inv s → inv s') {p : Prog Op Resp α}
    {s s' : σ} {a : α} (only : p.Only ok) (ends : p.complete exec s = some (a, s'))
    (now : inv s) : inv s' := by
  induction p generalizing s with
  | pure a =>
    cases ends
    exact now
  | op o k ih =>
    obtain ⟨⟨r, t⟩, executed, rest⟩ := Option.bind_eq_some_iff.mp ends
    exact ih r (only.2 r) rest (kept s o r t only.1 executed now)

theorem complete_invariant (inv : σ → Prop)
    (kept : ∀ s o r s', exec s o = some (r, s') → inv s → inv s') {p : Prog Op Resp α} {s s' : σ}
    {a : α} (ends : p.complete exec s = some (a, s')) (now : inv s) : inv s' :=
  complete_only inv (fun s o r s' _ => kept s o r s') (only_true p) ends now

theorem Completes.complete {post : α → σ → Prop} {p : Prog Op Resp α} {s : σ}
    (completes : Completes exec post p s) :
    ∃ a s', p.complete exec s = some (a, s') ∧ post a s' := by
  induction p generalizing s with
  | pure a => exact ⟨a, s, rfl, completes⟩
  | op o k ih =>
    obtain ⟨r, s', executed, rest⟩ := completes
    obtain ⟨a, t, ends, holds⟩ := ih r rest
    exact ⟨a, t, by simp only [Prog.complete, executed, Option.bind_some, ends], holds⟩

theorem Completes.mono {post post' : α → σ → Prop} {p : Prog Op Resp α} {s : σ}
    (weaker : ∀ a s, post a s → post' a s) (completes : Completes exec post p s) :
    Completes exec post' p s := by
  induction p generalizing s with
  | pure a => exact weaker a s completes
  | op o k ih =>
    obtain ⟨r, s', executed, rest⟩ := completes
    exact ⟨r, s', executed, ih r rest⟩

theorem Completes.bind {post : α → σ → Prop} {post' : β → σ → Prop} {p : Prog Op Resp α}
    {f : α → Prog Op Resp β} {s : σ} (first : Completes exec post p s)
    (next : ∀ a s, post a s → Completes exec post' (f a) s) :
    Completes exec post' (p >>= f) s := by
  induction p generalizing s with
  | pure a => exact next a s first
  | op o k ih =>
    obtain ⟨r, s', executed, rest⟩ := first
    exact ⟨r, s', executed, ih r rest⟩

end Sequential

end Prog

section Threads

variable {Op : Type} {Resp : Op → Type} {Point γ σ : Type}
variable (body : Point → Option (Prog Op Resp Point)) (note : (o : Op) → Resp o → γ → γ)

/-- A thread with the log of what it did. -/
structure Thread (Op : Type) (Resp : Op → Type) (Point γ : Type) where
  prog : Prog Op Resp Point
  log : γ

/-- A step of a thread in a system with shared state `σ`: it enters the code of a
loop head, or makes its next operation. -/
def Thread.step (exec : σ → (o : Op) → Option (Resp o × σ)) (t : Thread Op Resp Point γ) (s : σ) :
    Option (Thread Op Resp Point γ × σ) :=
  match t.prog with
  | .pure pt => (body pt).map fun p => (⟨p, t.log⟩, s)
  | .op o k => (exec s o).map fun (r, s') => (⟨k r, note o r t.log⟩, s')

/-- The runs of a thread against an arbitrary environment. -/
inductive Steps : Thread Op Resp Point γ → Thread Op Resp Point γ → Prop where
  | refl (t : Thread Op Resp Point γ) : Steps t t
  | enter {pt : Point} {p : Prog Op Resp Point} {log : γ} {t : Thread Op Resp Point γ}
      (code : body pt = some p) (rest : Steps ⟨p, log⟩ t) : Steps ⟨.pure pt, log⟩ t
  | respond {o : Op} {k : Resp o → Prog Op Resp Point} {log : γ} {t : Thread Op Resp Point γ}
      (r : Resp o) (rest : Steps ⟨k r, note o r log⟩ t) : Steps ⟨.op o k, log⟩ t

/-- The conditions of the loop heads carry over from head to head. -/
def Loops (inv : γ → Prop) (head : Point → γ → Prop) : Prop :=
  ∀ pt p log, body pt = some p → head pt log → p.Ensures note inv head log

variable {body note} {inv : γ → Prop} {head : Point → γ → Prop}

/-- The two kinds of steps. -/
theorem Thread.step_cases {exec : σ → (o : Op) → Option (Resp o × σ)}
    {t t' : Thread Op Resp Point γ} {s s' : σ} (taken : t.step body note exec s = some (t', s')) :
    (∃ pt p, t.prog = .pure pt ∧ body pt = some p ∧ t' = ⟨p, t.log⟩ ∧ s' = s) ∨
      ∃ o k r, t.prog = .op o k ∧ exec s o = some (r, s') ∧ t' = ⟨k r, note o r t.log⟩ := by
  obtain ⟨prog, log⟩ := t
  cases prog with
  | pure pt =>
    simp only [step, Option.map_eq_some_iff] at taken
    obtain ⟨p, code, equal⟩ := taken
    cases equal
    exact Or.inl ⟨pt, p, rfl, code, rfl, rfl⟩
  | op o k =>
    simp only [step, Option.map_eq_some_iff] at taken
    obtain ⟨⟨r, s''⟩, executed, equal⟩ := taken
    cases equal
    exact Or.inr ⟨o, k, r, rfl, executed, rfl⟩

theorem Thread.step_ensures (loops : Loops body note inv head)
    {exec : σ → (o : Op) → Option (Resp o × σ)} {t t' : Thread Op Resp Point γ} {s s' : σ}
    (taken : t.step body note exec s = some (t', s'))
    (before : t.prog.Ensures note inv head t.log) :
    t'.prog.Ensures note inv head t'.log := by
  rcases step_cases taken with ⟨pt, p, prog, code, rfl, _⟩ | ⟨o, k, r, prog, _, rfl⟩
  · rw [prog] at before
    exact loops pt p t.log code before
  · rw [prog] at before
    exact before.2 r

theorem Steps.ensures (loops : Loops body note inv head) {t t' : Thread Op Resp Point γ}
    (steps : Steps body note t t') (before : t.prog.Ensures note inv head t.log) :
    t'.prog.Ensures note inv head t'.log := by
  -- on the run: entering a head uses its condition, a response the code itself
  induction steps with
  | refl t => exact before
  | enter code _ ih => exact ih (loops _ _ _ code before)
  | respond r _ ih => exact ih (before.2 r)

end Threads

section Returning

variable {Op : Type} {Resp : Op → Type} {Point γ γ' : Type}
variable (body : Point → Option (Prog Op Resp Point)) (note : (o : Op) → Resp o → γ → γ)
variable (rely : (o : Op) → Resp o → γ → Prop) (final : Point → γ → Prop)

/-- With responses that meet `rely`, the thread comes to a head where `final` holds, after
finitely many steps. -/
inductive Returns : Prog Op Resp Point → γ → Prop where
  | done {pt : Point} {log : γ} (holds : final pt log) : Returns (.pure pt) log
  | enter {pt : Point} {p : Prog Op Resp Point} {log : γ} (code : body pt = some p)
      (rest : Returns p log) : Returns (.pure pt) log
  | respond {o : Op} {k : Resp o → Prog Op Resp Point} {log : γ}
      (rest : ∀ r, rely o r log → Returns (k r) (note o r log)) : Returns (.op o k) log

variable {body note rely final}

theorem Returns.mono {final' : Point → γ → Prop} {p : Prog Op Resp Point} {log : γ}
    (weaker : ∀ pt log, final pt log → final' pt log)
    (returns : Returns body note rely final p log) :
    Returns body note rely final' p log := by
  induction returns with
  | done holds => exact .done (weaker _ _ holds)
  | enter code _ ih => exact .enter code ih
  | respond _ ih => exact .respond ih

end Returning

end VllmRoute.Lib
