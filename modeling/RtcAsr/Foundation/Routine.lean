import Mathlib.Tactic.Common

/-!
# Programs that wait for their environment

A `Routine σ τ ε α` is a program over a state `σ` that may stop and wait.  The environment is a list
of turns: a program that waits takes turns from it, which can change the state, until one of them
answers, with a value or with an exception.  When the turns are used up, the program is suspended
where it waits, so the states in which runs are suspended are the states that can be seen while the
program waits, and a statement about every list of turns is a statement about every environment.

`Routine.Ensures` says how a program may end, by a `Post` with a condition for each of the three
ends. The rules are one for each way of building programs; `ensures_await` is the rule for waiting,
with an invariant of the turns that do not answer.
-/

universe u

/-- How a program ends on a list of turns. -/
inductive Routine.Outcome (σ τ ε α : Type u)
  /-- It returns, with the turns that are left. -/
  | done (a : α) (s : σ) (turns : List τ)
  /-- It raises, with the turns that are left. -/
  | raised (e : ε) (s : σ) (turns : List τ)
  /-- It waits. -/
  | suspended (s : σ)

namespace Routine.Outcome

variable {σ τ ε α : Type u}

/-- The state at the end. -/
def state : Outcome σ τ ε α → σ
  | done _ s _ => s
  | raised _ s _ => s
  | suspended s => s

/-- The result, the state and the turns that are left when the program returned. -/
def done? : Outcome σ τ ε α → Option (α × σ × List τ)
  | done a s turns => some (a, s, turns)
  | raised _ _ _ => none
  | suspended _ => none

/-- A program that returned. -/
lemma eq_done_of_done? {o : Outcome σ τ ε α} {a : α} {s : σ} {turns : List τ}
    (h : o.done? = some (a, s, turns)) : o = .done a s turns := by
  cases o with
  | done a' s' turns' =>
    obtain ⟨rfl, rfl, rfl⟩ : a' = a ∧ s' = s ∧ turns' = turns := by simpa [done?] using h
    rfl
  | raised e t turns' => cases h
  | suspended t => cases h

end Routine.Outcome

/-- A program with state `σ`, turns `τ`, exceptions `ε` and results `α`. -/
def Routine (σ τ ε α : Type u) := σ → List τ → Routine.Outcome σ τ ε α

namespace Routine

variable {σ τ ε α β : Type u}

/-! ## Building programs -/

/-- One program after the other. -/
def bind (m : Routine σ τ ε α) (f : α → Routine σ τ ε β) : Routine σ τ ε β := fun s turns =>
  match m s turns with
  | .done a s turns => f a s turns
  | .raised e s turns => .raised e s turns
  | .suspended s => .suspended s

/-- A handler for what a program raises. -/
def catching (m : Routine σ τ ε α) (handler : ε → Routine σ τ ε α) : Routine σ τ ε α :=
  fun s turns =>
  match m s turns with
  | .done a s turns => .done a s turns
  | .raised e s turns => handler e s turns
  | .suspended s => .suspended s

/-- Waiting: each turn changes the state and may bring an answer. -/
def awaitFrom (poll : σ → τ → σ × Option (Except ε α)) : σ → List τ → Outcome σ τ ε α
  | s, [] => .suspended s
  | s, turn :: turns =>
    match poll s turn with
    | (s, none) => awaitFrom poll s turns
    | (s, some (.ok a)) => .done a s turns
    | (s, some (.error e)) => .raised e s turns

/-- Waiting for an answer of the environment. -/
def await (poll : σ → τ → σ × Option (Except ε α)) : Routine σ τ ε α := awaitFrom poll

instance : Monad (Routine σ τ ε) where
  pure a := fun s turns => .done a s turns
  bind := bind

instance : MonadExceptOf ε (Routine σ τ ε) where
  throw e := fun s turns => .raised e s turns
  tryCatch := catching

instance : MonadStateOf σ (Routine σ τ ε) where
  get := fun s turns => .done s s turns
  set s := fun _ turns => .done ⟨⟩ s turns
  modifyGet f := fun s turns => .done (f s).1 (f s).2 turns

/-- A program that is run when another one ended, in either way. -/
def finalizing (m : Routine σ τ ε α) (finalizer : Option α → Routine σ τ ε β) :
    Routine σ τ ε (α × β) := fun s turns =>
  match m s turns with
  | .done a s turns => (finalizer (some a) >>= fun b => pure (a, b)) s turns
  | .raised e s turns => (finalizer none >>= fun _ => throw e) s turns
  | .suspended s => .suspended s

instance : MonadFinally (Routine σ τ ε) where
  tryFinally' := finalizing

/-! ## What a program ensures -/

/-- A condition for each way of ending. -/
structure Post (σ ε α : Type u) where
  /-- It returned. -/
  done : α → σ → Prop
  /-- It raised. -/
  raised : ε → σ → Prop
  /-- It waits. -/
  suspended : σ → Prop

/-- The end of a program meets the condition for it. -/
def Meets (Q : Post σ ε α) : Outcome σ τ ε α → Prop
  | .done a s _ => Q.done a s
  | .raised e s _ => Q.raised e s
  | .suspended s => Q.suspended s

/-- Started in `s`, the program ends as `Q` says, whatever the turns are. -/
def Ensures (m : Routine σ τ ε α) (s : σ) (Q : Post σ ε α) : Prop := ∀ turns, Meets Q (m s turns)

variable {m : Routine σ τ ε α} {s : σ} {Q R : Post σ ε α}

/-- An end that meets a condition meets a weaker one. -/
lemma Meets.mono {o : Outcome σ τ ε α} (h : Meets Q o) (hdone : ∀ a t, Q.done a t → R.done a t)
    (hraised : ∀ e t, Q.raised e t → R.raised e t)
    (hsuspended : ∀ t, Q.suspended t → R.suspended t) : Meets R o := by
  cases o with
  | done a t rest => exact hdone a t h
  | raised e t rest => exact hraised e t h
  | suspended t => exact hsuspended t h

/-- A weaker condition. -/
lemma Ensures.mono (h : m.Ensures s Q) (hdone : ∀ a t, Q.done a t → R.done a t)
    (hraised : ∀ e t, Q.raised e t → R.raised e t)
    (hsuspended : ∀ t, Q.suspended t → R.suspended t) : m.Ensures s R :=
  fun turns => (h turns).mono hdone hraised hsuspended

/-- What all ends have in common holds at the end of every run. -/
lemma Ensures.state {I : σ → Prop}
    (h : m.Ensures s { done := fun _ => I, raised := fun _ => I, suspended := I })
    (turns : List τ) : I (m s turns).state := by
  have hm := h turns
  cases hend : m s turns with
  | done a t rest =>
    rw [hend] at hm
    exact hm
  | raised e t rest =>
    rw [hend] at hm
    exact hm
  | suspended t =>
    rw [hend] at hm
    exact hm

/-! ## The rules -/

/-- Returning. -/
lemma ensures_pure {a : α} (h : Q.done a s) : (pure a : Routine σ τ ε α).Ensures s Q := fun _ => h

/-- Raising. -/
lemma ensures_throw {e : ε} (h : Q.raised e s) : (throw e : Routine σ τ ε α).Ensures s Q :=
  fun _ => h

/-- Reading the state. -/
lemma ensures_get {Q : Post σ ε σ} (h : Q.done s s) : (get : Routine σ τ ε σ).Ensures s Q :=
  fun _ => h

/-- Changing the state. -/
lemma ensures_modify {Q : Post σ ε PUnit} {f : σ → σ} (h : Q.done ⟨⟩ (f s)) :
    (modify f : Routine σ τ ε PUnit).Ensures s Q := fun _ => h

/-- One program after the other. -/
lemma ensures_bind {Q : Post σ ε β} {f : α → Routine σ τ ε β}
    (h : m.Ensures s
      { done := fun a t => (f a).Ensures t Q, raised := Q.raised, suspended := Q.suspended }) :
    (m >>= f).Ensures s Q := by
  intro turns
  have hm := h turns
  change Meets Q (bind m f s turns)
  unfold bind
  cases hend : m s turns with
  | done a t rest =>
    rw [hend] at hm
    exact hm rest
  | raised e t rest =>
    rw [hend] at hm
    exact hm
  | suspended t =>
    rw [hend] at hm
    exact hm

/-- A handler. -/
lemma ensures_tryCatch {handler : ε → Routine σ τ ε α}
    (h : m.Ensures s
      { done := Q.done
        raised := fun e t => (handler e).Ensures t Q
        suspended := Q.suspended }) :
    (tryCatch m handler).Ensures s Q := by
  intro turns
  have hm := h turns
  change Meets Q (catching m handler s turns)
  unfold catching
  cases hend : m s turns with
  | done a t rest =>
    rw [hend] at hm
    exact hm
  | raised e t rest =>
    rw [hend] at hm
    exact hm rest
  | suspended t =>
    rw [hend] at hm
    exact hm

/-- A finalizer: after an exception it is run for its effect, and the exception goes on. -/
lemma ensures_tryFinally {finalizer : Routine σ τ ε β}
    (h : m.Ensures s
      { done := fun a t => finalizer.Ensures t
          { done := fun _ => Q.done a, raised := Q.raised, suspended := Q.suspended }
        raised := fun e t => finalizer.Ensures t
          { done := fun _ => Q.raised e, raised := Q.raised, suspended := Q.suspended }
        suspended := Q.suspended }) :
    (tryFinally m finalizer).Ensures s Q := by
  let R : Post σ ε (α × β) :=
    { done := fun p => Q.done p.1, raised := Q.raised, suspended := Q.suspended }
  have hfinal : (finalizing m fun _ => finalizer).Ensures s R := by
    intro turns
    have hm := h turns
    unfold finalizing
    cases hend : m s turns with
    | done a t rest =>
      rw [hend] at hm
      have hpair : (finalizer >>= fun b => (pure (a, b) : Routine σ τ ε (α × β))).Ensures t R :=
        ensures_bind (Ensures.mono hm (fun _ _ hb => ensures_pure hb) (fun _ _ he => he)
          fun _ ht => ht)
      exact hpair rest
    | raised e t rest =>
      rw [hend] at hm
      have hraise : (finalizer >>= fun _ => (throw e : Routine σ τ ε (α × β))).Ensures t R :=
        ensures_bind (Ensures.mono hm (fun _ _ hb => ensures_throw hb) (fun _ _ he => he)
          fun _ ht => ht)
      exact hraise rest
    | suspended t =>
      rw [hend] at hm
      exact hm
  refine ensures_bind (hfinal.mono (fun p t hp => ?_) (fun _ _ h => h) fun _ h => h)
  exact ensures_pure hp

/-- **Waiting.**  An invariant of the turns that bring no answer holds when the answer comes, and
wherever the program is suspended. -/
lemma ensures_await {poll : σ → τ → σ × Option (Except ε α)} {I : σ → Prop} (hI : I s)
    (hturn : ∀ t turn t', I t → poll t turn = (t', none) → I t')
    (hdone : ∀ t turn t' a, I t → poll t turn = (t', some (.ok a)) → Q.done a t')
    (hraised : ∀ t turn t' e, I t → poll t turn = (t', some (.error e)) → Q.raised e t')
    (hsuspended : ∀ t, I t → Q.suspended t) : (await poll).Ensures s Q := by
  intro turns
  unfold await
  induction turns generalizing s with
  | nil => exact hsuspended s hI
  | cons turn turns ih =>
    unfold awaitFrom
    rcases hpoll : poll s turn with ⟨t, _ | e | a⟩
    · exact ih (hturn s turn t hI hpoll)
    · exact hraised s turn t e hI hpoll
    · exact hdone s turn t a hI hpoll

end Routine
