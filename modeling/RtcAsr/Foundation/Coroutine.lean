import RtcAsr.Foundation.StepSystem
import Mathlib.Data.List.Chain
import Mathlib.Logic.Function.Basic

/-!
# Cooperative tasks with call stacks

A program of coroutines run by one event loop.  A task is a stack of frames; a frame is an
activation of a function, stopped at one of its suspension points, with its local variables.  The
scheduler resumes one suspended task with a signal, the task then runs alone, one frame move after
the other, until it awaits something again or ends.  A frame move reads and writes the shared
state, starts and cancels tasks, and ends with a command: await, call, return or raise.

Cancelling a task marks it, and the mark is delivered as an exception where the task is resumed
next; a task that awaits another task passes the request on to that one.

`Coroutines.Lawful` says that a frame stays in its function and that a caller remembers what it
called; `shaped_of_reaches` then gives the shape of every stack.  `Outline` is an assertion for
every frame of every task, with a rule for each kind of step, and `EntersIn` one for the calls that
are being entered.
-/

/-- The exceptions a task can see: its own cancellation and those of the program. -/
inductive TaskExn (ε : Type*)
  | cancelled
  | raised (e : ε)
  deriving DecidableEq, Repr

/-- What a frame is resumed with: a value, or an exception. -/
inductive Signal (ν ε : Type*)
  | value (v : ν)
  | failed (e : TaskExn ε)

/-- How a frame move ends. -/
inductive Command (φ κ ε : Type*)
  /-- The task is suspended, with this frame on top. -/
  | await (f : φ)
  /-- The frame goes on as this one when the called function is done. -/
  | call (f : φ) (k : κ)
  | ret
  | throw (e : TaskExn ε)

/-- The effect of a frame move. -/
structure Move (σ φ κ ε : Type*) where
  shared : σ
  command : Command φ κ ε
  /-- The calls that new tasks begin with, in the order in which the tasks are created. -/
  spawn : List κ := []
  /-- The tasks that are asked to stop. -/
  cancel : List ℕ := []

namespace Move

variable {σ φ κ ε : Type*}

/-- The task is suspended. -/
def await (s : σ) (f : φ) : Move σ φ κ ε := { shared := s, command := .await f }

/-- The frame calls a function. -/
def call (s : σ) (f : φ) (k : κ) : Move σ φ κ ε := { shared := s, command := .call f k }

/-- The frame returns. -/
def ret (s : σ) : Move σ φ κ ε := { shared := s, command := .ret }

/-- The frame raises. -/
def throw (s : σ) (e : TaskExn ε) : Move σ φ κ ε := { shared := s, command := .throw e }

end Move

/-- A program of coroutines over a shared state `σ`: `φ` are its frames, `κ` its functions with
their arguments, `ν` the values it receives, `ε` its exceptions, and `χ` the events outside. -/
structure Coroutines (σ φ κ ν ε χ : Type*) where
  /-- The frame move of a task, given its number and the number of the next new task. -/
  resume : ℕ → ℕ → φ → Signal ν ε → σ → Move σ φ κ ε
  /-- The signals with which what a frame awaits can end. -/
  answers : σ → φ → Signal ν ε → Bool
  /-- The task a frame awaits, if it awaits one. -/
  awaited : φ → Option ℕ
  /-- The effect of an event outside the event loop. -/
  outside : χ → σ → σ
  /-- The first frame of a call. -/
  enter : κ → φ
  /-- The call a frame belongs to. -/
  fn : φ → κ
  /-- The call a frame waits for. -/
  pending : φ → Option κ
  /-- The functions the environment calls. -/
  callable : κ → Bool
  /-- What a call begins with, and what a function without a result returns. -/
  none : ν

/-- The tasks and the shared state. -/
structure World (σ φ ν ε : Type*) where
  shared : σ
  /-- The frames of a task, the innermost call first; a task that ended has none. -/
  stack : ℕ → List φ
  /-- The tasks with a cancellation that was not delivered yet. -/
  cancelled : ℕ → Bool
  /-- The exception an ended task ended with. -/
  exn : ℕ → Option (TaskExn ε)
  /-- The number of tasks created. -/
  spawned : ℕ
  /-- The task that runs, with the signal for its innermost frame. -/
  running : Option (ℕ × Signal ν ε)

/-- The world before anything was called. -/
def World.initial {σ φ ν ε : Type*} (s : σ) : World σ φ ν ε :=
  { shared := s
    stack := fun _ => []
    cancelled := fun _ => false
    exn := fun _ => none
    spawned := 0
    running := none }

/-- The choices of the environment and of the event loop. -/
inductive LoopAction (κ ν ε χ : Type*)
  /-- The environment calls a function in a task of its own. -/
  | call (k : κ)
  /-- A suspended task is resumed. -/
  | resume (t : ℕ) (signal : Signal ν ε)
  /-- Something happens outside the event loop. -/
  | outside (x : χ)
  /-- The running task makes one frame move. -/
  | tick

namespace Coroutines

variable {σ φ κ ν ε χ : Type*} (M : Coroutines σ φ κ ν ε χ)

/-- The task in which the cancellation of a task will be delivered: a task that awaits another one
passes the request on. -/
def cancelTarget (stack : ℕ → List φ) : ℕ → ℕ → Option ℕ
  | 0, _ => .none
  | fuel + 1, t =>
    match stack t with
    | [] => .none
    | f :: _ =>
      match M.awaited f with
      | .none => some t
      | some u => if stack u = [] then some t else cancelTarget stack fuel u

/-- The marks after cancelling the tasks one after the other. -/
def cancelAll (stack : ℕ → List φ) (fuel : ℕ) (cancelled : ℕ → Bool) (ts : List ℕ) : ℕ → Bool :=
  ts.foldl (fun marks t =>
    match M.cancelTarget stack fuel t with
    | .none => marks
    | some u => Function.update marks u true) cancelled

/-- The stacks after creating a task for each call. -/
def spawnAll (stack : ℕ → List φ) (next : ℕ) (ks : List κ) : ℕ → List φ :=
  fun t => if next ≤ t then ((ks[t - next]?).map M.enter).toList else stack t

/-- The world after a frame move of task `t` whose other frames are `fs`. -/
def apply (w : World σ φ ν ε) (t : ℕ) (fs : List φ) (m : Move σ φ κ ε) : World σ φ ν ε :=
  let w := { w with
    shared := m.shared
    stack := M.spawnAll w.stack w.spawned m.spawn
    cancelled := M.cancelAll w.stack w.spawned w.cancelled m.cancel
    spawned := w.spawned + m.spawn.length }
  match m.command with
  | .await f => { w with stack := Function.update w.stack t (f :: fs), running := .none }
  | .call f k =>
    { w with
      stack := Function.update w.stack t (M.enter k :: f :: fs)
      running := some (t, .value M.none) }
  | .ret =>
    { w with
      stack := Function.update w.stack t fs
      running := if fs.isEmpty then .none else some (t, .value M.none) }
  | .throw e =>
    { w with
      stack := Function.update w.stack t fs
      exn := if fs.isEmpty then Function.update w.exn t (some e) else w.exn
      running := if fs.isEmpty then .none else some (t, .failed e) }

/-! ## What a frame move does -/

/-- The frames a command puts in the place of the frame that moved. -/
def frames : Command φ κ ε → List φ
  | .await f => [f]
  | .call f k => [M.enter k, f]
  | .ret => []
  | .throw _ => []

/-- The frame as which an activation goes on. -/
def Command.rest : Command φ κ ε → Option φ
  | .await f => some f
  | .call f _ => some f
  | .ret => .none
  | .throw _ => .none

section apply

variable (w : World σ φ ν ε) (t : ℕ) (fs : List φ) (m : Move σ φ κ ε)

@[simp] lemma apply_shared : (M.apply w t fs m).shared = m.shared := by
  unfold apply
  cases m.command <;> rfl

@[simp] lemma apply_spawned : (M.apply w t fs m).spawned = w.spawned + m.spawn.length := by
  unfold apply
  cases m.command <;> rfl

@[simp] lemma apply_cancelled :
    (M.apply w t fs m).cancelled = M.cancelAll w.stack w.spawned w.cancelled m.cancel := by
  unfold apply
  cases m.command <;> rfl

@[simp] lemma apply_stack :
    (M.apply w t fs m).stack =
      Function.update (M.spawnAll w.stack w.spawned m.spawn) t (M.frames m.command ++ fs) := by
  unfold apply frames
  cases m.command <;> rfl

/-- The other tasks keep their frames. -/
lemma apply_stack_of_ne {u : ℕ} (hu : u ≠ t) (hlt : u < w.spawned) :
    (M.apply w t fs m).stack u = w.stack u := by
  rw [apply_stack, Function.update_of_ne hu, spawnAll, if_neg (by omega)]

end apply

/-! ## The shape of the stacks -/

/-- The laws of calling: a frame stays in its function, and a caller remembers what it called; a
function calls functions of smaller rank only. -/
structure Lawful (rank : κ → ℕ) : Prop where
  fn_enter : ∀ k, M.fn (M.enter k) = k
  fn_await : ∀ {t n f signal s g}, (M.resume t n f signal s).command = .await g → M.fn g = M.fn f
  fn_call : ∀ {t n f signal s g k}, (M.resume t n f signal s).command = .call g k →
    M.fn g = M.fn f ∧ M.pending g = some k
  rank_lt : ∀ {f k}, M.pending f = some k → rank k < rank (M.fn f)

/-- Each frame of a stack is an activation of what the frame below it called. -/
def NestedStack (fs : List φ) : Prop :=
  fs.IsChain fun f g => M.pending g = some (M.fn f)

/-- The shape of a world: no frames beyond the tasks created, and nested stacks. -/
structure Shaped (w : World σ φ ν ε) : Prop where
  fresh : ∀ t, w.spawned ≤ t → w.stack t = []
  nested : ∀ t, M.NestedStack (w.stack t)

variable {M}

/-- The frame on top can be exchanged for one of the same function. -/
lemma NestedStack.replace {f g : φ} {fs : List φ} (h : M.NestedStack (f :: fs))
    (hfn : M.fn g = M.fn f) : M.NestedStack (g :: fs) := by
  unfold NestedStack at h ⊢
  rw [List.isChain_cons] at h ⊢
  exact ⟨fun h' hmem => hfn ▸ h.1 h' hmem, h.2⟩

/-- A frame has a smaller rank than the frames below it. -/
lemma NestedStack.rank_lt {rank : κ → ℕ} (hM : M.Lawful rank) {f : φ} {fs : List φ}
    (h : M.NestedStack (f :: fs)) : ∀ g ∈ fs, rank (M.fn f) < rank (M.fn g) := by
  induction fs generalizing f with
  | nil => simp
  | cons g fs ih =>
    unfold NestedStack at h
    rw [List.isChain_cons_cons] at h
    have hfg : rank (M.fn f) < rank (M.fn g) := hM.rank_lt h.1
    intro g' hg'
    rcases List.mem_cons.mp hg' with rfl | hmem
    · exact hfg
    · exact hfg.trans (ih h.2 g' hmem)

/-- The frames below the top wait for a call. -/
lemma NestedStack.pending_of_mem {f g : φ} {fs : List φ} (h : M.NestedStack (f :: fs))
    (hg : g ∈ fs) : ∃ k, M.pending g = some k := by
  induction fs generalizing f with
  | nil => cases hg
  | cons g' fs ih =>
    unfold NestedStack at h
    rw [List.isChain_cons_cons] at h
    rcases List.mem_cons.mp hg with rfl | hg
    · exact ⟨_, h.1⟩
    · exact ih h.2 hg

/-- The task of a frame was created. -/
lemma Shaped.lt_spawned {w : World σ φ ν ε} (h : M.Shaped w) {t : ℕ} {f : φ} {fs : List φ}
    (hf : w.stack t = f :: fs) : t < w.spawned := by
  by_contra hlt
  rw [h.fresh t (not_lt.mp hlt)] at hf
  cases hf

/-- A frame below the top waits for the call of a frame above it. -/
lemma NestedStack.callee_of_mem {f g : φ} {fs : List φ} (h : M.NestedStack (f :: fs))
    (hg : g ∈ fs) : ∃ f' ∈ f :: fs, M.pending g = some (M.fn f') := by
  induction fs generalizing f with
  | nil => cases hg
  | cons g' fs ih =>
    unfold NestedStack at h
    rw [List.isChain_cons_cons] at h
    rcases List.mem_cons.mp hg with rfl | hg
    · exact ⟨f, List.mem_cons_self .., h.1⟩
    · obtain ⟨f', hmem, hpending⟩ := ih h.2 hg
      exact ⟨f', List.mem_cons_of_mem f hmem, hpending⟩

/-- A frame that a command puts on the stack is the activation that goes on, or the beginning of a
call. -/
lemma mem_frames {c : Command φ κ ε} {g : φ} (hg : g ∈ M.frames c) :
    Command.rest c = some g ∨ ∃ k, g = M.enter k := by
  cases c with
  | await f =>
    rw [List.mem_singleton.mp hg]
    exact .inl rfl
  | call f k =>
    rcases List.mem_cons.mp hg with rfl | hg
    · exact .inr ⟨k, rfl⟩
    · rw [List.mem_singleton.mp hg]
      exact .inl rfl
  | ret => cases hg
  | throw e => cases hg

/-- An activation goes on in its function. -/
lemma Lawful.fn_rest {rank : κ → ℕ} (hM : M.Lawful rank) {t n : ℕ} {f g : φ} {signal : Signal ν ε}
    {s : σ} (h : Command.rest (M.resume t n f signal s).command = some g) : M.fn g = M.fn f := by
  cases hcommand : (M.resume t n f signal s).command with
  | await f' =>
    rw [hcommand] at h
    obtain rfl : f' = g := Option.some.inj h
    exact hM.fn_await hcommand
  | call f' k =>
    rw [hcommand] at h
    obtain rfl : f' = g := Option.some.inj h
    exact (hM.fn_call hcommand).1
  | ret =>
    rw [hcommand] at h
    cases h
  | throw e =>
    rw [hcommand] at h
    cases h

/-- A frame of a world after a frame move is new, belongs to a new task or was there before. -/
lemma mem_apply {w : World σ φ ν ε} {t : ℕ} {f : φ} {fs : List φ} {m : Move σ φ κ ε} {u : ℕ}
    {g : φ} (hf : w.stack t = f :: fs) (hg : g ∈ (M.apply w t fs m).stack u) :
    (u = t ∧ g ∈ M.frames m.command) ∨
      (∃ k ∈ m.spawn[u - w.spawned]?, w.spawned ≤ u ∧ g = M.enter k) ∨
      (g ∈ w.stack u ∧ (u = t → g ∈ fs)) := by
  rw [apply_stack] at hg
  by_cases hu : u = t
  · subst hu
    rw [Function.update_self, List.mem_append] at hg
    rcases hg with hg | hg
    · exact .inl ⟨rfl, hg⟩
    · exact .inr (.inr ⟨hf ▸ List.mem_cons_of_mem f hg, fun _ => hg⟩)
  · rw [Function.update_of_ne hu, spawnAll] at hg
    split_ifs at hg with hle
    · refine .inr (.inl ?_)
      cases hk : m.spawn[u - w.spawned]? with
      | none => simp [hk] at hg
      | some k => exact ⟨k, rfl, hle, by simpa [hk] using hg⟩
    · exact .inr (.inr ⟨hg, fun h => absurd h hu⟩)

/-- After a frame move, the function of a frame was on the same stack before, or was just called, or
is that of a new task. -/
lemma fn_mem_apply {rank : κ → ℕ} (hM : M.Lawful rank) {w : World σ φ ν ε} {t n : ℕ} {f : φ}
    {fs : List φ} {signal : Signal ν ε} {s : σ} {u : ℕ} {g : φ} (hf : w.stack t = f :: fs)
    (hg : g ∈ (M.apply w t fs (M.resume t n f signal s)).stack u) :
    (∃ g' ∈ w.stack u, M.fn g' = M.fn g) ∨
      (u = t ∧ ∃ f', (M.resume t n f signal s).command = .call f' (M.fn g)) ∨
      (w.spawned ≤ u ∧ M.fn g ∈ (M.resume t n f signal s).spawn) := by
  have htop : f ∈ w.stack t := hf ▸ List.mem_cons_self ..
  rcases mem_apply hf hg with ⟨rfl, hnew⟩ | ⟨k, hk, hle, rfl⟩ | ⟨hold, -⟩
  · cases hcommand : (M.resume u n f signal s).command with
    | await f' =>
      rw [hcommand] at hnew
      obtain rfl : g = f' := List.mem_singleton.mp hnew
      exact .inl ⟨f, htop, (hM.fn_await hcommand).symm⟩
    | call f' k =>
      rw [hcommand] at hnew
      rcases List.mem_cons.mp hnew with rfl | hnew
      · exact .inr (.inl ⟨rfl, f', by rw [hM.fn_enter]⟩)
      · obtain rfl := List.mem_singleton.mp hnew
        exact .inl ⟨f, htop, (hM.fn_call hcommand).1.symm⟩
    | ret =>
      rw [hcommand] at hnew
      cases hnew
    | throw e =>
      rw [hcommand] at hnew
      cases hnew
  · exact .inr (.inr ⟨hle, by rw [hM.fn_enter]; exact List.mem_of_getElem? hk⟩)
  · exact .inl ⟨g, hold, rfl⟩

/-- The initial world is shaped. -/
lemma shaped_initial (s : σ) : M.Shaped (World.initial s) :=
  ⟨fun _ _ => rfl, fun _ => List.isChain_nil⟩

/-! ## Assertions for frames -/

/-- Every frame of every task meets its assertion. -/
def Outline (J : ℕ → φ → σ → Prop) (w : World σ φ ν ε) : Prop :=
  ∀ t, ∀ f ∈ w.stack t, J t f w.shared

variable (M) in
/-- What a frame move of task `t` over the frames `fs` must do to keep an assertion for frames. -/
structure Keeps (J : ℕ → φ → σ → Prop) (w : World σ φ ν ε) (t : ℕ) (fs : List φ)
    (m : Move σ φ κ ε) : Prop where
  frames : ∀ g ∈ M.frames m.command, J t g m.shared
  spawn : ∀ i k, m.spawn[i]? = some k → J (w.spawned + i) (M.enter k) m.shared
  /-- The other frames keep their assertion. -/
  stable : ∀ u, ∀ g ∈ w.stack u, (u = t → g ∈ fs) → J u g w.shared → J u g m.shared

/-- Before anything is called there is no frame. -/
lemma outline_initial (J : ℕ → φ → σ → Prop) (s : σ) :
    Outline J (World.initial s : World σ φ ν ε) := by
  intro t f hf
  cases hf

/-- A frame move that keeps an assertion keeps it for the world. -/
lemma Outline.tick {J : ℕ → φ → σ → Prop} {w : World σ φ ν ε} {t : ℕ} {f : φ} {fs : List φ}
    {m : Move σ φ κ ε} (hw : Outline J w) (hf : w.stack t = f :: fs)
    (hm : M.Keeps J w t fs m) : Outline J (M.apply w t fs m) := by
  intro u g hg
  rw [apply_shared]
  rcases mem_apply hf hg with ⟨rfl, hnew⟩ | ⟨k, hk, hle, rfl⟩ | ⟨hold, hfs⟩
  · exact hm.frames g hnew
  · obtain ⟨i, rfl⟩ := Nat.exists_eq_add_of_le hle
    rw [Nat.add_sub_cancel_left] at hk
    exact hm.spawn i k hk
  · exact hm.stable u g hold hfs (hw u g hold)

/-- A task of its own for a call of the environment. -/
lemma Outline.call {J : ℕ → φ → σ → Prop} {w : World σ φ ν ε} {k : κ} (hw : Outline J w)
    (hk : J w.spawned (M.enter k) w.shared) :
    Outline J { w with
      stack := Function.update w.stack w.spawned [M.enter k]
      spawned := w.spawned + 1 } := by
  intro u g hg
  by_cases hu : u = w.spawned
  · subst hu
    have hg : g = M.enter k := by simpa using hg
    exact hg ▸ hk
  · have hg : g ∈ w.stack u := by simpa [Function.update_of_ne hu] using hg
    exact hw u g hg

/-- An event outside. -/
lemma Outline.outside {J : ℕ → φ → σ → Prop} {w : World σ φ ν ε} {s : σ} (hw : Outline J w)
    (hstable : ∀ u, ∀ g ∈ w.stack u, J u g w.shared → J u g s) :
    Outline J { w with shared := s } :=
  fun u g hg => hstable u g hg (hw u g hg)

/-! ## Entering a call -/

variable (M) in
/-- The laws of entering: a frame that waits for a call is past its entry, and so is a frame in
which a task is suspended. -/
structure Enters : Prop where
  pending_enter : ∀ k, M.pending (M.enter k) = .none
  await_entered : ∀ {t n f signal s g}, (M.resume t n f signal s).command = .await g →
    g ≠ M.enter (M.fn g)

variable (M) in
/-- Only the running task is at the entry of a call, but for the calls `root` that tasks begin
with. -/
def Prompt (root : κ → Prop) (w : World σ φ ν ε) : Prop :=
  ∀ t f fs, w.stack t = f :: fs → f = M.enter (M.fn f) →
    root (M.fn f) ∨ w.running = some (t, .value M.none)

variable (M) in
/-- The running task is at the entry of a call only in a state in which the call may be made. -/
def EntersIn (root : κ → Prop) (Q : κ → σ → Prop) (w : World σ φ ν ε) : Prop :=
  ∀ t signal f fs, w.running = some (t, signal) → w.stack t = f :: fs →
    f = M.enter (M.fn f) → root (M.fn f) ∨ Q (M.fn f) w.shared

/-- After a frame move, the frame on top is at the entry of a call if this was just called. -/
lemma call_of_entered {rank : κ → ℕ} (hM : M.Lawful rank) (hE : M.Enters) {w : World σ φ ν ε}
    {t n : ℕ} {f g : φ} {fs gs : List φ} {signal : Signal ν ε} {s : σ}
    (hw : M.Shaped w) (hf : w.stack t = f :: fs)
    (hg : (M.apply w t fs (M.resume t n f signal s)).stack t = g :: gs)
    (hentry : g = M.enter (M.fn g)) :
    ∃ f', (M.resume t n f signal s).command = .call f' (M.fn g) := by
  rw [apply_stack, Function.update_self] at hg
  have htail : fs = g :: gs → False := by
    intro htop
    have hnested : M.NestedStack (f :: fs) := hf ▸ hw.nested t
    rw [htop] at hnested
    have hpending : M.pending g = some (M.fn f) := (List.isChain_cons_cons.mp hnested).1
    rw [hentry, hE.pending_enter] at hpending
    cases hpending
  cases hcommand : (M.resume t n f signal s).command with
  | await g' =>
    rw [hcommand] at hg
    obtain rfl : g' = g := (List.cons.inj hg).1
    exact absurd hentry (hE.await_entered hcommand)
  | call f' k =>
    rw [hcommand] at hg
    obtain rfl : M.enter k = g := (List.cons.inj hg).1
    exact ⟨f', by rw [hM.fn_enter]⟩
  | ret =>
    rw [hcommand] at hg
    exact (htail hg).elim
  | throw e =>
    rw [hcommand] at hg
    exact (htail hg).elim

variable (M) in
/-- In its innermost frame only the running task waits for a call, or is at the entry of a call that
it does not begin with. -/
def Suspended (w : World σ φ ν ε) : Prop :=
  ∀ t f fs, w.stack t = f :: fs → M.pending f ≠ .none ∨ (f = M.enter (M.fn f) ∧ fs ≠ []) →
    ∃ signal, w.running = some (t, signal)

/-- Before anything is called no frame waits. -/
lemma suspended_initial (s : σ) : M.Suspended (World.initial s : World σ φ ν ε) := by
  intro t f fs hf
  cases hf

/-- Nothing is entered before the first step. -/
lemma prompt_initial (root : κ → Prop) (s : σ) :
    M.Prompt root (World.initial s : World σ φ ν ε) := by
  intro t f fs hf
  cases hf

/-- A resumed task is at the entry of a call only if the task begins with this call. -/
lemma EntersIn.resume {root : κ → Prop} {Q : κ → σ → Prop} {w : World σ φ ν ε} {t : ℕ}
    {signal : Signal ν ε} {marks : ℕ → Bool} (hp : M.Prompt root w) (hrun : w.running = .none) :
    M.EntersIn root Q { w with cancelled := marks, running := some (t, signal) } := by
  intro u signal' f fs hrunning hf hentry
  refine (hp u f fs hf hentry).imp_right fun hbefore => ?_
  cases hrun ▸ hbefore

/-- No call is entered while no task runs. -/
lemma EntersIn.of_none {root : κ → Prop} {Q : κ → σ → Prop} {w : World σ φ ν ε}
    (hrun : w.running = .none) : M.EntersIn root Q w := by
  intro t signal f fs hrunning
  cases hrun ▸ hrunning

/-- Only the task that moved runs after a frame move. -/
lemma running_task {w : World σ φ ν ε} {t u : ℕ} {fs : List φ} {m : Move σ φ κ ε}
    {signal : Signal ν ε} (hrun : (M.apply w t fs m).running = some (u, signal)) : u = t := by
  unfold apply at hrun
  cases hcommand : m.command with
  | await f =>
    simp only [hcommand] at hrun
    cases hrun
  | call f k =>
    simp only [hcommand] at hrun
    cases hrun
    rfl
  | ret =>
    simp only [hcommand] at hrun
    split_ifs at hrun
    cases hrun
    rfl
  | throw e =>
    simp only [hcommand] at hrun
    split_ifs at hrun
    cases hrun
    rfl

/-- A frame move that calls in a state in which the call may be made. -/
lemma EntersIn.tick {rank : κ → ℕ} (hM : M.Lawful rank) (hE : M.Enters) {root : κ → Prop}
    {Q : κ → σ → Prop} {w : World σ φ ν ε} {t n : ℕ} {f : φ} {fs : List φ} {signal : Signal ν ε}
    {s : σ} (hw : M.Shaped w) (hf : w.stack t = f :: fs)
    (hQ : ∀ f' k, (M.resume t n f signal s).command = .call f' k →
      Q k (M.resume t n f signal s).shared) :
    M.EntersIn root Q (M.apply w t fs (M.resume t n f signal s)) := by
  intro u signal' g gs hrunning hg hentry
  obtain rfl : u = t := running_task hrunning
  obtain ⟨f', hcall⟩ := call_of_entered hM hE hw hf hg hentry
  exact .inr (by rw [apply_shared]; exact hQ f' _ hcall)

/-- What runs after a frame move, and why. -/
lemma running_apply {w : World σ φ ν ε} {t u : ℕ} {fs gs : List φ} {m : Move σ φ κ ε} {g : φ}
    {signal : Signal ν ε} (hrun : (M.apply w t fs m).running = some (u, signal))
    (hg : (M.apply w t fs m).stack u = g :: gs) :
    u = t ∧ ((∃ f k, m.command = .call f k ∧ g = M.enter k ∧ gs = f :: fs ∧
        signal = .value M.none) ∨
      (m.command = .ret ∧ fs = g :: gs ∧ signal = .value M.none) ∨
      (∃ e, m.command = .throw e ∧ fs = g :: gs ∧ signal = .failed e)) := by
  rw [apply_stack] at hg
  unfold apply at hrun
  cases hcommand : m.command with
  | await f =>
    simp only [hcommand] at hrun
    cases hrun
  | call f k =>
    simp only [hcommand] at hrun
    cases hrun
    rw [Function.update_self, hcommand] at hg
    obtain ⟨rfl, rfl⟩ := List.cons.inj hg
    exact ⟨rfl, .inl ⟨f, k, rfl, rfl, rfl, rfl⟩⟩
  | ret =>
    simp only [hcommand] at hrun
    split_ifs at hrun
    cases hrun
    rw [Function.update_self, hcommand] at hg
    exact ⟨rfl, .inr (.inl ⟨rfl, hg, rfl⟩)⟩
  | throw e =>
    simp only [hcommand] at hrun
    split_ifs at hrun
    cases hrun
    rw [Function.update_self, hcommand] at hg
    exact ⟨rfl, .inr (.inr ⟨e, rfl, hg, rfl⟩)⟩

/-- After a frame move, the running task is at the beginning of a call, or its frame was waiting for
a call. -/
lemma pending_of_running_apply {w : World σ φ ν ε} {t u : ℕ} {f g : φ}
    {fs gs : List φ} {m : Move σ φ κ ε} {signal : Signal ν ε} (hw : M.Shaped w)
    (hf : w.stack t = f :: fs) (hrun : (M.apply w t fs m).running = some (u, signal))
    (hg : (M.apply w t fs m).stack u = g :: gs) :
    (∃ k, g = M.enter k) ∨ M.pending g = some (M.fn f) := by
  have htail : fs = g :: gs → M.pending g = some (M.fn f) := by
    intro htail
    have hnested : M.NestedStack (f :: fs) := hf ▸ hw.nested t
    rw [htail] at hnested
    exact (List.isChain_cons_cons.mp hnested).1
  obtain ⟨-, ⟨f', k, -, rfl, -, -⟩ | ⟨-, h, -⟩ | ⟨e, -, h, -⟩⟩ := running_apply hrun hg
  · exact .inl ⟨k, rfl⟩
  · exact .inr (htail h)
  · exact .inr (htail h)

/-! ## Waking -/

/-- The innermost frame of the running task meets an assertion about its signal. -/
def Wakes (R : φ → Signal ν ε → σ → Prop) (w : World σ φ ν ε) : Prop :=
  ∀ t signal f fs, w.running = some (t, signal) → w.stack t = f :: fs → R f signal w.shared

variable (M) in
/-- What a move of frame `f` must do to wake the next frame as asserted: the entry of the function
that it calls, or the frame that waits for its own function. -/
structure Hands (R : φ → Signal ν ε → σ → Prop) (f : φ) (m : Move σ φ κ ε) : Prop where
  called : ∀ g k, m.command = .call g k → R (M.enter k) (.value M.none) m.shared
  returned : m.command = .ret → ∀ g, M.pending g = some (M.fn f) → R g (.value M.none) m.shared
  raised : ∀ e, m.command = .throw e → ∀ g, M.pending g = some (M.fn f) → R g (.failed e) m.shared

/-- No frame wakes while no task runs. -/
lemma Wakes.of_none {R : φ → Signal ν ε → σ → Prop} {w : World σ φ ν ε} (hrun : w.running = .none) :
    Wakes R w := by
  intro t signal f fs hrunning
  cases hrun ▸ hrunning

/-- After a frame move that wakes the next frame as asserted, it is awake so. -/
lemma Wakes.tick {R : φ → Signal ν ε → σ → Prop} {w : World σ φ ν ε} {t : ℕ} {f : φ} {fs : List φ}
    {m : Move σ φ κ ε} (hw : M.Shaped w) (hf : w.stack t = f :: fs) (hm : M.Hands R f m) :
    Wakes R (M.apply w t fs m) := by
  intro u signal g gs hrun hg
  have htail : fs = g :: gs → M.pending g = some (M.fn f) := by
    intro htail
    have hnested : M.NestedStack (f :: fs) := hf ▸ hw.nested t
    rw [htail] at hnested
    exact (List.isChain_cons_cons.mp hnested).1
  rw [apply_shared]
  obtain ⟨-, ⟨f', k, hcommand, rfl, -, rfl⟩ | ⟨hcommand, h, rfl⟩ | ⟨e, hcommand, h, rfl⟩⟩ :=
    running_apply hrun hg
  · exact hm.called f' k hcommand
  · exact hm.returned hcommand g (htail h)
  · exact hm.raised e hcommand g (htail h)

/-! ## Cancellation -/

/-- Cancelling tasks takes no mark away. -/
lemma cancelAll_mono {stack : ℕ → List φ} {fuel u : ℕ} {marks : ℕ → Bool} (ts : List ℕ)
    (h : marks u = true) : M.cancelAll stack fuel marks ts u = true := by
  unfold cancelAll
  induction ts generalizing marks with
  | nil => exact h
  | cons t ts ih =>
    refine ih ?_
    dsimp only
    cases M.cancelTarget stack fuel t with
    | none => exact h
    | some v =>
      by_cases hv : u = v
      · rw [hv]
        exact Function.update_self ..
      · exact (Function.update_of_ne hv ..).trans h

/-- A task that is not cancelled, nor awaited by a task that is, keeps its mark. -/
lemma cancelAll_of_not_mem {stack : ℕ → List φ} {fuel t : ℕ} {marks : ℕ → Bool} {ts : List ℕ}
    (hne : ∀ u ∈ ts, u ≠ t)
    (hawaited : ∀ u ∈ ts, ∀ f fs, stack u = f :: fs → M.awaited f = .none) :
    M.cancelAll stack fuel marks ts t = marks t := by
  unfold cancelAll
  induction ts generalizing marks with
  | nil => rfl
  | cons u ts ih =>
    have htarget : ∀ v, M.cancelTarget stack fuel u = some v → v = u := by
      intro v hv
      cases fuel with
      | zero => cases hv
      | succ fuel =>
        rw [cancelTarget] at hv
        split at hv
        · cases hv
        · rename_i f fs hf
          simp only [hawaited u (List.mem_cons_self ..) f fs hf] at hv
          exact (Option.some.inj hv).symm
    rw [List.foldl_cons, ih (fun v hv => hne v (List.mem_cons_of_mem u hv))
      (fun v hv => hawaited v (List.mem_cons_of_mem u hv))]
    cases h : M.cancelTarget stack fuel u with
    | none => rfl
    | some v =>
      obtain rfl := htarget v h
      exact Function.update_of_ne (hne v (List.mem_cons_self ..)).symm ..

/-! ## The event loop -/

section loop

variable [DecidableEq ε] (M)

/-- Whether a suspended task with innermost frame `f` can be resumed with the signal. -/
def accepts (w : World σ φ ν ε) (t : ℕ) (f : φ) (signal : Signal ν ε) : Bool :=
  match signal, w.cancelled t, M.awaited f with
  | .failed .cancelled, true, _ => true
  | _, true, _ => false
  | .value _, false, some u => (w.stack u).isEmpty && (w.exn u).isNone
  | .failed e, false, some u => (w.stack u).isEmpty && w.exn u == some e
  | _, false, .none => M.answers w.shared f signal

/-- One step of the event loop. -/
def step (w : World σ φ ν ε) : LoopAction κ ν ε χ → Option (World σ φ ν ε)
  | .call k =>
    if w.running.isNone && M.callable k then
      some { w with
        stack := Function.update w.stack w.spawned [M.enter k]
        spawned := w.spawned + 1 }
    else .none
  | .resume t signal =>
    match w.running, w.stack t with
    | .none, f :: _ =>
      if M.accepts w t f signal then
        some { w with
          cancelled := Function.update w.cancelled t false
          running := some (t, signal) }
      else .none
    | _, _ => .none
  | .outside x =>
    if w.running.isNone then some { w with shared := M.outside x w.shared } else .none
  | .tick =>
    match w.running with
    | .none => .none
    | some (t, signal) =>
      match w.stack t with
      | [] => .none
      | f :: fs => some (M.apply w t fs (M.resume t w.spawned f signal w.shared))

/-- The step system of the event loop. -/
def system : StepSystem (World σ φ ν ε) (LoopAction κ ν ε χ) := ⟨M.step⟩

/-- The four kinds of steps. -/
inductive StepCase (w : World σ φ ν ε) : LoopAction κ ν ε χ → World σ φ ν ε → Prop
  | call {k : κ} (hrun : w.running = .none) (hk : M.callable k = true) :
    StepCase w (.call k) { w with
      stack := Function.update w.stack w.spawned [M.enter k]
      spawned := w.spawned + 1 }
  | resume {t : ℕ} {signal : Signal ν ε} {f : φ} {fs : List φ} (hrun : w.running = .none)
      (hf : w.stack t = f :: fs) (hsignal : M.accepts w t f signal = true) :
    StepCase w (.resume t signal) { w with
      cancelled := Function.update w.cancelled t false
      running := some (t, signal) }
  | outside {x : χ} (hrun : w.running = .none) :
    StepCase w (.outside x) { w with shared := M.outside x w.shared }
  | tick {t : ℕ} {signal : Signal ν ε} {f : φ} {fs : List φ} (hrun : w.running = some (t, signal))
      (hf : w.stack t = f :: fs) :
    StepCase w .tick (M.apply w t fs (M.resume t w.spawned f signal w.shared))

/-- **Inversion of the step function.** -/
theorem step_cases {w w' : World σ φ ν ε} {a : LoopAction κ ν ε χ} (h : M.step w a = some w') :
    M.StepCase w a w' := by
  cases a with
  | call k =>
    simp only [step, Bool.and_eq_true, Option.isNone_iff_eq_none] at h
    split_ifs at h with hk
    obtain rfl := Option.some.inj h
    exact .call hk.1 hk.2
  | resume t signal =>
    simp only [step] at h
    split at h
    case h_1 f fs hrun hf =>
      split_ifs at h with hsignal
      obtain rfl := Option.some.inj h
      exact .resume hrun hf hsignal
    case h_2 => cases h
  | outside x =>
    simp only [step, Option.isNone_iff_eq_none] at h
    split_ifs at h with hrun
    obtain rfl := Option.some.inj h
    exact .outside hrun
  | tick =>
    simp only [step] at h
    split at h
    case h_1 => cases h
    case h_2 t signal hrun =>
      split at h
      case h_1 => cases h
      case h_2 f fs hf =>
        obtain rfl := Option.some.inj h
        exact .tick hrun hf

variable {M}

/-- A step keeps the shape. -/
theorem shaped_step {rank : κ → ℕ} (hM : M.Lawful rank) {w w' : World σ φ ν ε}
    {a : LoopAction κ ν ε χ} (hw : M.Shaped w) (h : M.step w a = some w') : M.Shaped w' := by
  cases M.step_cases h with
  | call hrun hk =>
    refine ⟨fun t ht => ?_, fun t => ?_⟩
    · have hlt : w.spawned < t := ht
      simpa [Function.update_of_ne hlt.ne'] using hw.fresh t hlt.le
    · by_cases hu : t = w.spawned
      · subst hu
        simp [NestedStack]
      · simpa [Function.update_of_ne hu] using hw.nested t
  | resume => exact ⟨hw.fresh, hw.nested⟩
  | outside => exact ⟨hw.fresh, hw.nested⟩
  | @tick t signal f fs hrun hf =>
    have htop : M.NestedStack (f :: fs) := hf ▸ hw.nested t
    have hlt : t < w.spawned := hw.lt_spawned hf
    refine ⟨fun u hu => ?_, fun u => ?_⟩
    · rw [apply_spawned] at hu
      rw [apply_stack, Function.update_of_ne (by omega), spawnAll, if_pos (by omega),
        List.getElem?_eq_none (by omega)]
      rfl
    · rw [apply_stack]
      by_cases hut : u = t
      · subst hut
        rw [Function.update_self]
        cases hcommand : (M.resume u w.spawned f signal w.shared).command with
        | await g => exact htop.replace (hM.fn_await hcommand)
        | call g k =>
          obtain ⟨hfn, hpending⟩ := hM.fn_call hcommand
          refine List.isChain_cons_cons.mpr ⟨?_, htop.replace hfn⟩
          rw [hM.fn_enter]
          exact hpending
        | ret => exact htop.tail
        | throw e => exact htop.tail
      · rw [Function.update_of_ne hut, spawnAll]
        split_ifs with hle
        · cases (M.resume t w.spawned f signal w.shared).spawn[u - w.spawned]? with
          | none => exact List.isChain_nil
          | some k => exact List.isChain_singleton _
        · exact hw.nested u

/-- A step keeps the entries to the running task. -/
theorem prompt_step {rank : κ → ℕ} {root : κ → Prop} (hM : M.Lawful rank) (hE : M.Enters)
    (hcallable : ∀ k, M.callable k = true → root k)
    (hspawn : ∀ {t n f signal s k}, k ∈ (M.resume t n f signal s).spawn → root k)
    {w w' : World σ φ ν ε} {a : LoopAction κ ν ε χ} (hw : M.Shaped w) (hp : M.Prompt root w)
    (h : M.step w a = some w') : M.Prompt root w' := by
  cases M.step_cases h with
  | @call k hrun hk =>
    intro u g gs hg hentry
    by_cases hu : u = w.spawned
    · subst hu
      obtain rfl : M.enter k = g := by
        simp only [Function.update_self] at hg
        exact (List.cons.inj hg).1
      exact .inl (by rw [hM.fn_enter]; exact hcallable k hk)
    · simp only [Function.update_of_ne hu] at hg
      exact hp u g gs hg hentry
  | @resume t signal f fs hrun hf hsignal =>
    intro u g gs hg hentry
    refine (hp u g gs hg hentry).imp_right fun hrunning => ?_
    cases hrun ▸ hrunning
  | outside hrun => exact hp
  | @tick t signal f fs hrun hf =>
    intro u g gs hg hentry
    by_cases hu : u = t
    · subst hu
      obtain ⟨f', hcall⟩ := call_of_entered hM hE hw hf hg hentry
      exact .inr (by simp [apply, hcall])
    · rw [apply_stack, Function.update_of_ne hu, spawnAll] at hg
      split_ifs at hg with hle
      · cases hk : (M.resume t w.spawned f signal w.shared).spawn[u - w.spawned]? with
        | none => simp [hk] at hg
        | some k =>
          obtain rfl : M.enter k = g := by simpa [hk] using (List.cons.inj (hk ▸ hg)).1
          exact .inl (by rw [hM.fn_enter]; exact hspawn (List.mem_of_getElem? hk))
      · refine (hp u g gs hg hentry).imp_right fun hrunning => ?_
        obtain ⟨rfl, -⟩ := Prod.mk.inj (Option.some.inj (hrun.symm.trans hrunning))
        exact absurd rfl hu

/-- A step suspends a task only in a frame that waits for no call and is past its entry. -/
theorem suspended_step (hE : M.Enters)
    (hawait : ∀ {t n f signal s g}, (M.resume t n f signal s).command = .await g →
      M.pending g = .none)
    {w w' : World σ φ ν ε} {a : LoopAction κ ν ε χ} (hw : M.Suspended w)
    (h : M.step w a = some w') : M.Suspended w' := by
  -- a new task is at the entry of the call that it begins with
  have hnew : ∀ {k g gs}, [M.enter k] = g :: gs →
      ¬ (M.pending g ≠ .none ∨ (g = M.enter (M.fn g) ∧ gs ≠ [])) := by
    rintro k g gs hg (hpending | ⟨-, hgs⟩)
    · obtain ⟨rfl, -⟩ := List.cons.inj hg
      exact hpending (hE.pending_enter k)
    · exact hgs (List.cons.inj hg).2.symm
  cases M.step_cases h with
  | @call k hrun hk =>
    intro u g gs hg hbusy
    by_cases hu : u = w.spawned
    · subst hu
      simp only [Function.update_self] at hg
      exact absurd hbusy (hnew hg)
    · simp only [Function.update_of_ne hu] at hg
      exact hw u g gs hg hbusy
  | @resume t signal f fs hrun hf hsignal =>
    intro u g gs hg hbusy
    obtain ⟨signal', hrunning⟩ := hw u g gs hg hbusy
    cases hrun.symm.trans hrunning
  | outside hrun => exact hw
  | @tick t signal f fs hrun hf =>
    intro u g gs hg hbusy
    rw [apply_stack] at hg
    by_cases hu : u = t
    · subst hu
      rw [Function.update_self] at hg
      cases hcommand : (M.resume u w.spawned f signal w.shared).command with
      | await g' =>
        rw [hcommand] at hg
        obtain ⟨rfl, -⟩ := List.cons.inj hg
        rcases hbusy with hpending | ⟨hentry, -⟩
        · exact absurd (hawait hcommand) hpending
        · exact absurd hentry (hE.await_entered hcommand)
      | call f' k => exact ⟨.value M.none, by simp [apply, hcommand]⟩
      | ret =>
        rw [hcommand] at hg
        obtain rfl : fs = g :: gs := hg
        exact ⟨.value M.none, by simp [apply, hcommand]⟩
      | throw e =>
        rw [hcommand] at hg
        obtain rfl : fs = g :: gs := hg
        exact ⟨.failed e, by simp [apply, hcommand]⟩
    · rw [Function.update_of_ne hu, spawnAll] at hg
      split_ifs at hg with hle
      · cases hk : (M.resume t w.spawned f signal w.shared).spawn[u - w.spawned]? with
        | none => simp [hk] at hg
        | some k => exact absurd hbusy (hnew (k := k) (by simpa [hk] using hg))
      · obtain ⟨signal', hrunning⟩ := hw u g gs hg hbusy
        obtain ⟨rfl, -⟩ := Prod.mk.inj (Option.some.inj (hrun.symm.trans hrunning))
        exact absurd rfl hu

end loop

end Coroutines
