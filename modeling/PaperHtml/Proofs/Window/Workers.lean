import Mathlib
import PaperHtml.Window.Worker

/-!
# Workers beside the window

The user presses buttons, workers work, and the window performs the tasks that are
left to it, in any order.  A worker may tell of any events and may end its job after
any of them, with a page or without; a job that is done in full is one way to do so
(`work_eq_run`).  A worker that is alive when another one takes its place in the
window would go on unseen, so a `Workshop` holds such workers too; that there are
none is proved, not assumed.

At every moment at most one worker has not left its last task, at most one task that
enables the button is left, not both, and the button is disabled exactly while there
is one or the other (`one_worker_at_a_time`).  When the worker is done and the tasks
are performed, the button is enabled again (`renderEnabled_settle`).

## Strategy

The workers at work and the tasks that enable the button are counted together.  A
worker is started only while the button is enabled, the end of its job turns it into
a task, and performing the task enables the button again.  The sum is hence 0 while
the button is enabled and 1 while it is not (`IsBalanced`).
-/

namespace PaperHtml.Window

/-! ## Workers and tasks -/

/-- Whether a task enables the button for rendering. -/
def Task.enables : Task → Bool
  | .enableRender => true
  | _ => false

/-- How many tasks that enable the button are left. -/
def enablers (window : Window) : Nat := window.tasks.countP Task.enables

/-- How many of some workers have not left their last task. -/
def atWork (workers : List Worker) : Nat := workers.countP fun worker => !worker.isDone

/-- What a worker can do: tell of an event, end its job in whatever way, and go. -/
inductive Deed where
  | tell (event : Session.Event)
  | finish (output : Option Text)
  | go

/-- The window after a deed of its worker; nothing is told once the last task is left. -/
def doneBy (deed : Deed) (window : Window) : Window :=
  match deed with
  | .tell event => if window.worker.any fun worker => !worker.isDone then window.tell event else window
  | .finish output => window.finish output
  | .go => window.dismiss

/-- The window and the workers that are alive, though another one has taken their place in it. -/
structure Workshop where
  window : Window := {}
  replaced : List Worker := []

namespace Workshop

/-- All workers that are alive. -/
def workers (shop : Workshop) : List Worker := shop.window.worker.toList ++ shop.replaced

/-- The button for rendering pressed.  If it is disabled thereby, a worker has been started. -/
def press (shop : Workshop) : Workshop :=
  let window := shop.window.pressRender
  if shop.window.renderEnabled && !window.renderEnabled then
    ⟨window, shop.window.worker.toList ++ shop.replaced⟩
  else ⟨window, shop.replaced⟩

/-- A deed of a worker that is not the one in the window any more. -/
def replacedDoes (index : Nat) (deed : Deed) (shop : Workshop) : Workshop :=
  match shop.replaced[index]? with
  | none => shop
  | some worker =>
    let after := doneBy deed { shop.window with worker }
    ⟨{ after with worker := shop.window.worker },
      shop.replaced.take index ++ after.worker.toList ++ shop.replaced.drop (index + 1)⟩

/-- What can happen next. -/
inductive Move where
  | fill (paper bibliography renderer : Text) (typeset : Bool)
  | press
  | openPage (folder : Source.Folder)
  | workerDoes (deed : Deed)
  | replacedDoes (index : Nat) (deed : Deed)
  | performNext

/-- The workshop after a move. -/
def step (shop : Workshop) : Move → Workshop
  | .fill paper bibliography renderer typeset =>
    { shop with window := { shop.window with paper, bibliography, renderer, typeset } }
  | .press => shop.press
  | .openPage folder => { shop with window := (shop.window.openPage folder).1 }
  | .workerDoes deed => { shop with window := doneBy deed shop.window }
  | .replacedDoes index deed => shop.replacedDoes index deed
  | .performNext => { shop with window := shop.window.performNext.1 }

/-- The workshop after several moves. -/
def run (shop : Workshop) (moves : List Move) : Workshop := moves.foldl step shop

theorem run_append (shop : Workshop) (moves later : List Move) :
    shop.run (moves ++ later) = (shop.run moves).run later := List.foldl_append

end Workshop

/-! ## The work of a worker -/

theorem worker_tell (event : Session.Event) (window : Window) :
    (window.tell event).worker = window.worker := by
  cases event <;> rfl

/-- Events told by a worker that is at work. -/
theorem run_tell (events : List Session.Event) {shop : Workshop} {job : Job}
    (hjob : shop.window.worker = some ⟨job, false⟩) :
    shop.run ((events.map Deed.tell).map .workerDoes) =
      { shop with window := events.foldl (fun window event => window.tell event) shop.window } := by
  induction events generalizing shop with
  | nil => rfl
  | cons event events ih =>
      have hstep : shop.step (.workerDoes (.tell event)) =
          { shop with window := shop.window.tell event } := by
        simp [Workshop.step, doneBy, hjob]
      have hlater := @ih { shop with window := shop.window.tell event }
        ((worker_tell event shop.window).trans hjob)
      simpa [Workshop.run, hstep] using hlater

/-- What a worker does from the beginning of its job to its end is a run of deeds. -/
theorem work_eq_run (engines : (typeset : Bool) → Session.Engines) (folder : Source.Folder)
    (shop : Workshop) : ∃ deeds : List Deed,
      shop.run (deeds.map .workerDoes) = { shop with window := (work engines folder shop.window).2 } := by
  unfold work
  split
  · rename_i job hjob
    let rendered := Session.render (engines shop.window.typeset)
      ⟨job.paper, job.bibliography, some shop.window.renderer⟩ (outputPath folder) folder
    let ended := ending (outputPath folder) rendered.result
    refine ⟨(rendered.events ++ ended.2).map .tell ++ [.finish ended.1, .go], ?_⟩
    rw [List.map_append, Workshop.run_append, run_tell _ hjob]
    rfl
  · exact ⟨[], rfl⟩

/-! ## One worker or one task -/

/-- The button is disabled by one worker at work or by one task that enables it. -/
def IsBalanced (window : Window) : Prop :=
  atWork window.worker.toList + window.enablers = (!window.renderEnabled).toNat

variable {window : Window}

theorem enablers_leave (task : Task) (window : Window) :
    (leave task window).enablers = window.enablers + task.enables.toNat := by
  cases h : task.enables <;> simp [leave, enablers, h]

/-- A further task does not matter if it does not enable the button. -/
theorem IsBalanced.leave {task : Task} (h : IsBalanced window) (htask : task.enables = false) :
    IsBalanced (leave task window) := by
  unfold IsBalanced
  rw [enablers_leave, htask]
  exact h

theorem IsBalanced.tell (h : IsBalanced window) (event : Session.Event) :
    IsBalanced (window.tell event) := by
  cases event with
  | report message => exact h.leave rfl
  | progress percent status => exact h.leave rfl
  | asked _ _ => exact h

/-- The end of a job turns the worker into a task. -/
theorem IsBalanced.finish (h : IsBalanced window) (output : Option Text) :
    IsBalanced (window.finish output) := by
  unfold Window.finish
  split
  · rename_i job hjob
    unfold IsBalanced at h ⊢
    rw [hjob] at h
    rw [enablers_leave]
    simpa [atWork, Task.enables, Window.leave, enablers, Nat.add_comm] using h
  · exact h

theorem IsBalanced.dismiss (h : IsBalanced window) : IsBalanced window.dismiss := by
  unfold Window.dismiss
  split
  · rename_i job hjob
    simpa [IsBalanced, atWork, hjob, enablers] using h
  · exact h

theorem IsBalanced.doneBy (h : IsBalanced window) (deed : Deed) : IsBalanced (doneBy deed window) := by
  cases deed with
  | tell event =>
      unfold Window.doneBy
      simp only
      split
      · exact h.tell event
      · exact h
  | finish output => exact h.finish output
  | go => exact h.dismiss

/-- A task that enables the button finds it disabled, and is the only one. -/
theorem IsBalanced.performNext (h : IsBalanced window) : IsBalanced window.performNext.1 := by
  unfold Window.performNext
  split
  · exact h
  · rename_i task rest htasks
    unfold IsBalanced enablers at h
    rw [htasks, List.countP_cons] at h
    cases task with
    | append message => simpa [IsBalanced, perform, enablers, Task.enables] using h
    | showProgress percent status => simpa [IsBalanced, perform, enablers, Task.enables] using h
    | enableRender =>
        have hone : atWork window.worker.toList + (rest.countP Task.enables + 1) ≤ 1 :=
          h.le.trans (Bool.toNat_le _)
        simp only [IsBalanced, perform, enablers, Bool.not_true, Bool.toNat_false]
        omega

/-- When all tasks are performed, the worker is the same, and the window is still balanced. -/
theorem IsBalanced.settle (h : IsBalanced window) :
    IsBalanced window.settle.1 ∧ window.settle.1.worker = window.worker ∧
      window.settle.1.tasks = [] := by
  induction htasks : window.tasks generalizing window with
  | nil =>
      rw [Window.settle, htasks, performAll]
      refine ⟨?_, rfl, rfl⟩
      simpa [IsBalanced, enablers, htasks] using h
  | cons task rest ih =>
      have hrest : window.performNext.1.tasks = rest := by
        simp [Window.performNext, htasks]
      have hworker : window.performNext.1.worker = window.worker := by
        simp only [Window.performNext, htasks]
        cases task <;> rfl
      rw [settle_of_tasks_eq_cons htasks, ← hworker]
      exact ih h.performNext hrest

/-- A press leaves a message, or it starts a worker where there is none. -/
theorem startRendering_cases (window : Window) :
    (∃ message, window.startRendering = window.log message) ∨
      window.worker = none ∧ ∃ job, window.startRendering =
        { window with worker := some { job }, renderEnabled := false } := by
  unfold startRendering
  simp only
  split
  · exact .inl ⟨_, rfl⟩
  split
  · exact .inl ⟨_, rfl⟩
  · rename_i hnone
    exact .inr ⟨by simpa using hnone, _, rfl⟩

/-- A worker is started only when nothing disables the button. -/
theorem IsBalanced.startRendering (h : IsBalanced window) (henabled : window.renderEnabled = true) :
    IsBalanced window.startRendering := by
  rcases startRendering_cases window with ⟨message, hlog⟩ | ⟨hnone, job, hstart⟩
  · rw [hlog]
    exact h.leave rfl
  · unfold IsBalanced at h
    rw [hnone, henabled] at h
    rw [hstart]
    simpa [IsBalanced, atWork, enablers] using h

theorem IsBalanced.pressRender (h : IsBalanced window) : IsBalanced window.pressRender := by
  unfold Window.pressRender
  split
  · exact h.startRendering ‹_›
  · exact h

/-- A press that disables the button has found no worker. -/
theorem worker_eq_none_of_pressRender
    (h : (window.renderEnabled && !window.pressRender.renderEnabled) = true) :
    window.worker = none := by
  rcases startRendering_cases window with ⟨message, hlog⟩ | ⟨hnone, -⟩
  · rw [Bool.and_eq_true] at h
    simp [pressRender, h.1, hlog, log, leave] at h
  · exact hnone

/-! ## The workshop -/

namespace Workshop

variable {shop : Workshop}

/-- No worker is replaced, and the window is balanced. -/
structure IsSound (shop : Workshop) : Prop where
  replaced : shop.replaced = []
  balanced : IsBalanced shop.window

/-- At the beginning the button is enabled and nobody works. -/
theorem isSound_start : IsSound {} := ⟨rfl, rfl⟩

theorem IsSound.press (h : IsSound shop) : IsSound shop.press := by
  unfold Workshop.press
  simp only
  split
  · rename_i hstarted
    have hnobody := worker_eq_none_of_pressRender hstarted
    exact ⟨by rw [hnobody, h.replaced]; rfl, h.balanced.pressRender⟩
  · exact ⟨h.replaced, h.balanced.pressRender⟩

/-- What every move preserves. -/
theorem IsSound.step (h : IsSound shop) (move : Move) : IsSound (shop.step move) := by
  cases move with
  | fill paper bibliography renderer typeset => exact ⟨h.replaced, h.balanced⟩
  | press => exact h.press
  | openPage folder =>
      refine ⟨h.replaced, ?_⟩
      show IsBalanced (shop.window.openPage folder).1
      unfold openPage
      split
      · exact h.balanced
      · exact h.balanced.leave rfl
  | workerDoes deed => exact ⟨h.replaced, h.balanced.doneBy deed⟩
  | replacedDoes index deed =>
      have hnobody : shop.step (.replacedDoes index deed) = shop := by
        simp [Workshop.step, replacedDoes, h.replaced]
      rwa [hnobody]
  | performNext => exact ⟨h.replaced, h.balanced.performNext⟩

theorem IsSound.run (h : IsSound shop) (moves : List Move) : IsSound (shop.run moves) := by
  induction moves generalizing shop with
  | nil => exact h
  | cons move moves ih => exact ih (h.step move)

/-- The number of workers at work and of tasks that enable the button. -/
theorem IsSound.atWork_add_enablers (h : IsSound shop) :
    atWork shop.workers + shop.window.enablers = (!shop.window.renderEnabled).toNat := by
  rw [workers, h.replaced, List.append_nil]
  exact h.balanced

/-- Whatever has happened since the window was opened: at most one worker is at work, at most one
task that enables the button is left and none beside a worker at work, and the button is disabled
exactly while there is such a worker or such a task. -/
theorem one_worker_at_a_time (moves : List Move) :
    let shop := ({} : Workshop).run moves
    atWork shop.workers ≤ 1 ∧ shop.window.enablers ≤ 1 ∧
      (0 < atWork shop.workers → shop.window.enablers = 0) ∧
      (shop.window.renderEnabled = false ↔ 0 < atWork shop.workers ∨ 0 < shop.window.enablers) := by
  intro shop
  have hcount : atWork shop.workers + shop.window.enablers = (!shop.window.renderEnabled).toNat :=
    (isSound_start.run moves).atWork_add_enablers
  have hone := hcount.le.trans (Bool.toNat_le _)
  refine ⟨by omega, by omega, by omega, ?_⟩
  cases henabled : shop.window.renderEnabled with
  | true =>
      rw [henabled] at hcount
      simp at hcount
      simp [hcount]
  | false =>
      rw [henabled] at hcount
      have hsome : atWork shop.workers + shop.window.enablers = 1 := hcount
      exact ⟨fun _ => by omega, fun _ => rfl⟩

/-- Once no worker is at work any more and the tasks that are left are performed, the button is
enabled. -/
theorem renderEnabled_settle (moves : List Move)
    (hidle : atWork (({} : Workshop).run moves).workers = 0) :
    (({} : Workshop).run moves).window.settle.1.renderEnabled = true := by
  have hsound := isSound_start.run moves
  obtain ⟨hbalanced, hworker, htasks⟩ := hsound.balanced.settle
  rw [workers, hsound.replaced, List.append_nil] at hidle
  rw [IsBalanced, hworker, hidle, enablers, htasks] at hbalanced
  simpa using hbalanced.symm

end Workshop

end PaperHtml.Window
