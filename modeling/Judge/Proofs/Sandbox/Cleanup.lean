import Mathlib.Tactic.Lemma
import Judge.Proofs.Host.Storing
import Judge.Proofs.Sandbox.Account
import Judge.Proofs.Sandbox.BoxFiles
import Judge.Proofs.Text.Utf8

/-!
The life of a box of the tool. A box is cleaned up in three places: when it is handed back, when a
run in it is cancelled, and when it is dropped. One flag keeps them apart. A step either uses the
tool for runs only and leaves the flag as it is, or cleans the box up last of all and sets it, so
that over the life of a box the tool cleans it up once, whatever the tool does.
-/

namespace Judge.Sandbox

/-! ### Uses of the tool -/

namespace World

lemma run_use (stage : Stage) (arguments : List String) (w : World) :
    (use stage arguments).run.run w = match w.toolResult arguments with
      | (.notStarted cause, host) =>
        (.error (.noTool stage cause), { w with host, log := ⟨arguments, true⟩ :: w.log })
      | (.ended status output errors, host) =>
        (.ok (status, output, errors), { w with host, log := ⟨arguments, false⟩ :: w.log }) := by
  rw [use, run_bind_get]
  rcases w.toolResult arguments with ⟨_ | _, host⟩ <;> rfl

lemma run_useStopped (stage : Stage) (arguments : List String) (w : World) :
    (useStopped stage arguments).run.run w = match w.toolResult arguments with
      | (.notStarted cause, host) =>
        (.error (.noTool stage cause), { w with host, log := ⟨arguments, true⟩ :: w.log })
      | (.ended .., _) =>
        (.ok (), { w with host := w.halfway arguments w.host, log := ⟨arguments, true⟩ :: w.log }) := by
  rw [useStopped, run_bind_get]
  rcases w.toolResult arguments with ⟨_ | _, host⟩ <;> rfl

end World

namespace IsolateBox

/-- A use of the tool that runs a command in a box. -/
def IsRun (id : Nat) (use : ToolUse) : Prop :=
  ∃ account command config, use.arguments = runArguments id account command config

/-- An action that uses the tool for runs in a box only, and that is not cancelled. -/
structure RunsOnly {α : Type} (id : Nat) (action : World.Action α) : Prop where
  log : ∀ w : World, ∃ uses, (action.run.run w).2.log = uses ++ w.log ∧ ∀ use ∈ uses, IsRun id use
  result : ∀ w : World, (action.run.run w).1 ≠ .error .cancelled

section RunsOnly

variable {α β : Type} {id : Nat}

lemma runsOnly_answer {result : Except Error α} (h : result ≠ .error .cancelled) :
    RunsOnly id (ExceptT.mk (pure result)) :=
  ⟨fun _ => ⟨[], rfl, by simp⟩, fun _ => h⟩

lemma runsOnly_pure (a : α) : RunsOnly id (pure a : World.Action α) := runsOnly_answer nofun

lemma runsOnly_throw {cause : Error} (h : cause ≠ .cancelled) :
    RunsOnly id (throw cause : World.Action α) :=
  runsOnly_answer fun heq => h (Except.error.inj heq)

lemma RunsOnly.bind {action : World.Action α} {next : α → World.Action β}
    (h : RunsOnly id action) (hnext : ∀ a, RunsOnly id (next a)) :
    RunsOnly id (action >>= next) := by
  constructor
  · intro w
    obtain ⟨uses, hlog, huses⟩ := h.log w
    rcases hw : action.run.run w with ⟨cause | a, left⟩ <;> rw [hw] at hlog
    · rw [run_bind_of_error hw]
      exact ⟨uses, hlog, huses⟩
    · obtain ⟨later, hlater, hall⟩ := (hnext a).log left
      rw [run_bind_of_ok hw]
      refine ⟨later ++ uses, ?_, List.forall_mem_append.mpr ⟨hall, huses⟩⟩
      rw [hlater, hlog, List.append_assoc]
  · intro w
    have hresult := h.result w
    rcases hw : action.run.run w with ⟨cause | a, left⟩ <;> rw [hw] at hresult
    · rw [run_bind_of_error hw]
      exact fun heq => hresult (congrArg Except.error (Except.error.inj heq))
    · rw [run_bind_of_ok hw]
      exact (hnext a).result left

lemma runsOnly_onHost {action : Host.Action Error α}
    (h : ∀ host : Host, (action.run.run host).1 ≠ .error .cancelled) :
    RunsOnly id (World.onHost action) :=
  ⟨fun _ => ⟨[], rfl, by simp⟩, fun w => h w.host⟩

lemma runsOnly_use {stage : Stage} {arguments : List String}
    (h : ∃ account command config, arguments = runArguments id account command config) :
    RunsOnly id (World.use stage arguments) := by
  constructor
  · intro w
    rw [World.run_use]
    rcases w.toolResult arguments with ⟨_ | _, host⟩ <;>
      exact ⟨[_], rfl, List.forall_mem_singleton.mpr h⟩
  · intro w
    rw [World.run_use]
    rcases w.toolResult arguments with ⟨_ | _, host⟩ <;> simp

lemma runsOnly_tryChange (step : Host → Except IoError Host) :
    RunsOnly id (World.onHost (Host.tryChange step)) := by
  refine runsOnly_onHost fun host => ?_
  rw [Host.run_tryChange]
  exact nofun

lemma runsOnly_takeCapture (box : IsolateBox) (name : String) :
    RunsOnly id (box.takeCapture name) := by
  refine runsOnly_onHost fun host => ?_
  rw [run_bind_get]
  cases host.fetch (Path.join box.path name) with
  | error cause => exact nofun
  | ok content =>
    dsimp only
    rw [run_bind_of_ok (Host.run_tryChange _ _)]
    exact nofun

lemma runsOnly_takeText (account : String) : RunsOnly id (World.onHost do
    match (← get).fetch account with
    | .error _ => throw .noAccount
    | .ok content =>
      match Utf8.decode? content.bytes with
      | none => throw .noAccount
      | some text =>
        Host.tryChange (·.remove account)
        return text) := by
  refine runsOnly_onHost fun host => ?_
  rw [run_bind_get]
  cases host.fetch account with
  | error cause => exact nofun
  | ok content =>
    cases htext : Utf8.decode? content.bytes with
    | none =>
      simp only [htext]
      exact nofun
    | some text =>
      simp only [htext]
      rw [run_bind_of_ok (Host.run_tryChange _ _)]
      exact nofun

lemma read_ne_cancelled (text : List Char) : RunAccount.read text ≠ .error .cancelled := by
  by_cases h : RunAccount.faultLine ∈ Text.lines text
  · obtain ⟨complaint, hread⟩ := RunAccount.read_of_fault h
    rw [hread]
    exact nofun
  · rw [RunAccount.read_of_faultless h]
    exact nofun

/-- Output that is taken if it was collected. -/
lemma runsOnly_collected (wanted : Prop) [Decidable wanted] (box : IsolateBox) (name : String)
    {next : Bytes → World.Action α} (hnext : ∀ output, RunsOnly id (next output)) :
    RunsOnly id (if wanted then box.takeCapture name >>= next else pure [] >>= next) := by
  split
  · exact (runsOnly_takeCapture box name).bind hnext
  · exact (runsOnly_pure []).bind hnext

lemma runsOnly_runToEnd (box : IsolateBox) (account : String) (command : List String)
    (config : RunConfig) : RunsOnly box.id (box.runToEnd account command config) := by
  unfold runToEnd
  refine (runsOnly_use ⟨_, _, _, rfl⟩).bind fun (status, _, errors) => ?_
  dsimp only
  split
  · exact runsOnly_throw nofun
  refine (runsOnly_takeText account).bind fun text => ?_
  refine (runsOnly_answer (read_ne_cancelled text)).bind fun stats => ?_
  exact runsOnly_collected _ box outputFile fun output =>
    runsOnly_collected _ box errorsFile fun errors => runsOnly_pure _

lemma runsOnly_run (box : IsolateBox) (account : String) (command : List String)
    (config : RunConfig) : RunsOnly box.id (do
      if command.isEmpty then throw .emptyCommand
      World.onHost (Host.tryChange (·.remove account))
      box.runToEnd account command config) := by
  split
  · exact runsOnly_throw nofun
  · exact (runsOnly_tryChange _).bind fun _ => runsOnly_runToEnd box account command config

end RunsOnly

/-! ### What operations do to a box -/

lemma log_cleanup (box : IsolateBox) (w : World) : ∃ cut,
    (box.cleanup.run.run w).2.log = ⟨cleanupArguments box.id, cut⟩ :: w.log := by
  have huse := World.run_use .cleanup (cleanupArguments box.id) w
  rcases hresult : w.toolResult (cleanupArguments box.id) with ⟨_ | _, host⟩ <;>
    rw [hresult] at huse
  · rw [cleanup, run_bind_of_error huse]
    exact ⟨true, rfl⟩
  · rw [cleanup, run_bind_of_ok huse]
    refine ⟨false, ?_⟩
    dsimp only
    split <;> rfl

lemma live_of_live {α : Type} {box : IsolateBox} (h : box.released = false)
    (action : World.Action α) : box.live action = action := by
  rw [live, h]
  rfl

lemma run_live_of_released {α : Type} {box : IsolateBox} (h : box.released = true)
    (action : World.Action α) (w : World) :
    (box.live action).run.run w = (.error (.released "IsolateSandbox" box.id), w) := by
  rw [live, h]
  rfl

/-- When a run is stopped right after its start. -/
lemma stops_iff {cancelled : Bool} {box : IsolateBox} {command : List String} :
    (cancelled && !box.released && !command.isEmpty) = true ↔
      cancelled = true ∧ box.released = false ∧ command ≠ [] := by
  simp [and_assoc]

/-- What a run is that is not stopped. -/
lemma perform_run_of_not {cancelled : Bool} {box : IsolateBox} {command : List String}
    (h : (cancelled && !box.released && !command.isEmpty) = false) (config : RunConfig) (w : World) :
    (box.perform cancelled (.run command config)).run w =
      let ran := (box.live do
        if command.isEmpty then throw .emptyCommand
        World.onHost (Host.tryChange (·.remove (box.accountFile w.time)))
        box.runToEnd (box.accountFile w.time) command config).run.run w
      ((ran.1, box), ran.2) := by
  rw [perform, StateT.run_bind, StateT.run_get, pure_bind, h, if_neg Bool.false_ne_true]
  rfl

/-- What a run is that is stopped. -/
lemma perform_run_stopped {box : IsolateBox} (hlive : box.released = false) {command : List String}
    (hcommand : command ≠ []) (config : RunConfig) (w : World) :
    (box.perform true (.run command config)).run w =
      match (World.useStopped .run
        (runArguments box.id (box.accountFile w.time) command config)).run.run w with
      | (.error cause, after) => ((.error cause, box), after)
      | (.ok (), after) => ((.error .cancelled, { box with released := true }),
          ((World.onHost (Host.tryChange (·.remove (box.accountFile w.time)))).run.run
            (box.cleanup.run.run after).2).2) := by
  rw [perform, StateT.run_bind, StateT.run_get, pure_bind,
    if_pos (stops_iff.mpr ⟨rfl, hlive, hcommand⟩), StateT.run_bind]
  rcases StateT.run (ExceptT.run (World.useStopped .run
    (runArguments box.id (box.accountFile w.time) command config))) w with ⟨_ | _, after⟩ <;> rfl

/-- A box that was handed back: it refuses every call, and to hand it back again changes nothing. -/
structure Closed (box : IsolateBox) : Prop where
  refuses : ∀ (cancelled : Bool) (call : Call) (w : World), (box.perform cancelled call).run w =
    ((.error (.released "IsolateSandbox" box.id), box), w)
  releases : ∀ w : World, box.release.run w = ((.ok (), box), w)

lemma closed_of_released {box : IsolateBox} (h : box.released = true) : Closed box where
  refuses := by
    intro cancelled call w
    cases call with
    | deliver | copyIn | fetch =>
      rw [perform, StateT.run_bind, run_live_of_released h]
      rfl
    | run command config =>
      rw [perform_run_of_not (by simp [h]), run_live_of_released h]
  releases := by
    intro w
    rw [release, if_pos h]
    rfl

/-! ### The life of a box -/

/-- What can happen while there is a box. -/
inductive Step where
  | perform (cancelled : Bool) (call : Call)
  | release
  /-- Something else goes on, so that the host, the tool and the time are other ones. -/
  | elsewhere (host : Host) (tool : Tool) (halfway : List String → Host → Host) (time : String)

/-- What a step leaves of a box and its world. -/
def Step.take : IsolateBox × World → Step → IsolateBox × World
  | (box, w), .perform cancelled call =>
    let answered := (box.perform cancelled call).run w
    (answered.1.2, answered.2)
  | (box, w), .release =>
    let answered := box.release.run w
    (answered.1.2, answered.2)
  | (box, w), .elsewhere host tool halfway time => (box, { w with host, tool, halfway, time })

/-- What steps leave of a box and its world. -/
def after (state : IsolateBox × World) (steps : List Step) : IsolateBox × World :=
  steps.foldl Step.take state

/-- A step that ends the use of a box: it is handed back, or a run in it is cancelled. -/
def Step.Ends : IsolateBox × World → Step → Prop
  | (box, w), .perform cancelled (.run command config) =>
    ((box.perform cancelled (.run command config)).run w).1.1 = .error .cancelled
  | _, .release => True
  | _, _ => False

/-- What a step does to a box and to the log. -/
inductive Effect (box : IsolateBox) (w : World) : IsolateBox × World → Prop
  /-- Commands may be run in a box that was not handed back. -/
  | kept {left : World} (uses : List ToolUse) (hruns : ∀ use ∈ uses, IsRun box.id use)
    (hquiet : box.released = true → uses = []) (hlog : left.log = uses ++ w.log) :
    Effect box w (box, left)
  /-- After that it may be cleaned up. -/
  | cleaned {left : World} (hlive : box.released = false) (uses : List ToolUse)
    (hruns : ∀ use ∈ uses, IsRun box.id use) (cut : Bool)
    (hlog : left.log = ⟨cleanupArguments box.id, cut⟩ :: (uses ++ w.log)) :
    Effect box w ({ box with released := true }, left)

section Effect

variable {box : IsolateBox} {w left : World}

lemma effect_of_log (h : left.log = w.log) : Effect box w (box, left) :=
  .kept [] (by simp) (fun _ => rfl) h

lemma effect_live {α : Type} {action : World.Action α}
    (h : box.released = false → Effect box w (box, (action.run.run w).2)) :
    Effect box w (box, ((box.live action).run.run w).2) := by
  cases hreleased : box.released with
  | true =>
    rw [run_live_of_released hreleased]
    exact effect_of_log rfl
  | false =>
    rw [live_of_live hreleased]
    exact h hreleased

lemma effect_onHost {α : Type} (action : Host.Action Error α) :
    Effect box w (box, ((box.live (World.onHost action)).run.run w).2) :=
  effect_live fun _ => effect_of_log rfl

lemma RunsOnly.effect {α : Type} {action : World.Action α} (h : RunsOnly box.id action) :
    Effect box w (box, ((box.live action).run.run w).2) := by
  obtain ⟨uses, hlog, hruns⟩ := h.log w
  exact effect_live fun hlive => .kept uses hruns (by simp [hlive]) hlog

lemma effect_run (cancelled : Bool) (command : List String) (config : RunConfig) :
    let answered := (box.perform cancelled (.run command config)).run w
    Effect box w (answered.1.2, answered.2) := by
  cases h : cancelled && !box.released && !command.isEmpty with
  | false =>
    rw [perform_run_of_not h]
    exact (runsOnly_run box _ command config).effect
  | true =>
    obtain ⟨rfl, hlive, hcommand⟩ := stops_iff.mp h
    rw [perform_run_stopped hlive hcommand, World.run_useStopped]
    set account := box.accountFile w.time
    set use : ToolUse := ⟨runArguments box.id account command config, true⟩
    have hruns : ∀ other ∈ [use], IsRun box.id other :=
      List.forall_mem_singleton.mpr ⟨account, command, config, rfl⟩
    -- A run for which the tool cannot be started is not a cancelled one, and leaves the box in use.
    rcases w.toolResult (runArguments box.id account command config) with ⟨_ | _, host⟩
    · exact .kept [use] hruns (by simp [hlive]) rfl
    · obtain ⟨cut, hlog⟩ := log_cleanup box { w with
        host := w.halfway use.arguments w.host, log := use :: w.log }
      exact .cleaned hlive [use] hruns cut hlog

lemma effect_perform (cancelled : Bool) (call : Call) :
    let answered := (box.perform cancelled call).run w
    Effect box w (answered.1.2, answered.2) := by
  cases call with
  | deliver path data executable => exact effect_onHost (box.directory.deliver path data executable)
  | copyIn source path => exact effect_onHost (box.directory.copyIn source path)
  | fetch path => exact effect_onHost (box.directory.fetch path)
  | run command config => exact effect_run cancelled command config

lemma effect_release :
    let answered := box.release.run w
    Effect box w (answered.1.2, answered.2) := by
  cases hreleased : box.released with
  | true =>
    rw [(closed_of_released hreleased).releases]
    exact effect_of_log rfl
  | false =>
    obtain ⟨cut, hlog⟩ := log_cleanup box w
    rw [release, if_neg (by simp [hreleased])]
    exact .cleaned hreleased [] (by simp) cut hlog

lemma effect_take (state : IsolateBox × World) (step : Step) :
    Effect state.1 state.2 (Step.take state step) := by
  obtain ⟨box, w⟩ := state
  cases step with
  | perform cancelled call => exact effect_perform cancelled call
  | release => exact effect_release
  | elsewhere => exact effect_of_log rfl

/-- A box stays handed back. -/
lemma Effect.released {after : IsolateBox × World} (h : Effect box w after)
    (hreleased : box.released = true) : after.1.released = true := by
  cases h with
  | kept => exact hreleased
  | cleaned => rfl

end Effect

/-- The log since a start, as far as the life of a box has come. -/
inductive Life (id : Nat) (start : List ToolUse) : IsolateBox × World → Prop
  | live {box : IsolateBox} {w : World} (hid : box.id = id) (hlive : box.released = false)
    (uses : List ToolUse) (hruns : ∀ use ∈ uses, IsRun id use) (hlog : w.log = uses ++ start) :
    Life id start (box, w)
  | closed {box : IsolateBox} {w : World} (hid : box.id = id) (hclosed : box.released = true)
    (uses : List ToolUse) (hruns : ∀ use ∈ uses, IsRun id use) (cut : Bool)
    (hlog : w.log = ⟨cleanupArguments id, cut⟩ :: (uses ++ start)) : Life id start (box, w)

namespace Life

variable {id : Nat} {start : List ToolUse} {state left : IsolateBox × World}

lemma of_effect (h : Life id start state) (heffect : Effect state.1 state.2 left) :
    Life id start left := by
  cases h with
  | live hid hlive uses hruns hlog =>
    subst hid
    cases heffect with
    | kept more hmore hquiet hleft =>
      refine .live rfl hlive (more ++ uses) (List.forall_mem_append.mpr ⟨hmore, hruns⟩) ?_
      rw [hleft, hlog, List.append_assoc]
    | cleaned _ more hmore cut hleft =>
      refine .closed rfl rfl (more ++ uses) (List.forall_mem_append.mpr ⟨hmore, hruns⟩) cut ?_
      rw [hleft, hlog, List.append_assoc]
  | closed hid hclosed uses hruns cut hlog =>
    cases heffect with
    | kept more _ hquiet hleft =>
      refine .closed hid hclosed uses hruns cut ?_
      rw [hleft, hquiet hclosed, hlog]
      rfl
    | cleaned hlive =>
      rw [hclosed] at hlive
      contradiction

theorem after (h : Life id start state) (steps : List Step) :
    Life id start (IsolateBox.after state steps) := by
  induction steps generalizing state with
  | nil => exact h
  | cons step steps ih => exact ih (h.of_effect (effect_take state step))

end Life

end IsolateBox

end Judge.Sandbox
