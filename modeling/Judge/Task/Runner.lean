import Judge.Host
import Judge.Task

/-!
Running a task on a host with one sandbox.
-/

namespace Judge.Task

/-- What a task runs on: a sandbox, and the host as a part of the state. -/
structure Runner (σ : Type) where
  host : σ → Host
  setHost : Host → σ → σ
  box : Sandbox.Handler σ

/-- Answers the requests of a task: those for the sandbox by the sandbox, the others by the host. -/
def Runner.handle {σ : Type} (runner : Runner σ) (request : Request) (s : σ) :
    request.Answer × σ :=
  match request with
  | .box call => runner.box call s
  | .findProgram name => ((runner.host s).findProgram name, s)
  | .store path data executable =>
    let (answer, host) := (runner.host s).storeFile path data executable
    (answer, runner.setHost host s)

/-- A runner whose sandbox leaves the host alone. -/
def Runner.apart {σ : Type} (box : Sandbox.Handler σ) : Runner (Host × σ) where
  host s := s.1
  setHost host s := (host, s.2)
  box call s :=
    let (answer, t) := box call s.2
    (answer, (s.1, t))

end Judge.Task
