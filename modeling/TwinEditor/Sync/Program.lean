/-!
# Programs of calls

A program makes calls one after another and may choose each one by the answers it got before. It ends
with a result.
-/

namespace TwinEditor
namespace Sync

/-- A finite program of calls with a result. -/
inductive Program (Call Answer Result : Type) : Type
  | done (result : Result)
  | call (request : Call) (next : Answer → Program Call Answer Result)

namespace Program

variable {Call Answer Result State Note : Type}

/-- Run a program. The notes of all calls are put one after another, each followed by what the program
was answered. -/
def run (perform : Call → State → State × Answer × List Note) (answered : Answer → Note) :
    Program Call Answer Result → State → State × Result × List Note
  | .done result, state => (state, result, [])
  | .call request next, state =>
      let (state, answer, notes) := perform request state
      let (state, result, later) := (next answer).run perform answered state
      (state, result, notes ++ answered answer :: later)

@[simp] theorem run_done (perform : Call → State → State × Answer × List Note)
    (answered : Answer → Note) (result : Result) (state : State) :
    (done result : Program Call Answer Result).run perform answered state =
      (state, result, []) := rfl

theorem run_call (perform : Call → State → State × Answer × List Note) (answered : Answer → Note)
    (request : Call) (next : Answer → Program Call Answer Result) (state : State) :
    (call request next).run perform answered state =
      let first := perform request state
      let rest := (next first.2.1).run perform answered first.1
      (rest.1, rest.2.1, first.2.2 ++ answered first.2.1 :: rest.2.2) := rfl

end Program
end Sync
end TwinEditor
