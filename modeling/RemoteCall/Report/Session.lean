/-
The answers of a context session as untyped values, for tools.
-/
import RemoteCall.Context.Session
import RemoteCall.Report.Outcome

namespace RemoteCall.Context

open Report

/-- How a poll ended. -/
def Polled.report : Polled → Json
  | pending => .str "pending"
  | ready => .str "ready"
  | panicked text => .obj [("panic", .str text)]

mutual

/-- An answer. -/
def Answer.report : Answer → Json
  | .nothing => .null
  | .flag value => .bool value
  | .text value => Json.ofOption .str value
  | .entries values => values.toJson
  | .noSuchContext => failure "NoSuchContext" []
  | .noSuchTask => failure "NoSuchTask" []
  | .polled how answers => .obj [("poll", how.report), ("steps", .arr (reportAll answers))]

/-- Answers with the labels of the contexts that were active after them. -/
def reportAll : List (Answer × Option String) → List Json
  | [] => []
  | (answer, active) :: rest =>
    .obj [("active", Json.ofOption .str active), ("r", answer.report)] :: reportAll rest

end

end RemoteCall.Context
