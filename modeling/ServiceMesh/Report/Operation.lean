-- Answers and replies of operations as JSON, for tools that look on.
import ServiceMesh.Report.Basic
import ServiceMesh.Service.Operation

namespace ServiceMesh.Operation

def resultReport {ε α : Type} [Rejection ε] (f : α → Json) : Except ε α → Json
  | .ok v => .object [("ok", f v)]
  | .error e => .object [("err", Rejection.report e)]

def answerReport : (op : Operation) → op.Answer → Json
  | .sum, a => resultReport .int a
  | .concat, a => resultReport .text a
  | .uppercase, a => resultReport .text a
  | .count, .ok n => .object [("ok", .int n)]
  | .register, a | .validToken, a => resultReport .text a
  | .login, a => resultReport (Operation.body .login) a
  | .updatePassword, a => resultReport (fun _ => .null) a

def replyJson : (op : Operation) → op.Reply → Json
  | .sum, r => .object [("v", .int r.v), ("err", .text r.err)]
  | .concat, r | .uppercase, r => .object [("v", .text r.v), ("err", .text r.err)]
  | .count, v => .object [("v", .int v)]
  | .register, r => .object [("id", .text r.id), ("err", .text r.err)]
  | .login, r => .object [("token", .text r.token), ("expires_in", .int r.expiresIn),
      ("err", .text r.err)]
  | .updatePassword, err => .object [("err", .text err)]
  | .validToken, r => .object [("valid", .bool r.valid), ("username", .text r.username),
      ("err", .text r.err)]

def replyOf (j : Json) : (op : Operation) → op.Reply
  | .sum => ⟨j.intAt "v", j.textAt "err"⟩
  | .concat | .uppercase => ⟨j.textAt "v", j.textAt "err"⟩
  | .count => j.intAt "v"
  | .register => ⟨j.textAt "id", j.textAt "err"⟩
  | .login => ⟨j.textAt "token", j.intAt "expires_in", j.textAt "err"⟩
  | .updatePassword => j.textAt "err"
  | .validToken => ⟨j.flagAt "valid", j.textAt "username", j.textAt "err"⟩

end ServiceMesh.Operation
