-- The eight operations of the three services: what each is asked, what it answers, and how
-- both travel between processes and over HTTP.
import ServiceMesh.Domain.Rejection
import ServiceMesh.Json.Shape

namespace ServiceMesh

inductive Operation where
  | sum
  | concat
  | uppercase
  | count
  | register
  | login
  | updatePassword
  | validToken
  deriving DecidableEq, Repr

inductive ServiceKind where
  | add
  | text
  | user
  deriving DecidableEq, Repr

/-- The name of a service in its health report, and in the registry. -/
def ServiceKind.name : ServiceKind → String
  | .add => "addsvc"
  | .text => "stringsvc"
  | .user => "usersvc"

/-- A token given out, and the seconds that it is good for. -/
structure IssuedToken where
  token : String
  expiresIn : Int
  deriving DecidableEq, Repr

/-! ## Requests -/

structure Numbers where
  a : Int
  b : Int
  deriving DecidableEq, Repr

structure Parts where
  a : String
  b : String
  deriving DecidableEq, Repr

structure Registration where
  username : String
  password : String
  nickname : String
  deriving DecidableEq, Repr

structure Credentials where
  username : String
  password : String
  deriving DecidableEq, Repr

structure PasswordChange where
  username : String
  password : String
  newPassword : String
  deriving DecidableEq, Repr

/-! ## Replies as they travel between processes

A reply carries the message of a rejection, empty for none, beside the fields of a success. -/

structure NumberReply where
  v : Int
  err : String
  deriving DecidableEq, Repr

structure TextReply where
  v : String
  err : String
  deriving DecidableEq, Repr

structure RegisterReply where
  id : String
  err : String
  deriving DecidableEq, Repr

structure LoginReply where
  token : String
  expiresIn : Int
  err : String
  deriving DecidableEq, Repr

structure ValidReply where
  valid : Bool
  username : String
  err : String
  deriving DecidableEq, Repr

namespace Operation

def all : List Operation :=
  [.sum, .concat, .uppercase, .count, .register, .login, .updatePassword, .validToken]

def name : Operation → String
  | .sum => "sum"
  | .concat => "concat"
  | .uppercase => "uppercase"
  | .count => "count"
  | .register => "register"
  | .login => "login"
  | .updatePassword => "update_password"
  | .validToken => "valid_token"

def rpcName : Operation → String
  | .sum => "Sum"
  | .concat => "Concat"
  | .uppercase => "Uppercase"
  | .count => "Count"
  | .register => "Register"
  | .login => "Login"
  | .updatePassword => "UpdatePassword"
  | .validToken => "ValidToken"

def named? (name : String) : Option Operation := all.find? (·.name == name)

def rpcNamed? (name : String) : Option Operation := all.find? (·.rpcName == name)

def service : Operation → ServiceKind
  | .sum | .concat => .add
  | .uppercase | .count => .text
  | .register | .login | .updatePassword | .validToken => .user

def ofService : ServiceKind → List Operation
  | .add => [.sum, .concat]
  | .text => [.uppercase, .count]
  | .user => [.register, .login, .updatePassword, .validToken]

@[reducible] def Request : Operation → Type
  | .sum => Numbers
  | .concat => Parts
  | .uppercase | .count | .validToken => String
  | .register => Registration
  | .login => Credentials
  | .updatePassword => PasswordChange

@[reducible] def Value : Operation → Type
  | .sum | .count => Int
  | .concat | .uppercase | .register | .validToken => String
  | .login => IssuedToken
  | .updatePassword => Unit

/-- How the operation rejects a call. Counting rejects none. -/
@[reducible] def Refusal : Operation → Type
  | .sum | .concat => AddRejection
  | .uppercase => TextRejection
  | .count => Empty
  | .register | .login | .updatePassword | .validToken => UserRejection

abbrev Answer (op : Operation) : Type := Except op.Refusal op.Value

/-- The reply that the answer travels as. -/
@[reducible] def Reply : Operation → Type
  | .sum => NumberReply
  | .concat | .uppercase => TextReply
  | .count => Int
  | .register => RegisterReply
  | .login => LoginReply
  | .updatePassword => String
  | .validToken => ValidReply

def encode : (op : Operation) → op.Answer → op.Reply
  | .sum, .ok v => ⟨v, ""⟩
  | .sum, .error e => ⟨0, Rejection.message e⟩
  | .concat, .ok v | .uppercase, .ok v => ⟨v, ""⟩
  | .concat, .error e => ⟨"", Rejection.message e⟩
  | .uppercase, .error e => ⟨"", Rejection.message e⟩
  | .count, .ok v => v
  | .register, .ok id => ⟨id, ""⟩
  | .register, .error e => ⟨"", Rejection.message e⟩
  | .login, .ok t => ⟨t.token, t.expiresIn, ""⟩
  | .login, .error e => ⟨"", 0, Rejection.message e⟩
  | .updatePassword, .ok () => ""
  | .updatePassword, .error e => Rejection.message e
  | .validToken, .ok username => ⟨true, username, ""⟩
  | .validToken, .error e => ⟨false, "", Rejection.message e⟩

/-- An answer out of the fields of a reply: the rejection if there is one. -/
def answerOf {ε α : Type} [Rejection ε] (err : String) (v : α) : Except ε α :=
  match Rejection.decode err with
  | some e => .error e
  | none => .ok v

/-- The answer that a reply stands for. A reply that is not valid and gives no reason is an
invalid token. -/
def decode : (op : Operation) → op.Reply → op.Answer
  | .sum, r => answerOf r.err r.v
  | .concat, r => answerOf r.err r.v
  | .uppercase, r => answerOf r.err r.v
  | .count, v => .ok v
  | .register, r => answerOf r.err r.id
  | .login, r => answerOf r.err ⟨r.token, r.expiresIn⟩
  | .updatePassword, err => answerOf err ()
  | .validToken, r =>
    match answerOf r.err r.username with
    | .error e => .error e
    | .ok username => if r.valid then .ok username else .error .invalidToken

/-! ## Over HTTP -/

def body : (op : Operation) → op.Value → Json
  | .sum, v | .count, v => .object [("v", .int v)]
  | .concat, v | .uppercase, v => .object [("v", .text v)]
  | .register, id => .object [("id", .text id)]
  | .login, t => .object [("token", .text t.token), ("expires_in", .int t.expiresIn)]
  | .updatePassword, () => .object [("updated", .bool true)]
  | .validToken, username => .object [("valid", .bool true), ("username", .text username)]

def response : (op : Operation) → op.Answer → Http.Response
  | .sum, a => Rejection.answer (body .sum) a
  | .concat, a => Rejection.answer (body .concat) a
  | .uppercase, a => Rejection.answer (body .uppercase) a
  | .count, .ok v => .json 200 (body .count v)
  | .register, a => Rejection.answer (body .register) a
  | .login, a => Rejection.answer (body .login) a
  | .updatePassword, a => Rejection.answer (body .updatePassword) a
  | .validToken, a => Rejection.answer (body .validToken) a

/-- What is noted when an answer is told over HTTP. -/
def responseNotes : (op : Operation) → op.Answer → List Note
  | .sum, a | .concat, a => Rejection.answerNotes a
  | .uppercase, a => Rejection.answerNotes a
  | .count, .ok _ => []
  | .register, a | .validToken, a => Rejection.answerNotes a
  | .login, a => Rejection.answerNotes a
  | .updatePassword, a => Rejection.answerNotes a

def ofFields (j : Json) : (op : Operation) → op.Request
  | .sum => ⟨j.intAt "a", j.intAt "b"⟩
  | .concat => ⟨j.textAt "a", j.textAt "b"⟩
  | .uppercase | .count => j.textAt "s"
  | .register => ⟨j.textAt "username", j.textAt "password", j.textAt "nickname"⟩
  | .login => ⟨j.textAt "username", j.textAt "password"⟩
  | .updatePassword => ⟨j.textAt "username", j.textAt "password", j.textAt "new_password"⟩
  | .validToken => j.textAt "token"

section Reading

open Json Json.Reader

def intField (name : String) : Field := ⟨name, .int <$> integer (.signed 64) "i64", .refused⟩

def textField (name : String) : Field := ⟨name, .text <$> text, .refused⟩

def recordName : Operation → String
  | .sum => "SumRequest"
  | .concat => "ConcatRequest"
  | .uppercase => "UppercaseRequest"
  | .count => "CountRequest"
  | .register => "RegisterRequest"
  | .login => "LoginRequest"
  | .updatePassword => "UpdatePasswordRequest"
  | .validToken => "ValidTokenRequest"

/-- The fields of that record. Only a nickname may be left out. -/
def recordFields : Operation → List Field
  | .sum => [intField "a", intField "b"]
  | .concat => [textField "a", textField "b"]
  | .uppercase | .count => [textField "s"]
  | .register => [textField "username", textField "password",
      { textField "nickname" with absent := .standsFor (.text "") }]
  | .login => [textField "username", textField "password"]
  | .updatePassword => [textField "username", textField "password", textField "new_password"]
  | .validToken => [textField "token"]

def reader (op : Operation) : Reader op.Request :=
  (fun j => ofFields j op) <$> record op.recordName op.recordFields

end Reading

/-! ## Rules on the fields of a request -/

/-- A field whose number of characters lies outside its limits. -/
def lengthRule (field : String) (min? max? : Option Nat) (value : String) : List Violation :=
  let n := value.length
  if (min?.all (· ≤ n)) && (max?.all (n ≤ ·)) then [] else [⟨field, min?, max?, value⟩]

/-- The rules that a request breaks. Both transports ask before they call. -/
def violations : (op : Operation) → op.Request → List Violation
  | .register, r =>
    lengthRule "username" (some 1) (some 64) r.username
      ++ lengthRule "password" (some 1) (some 128) r.password
      ++ lengthRule "nickname" none (some 64) r.nickname
  | .login, r =>
    lengthRule "username" (some 1) none r.username
      ++ lengthRule "password" (some 1) none r.password
  | .updatePassword, r =>
    lengthRule "username" (some 1) none r.username
      ++ lengthRule "password" (some 1) none r.password
      ++ lengthRule "new_password" (some 1) (some 128) r.newPassword
  | _, _ => []

end Operation

end ServiceMesh
