-- Stored users, and the JSON form in which a document store keeps them.
import ServiceMesh.Json.Shape

namespace ServiceMesh

structure User where
  id : String
  username : String
  nickname : String
  /-- A hash that says by itself how it was made. -/
  passwordHash : String
  /-- Milliseconds since 1970. -/
  created : Int
  deriving DecidableEq, Repr

namespace User

open Json Json.Reader

/-- An instant as a document store writes it. -/
def dateJson (millis : Int) : Json :=
  .object [("$date", .object [("$numberLong", .text (toString millis))])]

def json (u : User) : Json :=
  .object [("_id", .text u.id), ("username", .text u.username), ("nickname", .text u.nickname),
    ("password_hash", .text u.passwordHash), ("created_utc", dateJson u.created)]

/-! ## Instants in words: `2024-01-31T23:59:59.5+01:00` -/

/-- Exactly `n` digits, as a number, and what follows. -/
def digits (n : Nat) (cs : List Char) : Option (Nat × List Char) :=
  let ds := cs.take n
  if ds.length = n && ds.all Char.isDigit then
    some (ds.foldl (fun m c => m * 10 + (c.toNat - 48)) 0, cs.drop n)
  else none

def sign (c : Char) : List Char → Option (List Char)
  | d :: rest => if c = d then some rest else none
  | [] => none

/-- The days from 1970 to a day of the calendar. -/
def daysFrom1970 (year month day : Nat) : Int :=
  let y : Int := if month ≤ 2 then year - 1 else year
  let m := (month + 9) % 12
  let era := y / 400
  let ofEra := y - era * 400
  let ofYear : Int := (153 * m + 2) / 5 + day - 1
  era * 146097 + ofEra * 365 + ofEra / 4 - ofEra / 100 + ofYear - 719468

def daysInMonth (year month : Nat) : Nat :=
  if month = 2 then
    if year % 4 = 0 && (year % 100 ≠ 0 || year % 400 = 0) then 29 else 28
  else if [4, 6, 9, 11].contains month then 30 else 31

/-- The milliseconds behind a point, if there is one; more digits are dropped. -/
def fraction (cs : List Char) : Option (Nat × List Char) :=
  match cs with
  | '.' :: rest =>
    let ds := rest.takeWhile Char.isDigit
    if ds.isEmpty then none
    else
      let padded := (ds ++ ['0', '0', '0']).take 3
      some (padded.foldl (fun m c => m * 10 + (c.toNat - 48)) 0, rest.dropWhile Char.isDigit)
  | _ => some (0, cs)

/-- The minutes that a place is ahead. -/
def offset (cs : List Char) : Option Int :=
  let clock (cs : List Char) : Option Nat := do
    let (h, cs) ← digits 2 cs
    let (m, cs) ← digits 2 (← sign ':' cs)
    if cs.isEmpty && h < 24 && m < 60 then some (h * 60 + m) else none
  match cs with
  | ['Z'] | ['z'] => some 0
  | '+' :: rest => (clock rest).map fun n => (n : Int)
  | '-' :: rest => (clock rest).map fun n => -(n : Int)
  | _ => none

/-- The milliseconds since 1970 of an instant in words. -/
def instant? (s : String) : Option Int := do
  let (year, cs) ← digits 4 s.toList
  let (month, cs) ← digits 2 (← sign '-' cs)
  let (day, cs) ← digits 2 (← sign '-' cs)
  let cs ← (sign 'T' cs <|> sign 't' cs)
  let (hour, cs) ← digits 2 cs
  let (minute, cs) ← digits 2 (← sign ':' cs)
  let (second, cs) ← digits 2 (← sign ':' cs)
  let (millis, cs) ← fraction cs
  let ahead ← offset cs
  if 1 ≤ month && month ≤ 12 && 1 ≤ day && day ≤ daysInMonth year month && hour < 24
      && minute < 60 && second < 60 then
    let minutes : Int := daysFrom1970 year month day * 1440 + hour * 60 + minute - ahead
    some ((minutes * 60 + second) * 1000 + millis)
  else none

/-! ## Reading -/

/-- What stands behind `$date`: milliseconds in a text, or an instant in words. -/
def dateBody : Reader Int := do
  match ← value maxDepth with
  | .text s =>
    match instant? s with
    | some millis => pure millis
    | none => failOpen (.invalidValue (.text s) "rfc3339 formatted utc datetime")
  | .object [("$numberLong", .text s)] =>
    match Text.readInteger (.signed 64) s with
    | .ok millis => pure millis
    | .error _ => failOpen (.invalidValue (.text s) "expected i64 as a string")
  | _ => failOpen (.custom "data did not match any variant of untagged enum DateTimeBody")

def noDate : Reader Int := failOpen (.custom "expecting DateTime")

def date : Reader Int := do
  if (← token) = 123 then
    closing (do
      skip
      if ← nextKey true then
        skip
        let key ← textBody
        colon
        if key = "$date" then dateBody
        else
          let first ← value maxDepth
          let _ ← entriesTail (value maxDepth) [(key, first)] ((← remaining) + 1)
          noDate
      else noDate) objectEnd
  else
    let _ ← value maxDepth
    noDate

def fieldsOf : List Field :=
  let str (name : String) : Field := ⟨name, .text <$> text, .refused⟩
  [str "_id", str "username", str "nickname", str "password_hash",
    ⟨"created_utc", .int <$> date, .refused⟩]

/-- Reads a stored user; the fault is in words. -/
def ofJson (s : String) : Except String User :=
  let bytes := s.toUTF8.toList
  match fromAll (record "User" fieldsOf) bytes with
  | .ok j =>
    .ok ⟨j.textAt "_id", j.textAt "username", j.textAt "nickname", j.textAt "password_hash",
      j.intAt "created_utc"⟩
  | .error f => .error (f.message bytes)

end User

end ServiceMesh
