-- Whether a text can be dialled for remote calls: a host, a port perhaps, and perhaps a path
-- behind them.

namespace ServiceMesh.Web

structure HostScan where
  colons : Nat := 0
  /-- A bracket has been opened. -/
  opened : Bool := false
  /-- It has been closed again. -/
  closed : Bool := false
  /-- A percent sign has come since the last `@`. -/
  percent : Bool := false
  /-- An `@` came last. -/
  atSign : Bool := false
  deriving DecidableEq, Repr

namespace HostScan

/-- Reads one character more, if it may come here. -/
def next (s : HostScan) (c : Char) : Option HostScan :=
  let s := { s with atSign := c = '@' }
  match c with
  | ':' => if s.colons < 8 then some { s with colons := s.colons + 1 } else none
  | '[' => if s.percent || s.opened then none else some { s with opened := true }
  | ']' =>
    if !s.opened || s.closed then none
    else some { s with closed := true, colons := 0, percent := false }
  | '@' => some { s with colons := 0, percent := false }
  | '%' => some { s with percent := true }
  | _ => if c.isAlphanum || "!$&'()*+,-.;=_~".contains c then some s else none

/-- Whether a host may end here: its brackets are a pair, only one port follows, and percent
signs stand before an `@` only. -/
def mayEnd (s : HostScan) : Bool :=
  s.opened == s.closed && s.colons ≤ 1 && !s.percent && !s.atSign

end HostScan

def isHostPlace (cs : List Char) : Bool :=
  !cs.isEmpty && (cs.foldlM HostScan.next {}).any (·.mayEnd)

/-- Whether what follows the host is a path, with a query perhaps. -/
def isPathAndQuery (cs : List Char) : Bool :=
  let cs := cs.takeWhile (· ≠ '#')
  let plain (c : Char) : Bool := 32 < c.toNat && c != '<'
  (cs.takeWhile (· ≠ '?')).all (fun c => plain c && c != '>' && c != '\x60')
    && ((cs.dropWhile (· ≠ '?')).drop 1).all fun c => plain c && c != '"'

/-- The greatest length of an address, in bytes. -/
def maxUri : Nat := 65534

/-- Whether a text behind `http://` makes an address with it. -/
def isRemotePlace (s : String) : Bool :=
  let isEnd (c : Char) : Bool := c = '/' || c = '?' || c = '#'
  s.utf8ByteSize + 7 ≤ maxUri && isHostPlace (s.toList.takeWhile (!isEnd ·))
    && isPathAndQuery (s.toList.dropWhile (!isEnd ·))

end ServiceMesh.Web
