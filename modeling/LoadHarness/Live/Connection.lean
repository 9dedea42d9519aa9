import LoadHarness.Duration
import LoadHarness.Url.Path
import LoadHarness.Wire.Http
import Std.Async.DNS
import Std.Async.Select
import Std.Async.TCP
import Std.Async.Timer

/-!
# Connections

A `Connection` is a socket with the bytes that have come and are not used yet. Opening one and
waiting for bytes both have a deadline, on the clock that counts milliseconds.
-/

namespace LoadHarness.Live

open Std.Async Std.Net

/-- A point in time, in milliseconds. -/
abbrev Deadline := Nat

/-- The point in time after a duration, of which a broken millisecond counts as a whole one. -/
def after (d : Duration) : Async Deadline := do
  return (← IO.monoMsNow) + (d.nanoseconds + 999999) / 1000000

/-- How long it is until a deadline, at most a day. -/
def untilDeadline (t : Deadline) : Async Std.Time.Millisecond.Offset := do
  return .ofNat (min (t - (← IO.monoMsNow)) 86400000)

/-- Waits for a duration. -/
partial def pause (d : Duration) : Async Unit := do
  wait (← after d)
where
  wait (t : Deadline) : Async Unit := do
    if (← IO.monoMsNow) < t then
      sleep (← untilDeadline t)
      wait t

structure Connection where
  socket : TCP.Socket.Client
  /-- What has come and is not used yet. -/
  pending : IO.Ref (List UInt8)

/-- What comes of waiting for bytes. -/
inductive Arrival where
  | more
  | ended
  | late

namespace Connection

/-- Why there is no connection. -/
inductive Refusal where
  | refused
  | late

/-- The addresses of a host. -/
def addresses (host : String) (port : Nat) : Async (List SocketAddress) := do
  let found ← DNS.getAddrInfo host ""
  return found.toList.map fun
    | .v4 a => .v4 ⟨a, port.toUInt16⟩
    | .v6 a => .v6 ⟨a, port.toUInt16⟩

/-- Connects to the first address that takes a connection. -/
def connectAny : List SocketAddress → Async (Option TCP.Socket.Client)
  | [] => return none
  | a :: rest => do
    try
      let socket ← TCP.Socket.Client.mk
      socket.connect a
      return some socket
    catch _ => connectAny rest

/-- Opens a connection to the host of a URL. -/
def open? (u : Url) (t : Deadline) : Async (Except Refusal Connection) := do
  let (host, port) := u.hostPort
  let attempt : Async (Except Refusal Connection) := do
    try
      match ← connectAny (← addresses host port) with
      | none => return .error .refused
      | some socket => return .ok ⟨socket, ← IO.mkRef []⟩
    catch _ => return .error .refused
  let giveUp : Async (Except Refusal Connection) := do
    sleep (← untilDeadline t)
    return .error .late
  haveI : Inhabited (Except Refusal Connection) := ⟨.error .refused⟩
  Async.race attempt giveUp

/-- Sends bytes; `false` if the connection is lost. -/
def send (c : Connection) (bs : List UInt8) : Async Bool := do
  try
    c.socket.send ⟨bs.toArray⟩
    return true
  catch _ => return false

/-- Waits for more bytes. -/
def receive (c : Connection) (t : Deadline) : Async Arrival := do
  try
    let timer ← Selector.sleep (← untilDeadline t)
    match ← Selectable.one #[
        .case (c.socket.recvSelector 65536) (fun bs => return some bs),
        .case timer (fun _ => return none)] with
    | none => return .late
    | some none => return .ended
    | some (some bs) =>
      c.pending.modify (· ++ bs.toList)
      return .more
  catch _ => return .ended

/-- Closes a connection. -/
def close (c : Connection) : Async Unit := do
  try c.socket.shutdown catch _ => return ()

end Connection

end LoadHarness.Live
