import IdentityCrates.Lib.Outcome
import IdentityCrates.Lib.Octets
import IdentityCrates.Lib.Machine

/-!
# The bridge to an asynchronous host

`bridge.rs`: a blocking read drives a host whose NFC is asynchronous.  An exchange is registered
under an id, its APDU is posted to the host, and the reading thread parks; the host quotes the id
when it supplies the answer, which wakes the reader.

The exchanges and the answers run on different threads, so each is a sequence of atomic steps here
and a run is any interleaving of them.  `Exchange::wait` receives (or gives up), then locks the
table of pending exchanges and removes the id, then drops its receiver and returns; `supply` locks
the table and removes the sender, then sends.  A step whose thread cannot move leaves the state as
it is.

A channel has a slot for one answer and exactly one sender, which is in the table until a `supply`
takes it.  Exchanges and calls of `supply` are named by their position in the order in which they
started, which the ids, counted modulo `2 ^ 64`, do not quite determine.
-/

namespace IdentityMobile

open Rust Octets

/-- `Answer`: what the host sends back for one exchange. -/
abbrev Answer := Option Bytes

/-- `EXCHANGE_TIMEOUT`, in seconds. -/
def exchangeTimeout : Nat := 30

/-- `RecvTimeoutError`. -/
inductive RecvTimeoutError where
  | timeout
  | disconnected
  deriving DecidableEq, Repr

/-- What `recv_timeout` came back with. -/
abbrev Received := Outcome RecvTimeoutError Answer

/-- What `Exchange::wait` makes of what it has received. -/
def conclude : Received → Outcome String Bytes
  | .ok (some response) => .ok response
  | .ok none => .err "the host reported that the exchange failed"
  | .err _ => .err s!"the host did not answer within {exchangeTimeout}s"
  | .panic => .panic

/-- Where the thread of an exchange stands. -/
inductive Waiter where
  /-- Posting the APDU, or parked in `recv_timeout`. -/
  | parked
  /-- Back from `recv_timeout`, the id not yet removed. -/
  | received (outcome : Received)
  /-- The id removed, the receiver not yet dropped. -/
  | removed (outcome : Received)
  /-- The receiver dropped and the call of `wait` over. -/
  | returned (outcome : Received)
  deriving DecidableEq, Repr

namespace Waiter

/-- What came back from `recv_timeout`, once it has. -/
def outcome : Waiter → Option Received
  | parked => none
  | received outcome => some outcome
  | removed outcome => some outcome
  | returned outcome => some outcome

/-- The result of `wait`, once it has returned. -/
def result : Waiter → Option (Outcome String Bytes)
  | returned outcome => some (conclude outcome)
  | _ => none

/-- Is the receiver still there to be sent to? -/
def receiving : Waiter → Bool
  | returned _ => false
  | _ => true

/-- Has `wait` not yet removed its id? -/
def registered : Waiter → Bool
  | parked => true
  | received _ => true
  | _ => false

end Waiter

/-- An `Exchange` with the slot of its channel. -/
structure Exchange where
  id : UInt64
  slot : Option Answer
  waiter : Waiter
  deriving DecidableEq, Repr

/-- A call of `supply`: the sender that it has found in the table, named by the exchange whose
channel it belongs to, and what it has returned. -/
structure Supply where
  id : UInt64
  answer : Answer
  sender : Option Nat
  result : Option Bool
  deriving DecidableEq, Repr

/-- What the threads share: the counter of `next_id`, the table of pending exchanges, and the
exchanges and calls of `supply` so far. -/
structure Bridge where
  next : UInt64
  pending : UInt64 → Option Nat
  exchanges : List Exchange
  supplies : List Supply

namespace Bridge

/-- Before the first exchange. -/
def start : Bridge := ⟨1, fun _ => none, [], []⟩

/-- The atomic steps of all threads. -/
inductive Step where
  /-- `Exchange::open`. -/
  | opens
  /-- `wait` on exchange `k`: an answer is there, or will never be. -/
  | receive (k : Nat)
  /-- `wait` on exchange `k`: the time is over and no answer is there. -/
  | timeout (k : Nat)
  /-- `wait` on exchange `k`: the id is removed from the table. -/
  | remove (k : Nat)
  /-- `wait` on exchange `k`: the receiver is dropped and the call returns. -/
  | drop (k : Nat)
  /-- A call of `supply` starts: the sender is removed from the table. -/
  | lookup (id : UInt64) (answer : Answer)
  /-- The call `j` of `supply` sends its answer, if it has found a sender, and returns. -/
  | send (j : Nat)
  deriving DecidableEq, Repr

/-- Take an id out of the table. -/
def unregister (id : UInt64) (b : Bridge) : Bridge :=
  { b with pending := fun other => if other = id then none else b.pending other }

/-- Change one exchange. -/
def setExchange (k : Nat) (e : Exchange) (b : Bridge) : Bridge :=
  { b with exchanges := b.exchanges.set k e }

/-- A call of `supply` returns. -/
def returns (j : Nat) (c : Supply) (result : Bool) (b : Bridge) : Bridge :=
  { b with supplies := b.supplies.set j { c with result := some result } }

/-- Is the sender of the channel of exchange `k` still in the table, or in the hands of a call of
`supply` that has not sent? -/
def senderAlive (b : Bridge) (k : Nat) (e : Exchange) : Bool :=
  b.pending e.id == some k || b.supplies.any fun c => c.sender == some k && c.result.isNone

/-- `Exchange::open`. -/
def opens (b : Bridge) : Bridge :=
  { b with
    next := b.next + 1
    pending := fun other => if other = b.next then some b.exchanges.length else b.pending other
    exchanges := b.exchanges ++ [⟨b.next, none, .parked⟩] }

/-- The first step of `Exchange::wait`, when it does not time out. -/
def receive (k : Nat) (e : Exchange) (b : Bridge) : Bridge :=
  match e.waiter, e.slot with
  | .parked, some answer =>
    setExchange k { e with slot := none, waiter := .received (.ok answer) } b
  | .parked, none =>
    if b.senderAlive k e then b
    else setExchange k { e with waiter := .received (.err .disconnected) } b
  | _, _ => b

/-- The first step of `Exchange::wait`, when it times out. -/
def timeout (k : Nat) (e : Exchange) (b : Bridge) : Bridge :=
  match e.waiter, e.slot with
  | .parked, none => setExchange k { e with waiter := .received (.err .timeout) } b
  | _, _ => b

/-- The second step of `Exchange::wait`. -/
def remove (k : Nat) (e : Exchange) (b : Bridge) : Bridge :=
  match e.waiter with
  | .received outcome => setExchange k { e with waiter := .removed outcome } (unregister e.id b)
  | _ => b

/-- The last step of `Exchange::wait`: what is in the slot goes with the receiver. -/
def drop (k : Nat) (e : Exchange) (b : Bridge) : Bridge :=
  match e.waiter with
  | .removed outcome => setExchange k { e with slot := none, waiter := .returned outcome } b
  | _ => b

/-- The first step of `supply`. -/
def lookup (id : UInt64) (answer : Answer) (b : Bridge) : Bridge :=
  let found : Supply := ⟨id, answer, b.pending id, none⟩
  unregister id { b with supplies := b.supplies ++ [found] }

/-- The second step of `supply`.  Sending into a full slot blocks. -/
def send (j : Nat) (c : Supply) (b : Bridge) : Bridge :=
  match c.result, c.sender with
  | none, none => returns j c false b
  | none, some k =>
    match b.exchanges[k]? with
    | some e =>
      if e.waiter.receiving then
        match e.slot with
        | none => returns j c true (setExchange k { e with slot := some c.answer } b)
        | some _ => b
      else returns j c false b
    | none => b
  | some _, _ => b

/-- One step of one thread. -/
def act (action : Step) (b : Bridge) : Bridge :=
  match action with
  | .opens => b.opens
  | .receive k => b.exchanges[k]?.elim b fun e => b.receive k e
  | .timeout k => b.exchanges[k]?.elim b fun e => b.timeout k e
  | .remove k => b.exchanges[k]?.elim b fun e => b.remove k e
  | .drop k => b.exchanges[k]?.elim b fun e => b.drop k e
  | .lookup id answer => b.lookup id answer
  | .send j => b.supplies[j]?.elim b fun c => b.send j c

/-- The steps of all threads as one machine, which says nothing itself: the results of `wait` and
`supply` are kept in its state. -/
def step (action : Step) (b : Bridge) : Unit × Bridge := ((), b.act action)

end Bridge

end IdentityMobile
