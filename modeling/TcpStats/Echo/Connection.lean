import TcpStats.Echo.Sending
import TcpStats.Lib.Pipe
import TcpStats.Lib.Run

/-!
# One connection of the echo tools

The threads that serve one connection of `tcp-echo`, side by side: `writer_loop` and `reader_loop` of
the client, and `echo_loop` of the server. Each direction of the connection is a `Pipe`. A `write_all`
puts its bytes into the pipe a few at a time, a `read` takes out some of what is there, and either can
fail at any moment; so can each process be told to shut down. The bytes of the connection are counted
where the threads count them, by additions of their own.

Whatever the order of the steps, every byte that the client has sent is in one place (`echo_safe`); when
the server has seen the end of the stream it has echoed all of it (`echo_complete`); and what comes
back is the payload, over and over again (`payload_intact`).
-/

namespace TcpStats.Echo

open Transition

/-! ### Threads -/

/-- The counters of a `ConnectionStats`. -/
structure ConnectionStats where
  bytesWritten : UInt64
  bytesRead : UInt64
  deriving DecidableEq

/-- `add_written`. -/
def ConnectionStats.addWritten (c : ConnectionStats) (n : UInt64) : ConnectionStats :=
  { c with bytesWritten := c.bytesWritten + n }

/-- `add_read`. -/
def ConnectionStats.addRead (c : ConnectionStats) (n : UInt64) : ConnectionStats :=
  { c with bytesRead := c.bytesRead + n }

/-- Why a loop has been left. -/
inductive Leave where
  /-- The shutdown flag was set. -/
  | shutdown
  /-- `read` returned 0. -/
  | eof
  /-- A `read` or a `write_all` failed. -/
  | failed
  deriving DecidableEq

/-- Where `writer_loop` stands. -/
inductive Writer where
  /-- Before the test of the shutdown flag. -/
  | head
  /-- Before `try_acquire`. -/
  | acquiring
  /-- In `write_all`. -/
  | writing
  /-- Before `add_written`. -/
  | wrote
  /-- Behind the loop, before the write half is shut down. -/
  | left
  | stopped
  deriving DecidableEq

/-- Where `echo_loop` stands. -/
inductive Server where
  | head
  /-- In `read`. -/
  | reading
  /-- Before `add_read`. -/
  | got
  /-- In `write_all`. -/
  | writing
  /-- Before `add_written`. -/
  | wrote
  /-- Behind the loop, before the stream is dropped. -/
  | left (why : Leave)
  | stopped (why : Leave)
  deriving DecidableEq

/-- Where `reader_loop` stands. -/
inductive Reader where
  | head
  /-- In `read`. -/
  | reading
  /-- Before `add_read` of so many bytes. -/
  | got (n : ℕ)
  | stopped (why : Leave)
  deriving DecidableEq

/-- The connection, with all its threads. -/
structure Conn where
  toServer : Pipe UInt8
  toClient : Pipe UInt8
  writer : Writer
  /-- How much of the payload the `write_all` of the writer has sent. -/
  written : ℕ
  /-- How much the calls of `write_all` that failed had sent. -/
  lost : ℕ
  server : Server
  /-- What the server has read last. -/
  chunk : List UInt8
  /-- How much of it has been sent back. -/
  echoed : ℕ
  reader : Reader
  clientStats : ConnectionStats
  serverStats : ConnectionStats
  clientShutdown : Bool
  serverShutdown : Bool
  deriving DecidableEq

/-- A connection that has just been established. -/
def Conn.init : Conn where
  toServer := .empty
  toClient := .empty
  writer := .head
  written := 0
  lost := 0
  server := .head
  chunk := []
  echoed := 0
  reader := .head
  clientStats := ⟨0, 0⟩
  serverStats := ⟨0, 0⟩
  clientShutdown := false
  serverShutdown := false

/-! ### Steps -/

/-- What `writer_loop` does next. -/
inductive WriterEvent where
  | check
  /-- `try_acquire`, and whether there were enough tokens. -/
  | acquire (ok : Bool)
  /-- So many bytes of the payload go out. -/
  | push (k : ℕ)
  /-- `write_all` returns `Ok`. -/
  | done
  /-- `write_all` fails, by a timeout or otherwise. -/
  | fail (timedOut : Bool)
  | count
  | shutdownWrite
  deriving DecidableEq

/-- What `echo_loop` does next. -/
inductive ServerEvent where
  | check
  /-- `read` returns so many bytes. -/
  | read (n : ℕ)
  /-- `read` returns 0. -/
  | eof
  | timeout
  | readFail
  | countRead
  | push (k : ℕ)
  | done
  | writeFail
  | countWritten
  | drop
  deriving DecidableEq

/-- What `reader_loop` does next. -/
inductive ReaderEvent where
  | check
  | read (n : ℕ)
  | eof
  | timeout
  | fail
  | count
  deriving DecidableEq

/-- What happens next. -/
inductive ConnEvent where
  | writer (e : WriterEvent)
  | server (e : ServerEvent)
  | reader (e : ReaderEvent)
  | shutdownClient
  | shutdownServer
  deriving DecidableEq

/-- The size of the buffer of `echo_loop`. -/
def ECHO_BUFFER : ℕ := 65536

/-- The size of the buffer of `reader_loop`. -/
def READ_BUFFER : ℕ := 8192

/-- `writer_loop`, for one step. -/
def writerStep (payload : List UInt8) (s : Conn) (e : WriterEvent) : Option Conn :=
  match s.writer, e with
  | .head, .check => some { s with writer := if s.clientShutdown then .left else .acquiring }
  | .acquiring, .acquire ok => some { s with writer := if ok then .writing else .head }
  | .writing, .push k =>
    if 0 < k ∧ s.written + k ≤ payload.length then
      some { s with toServer := s.toServer.push ((payload.drop s.written).take k), written := s.written + k }
    else none
  | .writing, .done => if s.written = payload.length then some { s with writer := .wrote } else none
  | .writing, .fail timedOut =>
    some { s with writer := if timedOut then .head else .left, written := 0, lost := s.lost + s.written }
  | .wrote, .count =>
    some { s with
      writer := .head
      written := 0
      clientStats := s.clientStats.addWritten (.ofNat payload.length) }
  | .left, .shutdownWrite => some { s with writer := .stopped, toServer := s.toServer.close }
  | _, _ => none

/-- `echo_loop`, for one step. -/
def serverStep (s : Conn) (e : ServerEvent) : Option Conn :=
  match s.server, e with
  | .head, .check => some { s with server := if s.serverShutdown then .left .shutdown else .reading }
  | .reading, .read n =>
    if 0 < n ∧ n ≤ ECHO_BUFFER ∧ n ≤ s.toServer.inFlight.length then
      some { s with server := .got, chunk := s.toServer.inFlight.take n, echoed := 0, toServer := s.toServer.take n }
    else none
  | .reading, .eof =>
    if s.toServer.closed ∧ s.toServer.inFlight = [] then some { s with server := .left .eof } else none
  | .reading, .timeout => some { s with server := .head }
  | .reading, .readFail => some { s with server := .left .failed }
  | .got, .countRead =>
    some { s with server := .writing, serverStats := s.serverStats.addRead (.ofNat s.chunk.length) }
  | .writing, .push k =>
    if 0 < k ∧ s.echoed + k ≤ s.chunk.length then
      some { s with toClient := s.toClient.push ((s.chunk.drop s.echoed).take k), echoed := s.echoed + k }
    else none
  | .writing, .done => if s.echoed = s.chunk.length then some { s with server := .wrote } else none
  | .writing, .writeFail => some { s with server := .left .failed }
  | .wrote, .countWritten =>
    some { s with
      server := .head
      chunk := []
      echoed := 0
      serverStats := s.serverStats.addWritten (.ofNat s.chunk.length) }
  | .left why, .drop => some { s with server := .stopped why, toClient := s.toClient.close }
  | _, _ => none

/-- `reader_loop`, for one step. -/
def readerStep (s : Conn) (e : ReaderEvent) : Option Conn :=
  match s.reader, e with
  | .head, .check => some { s with reader := if s.clientShutdown then .stopped .shutdown else .reading }
  | .reading, .read n =>
    if 0 < n ∧ n ≤ READ_BUFFER ∧ n ≤ s.toClient.inFlight.length then
      some { s with reader := .got n, toClient := s.toClient.take n }
    else none
  | .reading, .eof =>
    if s.toClient.closed ∧ s.toClient.inFlight = [] then some { s with reader := .stopped .eof } else none
  | .reading, .timeout => some { s with reader := .head }
  | .reading, .fail => some { s with reader := .stopped .failed }
  | .got n, .count => some { s with reader := .head, clientStats := s.clientStats.addRead (.ofNat n) }
  | _, _ => none

/-- An event, where it can happen. -/
def connStep (payload : List UInt8) (s : Conn) : ConnEvent → Option Conn
  | .writer e => writerStep payload s e
  | .server e => serverStep s e
  | .reader e => readerStep s e
  | .shutdownClient => some { s with clientShutdown := true }
  | .shutdownServer => some { s with serverShutdown := true }

/-- The step relation. -/
def ConnStep (payload : List UInt8) (s : Conn) (e : ConnEvent) (s' : Conn) : Prop :=
  connStep payload s e = some s'

theorem connStep_run (payload : List UInt8) :
    ∀ s e s', connStep payload s e = some s' → ConnStep payload s e s' := fun _ _ _ h => h

/-! ### What every run keeps -/

/-! The counters wrap, and are added to in other steps than those that move the bytes they count. -/

/-- A counter has counted all of `total` bytes but the last `rest`. -/
def Counted (c : UInt64) (rest total : ℕ) : Prop := ∃ n, c = .ofNat n ∧ n + rest = total

theorem Counted.zero : Counted 0 0 0 := ⟨0, rfl, rfl⟩

theorem Counted.more {c : UInt64} {m n : ℕ} (k : ℕ) (h : Counted c m n) : Counted c (m + k) (n + k) := by
  obtain ⟨i, rfl, rfl⟩ := h
  exact ⟨i, rfl, (Nat.add_assoc _ _ _).symm⟩

theorem Counted.add {c : UInt64} {k m n : ℕ} (h : Counted c (k + m) n) : Counted (c + .ofNat k) m n := by
  obtain ⟨i, rfl, rfl⟩ := h
  exact ⟨i + k, (UInt64.ofNat_add _ _).symm, Nat.add_assoc _ _ _⟩

/-- Below `2 ^ 64` a counter is the number of the bytes counted. -/
theorem Counted.toNat {c : UInt64} {m n : ℕ} (h : Counted c m n) (hn : n < 2 ^ 64) : c.toNat + m = n := by
  obtain ⟨i, rfl, rfl⟩ := h
  rw [UInt64.toNat_ofNat', Nat.mod_eq_of_lt (by omega)]

theorem Counted.all {c : UInt64} {n : ℕ} (h : Counted c 0 n) : c = .ofNat n := by
  obtain ⟨i, rfl, rfl⟩ := h
  rfl

/-- The server holds nothing that it has read and not sent back. -/
def Server.idle : Server → Bool
  | .head | .reading | .left .shutdown | .left .eof | .stopped .shutdown | .stopped .eof => true
  | _ => false

/-- What the server has taken out of the connection and not yet counted. -/
def Server.uncounted (chunk : List UInt8) : Server → ℕ
  | .got => chunk.length
  | _ => 0

/-- What the reader has taken out of the connection and not yet counted. -/
def Reader.uncounted : Reader → ℕ
  | .got n => n
  | _ => 0

/-- What holds of the writer, and of what it has sent. -/
structure WriterInv (payload : List UInt8) (writer : Writer) (written lost : ℕ) (counter : UInt64)
    (toServer : Pipe UInt8) : Prop where
  fits : written ≤ payload.length
  idle : writer ≠ .writing → writer ≠ .wrote → written = 0
  whole : writer = .wrote → written = payload.length
  counted : Counted counter (written + lost) toServer.sent.length
  copies : lost = 0 → ∃ k, toServer.sent = (List.replicate k payload).flatten ++ payload.take written
  closed : toServer.closed = true → writer = .stopped

/-- What holds of the server. -/
structure ServerInv (server : Server) (chunk : List UInt8) (echoed : ℕ) (counters : ConnectionStats)
    (toServer toClient : Pipe UInt8) : Prop where
  fits : echoed ≤ chunk.length
  /-- What the server has read is what it has sent, and then what it still holds. -/
  echo : toServer.received = toClient.sent ++ chunk.drop echoed
  idle : server.idle = true → chunk = []
  got : server = .got → echoed = 0
  whole : server = .wrote → echoed = chunk.length
  countedRead : Counted counters.bytesRead (server.uncounted chunk) toServer.taken
  countedWritten : Counted counters.bytesWritten echoed toClient.sent.length
  eof : server = .left .eof ∨ server = .stopped .eof → toServer.closed = true ∧ toServer.inFlight = []
  closed : toClient.closed = true → ∃ why, server = .stopped why

/-- What holds of the reader. -/
structure ReaderInv (reader : Reader) (counter : UInt64) (toClient : Pipe UInt8) : Prop where
  counted : Counted counter reader.uncounted toClient.taken
  eof : reader = .stopped .eof → toClient.closed = true ∧ toClient.inFlight = []

/-- The invariant of a connection. -/
structure ConnInv (payload : List UInt8) (s : Conn) : Prop where
  writer : WriterInv payload s.writer s.written s.lost s.clientStats.bytesWritten s.toServer
  server : ServerInv s.server s.chunk s.echoed s.serverStats s.toServer s.toClient
  reader : ReaderInv s.reader s.clientStats.bytesRead s.toClient

theorem ConnInv.init (payload : List UInt8) : ConnInv payload .init where
  writer :=
    { fits := Nat.zero_le _
      idle := fun _ _ => rfl
      whole := fun h => nomatch h
      counted := .zero
      copies := fun _ => ⟨0, rfl⟩
      closed := fun h => nomatch h }
  server :=
    { fits := Nat.le_refl _
      echo := rfl
      idle := fun _ => rfl
      got := fun _ => rfl
      whole := fun h => nomatch h
      countedRead := .zero
      countedWritten := .zero
      eof := fun h => by rcases h with h | h <;> cases h
      closed := fun h => nomatch h }
  reader := { counted := .zero, eof := fun h => nomatch h }

/-- What `write_all` sends next carries on where it stood. -/
theorem take_append_take_drop (l : List UInt8) (i k : ℕ) : l.take i ++ (l.drop i).take k = l.take (i + k) :=
  List.take_add.symm

/-! #### `writer_loop` -/

namespace WriterInv

variable {payload : List UInt8} {writer : Writer} {written lost : ℕ} {counter : UInt64} {toServer : Pipe UInt8}

/-- A writer that has not stopped has not shut down its half. -/
theorem closed_ne (h : WriterInv payload writer written lost counter toServer) (hrun : writer ≠ .stopped) :
    toServer.closed ≠ true := fun hclosed => hrun (h.closed hclosed)

/-- The loop goes on, and no bytes are moved or counted. -/
theorem goto (h : WriterInv payload writer written lost counter toServer) (hrun : writer ≠ .stopped) {writer' : Writer}
    (hidle : writer' ≠ .writing → writer' ≠ .wrote → written = 0)
    (hwhole : writer' = .wrote → written = payload.length) :
    WriterInv payload writer' written lost counter toServer where
  fits := h.fits
  idle := hidle
  whole := hwhole
  counted := h.counted
  copies := h.copies
  closed hclosed := absurd hclosed (h.closed_ne hrun)

/-- Some more of the payload goes out. -/
theorem push (h : WriterInv payload .writing written lost counter toServer) {k : ℕ} (hk : written + k ≤ payload.length) :
    WriterInv payload .writing (written + k) lost counter (toServer.push ((payload.drop written).take k)) := by
  have hlen : ((payload.drop written).take k).length = k := by
    rw [List.length_take, List.length_drop]
    omega
  refine ⟨hk, by simp, nofun, ?_, fun h0 => ?_, fun hclosed => absurd hclosed (h.closed_ne nofun)⟩
  · rw [Pipe.sent_push, List.length_append, hlen, Nat.add_right_comm]
    exact h.counted.more k
  · obtain ⟨n, hn⟩ := h.copies h0
    exact ⟨n, by rw [Pipe.sent_push, hn, List.append_assoc, take_append_take_drop]⟩

/-- A `write_all` has failed: what it has sent is lost. -/
theorem fail (h : WriterInv payload .writing written lost counter toServer) {writer' : Writer} (hnew : writer' ≠ .wrote) :
    WriterInv payload writer' 0 (lost + written) counter toServer := by
  refine ⟨Nat.zero_le _, fun _ _ => rfl, fun hw => absurd hw hnew, ?_, fun h0 => ?_, fun hclosed => ?_⟩
  · rw [Nat.zero_add, Nat.add_comm]
    exact h.counted
  · -- nothing was lost before, and this write had sent nothing
    obtain ⟨n, hn⟩ := h.copies (by omega)
    have hnone : written = 0 := by omega
    exact ⟨n, by rw [hn, hnone]⟩
  · exact absurd hclosed (h.closed_ne nofun)

theorem count (h : WriterInv payload .wrote written lost counter toServer) :
    WriterInv payload .head 0 lost (counter + .ofNat payload.length) toServer := by
  have hwhole := h.whole rfl
  refine ⟨Nat.zero_le _, fun _ _ => rfl, nofun, ?_, fun h0 => ?_, fun hclosed => absurd hclosed (h.closed_ne nofun)⟩
  · have hcounted := h.counted
    rw [hwhole] at hcounted
    rw [Nat.zero_add]
    exact hcounted.add
  · obtain ⟨n, hn⟩ := h.copies h0
    refine ⟨n + 1, ?_⟩
    rw [hn, hwhole, List.take_length, List.replicate_succ', List.flatten_append]
    simp

theorem close (h : WriterInv payload .left written lost counter toServer) :
    WriterInv payload .stopped written lost counter toServer.close where
  fits := h.fits
  idle _ _ := h.idle nofun nofun
  whole := nofun
  counted := h.counted
  copies := h.copies
  closed _ := rfl

/-- The server takes something out. -/
theorem take (h : WriterInv payload writer written lost counter toServer) (n : ℕ) :
    WriterInv payload writer written lost counter (toServer.take n) where
  fits := h.fits
  idle := h.idle
  whole := h.whole
  counted := h.counted
  copies := h.copies
  closed := h.closed

end WriterInv

/-! #### `echo_loop` -/

theorem Server.uncounted_eq_zero {server : Server} {chunk : List UInt8} (h : server ≠ .got) :
    server.uncounted chunk = 0 := by
  cases server with
  | got => exact absurd rfl h
  | _ => rfl

namespace ServerInv

variable {server : Server} {chunk : List UInt8} {echoed : ℕ} {counters : ConnectionStats} {toServer toClient : Pipe UInt8}

/-- A server that has not stopped has not closed its side. -/
theorem closed_ne (h : ServerInv server chunk echoed counters toServer toClient) (hrun : ∀ why, server ≠ .stopped why) :
    toClient.closed ≠ true := by
  intro hclosed
  obtain ⟨why, hwhy⟩ := h.closed hclosed
  exact hrun why hwhy

/-- The loop goes on, and no bytes are moved or counted. -/
theorem goto (h : ServerInv server chunk echoed counters toServer toClient) (hrun : ∀ why, server ≠ .stopped why)
    (hold : server ≠ .got) {server' : Server} (hnew : server' ≠ .got) (hidle : server'.idle = true → chunk = [])
    (hwhole : server' = .wrote → echoed = chunk.length)
    (heof : server' = .left .eof ∨ server' = .stopped .eof → toServer.closed = true ∧ toServer.inFlight = []) :
    ServerInv server' chunk echoed counters toServer toClient where
  fits := h.fits
  echo := h.echo
  idle := hidle
  got hgot := absurd hgot hnew
  whole := hwhole
  countedRead := by
    have hcounted := h.countedRead
    rw [Server.uncounted_eq_zero hold] at hcounted
    rw [Server.uncounted_eq_zero hnew]
    exact hcounted
  countedWritten := h.countedWritten
  eof := heof
  closed hclosed := absurd hclosed (h.closed_ne hrun)

/-- A `read` takes the next chunk, when the last one has been sent back. -/
theorem read (h : ServerInv .reading chunk echoed counters toServer toClient) {n : ℕ}
    (hn : n ≤ toServer.inFlight.length) :
    ServerInv .got (toServer.inFlight.take n) 0 counters (toServer.take n) toClient := by
  obtain rfl := h.idle rfl
  obtain rfl : echoed = 0 := Nat.le_zero.mp h.fits
  have hlen : (toServer.inFlight.take n).length = n := by
    rw [List.length_take]
    exact Nat.min_eq_left hn
  refine ⟨Nat.zero_le _, ?_, nofun, fun _ => rfl, nofun, ?_, h.countedWritten, by simp, fun hclosed => ?_⟩
  · have hecho := h.echo
    rw [List.drop_nil, List.append_nil] at hecho
    rw [Pipe.received_take, hecho, List.drop_zero]
  · have hread : Counted counters.bytesRead (0 + n) (toServer.taken + n) := h.countedRead.more n
    rw [Nat.zero_add] at hread
    rw [Server.uncounted, hlen, Pipe.taken_take _ hn]
    exact hread
  · exact absurd hclosed (h.closed_ne nofun)

theorem countRead (h : ServerInv .got chunk echoed counters toServer toClient) :
    ServerInv .writing chunk echoed (counters.addRead (.ofNat chunk.length)) toServer toClient where
  fits := h.fits
  echo := h.echo
  idle := nofun
  got := nofun
  whole := nofun
  countedRead := Counted.add h.countedRead
  countedWritten := h.countedWritten
  eof := by simp
  closed hclosed := absurd hclosed (h.closed_ne nofun)

/-- Some more of the chunk goes back. -/
theorem push (h : ServerInv .writing chunk echoed counters toServer toClient) {k : ℕ} (hk : echoed + k ≤ chunk.length) :
    ServerInv .writing chunk (echoed + k) counters toServer (toClient.push ((chunk.drop echoed).take k)) := by
  have hlen : ((chunk.drop echoed).take k).length = k := by
    rw [List.length_take, List.length_drop]
    omega
  refine ⟨hk, ?_, nofun, nofun, nofun, h.countedRead, ?_, by simp, fun hclosed => absurd hclosed (h.closed_ne nofun)⟩
  · rw [h.echo, Pipe.sent_push, List.append_assoc, ← List.drop_drop, List.take_append_drop]
  · rw [Pipe.sent_push, List.length_append, hlen]
    exact h.countedWritten.more k

theorem countWritten (h : ServerInv .wrote chunk echoed counters toServer toClient) :
    ServerInv .head [] 0 (counters.addWritten (.ofNat chunk.length)) toServer toClient := by
  obtain rfl := h.whole rfl
  have hecho := h.echo
  rw [List.drop_length] at hecho
  exact ⟨Nat.le_refl _, hecho, fun _ => rfl, nofun, nofun, h.countedRead, Counted.add h.countedWritten, by simp,
    fun hclosed => absurd hclosed (h.closed_ne nofun)⟩

/-- The server drops its stream, whatever it left the loop for. -/
theorem drop {why : Leave} (h : ServerInv (.left why) chunk echoed counters toServer toClient) :
    ServerInv (.stopped why) chunk echoed counters toServer toClient.close where
  fits := h.fits
  echo := h.echo
  idle hidle := h.idle (by cases why <;> first | rfl | exact absurd hidle (by simp [Server.idle]))
  got := nofun
  whole := nofun
  countedRead := h.countedRead
  countedWritten := h.countedWritten
  eof heof := h.eof (.inl (by simpa using heof))
  closed _ := ⟨why, rfl⟩

/-- The client sends something. -/
theorem sent (h : ServerInv server chunk echoed counters toServer toClient) (hopen : toServer.closed ≠ true)
    (bytes : List UInt8) : ServerInv server chunk echoed counters (toServer.push bytes) toClient where
  fits := h.fits
  echo := by
    rw [Pipe.received_push]
    exact h.echo
  idle := h.idle
  got := h.got
  whole := h.whole
  countedRead := h.countedRead
  countedWritten := h.countedWritten
  eof heof := absurd (h.eof heof).1 hopen
  closed := h.closed

/-- The client shuts down its half. -/
theorem ended (h : ServerInv server chunk echoed counters toServer toClient) :
    ServerInv server chunk echoed counters toServer.close toClient where
  fits := h.fits
  echo := h.echo
  idle := h.idle
  got := h.got
  whole := h.whole
  countedRead := h.countedRead
  countedWritten := h.countedWritten
  eof heof := ⟨rfl, (h.eof heof).2⟩
  closed := h.closed

end ServerInv

/-! #### The three threads -/

/-- Every step of `writer_loop` keeps the invariant. -/
theorem ConnInv.writer_step {payload : List UInt8} {s s' : Conn} {e : WriterEvent} (inv : ConnInv payload s)
    (h : writerStep payload s e = some s') : ConnInv payload s' := by
  obtain ⟨hw, hs, hr⟩ := inv
  unfold writerStep at h
  split at h
  case h_1 hp =>
    cases h
    rw [hp] at hw
    refine ⟨hw.goto nofun (fun _ _ => hw.idle nofun nofun) ?_, hs, hr⟩
    split <;> simp
  case h_2 ok hp =>
    cases h
    rw [hp] at hw
    refine ⟨hw.goto nofun (fun _ _ => hw.idle nofun nofun) ?_, hs, hr⟩
    cases ok <;> simp
  case h_3 k hp =>
    split at h
    case isFalse => cases h
    case isTrue hk =>
      cases h
      rw [hp] at hw
      have hpush := hw.push hk.2
      rw [← hp] at hpush
      exact ⟨hpush, hs.sent (hw.closed_ne nofun) _, hr⟩
  case h_4 hp =>
    split at h
    case isFalse => cases h
    case isTrue hk =>
      cases h
      rw [hp] at hw
      exact ⟨hw.goto nofun (by simp) fun _ => hk, hs, hr⟩
  case h_5 timedOut hp =>
    cases h
    rw [hp] at hw
    refine ⟨hw.fail ?_, hs, hr⟩
    cases timedOut <;> simp
  case h_6 hp =>
    cases h
    rw [hp] at hw
    exact ⟨hw.count, hs, hr⟩
  case h_7 hp =>
    cases h
    rw [hp] at hw
    exact ⟨hw.close, hs.ended, hr⟩
  case h_8 => cases h

/-- Every step of `echo_loop` keeps the invariant. -/
theorem ConnInv.server_step {payload : List UInt8} {s s' : Conn} {e : ServerEvent} (inv : ConnInv payload s)
    (h : serverStep s e = some s') : ConnInv payload s' := by
  obtain ⟨hw, hs, hr⟩ := inv
  unfold serverStep at h
  split at h
  case h_1 hp =>
    cases h
    rw [hp] at hs
    refine ⟨hw, hs.goto nofun nofun ?_ (fun _ => hs.idle rfl) ?_ ?_, hr⟩
    all_goals split <;> simp
  case h_2 n hp =>
    split at h
    case isFalse => cases h
    case isTrue hk =>
      cases h
      rw [hp] at hs
      exact ⟨hw.take n, hs.read hk.2.2, hr⟩
  case h_3 hp =>
    split at h
    case isFalse => cases h
    case isTrue hk =>
      cases h
      rw [hp] at hs
      exact ⟨hw, hs.goto nofun nofun nofun (fun _ => hs.idle rfl) nofun fun _ => hk, hr⟩
  case h_4 hp =>
    cases h
    rw [hp] at hs
    exact ⟨hw, hs.goto nofun nofun nofun (fun _ => hs.idle rfl) nofun (by simp), hr⟩
  case h_5 hp =>
    cases h
    rw [hp] at hs
    exact ⟨hw, hs.goto nofun nofun nofun nofun nofun (by simp), hr⟩
  case h_6 hp =>
    cases h
    rw [hp] at hs
    exact ⟨hw, hs.countRead, hr⟩
  case h_7 k hp =>
    split at h
    case isFalse => cases h
    case isTrue hk =>
      cases h
      rw [hp] at hs
      have hpush := hs.push hk.2
      rw [← hp] at hpush
      exact ⟨hw, hpush, hr.counted, fun he => absurd (hr.eof he).1 (hs.closed_ne nofun)⟩
  case h_8 hp =>
    split at h
    case isFalse => cases h
    case isTrue hk =>
      cases h
      rw [hp] at hs
      exact ⟨hw, hs.goto nofun nofun nofun nofun (fun _ => hk) (by simp), hr⟩
  case h_9 hp =>
    cases h
    rw [hp] at hs
    exact ⟨hw, hs.goto nofun nofun nofun nofun nofun (by simp), hr⟩
  case h_10 hp =>
    cases h
    rw [hp] at hs
    exact ⟨hw, hs.countWritten, hr⟩
  case h_11 why hp =>
    cases h
    rw [hp] at hs
    exact ⟨hw, hs.drop, hr.counted, fun he => ⟨rfl, (hr.eof he).2⟩⟩
  case h_12 => cases h

/-- Every step of `reader_loop` keeps the invariant. -/
theorem ConnInv.reader_step {payload : List UInt8} {s s' : Conn} {e : ReaderEvent} (inv : ConnInv payload s)
    (h : readerStep s e = some s') : ConnInv payload s' := by
  obtain ⟨hw, hs, hr⟩ := inv
  unfold readerStep at h
  split at h
  case h_1 hp =>
    cases h
    rw [hp] at hr
    refine ⟨hw, hs, ⟨?_, ?_⟩⟩
    · dsimp only
      split <;> exact hr.counted
    · dsimp only
      split <;> simp
  case h_2 n hp =>
    rw [hp] at hr
    split at h
    case isFalse => cases h
    case isTrue hk =>
      cases h
      refine ⟨hw, ⟨hs.fits, hs.echo, hs.idle, hs.got, hs.whole, hs.countedRead, hs.countedWritten, hs.eof, hs.closed⟩,
        ⟨?_, by simp⟩⟩
      rw [Pipe.taken_take _ hk.2.2]
      have hread : Counted s.clientStats.bytesRead (0 + n) (s.toClient.taken + n) := hr.counted.more n
      rwa [Nat.zero_add] at hread
  case h_3 hp =>
    rw [hp] at hr
    split at h
    case isFalse => cases h
    case isTrue hk =>
      cases h
      exact ⟨hw, hs, ⟨hr.counted, fun _ => hk⟩⟩
  case h_4 hp =>
    rw [hp] at hr
    cases h
    exact ⟨hw, hs, ⟨hr.counted, by simp⟩⟩
  case h_5 hp =>
    rw [hp] at hr
    cases h
    exact ⟨hw, hs, ⟨hr.counted, by simp⟩⟩
  case h_6 n hp =>
    rw [hp] at hr
    cases h
    refine ⟨hw, hs, ⟨?_, by simp⟩⟩
    exact Counted.add hr.counted
  case h_7 => cases h

/-- Every step keeps the invariant. -/
theorem ConnInv.step {payload : List UInt8} {s s' : Conn} {e : ConnEvent} (inv : ConnInv payload s)
    (h : ConnStep payload s e s') : ConnInv payload s' := by
  cases e with
  | writer e => exact inv.writer_step h
  | server e => exact inv.server_step h
  | reader e => exact inv.reader_step h
  | shutdownClient =>
    cases h
    exact ⟨inv.writer, inv.server, inv.reader⟩
  | shutdownServer =>
    cases h
    exact ⟨inv.writer, inv.server, inv.reader⟩

/-- The invariant holds at the end of every run. -/
theorem connInv_run {payload : List UInt8} {es : List ConnEvent} {s : Conn} (run : Run (ConnStep payload) .init es s) :
    ConnInv payload s :=
  run.inv (.init payload) fun _ _ _ inv h => inv.step h

/-! ### Main results -/

/-- A payload of three bytes goes there and back, in two parts, before the client shuts down. -/
def roundTrip : List ConnEvent :=
  [.writer .check, .writer (.acquire true), .writer (.push 2), .server .check, .server (.read 1), .writer (.push 1),
    .server .countRead, .server (.push 1), .server .done, .reader .check, .reader (.read 1), .server .countWritten,
    .server .check, .server (.read 2), .server .countRead, .server (.push 2), .reader .count, .reader .check,
    .reader (.read 2), .reader .count, .reader .check, .writer .done, .writer .count, .server .done,
    .server .countWritten, .shutdownClient, .writer .check, .writer .shutdownWrite, .server .check, .server .eof,
    .server .drop, .reader .eof]

/-- Where it ends. -/
def Conn.done : Conn where
  toServer := ⟨[0, 1, 2], 3, true, Nat.le_refl _⟩
  toClient := ⟨[0, 1, 2], 3, true, Nat.le_refl _⟩
  writer := .stopped
  written := 0
  lost := 0
  server := .stopped .eof
  chunk := []
  echoed := 0
  reader := .stopped .eof
  clientStats := ⟨3, 3⟩
  serverStats := ⟨3, 3⟩
  clientShutdown := true
  serverShutdown := false

theorem roundTrip_run : Run (ConnStep (makePayload 3)) .init roundTrip .done :=
  replay_run (connStep_run _) (by decide +kernel)

section

variable {payload : List UInt8} {es : List ConnEvent} {s : Conn}

/-- Every byte sent by the client is in one place, and in its order: it has come back, or it is on its way back, or the
server holds it, or it is on its way there. -/
theorem echo_safe (run : Run (ConnStep payload) .init es s) :
    s.toServer.sent =
        s.toClient.received ++ s.toClient.inFlight ++ s.chunk.drop s.echoed ++ s.toServer.inFlight ∧
      s.toClient.received <+: s.toServer.sent := by
  have hall : s.toServer.sent =
      s.toClient.received ++ s.toClient.inFlight ++ s.chunk.drop s.echoed ++ s.toServer.inFlight := by
    rw [s.toClient.received_append_inFlight, ← (connInv_run run).server.echo, s.toServer.received_append_inFlight]
  have hback : s.toClient.sent <+: s.toServer.received := by
    rw [(connInv_run run).server.echo]
    exact List.prefix_append _ _
  exact ⟨hall, (s.toClient.received_prefix.trans hback).trans s.toServer.received_prefix⟩

theorem echo_safe_roundTrip : Conn.done.toClient.received <+: Conn.done.toServer.sent := (echo_safe roundTrip_run).2

/-- How far the server has come: what it has sent, and what it holds, is what it has taken. -/
theorem taken_eq (inv : ConnInv payload s) :
    s.toServer.taken = s.toClient.sent.length + (s.chunk.length - s.echoed) := by
  have := congrArg List.length inv.server.echo
  rwa [Pipe.length_received, List.length_append, List.length_drop] at this

/-- The four counters of a connection, whoever reads them and whenever: nobody has received or sent back more than was
there to receive, and the client cannot have counted what the server has not. -/
theorem echo_counts (run : Run (ConnStep payload) .init es s) (hsent : s.toServer.sent.length < 2 ^ 64) :
    s.clientStats.bytesRead ≤ s.serverStats.bytesRead ∧
      s.serverStats.bytesWritten ≤ s.serverStats.bytesRead ∧
      s.serverStats.bytesRead.toNat ≤ s.toServer.sent.length ∧
      s.clientStats.bytesWritten.toNat + s.written + s.lost = s.toServer.sent.length := by
  have inv := connInv_run run
  have htaken := taken_eq inv
  have hfits := inv.server.fits
  have hserver := s.toServer.fits
  have hclient := s.toClient.fits
  have huncounted : s.server.uncounted s.chunk ≤ s.chunk.length - s.echoed := by
    cases hp : s.server with
    | got => exact Nat.le_of_eq (by rw [Server.uncounted, inv.server.got hp, Nat.sub_zero])
    | _ => exact Nat.zero_le _
  have hserverRead := inv.server.countedRead.toNat (by omega)
  have hserverWritten := inv.server.countedWritten.toNat (by omega)
  have hclientRead := inv.reader.counted.toNat (by omega)
  have hclientWritten := inv.writer.counted.toNat hsent
  rw [UInt64.le_iff_toNat_le, UInt64.le_iff_toNat_le]
  omega

theorem echo_counts_roundTrip : Conn.done.clientStats.bytesRead ≤ Conn.done.serverStats.bytesRead :=
  (echo_counts roundTrip_run (by decide)).1

/-- Once the server has seen the end of the stream, it has sent back every byte of it; and once the client has, it has
received them all, and the counters say so. -/
theorem echo_complete (run : Run (ConnStep payload) .init es s) (hserver : s.server = .stopped .eof) :
    s.toClient.sent = s.toServer.sent ∧
      s.serverStats.bytesRead = .ofNat s.toServer.sent.length ∧
      s.serverStats.bytesWritten = s.serverStats.bytesRead ∧
      s.clientStats.bytesWritten + .ofNat s.lost = s.serverStats.bytesRead ∧
      (s.reader = .stopped .eof →
        s.toClient.received = s.toServer.sent ∧ s.clientStats.bytesRead = s.serverStats.bytesRead) := by
  have inv := connInv_run run
  have hchunk := inv.server.idle (by rw [hserver]; rfl)
  obtain ⟨hclosed, hflight⟩ := inv.server.eof (.inr hserver)
  have hsent : s.toClient.sent = s.toServer.sent := by
    have := inv.server.echo
    rw [s.toServer.received_eq_sent hflight, hchunk, List.drop_nil, List.append_nil] at this
    exact this.symm
  have hechoed : s.echoed = 0 := by simpa [hchunk] using inv.server.fits
  have hread : s.serverStats.bytesRead = .ofNat s.toServer.sent.length := by
    have := inv.server.countedRead
    rw [hserver] at this
    rw [this.all, ← s.toServer.length_received, s.toServer.received_eq_sent hflight]
  have hwritten : s.serverStats.bytesWritten = .ofNat s.toServer.sent.length := by
    have := inv.server.countedWritten
    rw [hechoed] at this
    rw [this.all, hsent]
  have hstopped := inv.writer.closed hclosed
  have hclient : s.clientStats.bytesWritten + .ofNat s.lost = .ofNat s.toServer.sent.length := by
    have := inv.writer.counted
    rw [inv.writer.idle (by simp [hstopped]) (by simp [hstopped]), Nat.zero_add] at this
    exact (Counted.add this).all
  refine ⟨hsent, hread, hwritten.trans hread.symm, hclient.trans hread.symm, fun hreader => ?_⟩
  have hreceived := s.toClient.received_eq_sent (inv.reader.eof hreader).2
  refine ⟨hreceived.trans hsent, ?_⟩
  have := inv.reader.counted
  rw [hreader] at this
  rw [hread, ← hsent, ← hreceived, s.toClient.length_received]
  exact this.all

theorem echo_complete_roundTrip : Conn.done.toClient.received = Conn.done.toServer.sent :=
  ((echo_complete roundTrip_run rfl).2.2.2.2 rfl).1

theorem getElem?_copies {l : List UInt8} (k w : ℕ) {i : ℕ}
    (h : i < ((List.replicate k l).flatten ++ l.take w).length) :
    ((List.replicate k l).flatten ++ l.take w)[i]? = l[i % l.length]? := by
  induction k generalizing i with
  | zero =>
    rw [List.replicate_zero, List.flatten_nil, List.nil_append] at h ⊢
    rw [List.length_take, Nat.lt_min] at h
    rw [List.getElem?_take_of_lt h.1, Nat.mod_eq_of_lt h.2]
  | succ k ih =>
    rw [List.replicate_succ, List.flatten_cons, List.append_assoc] at h ⊢
    rcases Nat.lt_or_ge i l.length with hlt | hge
    · rw [List.getElem?_append_left hlt, Nat.mod_eq_of_lt hlt]
    · rw [List.length_append] at h
      rw [List.getElem?_append_right hge, ih (by omega), ← Nat.mod_eq_sub_mod hge]

@[simp] theorem length_makePayload (size : ℕ) : (makePayload size).length = size := by simp [makePayload]

theorem getElem_makePayload {size i : ℕ} (h : i < (makePayload size).length) :
    (makePayload size)[i] = .ofNat (i % 256) := by simp [makePayload]

/-- As long as no `write_all` of the client has failed halfway, what comes back is the payload over and over again. -/
theorem payload_intact {size : ℕ} (run : Run (ConnStep (makePayload size)) .init es s) (hlost : s.lost = 0) {i : ℕ}
    (hi : i < s.toClient.received.length) : s.toClient.received[i] = .ofNat (i % size % 256) := by
  obtain ⟨k, hk⟩ := (connInv_run run).writer.copies hlost
  have hpre := (echo_safe run).2
  have hlen := hpre.length_le
  have hget := hpre.getElem hi
  have hi' : i < s.toServer.sent.length := by omega
  have hcopies : s.toServer.sent[i]? = (makePayload size)[i % size]? := by
    have := getElem?_copies (l := makePayload size) k s.written (i := i) (by rwa [← hk])
    rwa [← hk, length_makePayload] at this
  obtain ⟨_, hbyte⟩ := List.getElem?_eq_some_iff.mp (hcopies.symm.trans (List.getElem?_eq_getElem hi'))
  rw [hget, ← hbyte, getElem_makePayload]

theorem payload_intact_roundTrip : Conn.done.toClient.received[2] = 2 := payload_intact roundTrip_run rfl (by decide)

end

end TcpStats.Echo
