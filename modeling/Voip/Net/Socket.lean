import Voip.Basic
import Voip.Base.RawVector

/-! `UdpSocket::sendto` and `UdpSocket::recvfrom` in their two implementations, each over one call
of the system's own. -/

namespace Voip

open Base

structure SockaddrIn where
  sin_family : UInt16
  sin_port : UInt16
  s_addr : UInt32
  deriving DecidableEq, Repr

structure Ipv4SocketAddress where
  ipv4address : SockaddrIn
  port : UInt16
  valid : Bool
  deriving DecidableEq, Repr

def AF_INET : UInt16 := 2

/-- The program is built for little-endian hosts. -/
def htons (x : UInt16) : UInt16 := x <<< 8 ||| x >>> 8

def ntohs (x : UInt16) : UInt16 := htons x

def Ipv4SocketAddress.setPort (addr : Ipv4SocketAddress) (p : UInt16) : Ipv4SocketAddress :=
  { addr with port := p, ipv4address := { addr.ipv4address with sin_port := htons p } }

/-- A descriptor's mode matters on Windows only, where `ioctlsocket` switches it. -/
structure UdpSocket where
  isOpen : Bool
  nonblocking : Bool
  deriving DecidableEq, Repr

namespace UdpSocket

def new : UdpSocket := ⟨false, false⟩

def close (s : UdpSocket) : Bool × UdpSocket :=
  if !s.isOpen then (false, s) else (true, { s with isOpen := false })

end UdpSocket

structure Endpoint where
  socket : UdpSocket
  addr : Ipv4SocketAddress
  data : RawVector UInt8

inductive SysSend where
  | error
  | sent (bytes : ℕ)
  deriving DecidableEq, Repr

def SysSend.run : SysSend → Int
  | .error => -1
  | .sent bytes => bytes

structure SendCall where
  blocking : Bool
  target : SockaddrIn
  data : Bytes
  deriving DecidableEq, Repr

structure Sent where
  socket : UdpSocket
  result : UInt32
  call : Option SendCall
  deriving DecidableEq, Repr

inductive SysRecv where
  | error
  | received (sender : SockaddrIn) (datagram : Bytes)
  deriving DecidableEq, Repr

structure SysCall where
  blocking : Bool
  peek : Bool
  waitAll : Bool
  deriving DecidableEq, Repr

/-- The system's part: it fills in the sender and writes up to `toread` bytes from `data[0]` on. -/
def SysRecv.run (os : SysRecv) (toread : ℕ) (e : Endpoint) : Endpoint × Int :=
  match os with
  | .error => (e, -1)
  | .received sender datagram =>
    ({ e with
        addr := { e.addr with ipv4address := sender }
        data := e.data.write (datagram.take toread) }, (datagram.take toread).length)

/-- The bytes that the system hands over. -/
def SysRecv.bytes (toread : ℕ) : SysRecv → Bytes
  | .error => []
  | .received _ datagram => datagram.take toread

structure Received where
  endpoint : Endpoint
  result : UInt32
  call : Option SysCall

/-- From the system's call to the end of the function, the same in both implementations but for
what `restore` does to the socket after a successful read. -/
def Endpoint.finishRecv (e : Endpoint) (toread : ℕ) (call : SysCall)
    (restore : UdpSocket → UdpSocket) (os : SysRecv) : Received :=
  let (e, read_bytes) := os.run toread e
  if read_bytes = -1 ∨ read_bytes = 0 then
    { endpoint := { e with data := e.data.clear }, result := 0, call := some call }
  else
    let addr := e.addr.setPort (ntohs e.addr.ipv4address.sin_port)
    let data := e.data.resize (max read_bytes 0).toNat 0
    { endpoint := { socket := restore e.socket, addr, data }
      result := UInt32.ofInt read_bytes
      call := some call }

namespace Posix

def sendto (socket : UdpSocket) (addr : Ipv4SocketAddress) (data : Bytes) (bBlock : Bool)
    (os : SysSend) : Sent :=
  if !socket.isOpen then { socket, result := 0, call := none } else
  let blocking := !socket.nonblocking && bBlock
  let call := some { blocking, target := addr.ipv4address, data }
  let bytes_sent := os.run
  if bytes_sent = -1 then { socket, result := 0, call } else
  { socket, result := UInt32.ofInt bytes_sent, call }

def recvfrom (e : Endpoint) (maxSize : UInt32) (bBlock bPeek bWaitAll : Bool) (os : SysRecv) :
    Received :=
  if !e.socket.isOpen then { endpoint := e, result := 0, call := none } else
  let e := { e with addr.ipv4address.sin_family := AF_INET }
  let toread := if maxSize ≠ 0 then maxSize.toNat else e.data.capacity
  if maxSize.toNat > e.data.capacity then { endpoint := e, result := 0, call := none } else
  -- MSG_DONTWAIT holds for this call only
  let call := { blocking := !e.socket.nonblocking && bBlock, peek := bPeek, waitAll := bWaitAll }
  e.finishRecv toread call id os

end Posix

namespace Win

/-- `ioctlsocket(FIONBIO)`, taken to succeed. -/
def setNonblocking (nonblocking : Bool) (s : UdpSocket) : UdpSocket := { s with nonblocking }

def sendto (socket : UdpSocket) (addr : Ipv4SocketAddress) (data : Bytes) (bBlock : Bool)
    (os : SysSend) : Sent :=
  if !socket.isOpen then { socket, result := 0, call := none } else
  let socket := if !bBlock then setNonblocking true socket else socket
  let call := some { blocking := !socket.nonblocking, target := addr.ipv4address, data }
  let bytes_sent := os.run
  -- an error returns from here, before the mode is switched back
  if bytes_sent = -1 then { socket, result := 0, call } else
  let socket := if !bBlock then setNonblocking false socket else socket
  { socket, result := UInt32.ofInt bytes_sent, call }

def recvfrom (e : Endpoint) (maxSize : UInt32) (bBlock bPeek _bWaitAll : Bool) (os : SysRecv) :
    Received :=
  if !e.socket.isOpen then { endpoint := e, result := 0, call := none } else
  let e := { e with addr.ipv4address.sin_family := AF_INET }
  let e := if !bBlock then { e with socket := setNonblocking true e.socket } else e
  let toread := if maxSize ≠ 0 then maxSize.toNat else e.data.capacity
  -- this return, and those of a failed read, leave the mode as it was switched
  if maxSize.toNat > e.data.capacity then { endpoint := e, result := 0, call := none } else
  let call := { blocking := !e.socket.nonblocking, peek := bPeek, waitAll := false }
  e.finishRecv toread call (if !bBlock then setNonblocking false else id) os

end Win

inductive Platform where
  | posix
  | win
  deriving DecidableEq, Repr

def UdpSocket.sendto : Platform → UdpSocket → Ipv4SocketAddress → Bytes → Bool → SysSend → Sent
  | .posix => Posix.sendto
  | .win => Win.sendto

def UdpSocket.recvfrom : Platform → Endpoint → UInt32 → Bool → Bool → Bool → SysRecv → Received
  | .posix => Posix.recvfrom
  | .win => Win.recvfrom

/-! ## Both implementations at once -/

namespace Platform

variable (plat : Platform) (bBlock : Bool)

/-- The mode for the system's call, as far as it is the socket's. -/
def enter (s : UdpSocket) : UdpSocket :=
  match plat with
  | .posix => s
  | .win => if bBlock then s else Win.setNonblocking true s

def leave (s : UdpSocket) : UdpSocket :=
  match plat with
  | .posix => s
  | .win => if bBlock then s else Win.setNonblocking false s

/-- Whether the system's call blocks. -/
def blocks (s : UdpSocket) : Bool :=
  match plat with
  | .posix => !s.nonblocking && bBlock
  | .win => !(enter .win bBlock s).nonblocking

end Platform

/-- What a read starts from: its own mode, and the family filled in. -/
def Endpoint.opened (plat : Platform) (bBlock : Bool) (e : Endpoint) : Endpoint where
  socket := plat.enter bBlock e.socket
  addr := { e.addr with ipv4address := { e.addr.ipv4address with sin_family := AF_INET } }
  data := e.data

section
variable (plat : Platform) {s : UdpSocket} (addr : Ipv4SocketAddress) (data : Bytes)
  (bBlock : Bool) (os : SysSend)

end

section
variable (plat : Platform) {e : Endpoint} {maxSize : UInt32} (bBlock bPeek bWaitAll : Bool)
  (os : SysRecv)

theorem recvfrom_of_le (hopen : e.socket.isOpen = true) (h : maxSize.toNat ≤ e.data.capacity) :
    UdpSocket.recvfrom plat e maxSize bBlock bPeek bWaitAll os =
      (e.opened plat bBlock).finishRecv (if maxSize ≠ 0 then maxSize.toNat else e.data.capacity)
        { blocking := plat.blocks bBlock e.socket
          peek := bPeek
          waitAll := plat = .posix && bWaitAll } (plat.leave bBlock) os := by
  have hfit : ¬ maxSize.toNat > e.data.capacity := Nat.not_lt_of_le h
  cases plat with
  | posix =>
    unfold UdpSocket.recvfrom Posix.recvfrom
    simp only [hopen, Bool.not_true, Bool.false_eq_true, if_false, if_neg hfit]
    rfl
  | win =>
    unfold UdpSocket.recvfrom Win.recvfrom
    cases bBlock with
    | false =>
      simp only [hopen, Bool.not_true, Bool.not_false, Bool.false_eq_true, if_false, if_true,
        if_neg hfit]
      rfl
    | true =>
      simp only [hopen, Bool.not_true, Bool.false_eq_true, if_false, if_neg hfit]
      rfl

end

/-- No bytes are an error to `recvfrom`, whether the system has reported one or not. -/
theorem SysRecv.run_fails_iff (os : SysRecv) (toread : ℕ) (e : Endpoint) :
    (os.run toread e).2 = -1 ∨ (os.run toread e).2 = 0 ↔ os.bytes toread = [] := by
  cases os with
  | error => exact iff_of_true (.inl rfl) rfl
  | received sender datagram =>
    show ((datagram.take toread).length : Int) = -1 ∨ ((datagram.take toread).length : Int) = 0 ↔
      datagram.take toread = []
    rw [← List.length_eq_zero_iff]
    omega

namespace Endpoint

variable (e : Endpoint) {toread : ℕ} (call : SysCall) (restore : UdpSocket → UdpSocket)
  {os : SysRecv}

theorem finishRecv_of_nil (h : os.bytes toread = []) :
    e.finishRecv toread call restore os =
      { endpoint := { (os.run toread e).1 with data := (os.run toread e).1.data.clear }
        result := 0
        call := some call } :=
  if_pos ((os.run_fails_iff toread e).mpr h)

theorem finishRecv_of_ne_nil (h : os.bytes toread ≠ []) :
    e.finishRecv toread call restore os =
      let (e', read_bytes) := os.run toread e
      { endpoint :=
          { socket := restore e'.socket
            addr := e'.addr.setPort (ntohs e'.addr.ipv4address.sin_port)
            data := e'.data.resize (max read_bytes 0).toNat 0 }
        result := UInt32.ofInt read_bytes
        call := some call } := by
  have hret := mt (os.run_fails_iff toread e).mp h
  cases os with
  | error => exact absurd rfl h
  | received sender datagram => exact if_neg hret

end Endpoint

end Voip
