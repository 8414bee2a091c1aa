import Voip.Base.Machine
import Voip.Net.Socket

/-! Who decides whether a call of the system may block. POSIX takes a flag with every call, Windows
keeps a mode in the socket, which a call that is not to block has to switch back. -/

namespace Voip

open Base

/-- A use of the socket, with the result of the system's call that may come of it. -/
inductive SocketCall where
  | sendto (addr : Ipv4SocketAddress) (data : Bytes) (bBlock : Bool) (os : SysSend)
  | recvfrom (addr : Ipv4SocketAddress) (data : RawVector UInt8) (maxSize : UInt32)
      (bBlock bPeek bWaitAll : Bool) (os : SysRecv)

namespace SocketCall

def bBlock : SocketCall → Bool
  | .sendto _ _ bBlock _ => bBlock
  | .recvfrom _ _ _ bBlock _ _ _ => bBlock

end SocketCall

namespace Endpoint

variable (e : Endpoint) (toread : ℕ) (call : SysCall) (restore : UdpSocket → UdpSocket)
  (os : SysRecv)

end Endpoint

namespace UdpSocket

/-- Whether the system's call was one that blocks, if there was one, and the socket after it. -/
def step (plat : Platform) (s : UdpSocket) : SocketCall → Option Bool × UdpSocket
  | .sendto addr data bBlock os =>
    let r := sendto plat s addr data bBlock os
    (r.call.map SendCall.blocking, r.socket)
  | .recvfrom addr data maxSize bBlock bPeek bWaitAll os =>
    let r := recvfrom plat ⟨s, addr, data⟩ maxSize bBlock bPeek bWaitAll os
    (r.call.map SysCall.blocking, r.endpoint.socket)

def Ready (s : UdpSocket) : Prop := s.isOpen = true ∧ s.nonblocking = false

section
variable {s : UdpSocket} (h : s.Ready)
include h

end

end UdpSocket

end Voip
