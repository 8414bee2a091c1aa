import Voip.Base.ByteOrder
import Voip.Base.Objects
import Voip.Net.Socket

/-! An address has its port twice, as a number and in the bytes that the system is given. The system
writes only the bytes. -/

namespace Voip

open Base

/-- What `getaddrinfo` has to say of a name: its first result, if it has one. -/
inductive AddrInfo where
  | error
  | found (ai_family : Int32) (ai_addr : SockaddrIn)
  deriving DecidableEq, Repr

namespace Ipv4SocketAddress

def reset : Ipv4SocketAddress := ⟨⟨0, 0, 0⟩, 0, false⟩

def setAddress (a : Ipv4SocketAddress) (addr : String) (res : AddrInfo) : Ipv4SocketAddress :=
  if addr.isEmpty then { a with ipv4address := { a.ipv4address with s_addr := 0 } } else
  match res with
  | .error => a
  | .found ai_family ai_addr =>
    if ai_family = Int32.ofNat AF_INET.toNat then
      { a with ipv4address := ai_addr }.setPort a.port
    else a

def ofPort (p : UInt16) : Ipv4SocketAddress := (reset.setPort p).setAddress "" .error

def ofAddress (addr : String) (p : UInt16) (res : AddrInfo) : Ipv4SocketAddress :=
  (reset.setPort p).setAddress addr res

def Agrees (a : Ipv4SocketAddress) : Prop := a.port = ntohs a.ipv4address.sin_port

end Ipv4SocketAddress

/-! ## Reads -/

inductive AddressArgs where
  | port (p : UInt16)
  | address (addr : String) (p : UInt16) (res : AddrInfo)

inductive AddressMethod where
  | setPort (p : UInt16)
  | setAddress (addr : String) (res : AddrInfo)
  | recvfrom (plat : Platform) (socket : UdpSocket) (data : RawVector UInt8) (maxSize : UInt32)
      (bBlock bPeek bWaitAll : Bool) (os : SysRecv)

namespace Ipv4SocketAddress

def objects : ObjectClass Ipv4SocketAddress AddressArgs AddressMethod where
  construct
    | .port p => ofPort p
    | .address addr p res => ofAddress addr p res
  copy := id
  assign _ rhs := rhs
  apply
    | .setPort p, a => a.setPort p
    | .setAddress addr res, a => a.setAddress addr res
    | .recvfrom plat socket data maxSize bBlock bPeek bWaitAll os, a =>
      (UdpSocket.recvfrom plat ⟨socket, a, data⟩ maxSize bBlock bPeek bWaitAll os).endpoint.addr

end Ipv4SocketAddress

end Voip
