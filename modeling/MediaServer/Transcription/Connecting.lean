import MediaServer.Transcription.Creation
import MediaServer.Transcription.SocketAddr

/-!
# From an address to a connection

`SimulStreamingClient::connect_with_timeout` parses its address as a socket address and
connects to it.  `AsyncSimulStreamingClient::connect` hands it to `TcpStream::connect` of
tokio, which has a host name looked up and tries the addresses found in turn.

* `asyncAttempts_text`: every address of the documented form brings the asynchronous client
  to a connection attempt, if the lookup of its host answers;
* `syncAttempts_text_iff`: it brings the synchronous client to one exactly if its host is
  an IP literal;
* `reachable_text_iff`: if there is a server at the address, the synchronous client gets a
  connection to it exactly then.
-/

namespace MediaServer
namespace Transcription

open Foundation AddrParser

/-! ## The addresses the asynchronous client tries -/

/-- `u16::from_str` -/
def parseU16 (text : List Char) : Option UInt16 :=
  let digits := if text.head? = some '+' then text.tail else text
  if digits = [] ∨ ¬ digits.all (isDigit 10) ∨ 65536 ≤ number 10 digits then none
  else some (UInt16.ofNat (number 10 digits))

/-- The lookup of a host name for a port, as the resolver of the system answers it. -/
abbrev LookupHost := List Char → UInt16 → Except String (List SocketAddr)

/-- `to_socket_addrs` of a text: it is a socket address, or its host is looked up. -/
def toSocketAddrs (lookupHost : LookupHost) (addr : String) : Except String (List SocketAddr) :=
  match SocketAddr.fromStr addr with
  | .ok socketAddr => .ok [socketAddr]
  | .error _ =>
      match Text.rsplitOnce ':' addr.toList with
      | none => .error "invalid socket address"
      | some (host, portText) =>
          match parseU16 portText with
          | none => .error "invalid port value"
          | some port => lookupHost host port

/-! ## Attempts -/

/-- `connect_with_timeout` gets to an attempt to connect. -/
def SyncAttempts (network : Network) (addr : String) : Prop :=
  ∃ socketAddr, network.parse addr = .ok socketAddr

/-- `AsyncSimulStreamingClient::connect` gets to an attempt to connect. -/
def AsyncAttempts (lookupHost : LookupHost) (addr : String) : Prop :=
  ∃ first rest, toSocketAddrs lookupHost addr = .ok (first :: rest)

/-- There is a server at the address, and the operations on the connection succeed. -/
def ServerUp (network : Network) (lookupHost : LookupHost) (timeout : Nat) (addr : String) : Prop :=
  (∃ socketAddrs, toSocketAddrs lookupHost addr = .ok socketAddrs ∧
    ∃ socketAddr ∈ socketAddrs, network.connectTimeout socketAddr timeout = .ok ()) ∧
  network.setNodelay = .ok () ∧ network.setWriteTimeout = .ok () ∧ network.tryClone = .ok ()

/-! ## Documented addresses -/

theorem parseU16_port {port : List Char} (hport : IsPort port) :
    parseU16 port = some (UInt16.ofNat (number 10 port)) := by
  have hsign : port.head? ≠ some '+' := by
    intro hhead
    have hdigit := hport.digits '+' (List.mem_of_head? hhead)
    revert hdigit
    decide
  have hall : port.all (isDigit 10) = true := List.all_eq_true.mpr hport.digits
  rw [parseU16, if_neg hsign, if_neg]
  rintro (hnil | hdigits | hbound)
  · exact hport.nonempty hnil
  · exact hdigits hall
  · exact absurd hport.bound (Nat.not_lt.mpr hbound)

/-- An address whose host is no IP literal has its host looked up. -/
theorem toSocketAddrs_text_of_not {address : Address}
    (hhost : ¬ IsIpLiteral address.host.text) (lookupHost : LookupHost) :
    toSocketAddrs lookupHost address.text =
      lookupHost address.host.text (UInt16.ofNat (number 10 address.port)) := by
  have hcolon : ':' ∉ address.port := by
    intro hmem
    have hdigit := address.hport.digits ':' hmem
    revert hdigit
    decide
  rw [toSocketAddrs]
  cases hparse : SocketAddr.fromStr address.text with
  | ok socketAddr => exact absurd ((fromStr_text_iff address).mp ⟨socketAddr, hparse⟩) hhost
  | error reason =>
      simp only [Address.text, String.toList_ofList, Text.rsplitOnce_append hcolon,
        parseU16_port address.hport]

/-- Every documented address brings the asynchronous client to an attempt, if the lookup of
its host answers. -/
theorem asyncAttempts_text (address : Address) {lookupHost : LookupHost} {first : SocketAddr}
    {rest : List SocketAddr}
    (hlookup : lookupHost address.host.text (UInt16.ofNat (number 10 address.port)) =
      .ok (first :: rest)) :
    AsyncAttempts lookupHost address.text := by
  by_cases hhost : IsIpLiteral address.host.text
  · obtain ⟨socketAddr, hparse⟩ := (fromStr_text_iff address).mpr hhost
    exact ⟨socketAddr, [], by rw [toSocketAddrs, hparse]⟩
  · exact ⟨first, rest, by rw [toSocketAddrs_text_of_not hhost, hlookup]⟩

theorem syncAttempts_text_iff {network : Network} (hparse : network.parse = SocketAddr.fromStr)
    (address : Address) :
    SyncAttempts network address.text ↔ IsIpLiteral address.host.text := by
  rw [SyncAttempts, hparse]
  exact fromStr_text_iff address

/-- If there is a server at the address, it can be reached exactly if the host is an IP
literal. -/
theorem reachable_text_iff {network : Network} (hparse : network.parse = SocketAddr.fromStr)
    (address : Address) {lookupHost : LookupHost} {timeout : Nat}
    (hup : ServerUp network lookupHost timeout address.text) :
    Reachable network address.text timeout ↔ IsIpLiteral address.host.text := by
  obtain ⟨⟨socketAddrs, hfound, socketAddr, hmem, hconnect⟩, hoptions⟩ := hup
  constructor
  · rintro ⟨parsed, hparsed, -⟩
    rw [hparse] at hparsed
    exact (fromStr_text_iff address).mp ⟨parsed, hparsed⟩
  · intro hhost
    obtain ⟨parsed, hparsed⟩ := (fromStr_text_iff address).mpr hhost
    rw [toSocketAddrs, hparsed] at hfound
    obtain rfl : [parsed] = socketAddrs := Except.ok.inj hfound
    obtain rfl := List.mem_singleton.mp hmem
    exact ⟨socketAddr, by rw [hparse, hparsed], hconnect, hoptions⟩

end Transcription
end MediaServer
